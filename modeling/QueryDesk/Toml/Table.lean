import QueryDesk.Json.Number

/-!
# TOML documents as tables

A table maps keys to values.  How it came to be decides what may still be added to it: a table
written under a header and an inline one are closed to dotted keys; a table implied by a longer
header may get a header of its own later; a table made by dotted keys takes further dotted keys, and
headers only for the tables inside it.  No key is ever given twice.
-/

namespace QueryDesk.Toml

/-- How a table came to be. -/
inductive Origin where
  | header
  | implied
  | dotted
  | inline
deriving DecidableEq, Repr

/-- A value of a document.  Floats and moments are kept as written. -/
inductive Node where
  | text (value : String)
  | integer (value : Int)
  | float (written : String)
  | boolean (value : Bool)
  | moment (written : String)
  | list (items : List Node)
  | table (origin : Origin) (entries : List (String × Node))
  | tables (items : List (List (String × Node)))
deriving Repr

/-- The entries of a table. -/
abbrev Entries := List (String × Node)

/-- Replaces the value of a key. -/
def replace (key : String) (value : Node) (entries : Entries) : Entries :=
  entries.map fun (k, v) => if k = key then (k, value) else (k, v)

/-- Replaces the last item of a list. -/
def setLast {α : Type} (item : α) (items : List α) : List α :=
  items.dropLast ++ [item]

/-! ## Dotted keys -/

/-- Adds a value under a dotted key. -/
def insertDotted : List String → Node → Entries → Option Entries
  | [], _, _ => none
  | [key], value, entries =>
    if (entries.lookup key).isSome then none else some (entries ++ [(key, value)])
  | key :: rest, value, entries =>
    match entries.lookup key with
    | none =>
      (insertDotted rest value []).map fun inner => entries ++ [(key, .table .dotted inner)]
    | some (.table origin inner) =>
      if origin = .dotted || (origin = .implied && 1 < rest.length) then
        (insertDotted rest value inner).map fun inner =>
          replace key (.table origin inner) entries
      else none
    | some _ => none

/-- Adds values under dotted keys in order. -/
def insertAll : List (List String × Node) → Entries → Option Entries
  | [], entries => some entries
  | (path, value) :: rest, entries => (insertDotted path value entries).bind (insertAll rest)

/-! ## Headers -/

/-- Changes the table that a path leads to.  Tables on the way are implied if they are not there;
    of a list of tables the last one is meant. -/
def within : List String → (Entries → Option Entries) → Entries → Option Entries
  | [], change, entries => change entries
  | key :: rest, change, entries =>
    match entries.lookup key with
    | none => (within rest change []).map fun inner => entries ++ [(key, .table .implied inner)]
    | some (.table origin inner) =>
      if origin = .inline then none
      else (within rest change inner).map fun inner => replace key (.table origin inner) entries
    | some (.tables items) =>
      match items.getLast? with
      | none => none
      | some last => (within rest change last).map fun inner =>
        replace key (.tables (setLast inner items)) entries
    | some _ => none

/-- The kind of a header: of a table, or of an item in a list of tables. -/
inductive HeaderKind where
  | single
  | item
deriving DecidableEq, Repr

/-- A part of a document: a header, absent for the first part, and the values under it. -/
structure Section where
  header : Option (HeaderKind × List String)
  values : List (List String × Node)
deriving Repr

/-- Adds the table of a header under its last key. -/
def insertTable (kind : HeaderKind) (key : String) (values : List (List String × Node))
    (entries : Entries) : Option Entries :=
  match kind, entries.lookup key with
  | .single, none =>
    (insertAll values []).map fun inner => entries ++ [(key, .table .header inner)]
  | .single, some (.table .implied inner) =>
    (insertAll values inner).map fun inner => replace key (.table .header inner) entries
  | .item, none => (insertAll values []).map fun inner => entries ++ [(key, .tables [inner])]
  | .item, some (.tables items) =>
    (insertAll values []).map fun inner => replace key (.tables (items ++ [inner])) entries
  | _, some _ => none

/-- Adds a part of a document. -/
def insertSection (s : Section) (entries : Entries) : Option Entries :=
  match s.header with
  | none => insertAll s.values entries
  | some (kind, path) => match path.getLast? with
    | none => none
    | some key => within path.dropLast (insertTable kind key s.values) entries

/-- The table of a document's parts in order. -/
def ofSections : List Section → Entries → Option Entries
  | [], entries => some entries
  | s :: rest, entries => (insertSection s entries).bind (ofSections rest)

end QueryDesk.Toml
