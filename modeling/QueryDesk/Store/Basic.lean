import QueryDesk.Store.Row

/-!
# The store

A table of rows in order of insertion, and the version of its layout.  `create`, `rename` and
`complete` are the only writes: `complete` sets query, response id and status together.  `rename`
and `complete` write first and then read the row back, so they may write and still fail if the row
holds a text that cannot be read.

`list` sorts by the text of the creation time, latest first, and keeps the order of insertion
among equal texts.
-/

namespace QueryDesk.Store

open QueryDesk.Record

/-- Why a store operation fails.  The last two are failures to run it at all: another one has
    broken off in the middle, or its own task has. -/
inductive Failure where
  | unreadable (cause : Unreadable)
  | notFound (id : Uuid)
  | duplicateId
  | noDataDirectory
  | io (reason : String)
  | database (reason : String)
  | poisoned
  | task (reason : String)
deriving DecidableEq, Repr

/-- The wording of the failure to find a record. -/
def notFoundMessage (id : Uuid) : String :=
  s!"dynamic query {id.text} not found"

/-- The wording of a failure. -/
def Failure.message : Failure → String
  | .unreadable cause => s!"SQLite error: {cause.message}"
  | .notFound id => notFoundMessage id
  | .duplicateId => "SQLite error: UNIQUE constraint failed: dynamic_queries.id"
  | .noDataDirectory => "Failed to determine data directory"
  | .io reason => s!"IO error: {reason}"
  | .database reason => s!"SQLite error: {reason}"
  | .poisoned => "store connection lock poisoned"
  | .task reason => s!"store task failed: {reason}"

end QueryDesk.Store

namespace QueryDesk

open QueryDesk.Record QueryDesk.Store

/-- The rows, and the text of the layout's version. -/
structure Store where
  rows : List Row
  version : Option String
deriving DecidableEq, Repr

namespace Store

/-! ## Opening -/

/-- The version of the layout that this library keeps. -/
def layoutVersion : Int := 1

/-- The value of a version's text: an optional sign and digits, within 32 bits. -/
def versionValue? (text : String) : Option Int :=
  let digits (negative : Bool) (ds : List Char) : Option Int :=
    if ds.isEmpty || !ds.all Json.isDigit then none
    else
      let n : Int := Timestamp.digitsValue ds
      let value := if negative then -n else n
      if -2147483648 ≤ value && value ≤ 2147483647 then some value else none
  match text.toList with
  | '-' :: ds => digits true ds
  | '+' :: ds => digits false ds
  | ds => digits false ds

/-- Opens a store: a version that is not the current one is replaced. -/
def «open» (s : Store) : Store :=
  if s.version.bind versionValue? = some layoutVersion then s
  else { s with version := some "1" }

/-- A new store. -/
def empty : Store :=
  Store.open ⟨[], none⟩

/-! ## Reading -/

/-- Reads a row; a failure is one of the store. -/
def readRow (row : Row) : Except Failure DynamicQuery :=
  match row.read with
  | .ok q => .ok q
  | .error cause => .error (.unreadable cause)

/-- The row with an id. -/
def row? (s : Store) (id : Uuid) : Option Row :=
  s.rows.find? (·.hasId id)

/-- The record with an id. -/
def get (s : Store) (id : Uuid) : Except Failure (Option DynamicQuery) :=
  match s.row? id with
  | none => .ok none
  | some row => (readRow row).map some

/-- The rows, by the text of their creation time, latest first. -/
def sortedRows (s : Store) : List Row :=
  s.rows.mergeSort fun a b => !decide (a.createdAt < b.createdAt)

/-- Reads rows in order, up to the first failure. -/
def readAll : List Row → Except Failure (List DynamicQuery)
  | [] => .ok []
  | row :: rest =>
    match readRow row with
    | .error failure => .error failure
    | .ok q => (readAll rest).map (q :: ·)

/-- All records, latest first. -/
def list (s : Store) : Except Failure (List DynamicQuery) :=
  readAll s.sortedRows

/-! ## Writing -/

/-- Adds a record without SQL. -/
def create (s : Store) (id : Uuid) (now : Timestamp) (name prompt : String) :
    Except Failure DynamicQuery × Store :=
  if s.rows.any (·.hasId id) then (.error .duplicateId, s)
  else
    let q := DynamicQuery.fresh id name prompt now
    (.ok q, { s with rows := s.rows ++ [Row.ofRecord q] })

/-- Changes the rows with an id. -/
def updateRows (s : Store) (id : Uuid) (change : Row → Row) : Store :=
  { s with rows := s.rows.map fun row => if row.hasId id then change row else row }

/-- Changes the row with an id and reads it back. -/
def update (s : Store) (id : Uuid) (change : Row → Row) : Except Failure DynamicQuery × Store :=
  let s' := s.updateRows id change
  match s'.row? id with
  | none => (.error (.notFound id), s')
  | some row => (readRow row, s')

/-- Changes the name of a record. -/
def rename (s : Store) (id : Uuid) (now : Timestamp) (name : String) :
    Except Failure DynamicQuery × Store :=
  s.update id fun row => { row with name := name, updatedAt := now.microsText }

/-- Stores the outcome of a generation. -/
def complete (s : Store) (id : Uuid) (now : Timestamp) (query responseId : String) :
    Except Failure DynamicQuery × Store :=
  s.update id fun row =>
    { row with query := some query, responseId := some responseId,
               status := Status.complete.text, updatedAt := now.microsText }

end Store

end QueryDesk
