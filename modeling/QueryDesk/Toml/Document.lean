import QueryDesk.Toml.Scalar

/-!
# The text of a TOML document

A document is a sequence of lines: headers, values under dotted keys, comments and blank lines.
Lists and inline tables may go over several lines, end in a comma, and nest up to a limit.  A byte
order mark in front is passed over.
-/

namespace QueryDesk.Toml

/-! ## Blanks -/

/-- Drops spaces and tabs. -/
def skipPad (s : List Char) : List Char :=
  s.dropWhile isPad

/-- Drops a comment's characters up to the end of its line, if all of them are allowed. -/
def skipComment? : List Char → Option (List Char)
  | [] => some []
  | '\n' :: rest => some ('\n' :: rest)
  | '\r' :: '\n' :: rest => some ('\r' :: '\n' :: rest)
  | c :: rest => if isControl c then none else skipComment? rest

/-- Drops spaces, and a comment after them. -/
def skipRemark? (s : List Char) : Option (List Char) :=
  match skipPad s with
  | '#' :: rest => skipComment? rest
  | rest => some rest

/-- Drops the rest of a line, which holds at most a comment. -/
def skipLine? (s : List Char) : Option (List Char) :=
  match skipRemark? s with
  | none => none
  | some [] => some []
  | some rest => dropLineEnd? rest

/-- Drops spaces, line ends and comments. -/
def skipBlank? : Nat → List Char → Option (List Char)
  | 0, s => some s
  | fuel + 1, s =>
    match skipRemark? s with
    | none => none
    | some rest => match dropLineEnd? rest with
      | some rest => skipBlank? fuel rest
      | none => some rest

/-- Drops spaces, line ends and comments, as many as there are. -/
def skipBlanks? (s : List Char) : Option (List Char) :=
  skipBlank? (s.length + 1) s

/-! ## Keys -/

/-- A character of a bare key. -/
def isBareChar (c : Char) : Bool :=
  c.isAlphanum || c == '_' || c == '-'

/-- A key, and what follows it. -/
def takeKey (s : List Char) : Option (String × List Char) :=
  match s with
  | '"' :: _ | '\'' :: _ => takeShortString s
  | s =>
    let key := s.takeWhile isBareChar
    if key.isEmpty then none else some (String.ofList key, s.dropWhile isBareChar)

/-- Keys with dots between them, and what follows them. -/
def takePath : Nat → List Char → Option (List String × List Char)
  | 0, _ => none
  | fuel + 1, s => do
    let (key, rest) ← takeKey (skipPad s)
    match skipPad rest with
    | '.' :: rest =>
      let (keys, rest) ← takePath fuel rest
      return (key :: keys, rest)
    | rest => return ([key], rest)

/-- A dotted key and the equals sign after it. -/
def takeAssigned (s : List Char) : Option (List String × List Char) := do
  let (path, rest) ← takePath (s.length + 1) s
  match rest with
  | '=' :: rest => return (path, rest)
  | _ => none

/-! ## Values -/

/-- How deep lists and inline tables may nest. -/
def maxLevel : Nat := 80

mutual

/-- A value, and what follows it.  The level is that of the lists and inline tables around it. -/
def takeValue (level : Nat) : Nat → List Char → Option (Node × List Char)
  | 0, _ => none
  | fuel + 1, s =>
    match skipPad s with
    | '"' :: rest => (takeString ('"' :: rest)).map fun (t, rest) => (.text t, rest)
    | '\'' :: rest => (takeString ('\'' :: rest)).map fun (t, rest) => (.text t, rest)
    | '[' :: rest =>
      if maxLevel ≤ level then none
      else (takeItems (level + 1) fuel rest).map fun (items, rest) => (.list items, rest)
    | '\x7b' :: rest =>
      if maxLevel ≤ level then none
      else do
        let (members, rest) ← takeMembers (level + 1) fuel rest
        let entries ← insertAll members []
        return (.table .inline entries, rest)
    | s =>
      let (word, rest) := takeWord s
      (wordValue? word).map fun value => (value, rest)

/-- The items of a list up to its end. -/
def takeItems (level : Nat) : Nat → List Char → Option (List Node × List Char)
  | 0, _ => none
  | fuel + 1, s => do
    match ← skipBlanks? s with
    | ']' :: rest => return ([], rest)
    | rest =>
      let (item, rest) ← takeValue level fuel rest
      match ← skipBlanks? rest with
      | ']' :: rest => return ([item], rest)
      | ',' :: rest =>
        let (items, rest) ← takeItems level fuel rest
        return (item :: items, rest)
      | _ => none

/-- The members of an inline table up to its end. -/
def takeMembers (level : Nat) : Nat → List Char → Option (List (List String × Node) × List Char)
  | 0, _ => none
  | fuel + 1, s => do
    match ← skipBlanks? s with
    | '\x7d' :: rest => return ([], rest)
    | rest =>
      let (path, rest) ← takeAssigned rest
      let (value, rest) ← takeValue level fuel rest
      match ← skipBlanks? rest with
      | '\x7d' :: rest => return ([(path, value)], rest)
      | ',' :: rest =>
        let (members, rest) ← takeMembers level fuel rest
        return ((path, value) :: members, rest)
      | _ => none

end

/-! ## Lines -/

/-- A line of a document that says something. -/
inductive Line where
  | header (kind : HeaderKind) (path : List String)
  | value (path : List String) (value : Node)
deriving Repr

/-- A header or an assignment, and the lines after it. -/
def takeLine (s : List Char) : Option (Line × List Char) :=
  match s with
  | '[' :: '[' :: rest => do
    let (path, rest) ← takePath (rest.length + 1) rest
    match rest with
    | ']' :: ']' :: rest => return (.header .item path, ← skipLine? rest)
    | _ => none
  | '[' :: rest => do
    let (path, rest) ← takePath (rest.length + 1) rest
    match rest with
    | ']' :: rest => return (.header .single path, ← skipLine? rest)
    | _ => none
  | s => do
    let (path, rest) ← takeAssigned s
    let (value, rest) ← takeValue 0 (rest.length + 1) rest
    return (.value path value, ← skipLine? rest)

/-- The lines of a document. -/
def takeLines : Nat → List Char → Option (List Line)
  | 0, _ => none
  | fuel + 1, s => do
    match ← skipBlanks? s with
    | [] => return []
    | rest =>
      let (line, rest) ← takeLine rest
      return line :: (← takeLines fuel rest)

/-- The values up to the next header, and the parts from that header on. -/
def split : List Line → List (List String × Node) × List Section
  | [] => ([], [])
  | .value path value :: rest =>
    let (values, sections) := split rest
    ((path, value) :: values, sections)
  | .header kind path :: rest =>
    let (values, sections) := split rest
    ([], ⟨some (kind, path), values⟩ :: sections)

/-- The table of a document. -/
def parse? (s : String) : Option Entries := do
  let text := match s.toList with
    | c :: rest => if c.toNat = 0xFEFF then rest else c :: rest
    | [] => []
  let (values, sections) := split (← takeLines (text.length + 1) text)
  ofSections (⟨none, values⟩ :: sections) []

end QueryDesk.Toml
