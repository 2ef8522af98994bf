import QueryDesk.Store.Basic

/-!
# Changing the table behind the store

A tool may write any text into the table.  Of the table's constraints two hold for it: ids are
unique, and a column that must have a text gets one.  The check of the status is switched off for
it, so any text may stand there.
-/

namespace QueryDesk.Store

/-- A constraint of the table was violated; nothing was written. -/
inductive Violation where
  | missingText
  | duplicateId
deriving DecidableEq, Repr

/-- The columns of the table. -/
inductive Cell where
  | id
  | name
  | prompt
  | query
  | responseId
  | status
  | createdAt
  | updatedAt
deriving DecidableEq, Repr

/-- The names of the columns. -/
def Cell.names : List (String × Cell) :=
  [("id", .id), ("name", .name), ("prompt", .prompt), ("query", .query),
    ("response_id", .responseId), ("status", .status), ("created_at", .createdAt),
    ("updated_at", .updatedAt)]

/-- A text that must be there. -/
def requireText (text : Option String) : Except Violation String :=
  match text with
  | some s => .ok s
  | none => .error .missingText

/-- A row with one column changed. -/
def Row.set (row : Row) (cell : Cell) (text : Option String) : Except Violation Row :=
  match cell with
  | .id => .ok { row with id := text }
  | .name => (requireText text).map fun s => { row with name := s }
  | .prompt => (requireText text).map fun s => { row with prompt := s }
  | .query => .ok { row with query := text }
  | .responseId => .ok { row with responseId := text }
  | .status => (requireText text).map fun s => { row with status := s }
  | .createdAt => (requireText text).map fun s => { row with createdAt := s }
  | .updatedAt => (requireText text).map fun s => { row with updatedAt := s }

/-- Whether another row has the id. -/
def idTaken (rows : List Row) (id : Option String) : Bool :=
  id.isSome && rows.any fun row => row.id == id

/-- Changes a column of the row with an id; answers the number of rows changed. -/
def poke (s : Store) (id : String) (cell : Cell) (text : Option String) :
    Except Violation Nat × Store :=
  match s.rows.find? (·.id == some id) with
  | none => (.ok 0, s)
  | some row => match row.set cell text with
    | .error violation => (.error violation, s)
    | .ok changed =>
      if changed.id != row.id && idTaken s.rows changed.id then (.error .duplicateId, s)
      else
        (.ok 1, { s with rows := s.rows.map fun r => if r.id == some id then changed else r })

/-- Deletes the row with an id; answers the number of rows deleted. -/
def delete (s : Store) (id : String) : Nat × Store :=
  let kept := s.rows.filter fun row => row.id != some id
  (s.rows.length - kept.length, { s with rows := kept })

/-- A row of the given texts. -/
def rowOf (id name prompt query responseId status createdAt updatedAt : Option String) :
    Except Violation Row := do
  let name ← requireText name
  let prompt ← requireText prompt
  let status ← requireText status
  let createdAt ← requireText createdAt
  let updatedAt ← requireText updatedAt
  return ⟨id, name, prompt, query, responseId, status, createdAt, updatedAt⟩

/-- Adds a row. -/
def insert (s : Store) (row : Row) : Except Violation Nat × Store :=
  if idTaken s.rows row.id then (.error .duplicateId, s)
  else (.ok 1, { s with rows := s.rows ++ [row] })

/-- Writes the version's text, or deletes it. -/
def setVersion (s : Store) (version : Option String) : Store :=
  { s with version := version }

end QueryDesk.Store
