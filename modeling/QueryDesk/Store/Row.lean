import QueryDesk.Record.Basic

/-!
# Rows

The store keeps a dynamic query as a row of texts.  `Row.ofRecord` writes one, `Row.read` reads one
back: the id must be a UUID, the status one of the two known, the timestamps RFC 3339.  Rows may
hold other texts, since the table can be changed behind the store; the first column that cannot be
read, in the order id, status, creation, update, makes the failure.
-/

namespace QueryDesk.Store

open QueryDesk.Record

/-- A row of the table.  Every column but the id, the query and the response id must have a
    text. -/
structure Row where
  id : Option String
  name : String
  prompt : String
  query : Option String
  responseId : Option String
  status : String
  createdAt : String
  updatedAt : String
deriving DecidableEq, Repr

/-- Why a row cannot be read. -/
inductive Unreadable where
  | noId
  | badId
  | badStatus (text : String)
  | badCreation
  | badUpdate
deriving DecidableEq, Repr

/-- The complaint about a column's text. -/
def conversionMessage (column : Nat) : String :=
  s!"Conversion error from type Text at index: {column}"

/-- The wording of an unreadable row. -/
def Unreadable.message : Unreadable → String
  | .noId => "Invalid column type Null at index: 0, name: id"
  | .badId => conversionMessage 0
  | .badStatus text => conversionMessage 5 ++ ", " ++ Status.unknownMessage text
  | .badCreation => conversionMessage 6
  | .badUpdate => conversionMessage 7

namespace Row

/-- The row of a record. -/
def ofRecord (q : DynamicQuery) : Row :=
  ⟨some q.id.text, q.name, q.prompt, q.query, q.responseId, q.status.text,
    q.createdAt.microsText, q.updatedAt.microsText⟩

/-- The value of a text, or a failure. -/
def orFail {α : Type} (failure : Unreadable) : Option α → Except Unreadable α
  | some a => .ok a
  | none => .error failure

/-- The record of a row. -/
def read (row : Row) : Except Unreadable DynamicQuery := do
  let idText ← orFail .noId row.id
  let id ← orFail .badId (Uuid.parse? idText)
  let status ← orFail (.badStatus row.status) (Status.parse? row.status)
  let createdAt ← orFail .badCreation (Timestamp.parseStrict? row.createdAt)
  let updatedAt ← orFail .badUpdate (Timestamp.parseStrict? row.updatedAt)
  return ⟨id, row.name, row.prompt, row.query, row.responseId, status, createdAt, updatedAt⟩

/-- Whether a row has the id of a record, in the form in which the store writes it. -/
def hasId (row : Row) (id : Uuid) : Bool :=
  row.id == some id.text

end Row

end QueryDesk.Store
