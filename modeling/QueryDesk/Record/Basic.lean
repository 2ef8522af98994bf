import QueryDesk.Record.Uuid
import QueryDesk.Record.Timestamp
import QueryDesk.Json.Reader

/-!
# Dynamic queries

A dynamic query is a named prompt in plain language and, once a generation has succeeded, its SQL.
There is no failed state: a failed generation leaves the record in progress.
-/

namespace QueryDesk.Record

open QueryDesk.Json

/-- How far the generation of a record has come. -/
inductive Status where
  | inProgress
  | complete
deriving DecidableEq, Repr

namespace Status

/-- The text of a status. -/
def text : Status → String
  | inProgress => "in_progress"
  | complete => "complete"

/-- The names of the statuses. -/
def names : List (String × Status) :=
  [("in_progress", .inProgress), ("complete", .complete)]

/-- The status with a text. -/
def parse? (s : String) : Option Status :=
  names.lookup s

/-- The complaint about a text that is no status. -/
def unknownMessage (s : String) : String :=
  s!"unknown status '{s}'"

end Status

/-- A prompt with the SQL generated from it.  `responseId` is the provider's id of the last
    completion that was stored; a later generation continues from it. -/
structure DynamicQuery where
  id : Uuid
  name : String
  prompt : String
  query : Option String
  responseId : Option String
  status : Status
  createdAt : Timestamp
  updatedAt : Timestamp
deriving DecidableEq, Repr

namespace DynamicQuery

/-- Whether a generation has succeeded. -/
def isComplete (q : DynamicQuery) : Bool :=
  q.status == .complete

/-- A record without SQL. -/
def fresh (id : Uuid) (name prompt : String) (now : Timestamp) : DynamicQuery :=
  ⟨id, name, prompt, none, none, .inProgress, now, now⟩

/-- The JSON form of a record. -/
def toJson (q : DynamicQuery) : Value :=
  .object [("id", .string q.id.text), ("name", .string q.name), ("prompt", .string q.prompt),
    ("query", .ofOption q.query), ("response_id", .ofOption q.responseId),
    ("status", .string q.status.text), ("created_at", .string q.createdAt.text),
    ("updated_at", .string q.updatedAt.text)]

/-- Reads a UUID. -/
def idReader : Reader Uuid :=
  .convert (.textAs "a formatted UUID string") fun s =>
    match Uuid.parse? s with
    | some id => .ok id
    | none => .error "UUID parsing failed"

/-- Reads a timestamp, loosely. -/
def timeReader : Reader Timestamp :=
  .convert (.textAs "an RFC 3339 formatted date and time string") fun s =>
    match Timestamp.parseLoose? s with
    | some t => .ok t
    | none => .error "invalid timestamp"

/-- A record of zeros, to start reading from. -/
def blank : DynamicQuery :=
  let epoch : Timestamp := ⟨1970, 1, 1, 0, 0, 0, 0⟩
  .fresh (Uuid.ofNat 0) "" "" epoch

/-- The shape of a record. -/
def shape : Reader.Shape DynamicQuery where
  name := "DynamicQuery"
  fields := [
    .needed "id" idReader fun v r => { r with id := v },
    .needed "name" .text fun v r => { r with name := v },
    .needed "prompt" .text fun v r => { r with prompt := v },
    .optional "query" (.option .text) fun v r => { r with query := v },
    .optional "response_id" (.option .text) fun v r => { r with responseId := v },
    .needed "status" (.oneOf Status.names) fun v r => { r with status := v },
    .needed "created_at" timeReader fun v r => { r with createdAt := v },
    .needed "updated_at" timeReader fun v r => { r with updatedAt := v }]
  initial := blank

/-- Reads a record. -/
def reader : Reader DynamicQuery := .record shape

end DynamicQuery

end QueryDesk.Record
