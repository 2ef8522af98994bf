import QueryDesk.Generation.Instructions
import QueryDesk.Generation.Relay

/-!
# Generating SQL for a record

A generation sends the record's prompt to the provider, with the id of the last stored response if
there is one, and stores the SQL that comes back.  `generate` waits for the response; `stream`
starts a relay of the provider's events.  A generation only ever completes a record.
-/

namespace QueryDesk.Generation

open QueryDesk.Completion QueryDesk.Record

/-- The model, the tool server, and whether streams report failures. -/
structure Settings where
  model : String
  toolLabel : String
  toolDescription : String
  toolUrl : String
  emitErrors : Bool
deriving DecidableEq, Repr

/-- The settings when nothing is configured. -/
def Settings.default : Settings where
  model := "gpt-5-mini"
  toolLabel := "warehouse_mcp"
  toolDescription := "Catalog browser for the analytic engine: lists catalogs, schemas and tables."
  toolUrl := "http://localhost:6174/mcp"
  emitErrors := false

/-- The JSON form of the settings. -/
def Settings.toJson (s : Settings) : Json.Value :=
  .object [("model", .string s.model), ("tool_server_label", .string s.toolLabel),
    ("tool_server_description", .string s.toolDescription),
    ("tool_server_url", .string s.toolUrl), ("emit_error_events", .bool s.emitErrors)]

/-- The request for a record. -/
def requestFor (settings : Settings) (q : DynamicQuery) : Request where
  model := settings.model
  instructions := instructions
  input := q.prompt
  output := outputSchema
  tools := [⟨settings.toolLabel, settings.toolDescription, settings.toolUrl, catalogTools⟩]
  previous := q.responseId

namespace Backend

/-- Creates a record. -/
def create (b : Backend) (name prompt : String) :
    Except Store.Failure DynamicQuery × Backend :=
  let (id, supply) := b.supply.takeId
  let (now, supply) := supply.takeTime
  let (result, store) := b.store.create id now name prompt
  (result, { b with store := store, supply := supply })

/-- Renames a record. -/
def rename (b : Backend) (id : Uuid) (name : String) :
    Except Store.Failure DynamicQuery × Backend :=
  let (now, supply) := b.supply.takeTime
  let (result, store) := b.store.rename id now name
  (result, { b with store := store, supply := supply })

/-- Stores an outcome for a record. -/
def complete (b : Backend) (id : Uuid) (query responseId : String) :
    Except Store.Failure DynamicQuery × Backend :=
  let (now, supply) := b.supply.takeTime
  let (result, store) := b.store.complete id now query responseId
  (result, { b with store := store, supply := supply })

/-- Loads the record that a generation is for. -/
def load (b : Backend) (id : Uuid) : Except Failure DynamicQuery :=
  match b.store.get id with
  | .error cause => .error (.store cause)
  | .ok none => .error (.notFound id)
  | .ok (some q) => .ok q

/-- Sends a request and waits for the response. -/
def ask (b : Backend) (request : Request) : Except Failure Response × Backend :=
  let (answer, provider) := b.provider.complete request
  let b := { b with provider := provider }
  match answer with
  | .error cause => (.error (.completion cause), b)
  | .ok response => (.ok response, b)

/-- Generates SQL for a record; the record as it is afterwards. -/
def generate (b : Backend) (settings : Settings) (id : Uuid) :
    Except Failure DynamicQuery × Backend :=
  match b.load id with
  | .error failure => (.error failure, b)
  | .ok q =>
    match b.ask (requestFor settings q) with
    | (.error failure, b) => (.error failure, b)
    | (.ok response, b) => b.settle id response

/-- Starts a streamed generation for a record. -/
def stream (b : Backend) (settings : Settings) (id : Uuid) : Except Failure Relay :=
  (b.load id).map fun q => ⟨q.id, requestFor settings q, settings.emitErrors, .unopened⟩

end Backend

end QueryDesk.Generation
