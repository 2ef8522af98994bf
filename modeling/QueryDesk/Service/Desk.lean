import QueryDesk.Engine.Basic
import QueryDesk.Generation.Orchestrator
import QueryDesk.Query.BuiltIn
import QueryDesk.Query.Wire
import QueryDesk.Service.Response
import QueryDesk.Service.Route
import QueryDesk.Sql.Compiler

/-!
# The desk

The desk answers requests: it keeps records, generates their SQL, runs it, and compiles specs.  The
id in a path is checked before the body of the request, and both before anything is done.  Failures
of the store, the provider and the engine are internal and not described.

Every response may be read from any origin; `OPTIONS` is answered on every path.  A streamed
response holds a relay; `Desk.deliver` writes it out, as a client does that reads to the end.
-/

namespace QueryDesk.Service

open QueryDesk.EventStream QueryDesk.Generation QueryDesk.Json QueryDesk.Query QueryDesk.Record
open QueryDesk.Sql QueryDesk.Text

/-! ## Bodies -/

/-- The body of a request to create a record. -/
structure Creation where
  name : String
  prompt : String
deriving DecidableEq, Repr

/-- The shape of a request to create a record. -/
def Creation.shape : Reader.Shape Creation where
  name := "CreateRequest"
  fields := [
    .needed "name" .text fun v r => { r with name := v },
    .needed "prompt" .text fun v r => { r with prompt := v }]
  initial := ⟨"", ""⟩

/-- The shape of a request to rename a record. -/
def renamingShape : Reader.Shape String where
  name := "RenameRequest"
  fields := [.needed "name" .text fun v _ => v]
  initial := ""

/-- The details of a refused body. -/
def bodyDetails : Fault → String
  | .malformed => "Failed to parse the request body as JSON: syntax error"
  | .unfit path cause =>
    "Failed to deserialize the JSON body into the target type: " ++
      (if path.isEmpty then "" else pathText path ++ ": ") ++ cause.message

/-- Reads the body of a request. -/
def readBody {α : Type} (read : Reader α) (r : Request) : Except Refusal α :=
  if !r.hasJsonBody then
    .error (.badRequest "Expected request with `Content-Type: application/json`")
  else match read.run (Document.parse (Utf8.decode r.body)) with
    | .ok a => .ok a
    | .error fault => .error (.badRequest (bodyDetails fault))

/-- Reads the id in a path. -/
def readId (segment : String) : Except Refusal Uuid :=
  match segmentText? segment with
  | none => .error .unreadableId
  | some raw => match Uuid.parse? raw with
    | none => .error (.badRequest s!"invalid id '{raw}'")
    | some id => .ok id

/-- Reads a name and a prompt, neither of them blank. -/
def readCreation (r : Request) : Except Refusal Creation :=
  match readBody (.record Creation.shape) r with
  | .error refusal => .error refusal
  | .ok c =>
    if isBlankText c.name || isBlankText c.prompt then
      .error (.badRequest "name and prompt are required")
    else .ok c

/-- Reads a name that is not blank. -/
def readName (r : Request) : Except Refusal String :=
  match readBody (.record renamingShape) r with
  | .error refusal => .error refusal
  | .ok name => if isBlankText name then .error (.badRequest "name is required") else .ok name

/-! ## Failures -/

/-- The refusal for a failure of the store. -/
def storeRefusal : Store.Failure → Refusal
  | .notFound _ => .notFound
  | _ => .internal

/-- The refusal for a failed generation. -/
def generationRefusal : Generation.Failure → Refusal
  | .notFound _ => .notFound
  | .store cause => storeRefusal cause
  | _ => .internal

/-- The refusal for a failed run. -/
def runRefusal : Engine.RunFailure → Refusal
  | .notGenerated id => .badRequest (Engine.RunFailure.notGenerated id).message
  | .engine _ => .internal

/-- The response for a record, or for a failure. -/
def recordResponse {ε : Type} (refuse : ε → Refusal) : Except ε DynamicQuery → Response
  | .ok q => .success 200 q.toJson
  | .error failure => (refuse failure).response

/-- The response for SQL, or for a compile error. -/
def sqlResponse : Except CompileError String → Response
  | .ok sql => .plain 200 sql
  | .error e => (Refusal.badRequest e.message).response

end QueryDesk.Service

namespace QueryDesk

open QueryDesk.EventStream QueryDesk.Generation QueryDesk.Json QueryDesk.Query QueryDesk.Record
open QueryDesk.Service

/-- The service: how specs are compiled, how SQL is generated, and what both work with. -/
structure Desk where
  options : Sql.Options
  settings : Generation.Settings
  backend : Backend
  engine : Engine

namespace Desk

/-! ## Actions -/

/-- Lists the records. -/
def list (d : Desk) : Response :=
  match d.backend.store.list with
  | .ok qs => .success 200 (.array (qs.map DynamicQuery.toJson))
  | .error failure => (storeRefusal failure).response

/-- Creates a record; its id is the answer. -/
def create (d : Desk) (r : Request) : Response × Desk :=
  match readCreation r with
  | .error refusal => (refusal.response, d)
  | .ok c =>
    let (result, backend) := d.backend.create c.name c.prompt
    let d := { d with backend := backend }
    match result with
    | .ok q => (.success 201 (.string q.id.text), d)
    | .error failure => ((storeRefusal failure).response, d)

/-- The SQL of the built-in query. -/
def preview (d : Desk) : Response :=
  sqlResponse (Sql.compile d.options BuiltIn.customersWithAddresses)

/-- The record with an id. -/
def find (d : Desk) (id : Uuid) : Except Refusal DynamicQuery :=
  match d.backend.store.get id with
  | .error failure => .error (storeRefusal failure)
  | .ok none => .error .notFound
  | .ok (some q) => .ok q

/-- Shows a record. -/
def fetch (d : Desk) (segment : String) : Response :=
  match readId segment with
  | .error refusal => refusal.response
  | .ok id => recordResponse (fun refusal => refusal) (d.find id)

/-- Renames a record. -/
def rename (d : Desk) (segment : String) (r : Request) : Response × Desk :=
  match readId segment with
  | .error refusal => (refusal.response, d)
  | .ok id => match readName r with
    | .error refusal => (refusal.response, d)
    | .ok name =>
      let (result, backend) := d.backend.rename id name
      (recordResponse storeRefusal result, { d with backend := backend })

/-- Starts a streamed generation. -/
def stream (d : Desk) (segment : String) : Response :=
  match readId segment with
  | .error refusal => refusal.response
  | .ok id => match d.backend.stream d.settings id with
    | .error failure => (generationRefusal failure).response
    | .ok relay => .stream relay

/-- Generates the SQL of a record. -/
def generate (d : Desk) (segment : String) : Response × Desk :=
  match readId segment with
  | .error refusal => (refusal.response, d)
  | .ok id =>
    let (result, backend) := d.backend.generate d.settings id
    (recordResponse generationRefusal result, { d with backend := backend })

/-- Runs the SQL of a record. -/
def results (d : Desk) (segment : String) : Response × Desk :=
  match readId segment with
  | .error refusal => (refusal.response, d)
  | .ok id => match d.find id with
    | .error refusal => (refusal.response, d)
    | .ok q =>
      let (result, engine) := d.engine.run q
      let d := { d with engine := engine }
      match result with
      | .ok value => (.success 200 value, d)
      | .error failure => ((runRefusal failure).response, d)

/-- Compiles a spec. -/
def compile (d : Desk) (r : Request) : Response :=
  match readBody Spec.reader r with
  | .error refusal => refusal.response
  | .ok spec => sqlResponse (Sql.compile d.options spec)

/-- Does what a request asks for. -/
def act (d : Desk) (r : Request) : Action → Response × Desk
  | .list => (d.list, d)
  | .create => d.create r
  | .preview => (d.preview, d)
  | .fetch id => (d.fetch id, d)
  | .rename id => d.rename id r
  | .stream id => (d.stream id, d)
  | .generate id => d.generate id
  | .results id => d.results id
  | .compile => (d.compile r, d)

/-! ## Requests -/

/-- Answers a request on a known path. -/
def answer (d : Desk) (route : Route) (r : Request) : Response × Desk :=
  let method := if r.method = .head then .get else r.method
  match route.action? method with
  | none =>
    let status := if r.method = Method.options then 200 else 405
    ((Response.bare status).withHeader "allow" route.allow, d)
  | some action =>
    let (response, d) := d.act r action
    (if r.method = .head then response.withoutBody else response, d)

/-- Answers a request. -/
def handle (d : Desk) (r : Request) : Response × Desk :=
  let (response, d) := match r.segments?.bind Route.ofSegments? with
    | none => (Response.bare (if r.method = Method.options then 200 else 404), d)
    | some route => d.answer route r
  (response.withHeader "access-control-allow-origin" "*", d)

/-- The whole text of a body, read to the end. -/
def deliver (d : Desk) : Body → String × Desk
  | .text text => (text, d)
  | .frames relay =>
    let (frames, backend) := relay.drain d.backend
    let text := String.ofList ((wireAll? (frames.map (·.1))).getD [])
    (text, { d with backend := backend })

end Desk

end QueryDesk
