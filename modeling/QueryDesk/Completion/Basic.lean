import QueryDesk.Json.Value

/-!
# The completion service

A request asks the provider for a text that follows an output schema.  The answer comes as one
response, or as a stream of events of which the terminal ones carry a response.
-/

namespace QueryDesk.Completion

open QueryDesk.Json

/-- The schema that the output must follow. -/
structure OutputSchema where
  name : String
  description : String
  schema : Value
  strict : Bool
deriving Repr

/-- A remote tool server that the model may call, and the tools it may use there. -/
structure ToolSource where
  label : String
  description : String
  url : String
  allowed : List String
deriving DecidableEq, Repr

/-- The JSON form of an output schema. -/
def OutputSchema.toJson (s : OutputSchema) : Value :=
  .object [("name", .string s.name), ("description", .string s.description),
    ("schema", s.schema), ("strict", .bool s.strict)]

/-- The JSON form of a tool source. -/
def ToolSource.toJson (t : ToolSource) : Value :=
  .object [("server_label", .string t.label), ("server_description", .string t.description),
    ("server_url", .string t.url), ("allowed_tools", .strings t.allowed)]

/-- A request; `previous` continues the conversation of an earlier response. -/
structure Request where
  model : String
  instructions : String
  input : String
  output : OutputSchema
  tools : List ToolSource
  previous : Option String
deriving Repr

/-- A finished response: its id and its text. -/
structure Response where
  id : String
  text : String
deriving DecidableEq, Repr

/-- Why no response came. -/
inductive Failure where
  | transport
  | status (code : Nat) (body : String)
  | provider (message : String)
  | malformed (reason : String)
deriving DecidableEq, Repr

/-- The wording of a failure. -/
def Failure.message : Failure → String
  | .transport => "completion request failed"
  | .status code body => s!"completion service returned {code}: {body}"
  | .provider message => s!"completion service error: {message}"
  | .malformed reason => s!"malformed completion response: {reason}"

/-- The type of the event that ends a streamed response. -/
def completedType : String := "response.completed"

/-- An event of a streamed response. -/
inductive Event where
  | progress (type : String)
  | completed (response : Response)
deriving DecidableEq, Repr

/-- The type of an event. -/
def Event.type : Event → String
  | .progress type => type
  | .completed _ => completedType

/-- What a stream hands out next: an event, or the failure that ends it. -/
abbrev Item := Except Failure Event

/-- A provider as its answers to come: one entry for each request of its kind, in order.  It keeps
    the requests it was given and counts the stream items it handed out. -/
structure Provider where
  responses : List (Except Failure Response)
  streams : List (Except Failure (List Item))
  requests : List Request
  handedOut : Nat

namespace Provider

/-- A provider that has not been asked yet. -/
def scripted (responses : List (Except Failure Response))
    (streams : List (Except Failure (List Item))) : Provider :=
  ⟨responses, streams, [], 0⟩

/-- Asks for a response. -/
def complete (p : Provider) (request : Request) : Except Failure Response × Provider :=
  let p := { p with requests := p.requests ++ [request] }
  match p.responses with
  | [] => (.error (.provider "no scripted completion"), p)
  | answer :: rest => (answer, { p with responses := rest })

/-- Opens a stream. -/
def openStream (p : Provider) (request : Request) : Except Failure (List Item) × Provider :=
  let p := { p with requests := p.requests ++ [request] }
  match p.streams with
  | [] => (.error (.provider "no scripted stream"), p)
  | answer :: rest => (answer, { p with streams := rest })

/-- Counts an item that was handed out. -/
def handOut (p : Provider) : Provider :=
  { p with handedOut := p.handedOut + 1 }

end Provider

end QueryDesk.Completion
