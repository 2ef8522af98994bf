import QueryDesk.Completion.Basic
import QueryDesk.EventStream.Decoder
import QueryDesk.Http.Link
import QueryDesk.Json.Reader

/-!
# The Responses client

A client asks a server for responses.  A response is an object with an id and a list of output
items; its text is that of all `output_text` parts of all `message` items, in order.  A streamed
response is an event stream whose data are JSON payloads with a type; the terminal one carries the
response.

Parts of a payload that are missing or of another type count as absent; only an id that is not a
string makes a response malformed.
-/

namespace QueryDesk.Completion.Responses

open QueryDesk.EventStream QueryDesk.Http QueryDesk.Json QueryDesk.Text

/-- Where the server is, and the key to it. -/
structure Client where
  base : String
  key : String
deriving DecidableEq, Repr

/-! ## Requests -/

/-- A tool source in the body of a request; its tools run without approval. -/
def toolJson (tool : ToolSource) : Value :=
  .object [("type", .string "mcp"), ("server_label", .string tool.label),
    ("server_description", .string tool.description), ("server_url", .string tool.url),
    ("allowed_tools", .strings tool.allowed),
    ("require_approval", .object [("never", .object [("tool_names", .strings tool.allowed)])])]

/-- The format that the output must have. -/
def formatJson (output : OutputSchema) : Value :=
  .object [("type", .string "json_schema"), ("name", .string output.name),
    ("description", .string output.description), ("schema", output.schema),
    ("strict", .bool output.strict)]

/-- The body of a request. -/
def requestBody (request : Request) (streamed : Bool) : Value :=
  .object ([("model", .string request.model), ("instructions", .string request.instructions),
      ("input", .string request.input),
      ("text", .object [("format", formatJson request.output)]),
      ("tools", .array (request.tools.map toolJson))] ++
    (if streamed then [("stream", .bool true)] else []) ++
    request.previous.toList.map fun id => ("previous_response_id", .string id))

/-! ## Responses -/

/-- Whether a value has a member `type` with a text. -/
def hasType (type : String) (v : Value) : Bool :=
  (v.member? "type").bind Value.text? == some type

/-- The items of a member that is an array; otherwise there are none. -/
def listMember (name : String) (v : Value) : List Value :=
  ((v.member? name).bind Value.items?).getD []

/-- The text of a part of a message, if it has one. -/
def partText (part : Value) : String :=
  if hasType "output_text" part then ((part.member? "text").bind Value.text?).getD "" else ""

/-- The text of an output item. -/
def itemText (item : Value) : String :=
  if hasType "message" item then String.join ((listMember "content" item).map partText) else ""

/-- The text of a response. -/
def outputText (response : Value) : String :=
  String.join ((listMember "output" response).map itemText)

/-- The error of a response, if it has one that is not `null`. -/
def error? (response : Value) : Option Value :=
  match response.member? "error" with
  | some .null => none
  | other => other

/-- The message of an error, or a text in its place. -/
def messageOr (default : String) (v : Value) : String :=
  ((v.member? "message").bind Value.text?).getD default

/-- The response that a value stands for. -/
def responseOf (value : Value) : Except Failure Response :=
  match error? value with
  | some error => .error (.provider (messageOr "unknown error" error))
  | none => match (value.member? "id").bind Value.text? with
    | some id => .ok ⟨id, outputText value⟩
    | none => .error (.malformed "response has no id")

/-! ## Events -/

/-- The event of a payload; its type is that of the frame when it has none itself. -/
def payloadEvent (frameName : String) (payload : Value) : Except Failure Event :=
  let type := ((payload.member? "type").bind Value.text?).getD frameName
  if type = completedType then
    (responseOf ((payload.member? "response").getD .null)).map .completed
  else if type = "error" then .error (.provider (messageOr "stream error" payload))
  else .ok (.progress type)

/-- The event of a frame; comments, empty data and the end mark have none. -/
def frameEvent : Frame → Except Failure (Option Event)
  | .comment _ => .ok none
  | .event name data =>
    if data.isEmpty || data == "[DONE]" then .ok none
    else match Value.parse data with
      | .error fault => .error (.malformed s!"event payload: {fault.message}")
      | .ok payload => (payloadEvent name payload).map some

/-- The items of frames, followed by others; a failure is the last item. -/
def frameItems : List Frame → List Item → List Item
  | [], after => after
  | frame :: rest, after =>
    match frameEvent frame with
    | .error failure => [.error failure]
    | .ok none => frameItems rest after
    | .ok (some event) => .ok event :: frameItems rest after

/-- The items of a body.  One that ends early fails where it ends. -/
def bodyItems (chunks : List Bytes) (complete : Bool) : List Item :=
  let (decoder, frames) := Decoder.new.pushAll chunks
  if complete then frameItems (frames ++ decoder.finish.2.toList) []
  else frameItems frames [.error .transport]

/-! ## Asking -/

namespace Client

/-- Sends a request; an answer that is no success is a failure. -/
def send (client : Client) (link : Link) (body : Value) : Except Failure Answer × Link :=
  let address := trimSlashes client.base ++ "/responses"
  let headers := [("authorization", "Bearer " ++ client.key),
    ("content-type", "application/json")]
  match link.send "POST" address headers body.render with
  | (none, link) => (.error .transport, link)
  | (some answer, link) =>
    if answer.isSuccess then (.ok answer, link)
    else (.error (.status answer.status answer.text), link)

/-- The response in a body. -/
def readResponse (answer : Answer) : Except Failure Response :=
  match answer.body? with
  | none => .error .transport
  | some bytes => match Reader.value.run (Document.parse (Utf8.decode bytes)) with
    | .error _ => .error .transport
    | .ok response => responseOf response

/-- Asks for a response. -/
def complete (client : Client) (link : Link) (request : Request) :
    Except Failure Response × Link :=
  match client.send link (requestBody request false) with
  | (.error failure, link) => (.error failure, link)
  | (.ok answer, link) => (readResponse answer, link)

/-- Asks for a streamed response. -/
def openStream (client : Client) (link : Link) (request : Request) :
    Except Failure (List Item) × Link :=
  match client.send link (requestBody request true) with
  | (.error failure, link) => (.error failure, link)
  | (.ok answer, link) =>
    let (chunks, complete) := answer.delivered
    (.ok (bodyItems chunks complete), link)

end Client

end QueryDesk.Completion.Responses
