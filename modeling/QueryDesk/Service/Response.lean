import QueryDesk.Generation.Relay
import QueryDesk.Json.Value

/-!
# Responses

A success is wrapped into an envelope with a fixed message.  A refusal is wrapped into one that
names its kind; only what the requester has supplied shows in its details, and an internal failure
is always the same response.
-/

namespace QueryDesk.Service

open QueryDesk.Generation QueryDesk.Json

/-- The body of a response: a text, or the frames of a relay. -/
inductive Body where
  | text (text : String)
  | frames (relay : Relay)

/-- A response of the service. -/
structure Response where
  status : Nat
  headers : List (String × String)
  body : Body

/-- Why a request is refused. -/
inductive Refusal where
  | unreadableId
  | badRequest (details : String)
  | notFound
  | internal
deriving DecidableEq, Repr

/-- The content type of plain text. -/
def plainType : String × String := ("content-type", "text/plain; charset=utf-8")

/-- The content type of JSON. -/
def jsonType : String × String := ("content-type", "application/json")

namespace Response

/-- A response without a body. -/
def bare (status : Nat) : Response := ⟨status, [], .text ""⟩

/-- A response that is a text. -/
def plain (status : Nat) (text : String) : Response := ⟨status, [plainType], .text text⟩

/-- A response that is a JSON value. -/
def json (status : Nat) (value : Value) : Response := ⟨status, [jsonType], .text value.render⟩

/-- A success. -/
def success (status : Nat) (data : Value) : Response :=
  json status (.object [("message", .string "Success"),
    ("details", .string "The request was successful."), ("data", data)])

/-- A stream of frames. -/
def stream (relay : Relay) : Response :=
  ⟨200, [("content-type", "text/event-stream"), ("cache-control", "no-cache")], .frames relay⟩

/-- A failure of a kind. -/
def failure (status : Nat) (kind details : String) : Response :=
  json status (.object [("error", .string kind), ("details", .string details)])

/-- Adds a header. -/
def withHeader (r : Response) (name value : String) : Response :=
  { r with headers := r.headers ++ [(name, value)] }

/-- The response without its body. -/
def withoutBody (r : Response) : Response :=
  { r with body := .text "" }

end Response

/-- The details of a refusal for what does not exist. -/
def notFoundDetails : String :=
  "The requested resource could not be found. Please check the URL or contact support."

/-- The details of a refusal for an internal failure. -/
def internalDetails : String :=
  "An unexpected error occurred. Please try again later or contact support."

/-- The response of a refusal. -/
def Refusal.response : Refusal → Response
  | .unreadableId => .plain 400 "Invalid URL: Invalid UTF-8 in `id`"
  | .badRequest details => .failure 400 "Bad Request" details
  | .notFound => .failure 404 "Not Found" notFoundDetails
  | .internal => .failure 500 "Internal server error" internalDetails

end QueryDesk.Service
