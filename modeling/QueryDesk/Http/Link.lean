import QueryDesk.Http.Url

/-!
# A link to a server

A link leads to one server, or nowhere, and knows the server's replies to come: one for each request
that reaches it, in order.  It keeps the requests that did.  A reply is an answer, whose body comes
in chunks and may end early, or the connection is dropped.

A request does not reach a server when its address is not absolute, leads elsewhere, or when the
value of a header holds a control character.
-/

namespace QueryDesk.Http

open QueryDesk.Text

/-- An answer: its status, its body in chunks, and whether the body is complete. -/
structure Answer where
  status : Nat
  chunks : List Bytes
  complete : Bool
deriving DecidableEq, Repr

/-- What a server does with a request. -/
inductive Reply where
  | answer (answer : Answer)
  | drop
deriving DecidableEq, Repr

/-- A request that reached a server. -/
structure Sent where
  method : String
  target : String
  headers : List (String × String)
  body : String
deriving DecidableEq, Repr

/-- The server that a link leads to, its replies to come, and the requests that it has had. -/
structure Link where
  server : Option String
  replies : List Reply
  sent : List Sent
deriving DecidableEq, Repr

/-! ## Answers -/

namespace Answer

/-- Whether the status is one of success. -/
def isSuccess (a : Answer) : Bool :=
  200 ≤ a.status && a.status ≤ 299

/-- Whether answers of the status have no body. -/
def isBodiless (a : Answer) : Bool :=
  a.status == 204 || a.status == 304

/-- The chunks that arrive, and whether that is the whole body. -/
def delivered (a : Answer) : List Bytes × Bool :=
  if a.isBodiless then ([], true) else (a.chunks, a.complete)

/-- The whole body, if it arrives. -/
def body? (a : Answer) : Option Bytes :=
  match a.delivered with
  | (chunks, true) => some chunks.flatten
  | (_, false) => none

/-- The text of a body, without a byte order mark. -/
def bodyText (bytes : Bytes) : String :=
  match bytes with
  | 0xEF :: 0xBB :: 0xBF :: rest => Utf8.lossy rest
  | all => Utf8.lossy all

/-- The text of the body; a body that ends early counts as empty. -/
def text (a : Answer) : String :=
  (a.body?.map bodyText).getD ""

end Answer

/-! ## Requests -/

/-- An octet that a header value may hold. -/
def isFieldOctet (b : UInt8) : Bool :=
  b == 0x09 || (0x20 ≤ b && b != 0x7F)

/-- Whether a text can be the value of a header. -/
def isFieldValue (s : String) : Bool :=
  (Utf8.encode s).all isFieldOctet

namespace Link

/-- A link to a server. -/
def «to» (server : String) (replies : List Reply) : Link := ⟨some server, replies, []⟩

/-- A link that leads nowhere. -/
def nowhere : Link := ⟨none, [], []⟩

/-- The target of an address, if the link leads there. -/
def target? (link : Link) (address : String) : Option String :=
  (Url.parse? address).bind fun url =>
    if link.server = some url.authority && url.scheme == "http" then some url.target else none

/-- The reply to the next request, and the link after it. -/
def takeReply (link : Link) : Reply × Link :=
  match link.replies with
  | [] => (.answer ⟨500, [Utf8.encode "no scripted reply"], true⟩, link)
  | reply :: rest => (reply, { link with replies := rest })

/-- Sends a request; there is no answer when it does not reach the server, or when the server drops
    it. -/
def send (link : Link) (method address : String) (headers : List (String × String))
    (body : String) : Option Answer × Link :=
  if !headers.all fun (_, value) => isFieldValue value then (none, link)
  else match link.target? address with
    | none => (none, link)
    | some target =>
      let link := { link with sent := link.sent ++ [Sent.mk method target headers body] }
      match link.takeReply with
      | (.answer answer, link) => (some answer, link)
      | (.drop, link) => (none, link)

end Link

/-- An address without the slashes at its end. -/
def trimSlashes (base : String) : String :=
  String.ofList (base.toList.reverse.dropWhile (· == '/')).reverse

end QueryDesk.Http
