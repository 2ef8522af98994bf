import QueryDesk.Engine.Basic
import QueryDesk.Http.Link
import QueryDesk.Json.Reader

/-!
# The engine's client

A statement is posted to the engine, which answers with pages: each may carry rows, an error, and
the address of the next page.  The pages are followed to the end, or to the first one with an
error; the value of the statement is the first one of the first row.
-/

namespace QueryDesk.Engine

open QueryDesk.Http QueryDesk.Json

/-! ## Pages -/

/-- The error of a page. -/
structure PageError where
  message : String
  name : String
deriving DecidableEq, Repr

/-- A page of a result. -/
structure Page where
  id : String
  next : Option String
  rows : Option (List (List Value))
  error : Option PageError
deriving Repr

/-- The shape of a page's error. -/
def PageError.shape : Reader.Shape PageError where
  name := "QueryError"
  fields := [
    .needed "message" .text fun v r => { r with message := v },
    .defaulted "errorName" .text fun v r => { r with name := v }]
  initial := ⟨"", ""⟩

/-- The shape of a page. -/
def Page.shape : Reader.Shape Page where
  name := "QueryResults"
  fields := [
    .needed "id" .text fun v r => { r with id := v },
    .optional "nextUri" (.option .text) fun v r => { r with next := v },
    .defaulted "data" (.option (.list (.list .value))) fun v r => { r with rows := v },
    .optional "error" (.option (.record PageError.shape)) fun v r => { r with error := v }]
  initial := ⟨"", none, none, none⟩

/-- Reads the text of a page. -/
def Page.parse (text : String) : Except Fault Page :=
  (Reader.record Page.shape).parse text

/-- The first value of a page's first row. -/
def Page.scalar? (page : Page) : Option Value :=
  (page.rows.bind List.head?).bind List.head?

/-- The page in an answer. -/
def readPage (answer : Answer) : Except Failure Page :=
  if !answer.isSuccess then .error (.status answer.status answer.text)
  else match answer.body? with
    | none => .error .transport
    | some bytes => match Page.parse (Answer.bodyText bytes) with
      | .error fault => .error (.malformed fault.message)
      | .ok page => .ok page

/-! ## Following pages -/

/-- Where the engine is, and the user that statements run as. -/
structure Client where
  base : String
  user : String
deriving DecidableEq, Repr

namespace Client

/-- Fetches a page. -/
def fetch (link : Link) (method address : String) (headers : List (String × String))
    (body : String) : Except Failure Page × Link :=
  match link.send method address headers body with
  | (none, link) => (.error .transport, link)
  | (some answer, link) => (readPage answer, link)

/-- Posts a statement. -/
def post (client : Client) (link : Link) (sql : String) : Except Failure Page × Link :=
  fetch link "POST" (trimSlashes client.base ++ "/v1/statement")
    [("x-trino-user", client.user), ("x-trino-source", "dynq")] sql

/-- Gets the page at an address. -/
def follow (client : Client) (link : Link) (address : String) : Except Failure Page × Link :=
  fetch link "GET" address [("x-trino-user", client.user)] ""

/-- Goes through the pages from one on.  Every further page takes a reply, so the replies to come
    bound their number. -/
def walk (client : Client) : Nat → Option Value → Page → Link → Except Failure Value × Link
  | fuel, found, page, link =>
    match page.error with
    | some error => (.error (.query error.name error.message), link)
    | none =>
      let found := found.or page.scalar?
      match page.next with
      | none => match found with
        | some value => (.ok value, link)
        | none => (.error .noRows, link)
      | some address => match fuel with
        | 0 => (.error .transport, link)
        | fuel + 1 => match client.follow link address with
          | (.error failure, link) => (.error failure, link)
          | (.ok page, link) => walk client fuel found page link

/-- Runs a statement. -/
def queryScalar (client : Client) (link : Link) (sql : String) :
    Except Failure Value × Link :=
  match client.post link sql with
  | (.error failure, link) => (.error failure, link)
  | (.ok page, link) => client.walk (link.replies.length + 1) none page link

end Client

end QueryDesk.Engine
