import QueryDesk.Json.Reader
import QueryDesk.Service.MediaType

/-!
# Requests

A request has a method, a target, headers and a body.  Its path is the target up to the query; the
segments of a path are compared as they stand, and percent-decoded when their text is wanted.
-/

namespace QueryDesk.Service

open QueryDesk.Json QueryDesk.Text

/-- The method of a request. -/
inductive Method where
  | get
  | head
  | post
  | put
  | options
  | other (name : String)
deriving DecidableEq, Repr

/-- The method with a name. -/
def Method.ofName : String → Method
  | "GET" => .get
  | "HEAD" => .head
  | "POST" => .post
  | "PUT" => .put
  | "OPTIONS" => .options
  | name => .other name

/-- A request to the service. -/
structure Request where
  method : Method
  target : String
  headers : List (String × String)
  body : Bytes
deriving DecidableEq, Repr

/-! ## Paths -/

/-- What follows the scheme and the authority of an absolute target. -/
def afterAuthority (s : List Char) : List Char :=
  if "http://".toList.isPrefixOf s then (s.drop 7).dropWhile (· != '/')
  else if "https://".toList.isPrefixOf s then (s.drop 8).dropWhile (· != '/')
  else s

/-- The texts between slashes. -/
def splitSlash : List Char → List (List Char)
  | [] => [[]]
  | c :: rest =>
    if c = '/' then [] :: splitSlash rest
    else match splitSlash rest with
      | first :: others => (c :: first) :: others
      | [] => [[c]]

/-- Percent-decodes a text; what is no encoded octet stays as it is. -/
def percentDecode : List Char → Bytes
  | '%' :: a :: b :: rest =>
    match hexValue? a, hexValue? b with
    | some high, some low => UInt8.ofNat (high * 16 + low) :: percentDecode rest
    | _, _ => Utf8.encodeChar '%' ++ percentDecode (a :: b :: rest)
  | c :: rest => Utf8.encodeChar c ++ percentDecode rest
  | [] => []

/-- The text of a path segment, if its octets are UTF-8. -/
def segmentText? (segment : String) : Option String :=
  Utf8.text? (percentDecode segment.toList)

namespace Request

/-- The segments of the path, if it is absolute. -/
def segments? (r : Request) : Option (List String) :=
  match splitSlash ((afterAuthority r.target.toList).takeWhile fun c => c != '?' && c != '#') with
  | [] :: segments => some (segments.map String.ofList)
  | _ => none

/-! ## Contents -/

/-- The value of a header; names are compared without regard to letter case. -/
def header? (r : Request) (name : String) : Option String :=
  (r.headers.find? fun (n, _) => n.toList.map Char.toLower == name.toList).map (·.2)

/-- A character that a readable header value may hold. -/
def isReadable (c : Char) : Bool :=
  c == '\t' || (0x20 ≤ c.toNat && c.toNat ≤ 0x7E)

/-- Whether the request says that its body is JSON. -/
def hasJsonBody (r : Request) : Bool :=
  match r.header? "content-type" with
  | none => false
  | some value => value.toList.all isReadable && ((MediaType.parse? value).any (·.isJson))

end Request

end QueryDesk.Service
