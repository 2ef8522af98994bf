import QueryDesk.Text.Utf8

/-!
# Media types

A media type is a type, a slash and a subtype, each of token characters, followed by parameters.  A
plus sign in the subtype separates a suffix; the last one counts.  A parameter is a semicolon,
spaces, a name, an equals sign and a value, which is a token or stands between quotes.  Letter case
has no meaning.
-/

namespace QueryDesk.Service

/-- A type, its subtype, and the suffix of the subtype. -/
structure MediaType where
  type : String
  subtype : String
  suffix : Option String
deriving DecidableEq, Repr

namespace MediaType

/-- A character of a token. -/
def isTokenChar (c : Char) : Bool :=
  c.isAlphanum || "!#$%&'*+-.^_`|~".toList.contains c

/-- The token at the front, and what follows it. -/
def takeToken (s : List Char) : List Char × List Char :=
  (s.takeWhile isTokenChar, s.dropWhile isTokenChar)

/-- A character between quotes. -/
def isQuotedChar (c : Char) : Bool :=
  0x20 ≤ c.toNat && c.toNat != 0x7F && c != '"'

/-- What follows a value that starts after a quote.  A quote right after the first one belongs to
    the value. -/
def afterQuoted (s : List Char) : Option (List Char) :=
  let s := match s with
    | '"' :: rest => rest
    | rest => rest
  match s.dropWhile isQuotedChar with
  | '"' :: rest => some (rest.dropWhile (· == ' '))
  | _ => none

/-- Whether the text after a semicolon is a list of parameters. -/
def areParameters : Nat → List Char → Bool
  | 0, _ => false
  | fuel + 1, s =>
    match s.dropWhile (· == ' ') with
    | [] => true
    | s => match takeToken s with
      | ([], _) => false
      | (_, '=' :: '"' :: value) => match afterQuoted value with
        | some [] => true
        | some (';' :: rest) => areParameters fuel rest
        | _ => false
      | (_, '=' :: value) => match takeToken value with
        | (_, []) => true
        | (_ :: _, ';' :: rest) => areParameters fuel rest
        | _ => false
      | _ => false

/-- The subtype and its suffix. -/
def splitSuffix (s : List Char) : List Char × Option (List Char) :=
  let suffix := (s.reverse.takeWhile (· != '+')).reverse
  let start := s.take (s.length - suffix.length - 1)
  if start.isEmpty || suffix.length == s.length then (s, none) else (start, some suffix)

/-- Reads a media type. -/
def parse? (s : String) : Option MediaType :=
  match takeToken (s.toList.map Char.toLower) with
  | (_ :: _, '/' :: rest) =>
    let (type, _) := takeToken (s.toList.map Char.toLower)
    match takeToken rest with
    | ([], _) => none
    | (name, after) =>
      let (subtype, suffix) := splitSuffix name
      let found : MediaType :=
        ⟨String.ofList type, String.ofList subtype, suffix.map String.ofList⟩
      match after with
      | [] => some found
      | ';' :: parameters =>
        if areParameters (parameters.length + 1) parameters then some found else none
      | _ => none
  | _ => none

/-- Whether contents of a media type are JSON. -/
def isJson (m : MediaType) : Bool :=
  m.type == "application" && (m.subtype == "json" || m.suffix == some "json")

end MediaType

end QueryDesk.Service
