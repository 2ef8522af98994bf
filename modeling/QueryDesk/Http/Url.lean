import QueryDesk.Json.Value
import QueryDesk.Text.Utf8

/-!
# Web addresses

An absolute `http` or `https` address, taken apart as browsers do it: the authority in lower case,
and the target, which is the path with its dot segments resolved and the query.  Characters that a
target may not hold are written as percent-encoded octets.  A fragment is dropped.
-/

namespace QueryDesk.Http

open QueryDesk.Text

/-- An absolute address. -/
structure Url where
  scheme : String
  authority : String
  target : String
deriving DecidableEq, Repr

namespace Url

/-- A control character or a space. -/
def isEdge (c : Char) : Bool :=
  c.toNat ≤ 0x20

/-- A character that is left out wherever it stands. -/
def isIgnored (c : Char) : Bool :=
  c == '\t' || c == '\n' || c == '\r'

/-- The characters of an address that count. -/
def clean (s : List Char) : List Char :=
  ((s.dropWhile isEdge).reverse.dropWhile isEdge).reverse.filter (!isIgnored ·)

/-- A slash in either direction. -/
def isSlash (c : Char) : Bool :=
  c == '/' || c == '\\'

/-- The hexadecimal digits of an octet after a percent sign. -/
def percentEncoded (b : UInt8) : List Char :=
  let digit (n : Nat) := (Json.hexDigit n).toUpper
  ['%', digit (b.toNat / 16), digit (b.toNat % 16)]

/-- Percent-encodes the characters that are not graphic ASCII, and those of a set. -/
def encoded (set : List Char) (s : List Char) : List Char :=
  s.flatMap fun c =>
    if c.toNat ≤ 0x20 || 0x7E < c.toNat || set.contains c then
      (Utf8.encodeChar c).flatMap percentEncoded
    else [c]

/-- The graphic characters that a path segment may not hold. -/
def pathSet : List Char := "\"#<>?^`\x7b\x7d".toList

/-- The graphic characters that a query may not hold. -/
def querySet : List Char := "\"#<>'".toList

/-- The segments between slashes. -/
def segments : List Char → List (List Char)
  | [] => [[]]
  | c :: rest =>
    if isSlash c then [] :: segments rest
    else match segments rest with
      | first :: others => (c :: first) :: others
      | [] => [[c]]

/-- A segment with its encoded dots shown. -/
def showDots : List Char → List Char
  | '%' :: '2' :: 'e' :: rest => '.' :: showDots rest
  | '%' :: '2' :: 'E' :: rest => '.' :: showDots rest
  | c :: rest => c :: showDots rest
  | [] => []

/-- Resolves dot segments; the segments kept so far are in reverse order. -/
def resolve : List (List Char) → List (List Char) → List (List Char)
  | kept, [] => kept.reverse
  | kept, segment :: rest =>
    let kept' :=
      if showDots segment = ['.', '.'] then kept.drop 1
      else if showDots segment = ['.'] then kept
      else encoded pathSet segment :: kept
    let isDots := showDots segment = ['.', '.'] || showDots segment = ['.']
    if rest.isEmpty && isDots then (([] :: kept').reverse) else resolve kept' rest

/-- The target of what follows the authority. -/
def targetOf (s : List Char) : List Char :=
  let s := s.takeWhile (· != '#')
  let path := s.takeWhile (· != '?')
  let query := match s.dropWhile (· != '?') with
    | _ :: q => '?' :: encoded querySet q
    | [] => []
  '/' :: (['/'].intercalate (resolve [] (segments (path.drop 1))) ++ query)

/-- The host and port of an authority, without the user that may stand before them. -/
def withoutUser (s : List Char) : List Char :=
  (s.reverse.takeWhile (· != '@')).reverse

/-- Takes an absolute address apart. -/
def parse? (s : String) : Option Url :=
  let cs := clean s.toList
  let scheme := String.ofList ((cs.takeWhile (· != ':')).map Char.toLower)
  match cs.dropWhile (· != ':') with
  | ':' :: rest =>
    let rest := rest.dropWhile isSlash
    let isEnd (c : Char) := isSlash c || c == '?' || c == '#'
    let authority := withoutUser (rest.takeWhile (!isEnd ·))
    if (scheme == "http" || scheme == "https") && !authority.isEmpty then
      some ⟨scheme, String.ofList (authority.map Char.toLower),
        String.ofList (targetOf (rest.dropWhile (!isEnd ·)))⟩
    else none
  | _ => none

end Url

end QueryDesk.Http
