import QueryDesk.Json.Syntax

/-!
# UUIDs

A UUID is thirty-two hexadecimal digits.  It is written in lower case with hyphens, and read in
four forms, in any letter case: with hyphens, without them, with hyphens between braces, and with
hyphens after `urn:uuid:`.
-/

namespace QueryDesk.Record

/-- Thirty-two hexadecimal digits. -/
structure Uuid where
  digits : List (Fin 16)
  length_eq : digits.length = 32
deriving DecidableEq, Repr

namespace Uuid

/-- The character of a hexadecimal digit. -/
def digitChar (d : Fin 16) : Char :=
  Json.hexDigit d.val

/-- The value of a hexadecimal digit in either case. -/
def digit? (c : Char) : Option (Fin 16) :=
  (Json.hexValue? c).bind fun n => if h : n < 16 then some ⟨n, h⟩ else none

/-- The groups of eight, four, four, four and twelve characters. -/
def groups (s : List Char) : List (List Char) :=
  [s.take 8, (s.drop 8).take 4, (s.drop 12).take 4, (s.drop 16).take 4, s.drop 20]

/-- The digits without hyphens. -/
def simpleChars (id : Uuid) : List Char :=
  id.digits.map digitChar

/-- The digits with hyphens. -/
def chars (id : Uuid) : List Char :=
  ['-'].intercalate (groups id.simpleChars)

/-- The text of a UUID. -/
def text (id : Uuid) : String :=
  String.ofList id.chars

/-- Reads thirty-two digits. -/
def ofSimple? (s : List Char) : Option Uuid :=
  (s.mapM digit?).bind fun ds => if h : ds.length = 32 then some ⟨ds, h⟩ else none

/-- Reads digits with hyphens in their places. -/
def ofHyphenated? (s : List Char) : Option Uuid :=
  let digits := s.take 8 ++ (s.drop 9).take 4 ++ (s.drop 14).take 4 ++ (s.drop 19).take 4 ++
    s.drop 24
  if s.length = 36 && s[8]? == some '-' && s[13]? == some '-' && s[18]? == some '-' &&
      s[23]? == some '-' then
    ofSimple? digits
  else none

/-- The id whose digits are those of a number. -/
def ofNat (n : Nat) : Uuid :=
  ⟨(List.range 32).map fun i =>
    ⟨n / Nat.pow 16 (31 - i) % 16, Nat.mod_lt _ (Nat.zero_lt_succ 15)⟩, by simp⟩

/-- The characters between two braces. -/
def unbraced? : List Char → Option (List Char)
  | '\x7b' :: rest => match rest.reverse with
    | '\x7d' :: inner => some inner.reverse
    | _ => none
  | _ => none

/-- The characters after `urn:uuid:`. -/
def afterUrn? (s : List Char) : Option (List Char) :=
  if (s.take 9).map Char.toLower = "urn:uuid:".toList then some (s.drop 9) else none

/-- Reads a UUID in any of its forms. -/
def ofChars? (s : List Char) : Option Uuid :=
  if s.length = 32 then ofSimple? s
  else if s.length = 36 then ofHyphenated? s
  else if s.length = 38 then (unbraced? s).bind ofHyphenated?
  else (afterUrn? s).bind ofHyphenated?

/-- Reads the text of a UUID. -/
def parse? (s : String) : Option Uuid :=
  ofChars? s.toList

end Uuid

end QueryDesk.Record
