/-!
# UTF-8

Bytes are lists of octets.  `decode` reads them as characters and marks every ill-formed stretch
by one `none`: a stretch is the longest start of a character that the next octet cannot continue,
or one octet that starts no character.  Reading leniently (`lossy`) shows each mark as U+FFFD,
reading strictly (`text?`) refuses a text with a mark, and a reader of its own may treat marks as
it likes.
-/

namespace QueryDesk.Text

/-- A sequence of octets. -/
abbrev Bytes := List UInt8

/-- A character of decoded bytes, or `none` for an ill-formed stretch. -/
abbrev Symbol := Option Char

namespace Utf8

/-- The octets of one character. -/
def encodeChar (c : Char) : Bytes :=
  let n := c.toNat
  if n < 0x80 then
    [UInt8.ofNat n]
  else if n < 0x800 then
    [UInt8.ofNat (0xC0 + n / 0x40), UInt8.ofNat (0x80 + n % 0x40)]
  else if n < 0x10000 then
    [UInt8.ofNat (0xE0 + n / 0x1000), UInt8.ofNat (0x80 + n / 0x40 % 0x40),
      UInt8.ofNat (0x80 + n % 0x40)]
  else
    [UInt8.ofNat (0xF0 + n / 0x40000), UInt8.ofNat (0x80 + n / 0x1000 % 0x40),
      UInt8.ofNat (0x80 + n / 0x40 % 0x40), UInt8.ofNat (0x80 + n % 0x40)]

/-- The octets of a list of characters. -/
def encodeChars (cs : List Char) : Bytes :=
  cs.flatMap encodeChar

/-- The octets of a text. -/
def encode (s : String) : Bytes :=
  encodeChars s.toList

/-- A character that has started: how many octets are still due after the next one, the least
    and the greatest value of the next one, and the value of the octets so far. -/
structure Pending where
  owed : Nat
  low : Nat
  high : Nat
  value : Nat
deriving DecidableEq, Repr

/-- The character that an octet starts, when more octets are due. -/
def leading (b : Nat) : Option Pending :=
  if 0xC2 ≤ b && b ≤ 0xDF then some ⟨0, 0x80, 0xBF, b - 0xC0⟩
  else if b == 0xE0 then some ⟨1, 0xA0, 0xBF, 0⟩
  else if b == 0xED then some ⟨1, 0x80, 0x9F, 0xD⟩
  else if 0xE1 ≤ b && b ≤ 0xEF then some ⟨1, 0x80, 0xBF, b - 0xE0⟩
  else if b == 0xF0 then some ⟨2, 0x90, 0xBF, 0⟩
  else if 0xF1 ≤ b && b ≤ 0xF3 then some ⟨2, 0x80, 0xBF, b - 0xF0⟩
  else if b == 0xF4 then some ⟨2, 0x80, 0x8F, 4⟩
  else none

/-- Reads an octet between two characters. -/
def start (b : Nat) : List Symbol × Option Pending :=
  if b < 0x80 then ([some (Char.ofNat b)], none)
  else match leading b with
    | some p => ([], some p)
    | none => ([none], none)

/-- Reads an octet: the symbols it completes and the character it leaves unfinished. -/
def step : Option Pending → Nat → List Symbol × Option Pending
  | none, b => start b
  | some p, b =>
    if p.low ≤ b && b ≤ p.high then
      let value := p.value * 0x40 + (b - 0x80)
      match p.owed with
      | 0 => ([some (Char.ofNat value)], none)
      | owed + 1 => ([], some ⟨owed, 0x80, 0xBF, value⟩)
    else
      let (symbols, next) := start b
      (none :: symbols, next)

/-- Reads bytes from a state on; an unfinished character at the end is ill-formed. -/
def decodeFrom : Option Pending → Bytes → List Symbol
  | none, [] => []
  | some _, [] => [none]
  | state, b :: bytes =>
    let (symbols, next) := step state b.toNat
    symbols ++ decodeFrom next bytes

/-- The characters of a byte sequence, with a mark for each ill-formed stretch. -/
def decode (bytes : Bytes) : List Symbol :=
  decodeFrom none bytes

/-- The text of bytes, with U+FFFD for each ill-formed stretch. -/
def lossy (bytes : Bytes) : String :=
  String.ofList ((decode bytes).map (·.getD (Char.ofNat 0xFFFD)))

/-- The text of well-formed bytes. -/
def text? (bytes : Bytes) : Option String :=
  ((decode bytes).mapM id).map String.ofList

end Utf8

/-- The symbols of a text: each of its characters. -/
def symbols (s : String) : List Symbol :=
  s.toList.map some

end QueryDesk.Text
