import QueryDesk.Number.Shortest
import QueryDesk.Text.Utf8

/-!
# JSON numbers

A number is an integer of 64 bits, signed or unsigned, or a double.  A numeral is a number as
written; integers that fit are kept, everything else with a fraction, an exponent or more digits
becomes a double, and so does `-0`.  A numeral whose double would be infinite has no value.

A double is found in one rounding step per operation: the digits are collected while they fit into
64 bits (the ones after that only count), and the collected integer is multiplied or divided by a
power of ten.

An integer is written in decimal.  A double is written with its shortest digits: positionally,
with at least one fraction digit, when the exponent of its first digit lies between -5 and 15, and
with a signed exponent (`1.5e+300`, `1e-7`) otherwise.
-/

namespace QueryDesk.Json

open QueryDesk.Number QueryDesk.Text

/-- A JSON number. -/
inductive Number where
  | integer (value : Int)
  | real (value : Binary64)
deriving DecidableEq, Repr

/-- A number as written: sign, digits before the point, digits after it, and the exponent's sign
    and digits. -/
structure Numeral where
  negative : Bool
  whole : List Char
  fraction : Option (List Char)
  exponent : Option (Bool × List Char)
deriving DecidableEq, Repr

/-! ## Writing -/

/-- The decimal digits of a natural number. -/
def decimalDigits (n : Nat) : List Char :=
  Nat.toDigits 10 n

/-- The text of an integer. -/
def integerText (i : Int) : List Char :=
  if i < 0 then '-' :: decimalDigits i.natAbs else decimalDigits i.natAbs

/-- The positional text of digits whose first one stands at a power of ten. -/
def positional (digits : List Char) : Int → List Char
  | .ofNat k =>
    let whole := digits.take (k + 1) ++ List.replicate (k + 1 - digits.length) '0'
    let fraction := digits.drop (k + 1)
    whole ++ '.' :: (if fraction.isEmpty then ['0'] else fraction)
  | .negSucc k => '0' :: '.' :: (List.replicate k '0' ++ digits)

/-- The text with an exponent of digits whose first one stands at a power of ten. -/
def scientific (digits : List Char) (exponent : Int) : List Char :=
  let mantissa := match digits with
    | d :: e :: rest => d :: '.' :: e :: rest
    | short => short
  mantissa ++ 'e' :: (if exponent < 0 then '-' else '+') :: decimalDigits exponent.natAbs

/-- The text of a double's magnitude. -/
def magnitudeText (units : Nat) : List Char :=
  if units = 0 then ['0', '.', '0']
  else
    let x := Binary64.shortest units
    let digits := decimalDigits x.digits
    let leading := x.exponent + digits.length - 1
    if -5 ≤ leading && leading ≤ 15 then positional digits leading
    else scientific digits leading

/-- The text of a number. -/
def Number.chars : Number → List Char
  | .integer i => integerText i
  | .real x => if x.negative then '-' :: magnitudeText x.units else magnitudeText x.units

/-- The text of a number, as a string. -/
def Number.text (x : Number) : String :=
  String.ofList x.chars

/-! ## Reading -/

/-- An ASCII digit. -/
def isDigit (c : Char) : Bool :=
  '0' ≤ c && c ≤ '9'

/-- The value of a digit. -/
def digitValue (c : Char) : Nat :=
  c.toNat - '0'.toNat

/-- The largest unsigned integer of 64 bits. -/
def maxUnsigned : Nat := Nat.pow 2 64 - 1

/-- Collects digits while the value fits into 64 bits; answers the value and the digits left. -/
def collect : Nat → List Char → Nat × List Char
  | value, [] => (value, [])
  | value, d :: ds =>
    let next := value * 10 + digitValue d
    if maxUnsigned < next then (value, d :: ds) else collect next ds

/-- Divides by ten to the power `308 * n + r`, a factor of at most `10 ^ 308` at a time. -/
def divideSteps : Nat → Nat → Nat → Option Nat
  | units, r, 0 => Binary64.div? units (Binary64.powerOfTen r)
  | units, r, n + 1 =>
    if units = 0 then some 0
    else (Binary64.div? units (Binary64.powerOfTen 308)).bind fun units' => divideSteps units' r n

/-- An integer of 64 bits times a power of ten, rounded at each operation. -/
def scaled (significand : Nat) (exponent : Int) : Option Nat :=
  (Binary64.ofNat? significand).bind fun units =>
    match exponent with
    | .ofNat k =>
      if k ≤ 308 then Binary64.mul? units (Binary64.powerOfTen k)
      else if units = 0 then some 0
      else none
    | .negSucc k => divideSteps units (k % 308 + 1) (k / 308)

/-- The value of an exponent's digits, or `none` when it exceeds 31 bits. -/
def exponentValue (digits : List Char) : Option Nat :=
  let value := digits.foldl (fun n d => n * 10 + digitValue d) 0
  if value < Nat.pow 2 31 then some value else none

/-- The magnitude of a numeral that becomes a double. -/
def Numeral.magnitude (x : Numeral) : Option Nat :=
  let (whole, rest) := collect 0 x.whole
  let fraction := x.fraction.getD []
  let (significand, unread) := collect whole fraction
  let start : Int := (rest.length : Int) - ((fraction.length - unread.length : Nat) : Int)
  match x.exponent with
  | none => scaled significand start
  | some (negative, digits) =>
    match exponentValue digits with
    | some e => scaled significand (if negative then start - e else start + e)
    | none => if significand = 0 || negative then some 0 else none

/-- The value of a numeral that has neither fraction nor exponent and fits into 64 bits. -/
def Numeral.integer? (x : Numeral) : Option Int :=
  if x.fraction.isSome || x.exponent.isSome then none
  else
    let (value, rest) := collect 0 x.whole
    if !rest.isEmpty then none
    else if !x.negative then some value
    else if value = 0 || Nat.pow 2 63 < value then none
    else some (-(value : Int))

/-- The value of a numeral, if it has one. -/
def Numeral.value? (x : Numeral) : Option Number :=
  match x.integer? with
  | some i => some (.integer i)
  | none => x.magnitude.map fun units => .real ⟨x.negative, units⟩

/-- The digits at the front, and what follows them. -/
def takeDigits : List Symbol → List Char × List Symbol
  | some c :: rest =>
    if isDigit c then
      let (ds, rest) := takeDigits rest
      (c :: ds, rest)
    else ([], some c :: rest)
  | rest => ([], rest)

/-- The digits before the point: a single zero, or digits that do not start with zero. -/
def takeWhole (s : List Symbol) : Option (List Char × List Symbol) :=
  match takeDigits s with
  | ([], _) => none
  | ('0' :: _ :: _, _) => none
  | found => some found

/-- At least one digit. -/
def takeSome (s : List Symbol) : Option (List Char × List Symbol) :=
  match takeDigits s with
  | ([], _) => none
  | found => some found

/-- The fraction after the digits before the point, if there is one. -/
def takeFraction : List Symbol → Option (Option (List Char) × List Symbol)
  | some '.' :: rest => (takeSome rest).map fun (ds, rest) => (some ds, rest)
  | rest => some (none, rest)

/-- The digits of an exponent after its optional sign. -/
def takeSignedExponent (s : List Symbol) : Option (Option (Bool × List Char) × List Symbol) :=
  match s with
  | some '-' :: rest => (takeSome rest).map fun (ds, rest) => (some (true, ds), rest)
  | some '+' :: rest => (takeSome rest).map fun (ds, rest) => (some (false, ds), rest)
  | rest => (takeSome rest).map fun (ds, rest) => (some (false, ds), rest)

/-- The exponent at the end of a numeral, if there is one. -/
def takeExponent : List Symbol → Option (Option (Bool × List Char) × List Symbol)
  | some 'e' :: rest => takeSignedExponent rest
  | some 'E' :: rest => takeSignedExponent rest
  | rest => some (none, rest)

/-- The numeral at the front after its sign, and what follows it. -/
def scanUnsigned (negative : Bool) (s : List Symbol) : Option (Numeral × List Symbol) := do
  let (whole, rest) ← takeWhole s
  let (fraction, rest) ← takeFraction rest
  let (exponent, rest) ← takeExponent rest
  return (⟨negative, whole, fraction, exponent⟩, rest)

/-- The numeral at the front, and what follows it. -/
def scanNumeral : List Symbol → Option (Numeral × List Symbol)
  | some '-' :: rest => scanUnsigned true rest
  | rest => scanUnsigned false rest

/-- JSON's white space: space, tab, line feed and carriage return. -/
def isSpace : Symbol → Bool
  | some ' ' | some '\t' | some '\n' | some '\r' => true
  | _ => false

/-- Drops white space at the front. -/
def skipSpace (s : List Symbol) : List Symbol :=
  s.dropWhile isSpace

/-- A text that is one number, white space around it allowed. -/
def Number.parse? (s : String) : Option Number := do
  let (numeral, rest) ← scanNumeral (skipSpace (symbols s))
  if (skipSpace rest).isEmpty then numeral.value? else none

end QueryDesk.Json
