import QueryDesk.Json.Number
import QueryDesk.Text.Blank

/-!
# Timestamps

A timestamp is a moment in UTC: a date of the proleptic Gregorian calendar, a time of day with a
second up to 60 for leap seconds, and nanoseconds.

It is written as in RFC 3339 with `Z`: either with six fraction digits, so that texts of years 0 to
9999 sort as the moments do, or with the fewest of 0, 3, 6 and 9 digits that lose nothing.

Two readers turn the local time of an offset into UTC.  The strict one reads RFC 3339 (with a space
or a lower-case `t` for `T`, a lower-case `z` for `Z`); the loose one also accepts missing leading
zeros, white space between the parts, `UTC`, and offsets with a space or nothing for the colon.
-/

namespace QueryDesk.Record

open QueryDesk.Json QueryDesk.Text

/-- A moment in UTC. -/
structure Timestamp where
  year : Int
  month : Nat
  day : Nat
  hour : Nat
  minute : Nat
  second : Nat
  nano : Nat
deriving DecidableEq, Repr

/-! ## The calendar -/

/-- Every fourth year is a leap year, except centuries that are no multiple of 400. -/
def isLeapYear (year : Int) : Bool :=
  year % 4 == 0 && (year % 100 != 0 || year % 400 == 0)

/-- The number of days of a month. -/
def daysInMonth (year : Int) (month : Nat) : Nat :=
  match month with
  | 2 => if isLeapYear year then 29 else 28
  | 4 | 6 | 9 | 11 => 30
  | _ => 31

/-- The years that a timestamp may have. -/
def isYear (year : Int) : Bool :=
  -262143 ≤ year && year ≤ 262142

/-- Whether the parts of a date make one. -/
def isDate (year : Int) (month day : Nat) : Bool :=
  isYear year && 1 ≤ month && month ≤ 12 && 1 ≤ day && day ≤ daysInMonth year month

namespace Timestamp

/-- The same time on the day before. -/
def dayBefore (t : Timestamp) : Timestamp :=
  if 1 < t.day then { t with day := t.day - 1 }
  else if 1 < t.month then
    { t with month := t.month - 1, day := daysInMonth t.year (t.month - 1) }
  else { t with year := t.year - 1, month := 12, day := 31 }

/-- The same time on the day after. -/
def dayAfter (t : Timestamp) : Timestamp :=
  if t.day < daysInMonth t.year t.month then { t with day := t.day + 1 }
  else if t.month < 12 then { t with month := t.month + 1, day := 1 }
  else { t with year := t.year + 1, month := 1, day := 1 }

/-- Sets the minute of the day. -/
def atMinute (t : Timestamp) (minute : Nat) : Timestamp :=
  { t with hour := minute / 60, minute := minute % 60 }

/-- The same time some days after. -/
def daysAfter (t : Timestamp) : Nat → Timestamp
  | 0 => t
  | n + 1 => t.dayAfter.daysAfter n

/-- The moment some microseconds after, in whole microseconds. -/
def microsAfter (t : Timestamp) (micros : Nat) : Timestamp :=
  let total := ((t.hour * 60 + t.minute) * 60 + t.second) * 1000000 + t.nano / 1000 + micros
  let seconds := total / 1000000
  { t with
    hour := seconds / 3600 % 24
    minute := seconds / 60 % 60
    second := seconds % 60
    nano := total % 1000000 * 1000 }.daysAfter (seconds / 86400)

/-- The moment of a local time that is ahead of UTC by an offset of less than a day. -/
def ofLocal (t : Timestamp) (offsetMinutes : Int) : Timestamp :=
  let minute : Int := (t.hour * 60 + t.minute : Nat) - offsetMinutes
  if minute < 0 then (t.atMinute (minute + 1440).toNat).dayBefore
  else if 1440 ≤ minute then (t.atMinute (minute - 1440).toNat).dayAfter
  else t.atMinute minute.toNat

/-- The moment in whole microseconds. -/
def truncated (t : Timestamp) : Timestamp :=
  { t with nano := t.nano / 1000 * 1000 }

/-! ## Order -/

/-- The parts from the largest unit down. -/
def key (t : Timestamp) : List Int :=
  [t.year, t.month, t.day, t.hour, t.minute, t.second, t.nano]

/-- Whether the first key comes first in lexicographic order. -/
def keyBefore : List Int → List Int → Bool
  | a :: as, b :: bs => a < b || (a == b && keyBefore as bs)
  | [], _ :: _ => true
  | _, [] => false

/-- Whether a moment is earlier than another one. -/
def isBefore (a b : Timestamp) : Bool :=
  keyBefore a.key b.key

/-! ## Writing -/

/-- The last digits of a number, as many as asked for. -/
def padded (width n : Nat) : List Char :=
  let digits := decimalDigits n
  List.replicate (width - digits.length) '0' ++ digits

/-- A year: four digits, or a sign and at least four digits outside the years 0 to 9999. -/
def yearChars (year : Int) : List Char :=
  if 0 ≤ year && year ≤ 9999 then padded 4 year.toNat
  else (if year < 0 then '-' else '+') :: padded 4 year.natAbs

/-- Date and time up to the second. -/
def wholeChars (t : Timestamp) : List Char :=
  yearChars t.year ++ '-' :: padded 2 t.month ++ '-' :: padded 2 t.day ++ 'T' ::
    padded 2 t.hour ++ ':' :: padded 2 t.minute ++ ':' :: padded 2 t.second

/-- The text with six fraction digits. -/
def microsText (t : Timestamp) : String :=
  String.ofList (t.wholeChars ++ '.' :: (padded 6 (t.nano / 1000) ++ ['Z']))

/-- The fewest fraction digits, in threes, that lose nothing. -/
def fractionChars (nano : Nat) : List Char :=
  if nano = 0 then []
  else if nano % 1000000 = 0 then '.' :: padded 3 (nano / 1000000)
  else if nano % 1000 = 0 then '.' :: padded 6 (nano / 1000)
  else '.' :: padded 9 nano

/-- The text with the fewest fraction digits. -/
def text (t : Timestamp) : String :=
  String.ofList (t.wholeChars ++ fractionChars t.nano ++ ['Z'])

/-! ## Reading -/

/-- The value of a list of digits. -/
def digitsValue (ds : List Char) : Nat :=
  ds.foldl (fun n d => n * 10 + digitValue d) 0

/-- A number of at least `least` and at most `most` digits. -/
def takeNumber (least most : Nat) (s : List Char) : Option (Nat × List Char) :=
  let digits := (s.take most).takeWhile isDigit
  if digits.length < least then none
  else some (digitsValue digits, s.drop digits.length)

/-- One character that must be there. -/
def takeChar (c : Char) : List Char → Option (List Char)
  | d :: rest => if c = d then some rest else none
  | [] => none

/-- The separator between date and time. -/
def takeSeparator : List Char → Option (List Char)
  | 'T' :: rest => some rest
  | 't' :: rest => some rest
  | ' ' :: rest => some rest
  | _ => none

/-- An optional fraction of a second, in nanoseconds; digits after the ninth are dropped. -/
def takeFraction : List Char → Option (Nat × List Char)
  | '.' :: rest =>
    let digits := rest.takeWhile isDigit
    if digits.isEmpty then none
    else
      let kept := digits.take 9
      some (digitsValue kept * Nat.pow 10 (9 - kept.length), rest.drop digits.length)
  | rest => some (0, rest)

/-- The sign of an offset; the minus sign may be a hyphen or U+2212. -/
def takeSign : List Char → Option (Bool × List Char)
  | '+' :: rest => some (false, rest)
  | '-' :: rest => some (true, rest)
  | c :: rest => if c.toNat = 0x2212 then some (true, rest) else none
  | [] => none

/-- An offset from UTC in minutes: `Z`, or sign, hours, a separator and minutes. -/
def takeOffset (separator : List Char → Option (List Char)) :
    List Char → Option (Int × List Char)
  | 'Z' :: rest => some (0, rest)
  | 'z' :: rest => some (0, rest)
  | s => do
    let (negative, s) ← takeSign s
    let (hours, s) ← takeNumber 2 2 s
    let s ← separator s
    let (minutes, s) ← takeNumber 2 2 s
    let total : Int := (hours * 60 + minutes : Nat)
    if 60 ≤ minutes || 1440 ≤ total then none
    else some (if negative then -total else total, s)

/-- Checks the parts of a local time, and moves it to UTC. -/
def build (local_ : Timestamp) (offsetMinutes : Int) : Option Timestamp :=
  if isDate local_.year local_.month local_.day && local_.hour < 24 && local_.minute < 60 &&
      local_.second ≤ 60 then
    let t := local_.ofLocal offsetMinutes
    if isYear t.year then some t else none
  else none

/-- Reads an RFC 3339 timestamp. -/
def parseStrict? (s : String) : Option Timestamp := do
  let s := s.toList
  let (year, s) ← takeNumber 4 4 s
  let s ← takeChar '-' s
  let (month, s) ← takeNumber 2 2 s
  let s ← takeChar '-' s
  let (day, s) ← takeNumber 2 2 s
  let s ← takeSeparator s
  let (hour, s) ← takeNumber 2 2 s
  let s ← takeChar ':' s
  let (minute, s) ← takeNumber 2 2 s
  let s ← takeChar ':' s
  let (second, s) ← takeNumber 2 2 s
  let (nano, s) ← takeFraction s
  let (offset, s) ← takeOffset (takeChar ':') s
  if s.isEmpty then build ⟨year, month, day, hour, minute, second, nano⟩ offset else none

/-- Drops white space at the front. -/
def skipBlank (s : List Char) : List Char :=
  s.dropWhile isBlank

/-- A number of one or two digits behind white space. -/
def takeLoose (s : List Char) : Option (Nat × List Char) :=
  takeNumber 1 2 (skipBlank s)

/-- A character behind white space. -/
def takeLooseChar (c : Char) (s : List Char) : Option (List Char) :=
  takeChar c (skipBlank s)

/-- A year behind white space: up to four digits, or any number of them after a sign. -/
def takeLooseYear (s : List Char) : Option (Int × List Char) :=
  match skipBlank s with
  | '-' :: rest => (takeNumber 1 rest.length rest).map fun (n, rest) => (-(n : Int), rest)
  | '+' :: rest => (takeNumber 1 rest.length rest).map fun (n, rest) => ((n : Int), rest)
  | rest => (takeNumber 1 4 rest).map fun (n, rest) => ((n : Int), rest)

/-- Colons and white space, as many as there are. -/
def skipColons (s : List Char) : Option (List Char) :=
  some (s.dropWhile fun c => c == ':' || isBlank c)

/-- An offset behind white space, or `UTC`. -/
def takeLooseOffset (s : List Char) : Option (Int × List Char) :=
  let s := skipBlank s
  if (s.take 3).map Char.toUpper = "UTC".toList then some (0, s.drop 3)
  else takeOffset skipColons s

/-- Reads a timestamp, loosely. -/
def parseLoose? (s : String) : Option Timestamp := do
  let s := s.toList
  let (year, s) ← takeLooseYear s
  let s ← takeLooseChar '-' s
  let (month, s) ← takeLoose s
  let s ← takeLooseChar '-' s
  let (day, s) ← takeLoose s
  let s ← takeSeparator s
  let (hour, s) ← takeLoose s
  let s ← takeLooseChar ':' s
  let (minute, s) ← takeLoose s
  let s ← takeLooseChar ':' s
  let (second, s) ← takeLoose s
  let (nano, s) ← takeFraction s
  let (offset, s) ← takeLooseOffset s
  if (skipBlank s).isEmpty then
    build ⟨year, month, day, hour, minute, second, nano⟩ offset
  else none

end Timestamp

end QueryDesk.Record
