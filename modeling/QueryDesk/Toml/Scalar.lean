import QueryDesk.Json.Syntax
import QueryDesk.Record.Timestamp
import QueryDesk.Toml.Table

/-!
# TOML scalars

Strings are basic (with escapes) or literal, on one line or on several, where line ends are kept as
they are.  Everything else that is no list or table is one word: a boolean, an integer, a float or a
moment.  A date may be followed by a space and a time.
-/

namespace QueryDesk.Toml

open QueryDesk.Json

/-! ## Strings -/

/-- A control character other than tab. -/
def isControl (c : Char) : Bool :=
  (c.toNat < 0x20 && c != '\t') || c.toNat == 0x7F

/-- A space or a tab. -/
def isPad (c : Char) : Bool :=
  c == ' ' || c == '\t'

/-- Drops a line end from the front. -/
def dropLineEnd? : List Char → Option (List Char)
  | '\n' :: rest => some rest
  | '\r' :: '\n' :: rest => some rest
  | _ => none

/-- The character with a code of hexadecimal digits. -/
def codePoint? (digits : List Char) : Option Char :=
  match digits.mapM hexValue? with
  | none => none
  | some values =>
    let n := values.foldl (fun n d => n * 16 + d) 0
    if n.isValidChar then some (Char.ofNat n) else none

/-- The character of a code of a given number of digits, and what follows it. -/
def takeCode (count : Nat) (s : List Char) : Option (Char × List Char) :=
  if s.length < count then none
  else (codePoint? (s.take count)).map fun c => (c, s.drop count)

/-- The character of an escape after its backslash, and what follows it. -/
def takeEscape : List Char → Option (Char × List Char)
  | 'b' :: rest => some (Char.ofNat 8, rest)
  | 't' :: rest => some ('\t', rest)
  | 'n' :: rest => some ('\n', rest)
  | 'f' :: rest => some (Char.ofNat 12, rest)
  | 'r' :: rest => some ('\r', rest)
  | 'e' :: rest => some (Char.ofNat 27, rest)
  | '"' :: rest => some ('"', rest)
  | '\\' :: rest => some ('\\', rest)
  | 'x' :: rest => takeCode 2 rest
  | 'u' :: rest => takeCode 4 rest
  | 'U' :: rest => takeCode 8 rest
  | _ => none

/-- Characters and what follows them. -/
abbrev Taken := Option (List Char × List Char)

/-- Puts a character in front of the characters taken. -/
def Taken.cons (c : Char) (t : Taken) : Taken :=
  t.map fun (cs, rest) => (c :: cs, rest)

/-- A basic string after its opening quote. -/
def takeBasic : Nat → List Char → Taken
  | 0, _ => none
  | _ + 1, [] => none
  | _ + 1, '"' :: rest => some ([], rest)
  | fuel + 1, '\\' :: rest =>
    (takeEscape rest).bind fun (c, rest) => Taken.cons c (takeBasic fuel rest)
  | fuel + 1, c :: rest => if isControl c then none else Taken.cons c (takeBasic fuel rest)

/-- A literal string after its opening quote. -/
def takeLiteral : List Char → Taken
  | [] => none
  | '\'' :: rest => some ([], rest)
  | c :: rest => if isControl c then none else Taken.cons c (takeLiteral rest)

/-- The quotes that end a string on several lines, after the first three: up to two of them belong
    to the string. -/
def takeClosing (quote : Char) : List Char → List Char × List Char
  | a :: b :: rest =>
    if a = quote && b = quote then ([a, b], rest)
    else if a = quote then ([a], b :: rest)
    else ([], a :: b :: rest)
  | [a] => if a = quote then ([a], []) else ([], [a])
  | [] => ([], [])

/-- What follows a backslash at the end of a line: everything up to the next character that is
    neither white space nor a line end. -/
def afterLineEscape? (s : List Char) : Option (List Char) :=
  (dropLineEnd? (s.dropWhile isPad)).map fun rest =>
    rest.dropWhile fun c => isPad c || c == '\n' || c == '\r'

/-- A basic string on several lines, after its opening quotes. -/
def takeLongBasic : Nat → List Char → Taken
  | 0, _ => none
  | _ + 1, [] => none
  | _ + 1, '"' :: '"' :: '"' :: rest => some (takeClosing '"' rest)
  | fuel + 1, '\\' :: rest =>
    match afterLineEscape? rest with
    | some rest => takeLongBasic fuel rest
    | none => (takeEscape rest).bind fun (c, rest) => Taken.cons c (takeLongBasic fuel rest)
  | fuel + 1, '\r' :: '\n' :: rest =>
    Taken.cons '\r' (Taken.cons '\n' (takeLongBasic fuel rest))
  | fuel + 1, '\n' :: rest => Taken.cons '\n' (takeLongBasic fuel rest)
  | fuel + 1, c :: rest => if isControl c then none else Taken.cons c (takeLongBasic fuel rest)

/-- A literal string on several lines, after its opening quotes. -/
def takeLongLiteral : List Char → Taken
  | [] => none
  | '\'' :: '\'' :: '\'' :: rest => some (takeClosing '\'' rest)
  | '\r' :: '\n' :: rest => Taken.cons '\r' (Taken.cons '\n' (takeLongLiteral rest))
  | '\n' :: rest => Taken.cons '\n' (takeLongLiteral rest)
  | c :: rest => if isControl c then none else Taken.cons c (takeLongLiteral rest)

/-- A string on several lines starts on the next line if its first line is empty. -/
def skipFirstLineEnd (s : List Char) : List Char :=
  (dropLineEnd? s).getD s

/-- A string on one line, and what follows it. -/
def takeShortString : List Char → Option (String × List Char)
  | '"' :: rest =>
    (takeBasic (rest.length + 1) rest).map fun (cs, rest) => (String.ofList cs, rest)
  | '\'' :: rest => (takeLiteral rest).map fun (cs, rest) => (String.ofList cs, rest)
  | _ => none

/-- A string, and what follows it. -/
def takeString : List Char → Option (String × List Char)
  | '"' :: '"' :: '"' :: rest =>
    (takeLongBasic (rest.length + 1) (skipFirstLineEnd rest)).map fun (cs, rest) =>
      (String.ofList cs, rest)
  | '\'' :: '\'' :: '\'' :: rest =>
    (takeLongLiteral (skipFirstLineEnd rest)).map fun (cs, rest) => (String.ofList cs, rest)
  | s => takeShortString s

/-! ## Numbers -/

/-- Digits with single underscores between them; the digits alone. -/
def plainDigits? (isDigit : Char → Bool) : List Char → Option (List Char)
  | [] => none
  | [c] => if isDigit c then some [c] else none
  | c :: '_' :: rest => if isDigit c then (plainDigits? isDigit rest).map (c :: ·) else none
  | c :: rest => if isDigit c then (plainDigits? isDigit rest).map (c :: ·) else none

/-- The value of digits in a base. -/
def valueIn (base : Nat) (digits : List Char) : Nat :=
  digits.foldl (fun n c => n * base + ((hexValue? c).getD 0)) 0

/-- A hexadecimal, octal or binary digit. -/
def isDigitIn (base : Nat) (c : Char) : Bool :=
  (hexValue? c).any (· < base)

/-- The sign of a number, and what follows it. -/
def splitSign : List Char → Bool × List Char
  | '-' :: rest => (true, rest)
  | '+' :: rest => (false, rest)
  | rest => (false, rest)

/-- Decimal digits without a leading zero. -/
def wholeDigits? (s : List Char) : Option (List Char) :=
  match s with
  | '0' :: _ :: _ => none
  | s => plainDigits? isDigit s

/-- An integer. -/
def integer? (s : List Char) : Option Int :=
  match s with
  | '0' :: 'x' :: rest => (plainDigits? (isDigitIn 16) rest).map fun ds => (valueIn 16 ds : Int)
  | '0' :: 'o' :: rest => (plainDigits? (isDigitIn 8) rest).map fun ds => (valueIn 8 ds : Int)
  | '0' :: 'b' :: rest => (plainDigits? (isDigitIn 2) rest).map fun ds => (valueIn 2 ds : Int)
  | s =>
    let (negative, rest) := splitSign s
    (wholeDigits? rest).map fun ds =>
      let n : Int := valueIn 10 ds
      if negative then -n else n

/-- The exponent of a float, and its digits. -/
def exponent? (s : List Char) : Option (Bool × List Char) :=
  let (negative, rest) := splitSign s
  (plainDigits? isDigit rest).map fun ds => (negative, ds)

/-- The numeral of a float: it has a fraction, an exponent, or both. -/
def numeral? (s : List Char) : Option Numeral := do
  let (negative, rest) := splitSign s
  let isMark (c : Char) : Bool := c == '.' || c == 'e' || c == 'E'
  let whole ← wholeDigits? (rest.takeWhile (!isMark ·))
  match rest.dropWhile (!isMark ·) with
  | '.' :: rest =>
    let isExponent (c : Char) : Bool := c == 'e' || c == 'E'
    let fraction ← plainDigits? isDigit (rest.takeWhile (!isExponent ·))
    match rest.dropWhile (!isExponent ·) with
    | [] => return ⟨negative, whole, some fraction, none⟩
    | _ :: rest => return ⟨negative, whole, some fraction, some (← exponent? rest)⟩
  | _ :: rest => return ⟨negative, whole, none, some (← exponent? rest)⟩
  | [] => none

/-- Infinity or no number, with or without a sign. -/
def isSpecialFloat (s : List Char) : Bool :=
  let (_, rest) := splitSign s
  rest == "inf".toList || rest == "nan".toList

/-! ## Moments -/

/-- A number of exactly so many digits within bounds. -/
def isField (count low high : Nat) (s : List Char) : Bool :=
  s.length == count && s.all isDigit && low ≤ valueIn 10 s && valueIn 10 s ≤ high

/-- A date. -/
def isDate (s : List Char) : Bool :=
  match s with
  | [a, b, c, d, '-', e, f, '-', g, h] =>
    isField 4 0 9999 [a, b, c, d] && isField 2 1 12 [e, f] &&
      isField 2 1 (Record.daysInMonth (valueIn 10 [a, b, c, d]) (valueIn 10 [e, f])) [g, h]
  | _ => false

/-- An hour and a minute. -/
def isHourMinute (s : List Char) : Bool :=
  match s with
  | [a, b, ':', c, d] => isField 2 0 23 [a, b] && isField 2 0 59 [c, d]
  | _ => false

/-- A second, with or without a fraction, or nothing. -/
def isSecond (s : List Char) : Bool :=
  match s with
  | [] => true
  | [':', a, b] => isField 2 0 60 [a, b]
  | ':' :: a :: b :: '.' :: fraction =>
    isField 2 0 60 [a, b] && !fraction.isEmpty && fraction.all isDigit
  | _ => false

/-- A time of day. -/
def isTime (s : List Char) : Bool :=
  isHourMinute (s.take 5) && isSecond (s.drop 5)

/-- A time of day with or without an offset. -/
def isOffsetTime (s : List Char) : Bool :=
  let isOffset (c : Char) : Bool := c == 'Z' || c == 'z' || c == '+' || c == '-'
  isTime (s.takeWhile (!isOffset ·)) &&
    match s.dropWhile (!isOffset ·) with
    | [] => true
    | ['Z'] | ['z'] => true
    | _ :: rest => isHourMinute rest

/-- A date, a time, or both. -/
def isMoment (s : List Char) : Bool :=
  isDate s || isTime s ||
    (isDate (s.take 10) && match s.drop 10 with
      | c :: time => (c == 'T' || c == 't' || c == ' ') && isOffsetTime time
      | [] => false)

/-! ## Words -/

/-- A character of a word. -/
def isWordChar (c : Char) : Bool :=
  c.isAlphanum || c == '+' || c == '-' || c == '_' || c == '.' || c == ':'

/-- The word at the front, and what follows it. -/
def takeWord (s : List Char) : List Char × List Char :=
  let word := s.takeWhile isWordChar
  match s.dropWhile isWordChar with
  | ' ' :: c :: rest =>
    if isDate word && isDigit c then
      (word ++ ' ' :: (c :: rest).takeWhile isWordChar, (c :: rest).dropWhile isWordChar)
    else (word, ' ' :: c :: rest)
  | rest => (word, rest)

/-- The value of a word. -/
def wordValue? (word : List Char) : Option Node :=
  if word = "true".toList then some (.boolean true)
  else if word = "false".toList then some (.boolean false)
  else if isSpecialFloat word then some (.float (String.ofList word))
  else if isMoment word then some (.moment (String.ofList word))
  else match integer? word with
    | some i => some (.integer i)
    | none => (numeral? word).map fun _ => .float (String.ofList word)

end QueryDesk.Toml
