import QueryDesk.Json.Number

/-!
# JSON values and their compact text

Members of an object keep their order.  The text has no white space; in strings the quote, the
backslash and the control characters are escaped, everything else is written as it is.
-/

namespace QueryDesk.Json

/-- A JSON value. -/
inductive Value where
  | null
  | bool (value : Bool)
  | number (value : Number)
  | string (value : String)
  | array (items : List Value)
  | object (members : List (String × Value))
deriving Repr

namespace Value

/-- A string that may be missing, as a value. -/
def ofOption : Option String → Value
  | none => .null
  | some s => .string s

/-- An array of strings. -/
def strings (items : List String) : Value :=
  .array (items.map .string)

/-- The value of a natural number. -/
def nat (n : Nat) : Value :=
  .number (.integer n)

/-- The member of an object with a name; no other value has members. -/
def member? (name : String) : Value → Option Value
  | .object members => members.lookup name
  | _ => none

/-- The text of a string value. -/
def text? : Value → Option String
  | .string s => some s
  | _ => none

/-- The items of an array value. -/
def items? : Value → Option (List Value)
  | .array items => some items
  | _ => none

end Value

/-- The digit of a number below sixteen, in lower case. -/
def hexDigit (n : Nat) : Char :=
  if n < 10 then Char.ofNat ('0'.toNat + n) else Char.ofNat ('a'.toNat + (n - 10))

/-- A character between the quotes of a string. -/
def escapeChar (c : Char) : List Char :=
  if c = '"' then ['\\', '"']
  else if c = '\\' then ['\\', '\\']
  else if c.toNat < 0x20 then
    match c.toNat with
    | 8 => ['\\', 'b']
    | 9 => ['\\', 't']
    | 10 => ['\\', 'n']
    | 12 => ['\\', 'f']
    | 13 => ['\\', 'r']
    | n => ['\\', 'u', '0', '0', hexDigit (n / 16), hexDigit (n % 16)]
  else [c]

/-- The text of a string. -/
def stringChars (s : String) : List Char :=
  '"' :: (s.toList.flatMap escapeChar ++ ['"'])

namespace Value

mutual

/-- The compact text of a value. -/
def chars : Value → List Char
  | .null => "null".toList
  | .bool true => "true".toList
  | .bool false => "false".toList
  | .number x => x.chars
  | .string s => stringChars s
  | .array items => '[' :: (itemsChars items ++ [']'])
  | .object members => '\x7b' :: (membersChars members ++ ['\x7d'])

/-- The items of an array, with commas between them. -/
def itemsChars : List Value → List Char
  | [] => []
  | [v] => v.chars
  | v :: rest => v.chars ++ ',' :: itemsChars rest

/-- The members of an object, with commas between them. -/
def membersChars : List (String × Value) → List Char
  | [] => []
  | [(k, v)] => stringChars k ++ ':' :: v.chars
  | (k, v) :: rest => stringChars k ++ ':' :: (v.chars ++ ',' :: membersChars rest)

end

/-- The compact text of a value, as a string. -/
def render (v : Value) : String :=
  String.ofList v.chars

end Value

end QueryDesk.Json
