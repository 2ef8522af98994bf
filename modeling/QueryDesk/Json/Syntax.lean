import QueryDesk.Json.Value

/-!
# The syntax tree of a JSON text

`Tree.parse` never fails.  Where the text breaks JSON's grammar the tree ends: the value at that
place is `broken`, and the arrays and objects around it are not closed.  A reader that walks the
tree from left to right therefore meets faults in the order in which they stand in the text, and a
value it does not look into costs nothing.

Numerals stay as written.  A string with an unpaired surrogate or an ill-formed byte is kept as
`none`: it may be passed over, but not read.
-/

namespace QueryDesk.Json

open QueryDesk.Text

/-- A JSON text up to its first fault. -/
inductive Tree where
  | null
  | bool (value : Bool)
  | numeral (value : Numeral)
  | string (value : Option String)
  | array (items : List Tree) (closed : Bool)
  | object (members : List (Option String × Tree)) (closed : Bool)
  | broken
deriving Repr

/-! ## Strings -/

/-- A piece of a string: a character, a code unit of `\u`, or an ill-formed byte. -/
inductive Piece where
  | char (c : Char)
  | unit (value : Nat)
  | ill
deriving DecidableEq, Repr

/-- The value of a hexadecimal digit. -/
def hexValue? (c : Char) : Option Nat :=
  if '0' ≤ c && c ≤ '9' then some (c.toNat - '0'.toNat)
  else if 'a' ≤ c && c ≤ 'f' then some (c.toNat - 'a'.toNat + 10)
  else if 'A' ≤ c && c ≤ 'F' then some (c.toNat - 'A'.toNat + 10)
  else none

/-- The value of four hexadecimal digits. -/
def hexUnit? (a b c d : Symbol) : Option Nat := do
  let a ← a.bind hexValue?
  let b ← b.bind hexValue?
  let c ← c.bind hexValue?
  let d ← d.bind hexValue?
  return ((a * 16 + b) * 16 + c) * 16 + d

/-- The character of a one-letter escape. -/
def simpleEscape? (c : Char) : Option Char :=
  match c with
  | '"' => some '"'
  | '\\' => some '\\'
  | '/' => some '/'
  | 'b' => some (Char.ofNat 8)
  | 'f' => some (Char.ofNat 12)
  | 'n' => some '\n'
  | 'r' => some '\r'
  | 't' => some '\t'
  | _ => none

/-- The pieces of a string up to its closing quote, and what follows it. -/
def scanString : List Symbol → Option (List Piece × List Symbol)
  | [] => none
  | none :: rest => (scanString rest).map fun (ps, rest) => (.ill :: ps, rest)
  | some '"' :: rest => some ([], rest)
  | some '\\' :: some 'u' :: a :: b :: c :: d :: rest =>
    match hexUnit? a b c d with
    | some n => (scanString rest).map fun (ps, rest) => (.unit n :: ps, rest)
    | none => none
  | some '\\' :: some e :: rest =>
    match simpleEscape? e with
    | some c => (scanString rest).map fun (ps, rest) => (.char c :: ps, rest)
    | none => none
  | some '\\' :: _ => none
  | some c :: rest =>
    if c.toNat < 0x20 then none
    else (scanString rest).map fun (ps, rest) => (.char c :: ps, rest)

/-- Whether a code unit is the first of a surrogate pair. -/
def isHighSurrogate (n : Nat) : Bool :=
  0xD800 ≤ n && n ≤ 0xDBFF

/-- Whether a code unit is the second of a surrogate pair. -/
def isLowSurrogate (n : Nat) : Bool :=
  0xDC00 ≤ n && n ≤ 0xDFFF

/-- The characters of a string's pieces; surrogates must stand in pairs. -/
def joinPieces : List Piece → Option (List Char)
  | [] => some []
  | .char c :: rest => (joinPieces rest).map (c :: ·)
  | .ill :: _ => none
  | .unit n :: rest =>
    if isHighSurrogate n then
      match rest with
      | .unit m :: rest' =>
        if isLowSurrogate m then
          (joinPieces rest').map
            (Char.ofNat (0x10000 + (n - 0xD800) * 0x400 + (m - 0xDC00)) :: ·)
        else none
      | _ => none
    else if isLowSurrogate n then none
    else (joinPieces rest).map (Char.ofNat n :: ·)

/-- The string of its pieces, if it can be read. -/
def piecesText (ps : List Piece) : Option String :=
  (joinPieces ps).map String.ofList

/-! ## Values -/

/-- A tree and the text after it; nothing is left after a broken one. -/
abbrev Scan := Tree × Option (List Symbol)

/-- Nothing more can be read. -/
def stuck : Scan := (.broken, none)

/-- Drops the given characters from the front. -/
def expectChars : List Char → List Symbol → Option (List Symbol)
  | [], rest => some rest
  | c :: cs, some d :: rest => if c = d then expectChars cs rest else none
  | _ :: _, _ => none

/-- A value whose text is fixed. -/
def scanWord (word : List Char) (tree : Tree) (s : List Symbol) : Scan :=
  match expectChars word s with
  | some rest => (tree, some rest)
  | none => stuck

/-- A numeral. -/
def scanNumber (s : List Symbol) : Scan :=
  match scanNumeral s with
  | some (numeral, rest) => (.numeral numeral, some rest)
  | none => stuck

/-- A string after its opening quote. -/
def scanText (s : List Symbol) : Scan :=
  match scanString s with
  | some (ps, rest) => (.string (piecesText ps), some rest)
  | none => stuck

mutual

/-- The value at the front. -/
def scanValue : Nat → List Symbol → Scan
  | 0, _ => stuck
  | fuel + 1, s =>
    match skipSpace s with
    | some '"' :: rest => scanText rest
    | some '[' :: rest =>
      match skipSpace rest with
      | some ']' :: rest => (.array [] true, some rest)
      | rest =>
        let (items, closed, rest) := scanItems fuel rest
        (.array items closed, rest)
    | some '\x7b' :: rest =>
      match skipSpace rest with
      | some '\x7d' :: rest => (.object [] true, some rest)
      | rest =>
        let (members, closed, rest) := scanMembers fuel rest
        (.object members closed, rest)
    | some 'n' :: rest => scanWord "ull".toList .null rest
    | some 't' :: rest => scanWord "rue".toList (.bool true) rest
    | some 'f' :: rest => scanWord "alse".toList (.bool false) rest
    | rest => scanNumber rest

/-- The items of an array from its first one on, and whether the array is closed. -/
def scanItems : Nat → List Symbol → List Tree × Bool × Option (List Symbol)
  | 0, _ => ([], false, none)
  | fuel + 1, s =>
    match scanValue fuel s with
    | (item, none) => ([item], false, none)
    | (item, some rest) =>
      match skipSpace rest with
      | some ']' :: rest => ([item], true, some rest)
      | some ',' :: rest =>
        match skipSpace rest with
        | some ']' :: _ => ([item], false, none)
        | rest =>
          let (items, closed, rest) := scanItems fuel rest
          (item :: items, closed, rest)
      | _ => ([item], false, none)

/-- The members of an object from its first one on, and whether the object is closed. -/
def scanMembers : Nat → List Symbol → List (Option String × Tree) × Bool × Option (List Symbol)
  | 0, _ => ([], false, none)
  | fuel + 1, s =>
    match skipSpace s with
    | some '"' :: rest =>
      match scanString rest with
      | none => ([], false, none)
      | some (ps, rest) =>
        let key := piecesText ps
        match skipSpace rest with
        | some ':' :: rest =>
          match scanValue fuel rest with
          | (value, none) => ([(key, value)], false, none)
          | (value, some rest) =>
            match skipSpace rest with
            | some '\x7d' :: rest => ([(key, value)], true, some rest)
            | some ',' :: rest =>
              let (members, closed, rest) := scanMembers fuel rest
              ((key, value) :: members, closed, rest)
            | _ => ([(key, value)], false, none)
        | _ => ([(key, .broken)], false, none)
    | _ => ([], false, none)

end

/-- A whole text: its tree, and whether nothing but white space follows it. -/
structure Document where
  root : Tree
  ended : Bool
deriving Repr

/-- The document of a list of symbols. -/
def Document.parse (s : List Symbol) : Document :=
  match scanValue (2 * s.length + 2) s with
  | (root, none) => ⟨root, false⟩
  | (root, some rest) => ⟨root, (skipSpace rest).isEmpty⟩

namespace Tree

mutual

/-- Whether the text of a tree has no fault. -/
def intact : Tree → Bool
  | .array items closed => itemsIntact items && closed
  | .object members closed => membersIntact members && closed
  | .broken => false
  | _ => true

/-- Whether no item of an array has a fault. -/
def itemsIntact : List Tree → Bool
  | [] => true
  | t :: rest => t.intact && itemsIntact rest

/-- Whether no member of an object has a fault. -/
def membersIntact : List (Option String × Tree) → Bool
  | [] => true
  | (_, t) :: rest => t.intact && membersIntact rest

end

end Tree

end QueryDesk.Json
