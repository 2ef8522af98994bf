import QueryDesk.Json.Syntax

/-!
# The grammar of JSON

Which texts spell a syntax tree.  The definitions follow the tree and say nothing of how a text is
read; `Document.parse` is compared with them elsewhere.

The text between the quotes of a string is a list of pieces.  What these mean together, code units
in pairs above all, is what `piecesText` says.
-/

namespace QueryDesk.Json

/-! ## White space -/

/-- White space of any length. -/
def Layout (s : List Char) : Prop :=
  ∀ c ∈ s, c ∈ [' ', '\t', '\n', '\r']

/-- A text of a kind with white space around it. -/
def Padded (P : List Char → Prop) (s : List Char) : Prop :=
  ∃ before inner after, Layout before ∧ P inner ∧ Layout after ∧ s = before ++ (inner ++ after)

/-! ## Strings -/

/-- The letters of the short escapes, and what they stand for. -/
def shortEscapes : List (Char × Char) :=
  [('"', '"'), ('\\', '\\'), ('/', '/'), ('b', Char.ofNat 8), ('f', Char.ofNat 12), ('n', '\n'),
    ('r', '\r'), ('t', '\t')]

/-- The pieces that stand between the quotes of a string. -/
inductive SpellsPieces : List Piece → List Char → Prop where
  | nil : SpellsPieces [] []
  | plain {c : Char} {ps : List Piece} {s : List Char} (quote : c ≠ '"') (backslash : c ≠ '\\')
      (printed : 0x20 ≤ c.toNat) (rest : SpellsPieces ps s) : SpellsPieces (.char c :: ps) (c :: s)
  | short {e c : Char} {ps : List Piece} {s : List Char} (escape : (e, c) ∈ shortEscapes)
      (rest : SpellsPieces ps s) : SpellsPieces (.char c :: ps) ('\\' :: e :: s)
  | unit {a b c d : Char} {n : Nat} {ps : List Piece} {s : List Char}
      (digits : hexUnit? (some a) (some b) (some c) (some d) = some n)
      (rest : SpellsPieces ps s) :
      SpellsPieces (.unit n :: ps) ('\\' :: 'u' :: a :: b :: c :: d :: s)

/-- A string between quotes. -/
def SpellsString (value : Option String) (s : List Char) : Prop :=
  ∃ ps body, SpellsPieces ps body ∧ piecesText ps = value ∧ s = '"' :: (body ++ ['"'])

/-! ## Numerals -/

/-- One digit or more. -/
def Digits (s : List Char) : Prop :=
  s ≠ [] ∧ ∀ c ∈ s, isDigit c = true

/-- The digits before the point: zero, or digits that do not start with one. -/
def WholeDigits (s : List Char) : Prop :=
  Digits s ∧ (s.head? = some '0' → s = ['0'])

instance (s : List Char) : Decidable (Digits s) :=
  decidable_of_iff (s ≠ [] ∧ s.all isDigit = true) (and_congr_right fun _ => List.all_eq_true)

instance (s : List Char) : Decidable (WholeDigits s) :=
  inferInstanceAs (Decidable (Digits s ∧ (s.head? = some '0' → s = ['0'])))

/-- A fraction with its point. -/
def SpellsFraction : Option (List Char) → List Char → Prop
  | none, s => s = []
  | some ds, s => Digits ds ∧ s = '.' :: ds

/-- An exponent with its letter and its sign; a plus may be left out. -/
def SpellsExponent : Option (Bool × List Char) → List Char → Prop
  | none, s => s = []
  | some (negative, ds), s =>
    ∃ letter sign, letter ∈ ['e', 'E'] ∧ sign ∈ (if negative then [['-']] else [['+'], []]) ∧
      Digits ds ∧ s = letter :: (sign ++ ds)

/-- A numeral. -/
def Numeral.Spells (x : Numeral) (s : List Char) : Prop :=
  ∃ fraction exponent, WholeDigits x.whole ∧ SpellsFraction x.fraction fraction ∧
    SpellsExponent x.exponent exponent ∧
    s = (if x.negative then ['-'] else []) ++ (x.whole ++ (fraction ++ exponent))

/-! ## Values -/

namespace Tree

mutual

/-- A value.  What is broken has no text. -/
def Spells : Tree → List Char → Prop
  | .null, s => s = ['n', 'u', 'l', 'l']
  | .bool true, s => s = ['t', 'r', 'u', 'e']
  | .bool false, s => s = ['f', 'a', 'l', 's', 'e']
  | .numeral x, s => x.Spells s
  | .string value, s => SpellsString value s
  | .array items closed, s =>
    closed = true ∧ ∃ body, SpellsItems items body ∧ s = '[' :: (body ++ [']'])
  | .object members closed, s =>
    closed = true ∧ ∃ body, SpellsMembers members body ∧ s = '\x7b' :: (body ++ ['\x7d'])
  | .broken, _ => False

/-- The items of an array, with commas between them. -/
def SpellsItems : List Tree → List Char → Prop
  | [], s => Layout s
  | [t], s => Padded t.Spells s
  | t :: rest, s =>
    ∃ first others, Padded t.Spells first ∧ SpellsItems rest others ∧ s = first ++ ',' :: others

/-- The members of an object, with commas between them. -/
def SpellsMembers : List (Option String × Tree) → List Char → Prop
  | [], s => Layout s
  | [(key, t)], s =>
    ∃ name value, Padded (SpellsString key) name ∧ Padded t.Spells value ∧ s = name ++ ':' :: value
  | (key, t) :: rest, s =>
    ∃ name value others, Padded (SpellsString key) name ∧ Padded t.Spells value ∧
      SpellsMembers rest others ∧ s = name ++ ':' :: (value ++ ',' :: others)

end

end Tree

/-- A whole text: one value with white space around it. -/
def IsText (s : String) (t : Tree) : Prop :=
  Padded t.Spells s.toList

end QueryDesk.Json
