import QueryDesk.Text.Alphanumeric

/-!
# Templates

A template refers to environment variables: by `$name`, where the name goes as far as alphanumeric
characters and underscores do, or by a name between `$` and braces, where an unclosed one ends with
the template.  Any other dollar sign stands for itself.  A template is read once from left to right
into pieces; values are put in as they are.
-/

namespace QueryDesk.Settings

open QueryDesk.Text

/-- The environment: variables with their values, and the home folder of the account, which counts
    when no variable names one. -/
structure Environment where
  values : List (String × String)
  accountHome : Option String
deriving DecidableEq, Repr

/-- The value of a variable.  A name that is empty or holds an equals sign or NUL has none. -/
def Environment.get? (env : Environment) (name : String) : Option String :=
  if name.isEmpty || name.toList.any (fun c => c == '=' || c.toNat == 0) then none
  else env.values.lookup name

/-- A character of a template, or a reference to a variable. -/
inductive Piece where
  | char (c : Char)
  | reference (name : String)
deriving DecidableEq, Repr

/-- Where the reading of a template stands: in plain text, after a dollar sign, or in a name,
    whose characters are kept in reverse order. -/
inductive Mode where
  | plain
  | dollar
  | braced (name : List Char)
  | bare (name : List Char)
deriving DecidableEq, Repr

/-- A character of a name without braces. -/
def isNameChar (c : Char) : Bool :=
  isAlphanumeric c || c == '_'

/-- A reference to a variable whose name is in reverse order. -/
def Piece.named (name : List Char) : Piece :=
  .reference (String.ofList name.reverse)

/-- Reads a character outside names. -/
def readPlain (c : Char) : List Piece × Mode :=
  if c = '$' then ([], .dollar) else ([.char c], .plain)

/-- Reads a character: the pieces that it completes, and where the reading stands then. -/
def readChar : Mode → Char → List Piece × Mode
  | .plain, c => readPlain c
  | .dollar, c =>
    if c = '\x7b' then ([], .braced [])
    else if isNameChar c then ([], .bare [c])
    else
      let (pieces, mode) := readPlain c
      (.char '$' :: pieces, mode)
  | .braced name, c =>
    if c = '\x7d' then ([.named name], .plain) else ([], .braced (c :: name))
  | .bare name, c =>
    if isNameChar c then ([], .bare (c :: name))
    else
      let (pieces, mode) := readPlain c
      (.named name :: pieces, mode)

/-- The piece that the end of a template completes. -/
def lastPieces : Mode → List Piece
  | .plain => []
  | .dollar => [.char '$']
  | .braced name => [.named name]
  | .bare name => [.named name]

/-- The pieces of a template. -/
def pieces : Mode → List Char → List Piece
  | mode, [] => lastPieces mode
  | mode, c :: rest =>
    let (done, mode) := readChar mode c
    done ++ pieces mode rest

/-- Puts the values of variables in; the first one that is not set is the failure. -/
def fill (env : Environment) : List Piece → Except String (List Char)
  | [] => .ok []
  | .char c :: rest => (fill env rest).map (c :: ·)
  | .reference name :: rest =>
    match env.get? name with
    | none => .error name
    | some value => (fill env rest).map (value.toList ++ ·)

/-- Expands the variables of a template, or names the first one that is not set. -/
def expand (env : Environment) (template : String) : Except String String :=
  (fill env (pieces .plain template.toList)).map String.ofList

end QueryDesk.Settings
