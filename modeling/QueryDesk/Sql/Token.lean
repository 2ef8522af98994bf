import QueryDesk.Query.Spec

/-!
# SQL tokens

SQL text is produced as a list of tokens and written at the end.  Identifiers are written as they
are; a label is quoted unless it is a plain identifier, with quotes inside it doubled; a string
literal is always quoted, with its quotes doubled.
-/

namespace QueryDesk.Sql

open QueryDesk.Query QueryDesk.Json

/-- An element of SQL text. -/
inductive Token where
  | select
  | «from»
  | «where»
  | and
  | as
  | on
  | join (kind : JoinKind)
  | orderBy
  | asc
  | desc
  | comma
  | dot
  | lparen
  | rparen
  | operator (comparison : Comparison)
  | space
  | newline
  | indent (levels : Nat)
  | ident (name : String)
  | qualified (database : Option String) (name : String)
  | label (text : String)
  | function (aggregate : Aggregate)
  | string (text : String)
  | number (value : Number)
  | bool (value : Bool)
deriving DecidableEq, Repr

/-! ## Labels -/

/-- A character that may start a plain identifier. -/
def isIdentStart (c : Char) : Bool :=
  c.isAlpha || c == '_'

/-- A character that may stand inside a plain identifier. -/
def isIdentPart (c : Char) : Bool :=
  c.isAlphanum || c == '_'

/-- A plain identifier: an ASCII letter or underscore, then letters, digits and underscores. -/
def isPlainIdent : List Char → Bool
  | [] => false
  | c :: rest => isIdentStart c && rest.all isIdentPart

/-- A text with every occurrence of a quote doubled. -/
def doubled (quote : Char) (s : List Char) : List Char :=
  s.flatMap fun c => if c = quote then [quote, quote] else [c]

/-- A text between quotes. -/
def quote (q : Char) (s : List Char) : List Char :=
  q :: (doubled q s ++ [q])

/-- The text of a label. -/
def labelChars (s : List Char) : List Char :=
  if isPlainIdent s then s else quote '"' s

/-- The text of a label, as a string. -/
def quoteLabel (s : String) : String :=
  String.ofList (labelChars s.toList)

/-! ## Text -/

/-- A table name behind its database; an empty database is none. -/
def qualifiedChars (database : Option String) (name : String) : List Char :=
  match database with
  | some db => if db.isEmpty then name.toList else db.toList ++ '.' :: name.toList
  | none => name.toList

namespace Token

/-- The text of a token. -/
def chars : Token → List Char
  | select => "SELECT".toList
  | «from» => "FROM".toList
  | «where» => "WHERE".toList
  | and => "AND".toList
  | as => "AS".toList
  | on => "ON".toList
  | join kind => kind.sql.toList ++ " JOIN".toList
  | orderBy => "ORDER BY".toList
  | asc => "ASC".toList
  | desc => "DESC".toList
  | comma => [',']
  | dot => ['.']
  | lparen => ['(']
  | rparen => [')']
  | operator c => c.sql.toList
  | space => [' ']
  | newline => ['\n']
  | indent n => List.replicate (2 * n) ' '
  | ident name => name.toList
  | qualified db name => qualifiedChars db name
  | label s => labelChars s.toList
  | function a => a.sql.toList
  | string s => quote '\'' s.toList
  | number n => n.chars
  | bool true => "true".toList
  | bool false => "false".toList

end Token

/-- The text of a list of tokens. -/
def tokensChars (ts : List Token) : List Char :=
  ts.flatMap Token.chars

/-- The text of a list of tokens, as a string. -/
def tokensText (ts : List Token) : String :=
  String.ofList (tokensChars ts)

/-! ## Groups of tokens -/

/-- The indentation of a line; at level zero there is none. -/
def indentation (levels : Nat) : List Token :=
  if levels = 0 then [] else [.indent levels]

/-- The start of a new line. -/
def line (levels : Nat) : List Token :=
  .newline :: indentation levels

/-- A column behind its alias. -/
def columnRef (source column : String) : List Token :=
  [.ident source, .dot, .ident column]

end QueryDesk.Sql
