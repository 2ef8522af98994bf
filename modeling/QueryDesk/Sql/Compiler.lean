import QueryDesk.Sql.Token
import QueryDesk.Sql.Scope

/-!
# Compiling specs to SQL

A spec is written clause by clause, a derived table between parentheses and indented by one level.
The left side of a join's `ON` clause is a column of `t1`; with `resolveLocals` it is a column of
the join's own local table.  Labels are written for the outermost spec only, and not if that is
flagged as a subquery.

Failures arise in the order in which the text is written: nesting, the flag of the primary table,
columns, joins (the local table before the target), filters, orders.
-/

namespace QueryDesk.Sql

open QueryDesk.Query

/-- Why a spec has no SQL. -/
inductive CompileError where
  | unresolved (table : String)
  | unflaggedPrimary (table : String)
  | flaggedTarget (table : String)
  | tooDeep (max : Nat)
deriving DecidableEq, Repr

/-- The wording of a compile error. -/
def CompileError.message : CompileError → String
  | .unresolved table =>
    s!"table '{table}' is not the primary table or a join target of this query or any " ++
      "enclosing query"
  | .unflaggedPrimary table =>
    s!"primary table mismatch: table '{table}' is used as the primary table but not flagged " ++
      "primary"
  | .flaggedTarget table =>
    s!"primary table mismatch: join target '{table}' is flagged as primary"
  | .tooDeep max => s!"derived tables nested deeper than {max} levels"

/-- How specs are compiled: how deep derived tables may nest, and whether a join's left side is
    its local table. -/
structure Options where
  maxDepth : Nat
  resolveLocals : Bool
deriving DecidableEq, Repr

/-- Sixteen levels, and joins that hang off the primary table. -/
def Options.default : Options := ⟨16, false⟩

/-- The alias that a reference means. -/
def resolveAlias (scopes : List Scope) (ref : TableRef) : Except CompileError String :=
  match locate scopes ref with
  | some (_, n) => .ok (aliasName n)
  | none => .error (.unresolved ref.table)

/-! ## Clauses -/

/-- A selected column, without its label. -/
def selection (aggregate : Option Aggregate) (source column : String) : List Token :=
  match aggregate with
  | some a => .function a :: .lparen :: (columnRef source column ++ [.rparen])
  | none => columnRef source column

/-- The label of a column, if it is shown. -/
def labelTokens (labelled : Bool) (label : String) : List Token :=
  if labelled && !label.isEmpty then [.space, .as, .space, .label label] else []

/-- The selected columns, each on a line; `first` tells the one without a comma before it. -/
def columnTokens (scopes : List Scope) (labelled : Bool) (level : Nat) :
    Bool → List Column → Except CompileError (List Token)
  | _, [] => .ok []
  | first, c :: rest => do
    let source ← resolveAlias scopes c.table
    let others ← columnTokens scopes labelled level false rest
    return (if first then [] else [.comma]) ++ line (level + 1) ++
      selection c.aggregate source c.column ++ labelTokens labelled c.label ++ others

/-- The primary table. -/
def fromTokens (level : Nat) (database : Option String) (table : String) : List Token :=
  line level ++
    [.from, .space, .qualified database table, .space, .as, .space, .ident (aliasName 1)]

/-- What follows the target of a join. -/
def onTokens (localAlias localColumn targetAlias referenceColumn : String) : List Token :=
  [.space, .as, .space, .ident targetAlias, .space, .on, .space] ++
    columnRef localAlias localColumn ++ [.space, .operator .eq, .space] ++
    columnRef targetAlias referenceColumn

/-- The token of a literal. -/
def literalToken : Literal → Token
  | .string s => .string s
  | .date s => .string s
  | .number n => .number n
  | .boolean b => .bool b

/-- The filters, each on a line; the first one has `WHERE` on the line before it. -/
def filterTokens (scopes : List Scope) (level : Nat) :
    Bool → List Filter → Except CompileError (List Token)
  | _, [] => .ok []
  | first, f :: rest => do
    let source ← resolveAlias scopes f.table
    let others ← filterTokens scopes level false rest
    return (if first then line level ++ [.where] else []) ++ line (level + 1) ++
      (if first then [] else [.and, .space]) ++ columnRef source f.column ++
      [.space, .operator f.comparison, .space, literalToken f.value] ++ others

/-- The sort order, on one line. -/
def orderTokens (scopes : List Scope) (level : Nat) :
    Bool → List Order → Except CompileError (List Token)
  | _, [] => .ok []
  | first, o :: rest => do
    let source ← resolveAlias scopes o.table
    let others ← orderTokens scopes level false rest
    return (if first then line level ++ [.orderBy, .space] else [.comma, .space]) ++
      columnRef source o.column ++ [.space, if o.descending then .desc else .asc] ++ others

/-- The alias on the left side of a join's `ON` clause. -/
def localAlias (options : Options) (scopes : List Scope) (ref : TableRef) :
    Except CompileError String :=
  if options.resolveLocals then resolveAlias scopes ref else .ok (aliasName 1)

/-! ## Specs -/

mutual

/-- The tokens of a spec at a level of nesting, inside the given scopes. -/
def specTokens (options : Options) (outer : List Scope) (level : Nat) :
    Spec → Except CompileError (List Token)
  | ⟨database, isSubquery, table, columns, joins, filters, orders⟩ =>
    if options.maxDepth < level then .error (.tooDeep options.maxDepth)
    else if !table.isPrimary then .error (.unflaggedPrimary table.table)
    else do
      let scopes := Scope.of table joins :: outer
      let selected ← columnTokens scopes (!isSubquery && level == 0) level true columns
      let joined ← joinTokens options database scopes level 2 joins
      let filtered ← filterTokens scopes level true filters
      let ordered ← orderTokens scopes level true orders
      return [.select] ++ selected ++ fromTokens level database table.table ++ joined ++
        filtered ++ ordered

/-- The tokens of joins, of which the first one's target has the given alias number. -/
def joinTokens (options : Options) (database : Option String) (scopes : List Scope)
    (level : Nat) (number : Nat) : List (Join Spec) → Except CompileError (List Token)
  | [] => .ok []
  | ⟨kind, localTable, localColumn, target, referenceColumn⟩ :: rest => do
    let left ← localAlias options scopes localTable
    let middle ← targetTokens options database scopes level target
    let others ← joinTokens options database scopes level (number + 1) rest
    return line level ++ [.join kind, .space] ++ middle ++
      onTokens left localColumn (aliasName number) referenceColumn ++ others

/-- The tokens of a join's target. -/
def targetTokens (options : Options) (database : Option String) (scopes : List Scope)
    (level : Nat) : Target Spec → Except CompileError (List Token)
  | .table t =>
    if t.isPrimary then .error (.flaggedTarget t.table)
    else .ok [.qualified database t.table]
  | .derived s => do
    let nested ← specTokens options scopes (level + 1) s
    return [.lparen] ++ line (level + 1) ++ nested ++ line level ++ [.rparen]

end

/-- The tokens of a spec. -/
def compileTokens (options : Options) (spec : Spec) : Except CompileError (List Token) :=
  specTokens options [] 0 spec

/-- The SQL text of a spec. -/
def compile (options : Options) (spec : Spec) : Except CompileError String :=
  (compileTokens options spec).map tokensText

end QueryDesk.Sql
