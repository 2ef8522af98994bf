import QueryDesk.Sql.Compiler
import QueryDesk.Proofs.Outcome
import QueryDesk.Proofs.Sql.Node

/-!
# SELECT blocks

The compiler looks references up and writes tokens in one pass.  Here the two are apart: `blockOf`
turns a spec into a `Block`, the syntax tree of its SELECT statement, in which every reference has
become an alias; `Block.tokens` writes a block and cannot fail.  `specTokens_eq` says that the
compiler does the one after the other, so that success and failure can be studied on blocks without
tokens, and the text without failures.
-/

namespace QueryDesk.Sql

open QueryDesk.Query QueryDesk.Outcome

/-! ## Syntax trees -/

/-- A column behind an alias. -/
structure ColumnName where
  source : String
  column : String

/-- A selected column, with the label that is shown. -/
structure Selected where
  aggregate : Option Aggregate
  name : ColumnName
  label : Option String

/-- What a join clause joins with. -/
inductive Relation (β : Type) where
  | table (database : Option String) (name : String)
  | derived (block : β)

/-- A join clause; the handle is the alias of its relation. -/
structure JoinClause (β : Type) where
  kind : JoinKind
  relation : Relation β
  handle : String
  left : ColumnName
  right : ColumnName

/-- A condition of a WHERE clause. -/
structure Condition where
  name : ColumnName
  comparison : Comparison
  value : Literal

/-- An entry of an ORDER BY clause. -/
structure SortKey where
  name : ColumnName
  descending : Bool

/-- A SELECT block.  Its FROM clause has a table with the first alias. -/
structure Block where
  columns : List Selected
  database : Option String
  table : String
  joins : List (JoinClause Block)
  conditions : List Condition
  sortKeys : List SortKey

/-- The block of the derived table of the `i`-th join clause. -/
def Block.derived? (b : Block) (i : Nat) : Option Block :=
  b.joins[i]?.bind fun clause =>
    match clause.relation with
    | .table _ _ => none
    | .derived nested => some nested

/-! ## Writing blocks -/

/-- A column behind its alias. -/
def ColumnName.tokens (name : ColumnName) : List Token :=
  columnRef name.source name.column

/-- The label of a selected column. -/
def shownLabelTokens : Option String → List Token
  | none => []
  | some label => [.space, .as, .space, .label label]

/-- The selected columns, each on a line. -/
def selectedTokens (level : Nat) : Bool → List Selected → List Token
  | _, [] => []
  | first, c :: rest =>
    (if first then [] else [.comma]) ++ line (level + 1) ++
      selection c.aggregate c.name.source c.name.column ++ shownLabelTokens c.label ++
      selectedTokens level false rest

/-- The conditions, each on a line. -/
def conditionTokens (level : Nat) : Bool → List Condition → List Token
  | _, [] => []
  | first, c :: rest =>
    (if first then line level ++ [.where] else []) ++ line (level + 1) ++
      (if first then [] else [.and, .space]) ++ c.name.tokens ++
      [.space, .operator c.comparison, .space, literalToken c.value] ++
      conditionTokens level false rest

/-- The sort order, on one line. -/
def sortTokens (level : Nat) : Bool → List SortKey → List Token
  | _, [] => []
  | first, k :: rest =>
    (if first then line level ++ [.orderBy, .space] else [.comma, .space]) ++ k.name.tokens ++
      [.space, if k.descending then .desc else .asc] ++ sortTokens level false rest

mutual

/-- The tokens of a block at a level of nesting. -/
def Block.tokens (level : Nat) : Block → List Token
  | ⟨columns, database, table, joins, conditions, sortKeys⟩ =>
    [.select] ++ selectedTokens level true columns ++ fromTokens level database table ++
      clauseTokens level joins ++ conditionTokens level true conditions ++
      sortTokens level true sortKeys

/-- The tokens of join clauses. -/
def clauseTokens (level : Nat) : List (JoinClause Block) → List Token
  | [] => []
  | ⟨kind, relation, handle, left, right⟩ :: rest =>
    line level ++ [.join kind, .space] ++ relationTokens level relation ++
      onTokens left.source left.column handle right.column ++ clauseTokens level rest

/-- The tokens of what a clause joins with. -/
def relationTokens (level : Nat) : Relation Block → List Token
  | .table database name => [.qualified database name]
  | .derived block =>
    [.lparen] ++ line (level + 1) ++ block.tokens (level + 1) ++ line level ++ [.rparen]

end

theorem Block.tokens_eq (level : Nat) (b : Block) :
    b.tokens level =
      [.select] ++ selectedTokens level true b.columns ++ fromTokens level b.database b.table ++
        clauseTokens level b.joins ++ conditionTokens level true b.conditions ++
        sortTokens level true b.sortKeys := by
  cases b with
  | mk columns database table joins conditions sortKeys => rw [Block.tokens]

/-! ## Resolving references -/

theorem resolveAlias_eq_ok {scopes : List Scope} {ref : TableRef} {source : String} :
    resolveAlias scopes ref = .ok source ↔
      ∃ l k, locate scopes ref = some (l, k) ∧ source = aliasName k := by
  unfold resolveAlias
  rcases locate scopes ref with _ | ⟨l, k⟩
  · simp
  · simp [eq_comm]

/-- A selected column with its reference resolved. -/
def selectedOf (scopes : List Scope) (labelled : Bool) (c : Column) :
    Except CompileError Selected := do
  let source ← resolveAlias scopes c.table
  return ⟨c.aggregate, ⟨source, c.column⟩,
    if labelled && !c.label.isEmpty then some c.label else none⟩

/-- A filter with its reference resolved. -/
def conditionOf (scopes : List Scope) (f : Filter) : Except CompileError Condition := do
  let source ← resolveAlias scopes f.table
  return ⟨⟨source, f.column⟩, f.comparison, f.value⟩

/-- An entry of the sort order with its reference resolved. -/
def sortKeyOf (scopes : List Scope) (o : Order) : Except CompileError SortKey := do
  let source ← resolveAlias scopes o.table
  return ⟨⟨source, o.column⟩, o.descending⟩

mutual

/-- The block of a spec at a level of nesting, inside the given scopes. -/
def blockOf (options : Options) (outer : List Scope) (level : Nat) :
    Spec → Except CompileError Block
  | ⟨database, isSubquery, table, columns, joins, filters, orders⟩ =>
    if options.maxDepth < level then .error (.tooDeep options.maxDepth)
    else if !table.isPrimary then .error (.unflaggedPrimary table.table)
    else do
      let scopes := Scope.of table joins :: outer
      let selected ← columns.mapM (selectedOf scopes (!isSubquery && level == 0))
      let clauses ← clausesOf options database scopes level 2 joins
      let conditions ← filters.mapM (conditionOf scopes)
      let sortKeys ← orders.mapM (sortKeyOf scopes)
      return ⟨selected, database, table.table, clauses, conditions, sortKeys⟩

/-- The clauses of joins, of which the first one has the given alias number. -/
def clausesOf (options : Options) (database : Option String) (scopes : List Scope)
    (level : Nat) (number : Nat) : List (Join Spec) → Except CompileError (List (JoinClause Block))
  | [] => .ok []
  | ⟨kind, localTable, localColumn, target, referenceColumn⟩ :: rest => do
    let left ← localAlias options scopes localTable
    let relation ← relationOf options database scopes level target
    let others ← clausesOf options database scopes level (number + 1) rest
    return ⟨kind, relation, aliasName number, ⟨left, localColumn⟩,
      ⟨aliasName number, referenceColumn⟩⟩ :: others

/-- What a join's target becomes. -/
def relationOf (options : Options) (database : Option String) (scopes : List Scope)
    (level : Nat) : Target Spec → Except CompileError (Relation Block)
  | .table t =>
    if t.isPrimary then .error (.flaggedTarget t.table) else .ok (.table database t.table)
  | .derived s => do
    let block ← blockOf options scopes (level + 1) s
    return .derived block

end

/-- The clause of a join whose target has the given alias number. -/
def clauseOf (options : Options) (database : Option String) (scopes : List Scope) (level : Nat)
    (join : Join Spec) (number : Nat) : Except CompileError (JoinClause Block) := do
  let left ← localAlias options scopes join.localTable
  let relation ← relationOf options database scopes level join.target
  return ⟨join.kind, relation, aliasName number, ⟨left, join.localColumn⟩,
    ⟨aliasName number, join.referenceColumn⟩⟩

theorem clausesOf_eq (options : Options) (database : Option String) (scopes : List Scope)
    (level number : Nat) (joins : List (Join Spec)) :
    clausesOf options database scopes level number joins =
      (joins.zipIdx number).mapM fun numbered =>
        clauseOf options database scopes level numbered.1 numbered.2 := by
  induction joins generalizing number with
  | nil => rw [clausesOf]; rfl
  | cons join rest ih =>
    rw [clausesOf, ih, List.zipIdx_cons, List.mapM_cons]
    dsimp only [clauseOf]
    cases localAlias options scopes join.localTable with
    | error e => rfl
    | ok left =>
      cases relationOf options database scopes level join.target with
      | error e => rfl
      | ok relation => rfl

/-- How a spec resolves: the checks of the spec itself, then its clauses in turn. -/
theorem blockOf_eq (options : Options) (outer : List Scope) (level : Nat) (s : Spec) :
    blockOf options outer level s =
      if options.maxDepth < level then .error (.tooDeep options.maxDepth)
      else if !s.table.isPrimary then .error (.unflaggedPrimary s.table.table)
      else do
        let selected ← s.columns.mapM
          (selectedOf (scopeOf s :: outer) (!s.isSubquery && level == 0))
        let clauses ← (s.joins.zipIdx 2).mapM fun numbered =>
          clauseOf options s.database (scopeOf s :: outer) level numbered.1 numbered.2
        let conditions ← s.filters.mapM (conditionOf (scopeOf s :: outer))
        let sortKeys ← s.orders.mapM (sortKeyOf (scopeOf s :: outer))
        return ⟨selected, s.database, s.table.table, clauses, conditions, sortKeys⟩ := by
  cases s with
  | mk database isSubquery table columns joins filters orders =>
    rw [blockOf, ← clausesOf_eq]
    rfl

/-- A block that is what a spec at a level of nesting resolves to, inside the given scopes. -/
structure Resolves (options : Options) (outer : List Scope) (level : Nat) (s : Spec)
    (b : Block) : Prop where
  shallow : level ≤ options.maxDepth
  flagged : s.table.isPrimary = true
  columns : List.Forall₂ (fun c selected =>
    selectedOf (scopeOf s :: outer) (!s.isSubquery && level == 0) c = .ok selected)
    s.columns b.columns
  joins : List.Forall₂ (fun numbered clause =>
    clauseOf options s.database (scopeOf s :: outer) level numbered.1 numbered.2 = .ok clause)
    (s.joins.zipIdx 2) b.joins
  conditions : List.Forall₂ (fun f condition =>
    conditionOf (scopeOf s :: outer) f = .ok condition) s.filters b.conditions
  sortKeys : List.Forall₂ (fun o key =>
    sortKeyOf (scopeOf s :: outer) o = .ok key) s.orders b.sortKeys
  database : b.database = s.database
  table : b.table = s.table.table

theorem blockOf_eq_ok {options : Options} {outer : List Scope} {level : Nat} {s : Spec}
    {b : Block} :
    blockOf options outer level s = .ok b ↔ Resolves options outer level s b := by
  rw [blockOf_eq]
  constructor
  · intro h
    split at h
    · cases h
    split at h
    · cases h
    rename_i shallow flagged
    obtain ⟨selected, columns, h⟩ := bind_eq_ok.1 h
    obtain ⟨clauses, joins, h⟩ := bind_eq_ok.1 h
    obtain ⟨conditions, filters, h⟩ := bind_eq_ok.1 h
    obtain ⟨sortKeys, orders, h⟩ := bind_eq_ok.1 h
    cases h
    exact ⟨by omega, by simpa using flagged, mapM_eq_ok.1 columns, mapM_eq_ok.1 joins,
      mapM_eq_ok.1 filters, mapM_eq_ok.1 orders, rfl, rfl⟩
  · intro h
    cases b with
    | mk selected database table clauses conditions sortKeys =>
      obtain ⟨shallow, flagged, columns, joins, filters, orders, rfl, rfl⟩ := h
      rw [if_neg (by omega), flagged]
      exact bind_eq_ok.2 ⟨selected, mapM_eq_ok.2 columns,
        bind_eq_ok.2 ⟨clauses, mapM_eq_ok.2 joins,
          bind_eq_ok.2 ⟨conditions, mapM_eq_ok.2 filters,
            bind_eq_ok.2 ⟨sortKeys, mapM_eq_ok.2 orders, rfl⟩⟩⟩⟩

/-- A column name that stands for a column of the table that a reference means. -/
def Stands (scopes : List Scope) (ref : TableRef) (column : String) (name : ColumnName) : Prop :=
  ∃ source, resolveAlias scopes ref = .ok source ∧ name = ⟨source, column⟩

theorem selectedOf_stands {scopes : List Scope} {labelled : Bool} {c : Column}
    {selected : Selected} (h : selectedOf scopes labelled c = .ok selected) :
    Stands scopes c.table c.column selected.name := by
  obtain ⟨source, found, h⟩ := bind_eq_ok.1 h
  cases h
  exact ⟨source, found, rfl⟩

theorem conditionOf_stands {scopes : List Scope} {f : Filter} {condition : Condition}
    (h : conditionOf scopes f = .ok condition) :
    Stands scopes f.table f.column condition.name := by
  obtain ⟨source, found, h⟩ := bind_eq_ok.1 h
  cases h
  exact ⟨source, found, rfl⟩

theorem sortKeyOf_stands {scopes : List Scope} {o : Order} {key : SortKey}
    (h : sortKeyOf scopes o = .ok key) : Stands scopes o.table o.column key.name := by
  obtain ⟨source, found, h⟩ := bind_eq_ok.1 h
  cases h
  exact ⟨source, found, rfl⟩

/-- The block of a node at a level of nesting. -/
def Node.block (options : Options) (level : Nat) (n : Node) : Except CompileError Block :=
  blockOf options (n.outer.map scopeOf) level n.spec

/-! ## The compiler resolves, then writes -/

theorem columnTokens_eq (scopes : List Scope) (labelled : Bool) (level : Nat) (first : Bool)
    (columns : List Column) :
    columnTokens scopes labelled level first columns =
      (columns.mapM (selectedOf scopes labelled)).map (selectedTokens level first) := by
  induction columns generalizing first with
  | nil => rfl
  | cons c rest ih =>
    rw [columnTokens, List.mapM_cons, ih, selectedOf]
    cases resolveAlias scopes c.table with
    | error e => rfl
    | ok source =>
      cases rest.mapM (selectedOf scopes labelled) with
      | error e => rfl
      | ok others =>
        have label : labelTokens labelled c.label =
            shownLabelTokens (if labelled && !c.label.isEmpty then some c.label else none) := by
          unfold labelTokens
          split <;> rfl
        simp only [label]
        rfl

theorem filterTokens_eq (scopes : List Scope) (level : Nat) (first : Bool)
    (filters : List Filter) :
    filterTokens scopes level first filters =
      (filters.mapM (conditionOf scopes)).map (conditionTokens level first) := by
  induction filters generalizing first with
  | nil => rfl
  | cons f rest ih =>
    rw [filterTokens, List.mapM_cons, ih, conditionOf]
    cases resolveAlias scopes f.table with
    | error e => rfl
    | ok source =>
      cases rest.mapM (conditionOf scopes) with
      | error e => rfl
      | ok others => rfl

theorem orderTokens_eq (scopes : List Scope) (level : Nat) (first : Bool)
    (orders : List Order) :
    orderTokens scopes level first orders =
      (orders.mapM (sortKeyOf scopes)).map (sortTokens level first) := by
  induction orders generalizing first with
  | nil => rfl
  | cons o rest ih =>
    rw [orderTokens, List.mapM_cons, ih, sortKeyOf]
    cases resolveAlias scopes o.table with
    | error e => rfl
    | ok source =>
      cases rest.mapM (sortKeyOf scopes) with
      | error e => rfl
      | ok others => rfl

mutual

/-- The tokens of a spec are those of its block. -/
theorem specTokens_eq (options : Options) (outer : List Scope) (level : Nat) (s : Spec) :
    specTokens options outer level s = (blockOf options outer level s).map (Block.tokens level) :=
  match s with
  | ⟨database, isSubquery, table, columns, joins, filters, orders⟩ => by
    rw [specTokens, blockOf]
    split
    · rfl
    split
    · rfl
    dsimp only
    rw [columnTokens_eq, joinTokens_eq _ _ _ _ _ joins, filterTokens_eq, orderTokens_eq]
    generalize Scope.of table joins :: outer = scopes
    cases columns.mapM (selectedOf scopes (!isSubquery && level == 0)) with
    | error e => rfl
    | ok selected =>
      cases clausesOf options database scopes level 2 joins with
      | error e => rfl
      | ok clauses =>
        cases filters.mapM (conditionOf scopes) with
        | error e => rfl
        | ok conditions =>
          cases orders.mapM (sortKeyOf scopes) with
          | error e => rfl
          | ok sortKeys => rfl

theorem joinTokens_eq (options : Options) (database : Option String) (scopes : List Scope)
    (level number : Nat) (joins : List (Join Spec)) :
    joinTokens options database scopes level number joins =
      (clausesOf options database scopes level number joins).map (clauseTokens level) :=
  match joins with
  | [] => by
    rw [joinTokens, clausesOf]
    rfl
  | ⟨kind, localTable, localColumn, target, referenceColumn⟩ :: rest => by
    rw [joinTokens, clausesOf, targetTokens_eq _ _ _ _ target, joinTokens_eq _ _ _ _ _ rest]
    cases localAlias options scopes localTable with
    | error e => rfl
    | ok left =>
      cases relationOf options database scopes level target with
      | error e => rfl
      | ok relation =>
        cases clausesOf options database scopes level (number + 1) rest with
        | error e => rfl
        | ok others => rfl

theorem targetTokens_eq (options : Options) (database : Option String) (scopes : List Scope)
    (level : Nat) (target : Target Spec) :
    targetTokens options database scopes level target =
      (relationOf options database scopes level target).map (relationTokens level) :=
  match target with
  | .table t => by
    rw [targetTokens, relationOf]
    split <;> rfl
  | .derived s => by
    rw [targetTokens, relationOf, specTokens_eq options scopes (level + 1) s]
    cases blockOf options scopes (level + 1) s with
    | error e => rfl
    | ok block => rfl

end

/-- The SQL of a spec is the text of the root's block. -/
theorem compile_eq (options : Options) (s : Spec) :
    compile options s =
      ((Node.root s).block options 0).map fun b => tokensText (b.tokens 0) := by
  have root : (Node.root s).block options 0 = blockOf options [] 0 s := rfl
  rw [compile, compileTokens, specTokens_eq, root]
  cases blockOf options [] 0 s with
  | error e => rfl
  | ok b => rfl

theorem compile_eq_ok {options : Options} {s : Spec} {sql : String} :
    compile options s = .ok sql ↔
      ∃ b, (Node.root s).block options 0 = .ok b ∧ sql = tokensText (b.tokens 0) := by
  rw [compile_eq]
  cases (Node.root s).block options 0 with
  | error e => simp [Except.map]
  | ok b => simp [Except.map, eq_comm]

end QueryDesk.Sql
