import QueryDesk.Proofs.Sql.Quoting
import QueryDesk.Proofs.Sql.Resolved
import QueryDesk.Proofs.Sql.Verdict

/-!
# Blocks in other surroundings

A spec that compiles on its own has the same block inside of another one: what it refers to is found
in its own scopes, which come first (`block_enclosed`).  A block without labels is written alike at
every level of nesting, but for two more spaces in front of each line (`deeper_block`), unless a
name or a text breaks a line itself.
-/

namespace QueryDesk.Sql

open QueryDesk.Query QueryDesk.Json QueryDesk.Outcome

/-! ## Enclosing specs -/

theorem locate_append {scopes : List Scope} (extra : List Scope) {ref : TableRef} {p : Nat × Nat}
    (found : locate scopes ref = some p) : locate (scopes ++ extra) ref = some p := by
  induction scopes generalizing p with
  | nil => cases found
  | cons scope outer ih =>
    rw [List.cons_append, locate]
    rw [locate] at found
    cases here : scope.resolve ref with
    | some k =>
      rw [here] at found
      exact found
    | none =>
      rw [here] at found
      obtain ⟨q, further, rfl⟩ := Option.map_eq_some_iff.1 found
      dsimp only
      rw [ih further]
      rfl

theorem resolveAlias_append {scopes : List Scope} (extra : List Scope) {ref : TableRef}
    {source : String} (found : resolveAlias scopes ref = .ok source) :
    resolveAlias (scopes ++ extra) ref = .ok source := by
  obtain ⟨l, k, located, rfl⟩ := resolveAlias_eq_ok.1 found
  exact resolveAlias_eq_ok.2 ⟨l, k, locate_append extra located, rfl⟩

theorem localAlias_append {options : Options} {scopes : List Scope} (extra : List Scope)
    {ref : TableRef} {source : String} (found : localAlias options scopes ref = .ok source) :
    localAlias options (scopes ++ extra) ref = .ok source := by
  unfold localAlias at found ⊢
  split at found
  · rename_i locals
    rw [if_pos locals]
    exact resolveAlias_append extra found
  · rename_i fixed
    rw [if_neg fixed]
    exact found

/-- A node with more specs around it. -/
def Node.enclosed (n : Node) (extra : List Spec) : Node :=
  ⟨n.spec, n.outer ++ extra⟩

theorem Node.scopes_enclosed (n : Node) (extra : List Spec) :
    (n.enclosed extra).scopes = n.scopes ++ extra.map scopeOf := by
  simp [Node.scopes, Node.chain, Node.enclosed]

/-- A derived table of a node that has the same block with more specs around the node. -/
def KeepsBlock (options : Options) (level level' : Nat) (extra : List Spec) (n : Node)
    (target : Target Spec) : Prop :=
  ∀ s, target = .derived s → ∀ b, (n.enter s).block options (level + 1) = .ok b →
    ((n.enclosed extra).enter s).block options (level' + 1) = .ok b

theorem clauseOf_enclosed {options : Options} {database : Option String} {level level' : Nat}
    {n : Node} {extra : List Spec} {join : Join Spec} {number : Nat} {clause : JoinClause Block}
    (nested : KeepsBlock options level level' extra n join.target)
    (h : clauseOf options database n.scopes level join number = .ok clause) :
    clauseOf options database (n.enclosed extra).scopes level' join number = .ok clause := by
  obtain ⟨left, found, h⟩ := bind_eq_ok.1 h
  obtain ⟨relation, related, h⟩ := bind_eq_ok.1 h
  refine bind_eq_ok.2 ⟨left, ?_, bind_eq_ok.2 ⟨relation, ?_, h⟩⟩
  · rw [Node.scopes_enclosed]
    exact localAlias_append _ found
  · cases target : join.target with
    | table t =>
      rw [target, relationOf] at related
      rw [relationOf]
      exact related
    | derived s =>
      rw [target, relationOf] at related
      obtain ⟨b, block, wrapped⟩ := bind_eq_ok.1 related
      rw [relationOf]
      exact bind_eq_ok.2 ⟨b, nested s target b block, wrapped⟩

/-- A spec that needs no more specs around it has the same block with them. -/
theorem block_enclosed {options : Options} {level level' : Nat} (n : Node) (extra : List Spec)
    {b : Block} (block : n.block options level = .ok b)
    (shallow : level' + n.spec.depth ≤ options.maxDepth)
    (labels : (!n.spec.isSubquery && level == 0) = (!n.spec.isSubquery && level' == 0)) :
    (n.enclosed extra).block options level' = .ok b := by
  induction n using Node.induction generalizing level level' b with
  | step n ih =>
    have resolves := blockOf_eq_ok.1 block
    have scopes : scopeOf (n.enclosed extra).spec :: (n.enclosed extra).outer.map scopeOf =
        n.scopes ++ extra.map scopeOf := n.scopes_enclosed extra
    have labels : (!(n.enclosed extra).spec.isSubquery && level' == 0) =
        (!n.spec.isSubquery && level == 0) := labels.symm
    have nested : ∀ join ∈ n.spec.joins, KeepsBlock options level level' extra n join.target := by
      intro join member s target b block
      have shallower := Node.depth_lt_of_derived member target
      have deep : level' + 1 + s.depth ≤ options.maxDepth := by omega
      have unlabelled (l : Nat) : (!s.isSubquery && l + 1 == 0) = false := Bool.and_false _
      exact ih join member s target block deep (by rw [Node.enter, unlabelled, unlabelled])
    have joined : ∀ numbered ∈ n.spec.joins.zipIdx 2, numbered.1 ∈ n.spec.joins :=
      forall_mem_zipIdx.2 fun _ member => member
    refine blockOf_eq_ok.2 ⟨by omega, resolves.flagged, ?_, ?_, ?_, ?_, resolves.database,
      resolves.table⟩
    · rw [scopes, labels]
      refine resolves.columns.imp ?_
      intro c selected h
      obtain ⟨source, found, h⟩ := bind_eq_ok.1 h
      exact bind_eq_ok.2 ⟨source, resolveAlias_append _ found, h⟩
    · refine ((List.forall₂_and_left _ _).2 ⟨joined, resolves.joins⟩).imp ?_
      rintro numbered clause ⟨member, h⟩
      exact clauseOf_enclosed (nested numbered.1 member) h
    · rw [scopes]
      refine resolves.conditions.imp ?_
      intro f condition h
      obtain ⟨source, found, h⟩ := bind_eq_ok.1 h
      exact bind_eq_ok.2 ⟨source, resolveAlias_append _ found, h⟩
    · rw [scopes]
      refine resolves.sortKeys.imp ?_
      intro o key h
      obtain ⟨source, found, h⟩ := bind_eq_ok.1 h
      exact bind_eq_ok.2 ⟨source, resolveAlias_append _ found, h⟩

/-- Below the outermost spec the flag of a subquery makes no difference. -/
theorem blockOf_asSubquery (options : Options) (outer : List Scope) (level : Nat) (s : Spec) :
    blockOf options outer (level + 1) s.asSubquery = blockOf options outer (level + 1) s := by
  have unlabelled (flag : Bool) : (!flag && level + 1 == 0) = false := Bool.and_false _
  rw [blockOf_eq, blockOf_eq, unlabelled, unlabelled]
  rfl

/-! ## Indentation -/

/-- A text with two spaces for each level put in behind every line feed. -/
def shifted (levels : Nat) (s : List Char) : List Char :=
  s.flatMap fun c => if c = '\n' then '\n' :: List.replicate (2 * levels) ' ' else [c]

/-- A text with two spaces for each level put in front of every line. -/
def indented (levels : Nat) (s : List Char) : List Char :=
  List.replicate (2 * levels) ' ' ++ shifted levels s

/-- A name that is written on one line. -/
def OneLine (name : String) : Prop :=
  '\n' ∉ name.toList

instance (name : String) : Decidable (OneLine name) :=
  inferInstanceAs (Decidable (_ ∉ _))

/-- A spec whose names and texts are written on one line each. -/
structure Unbroken (s : Spec) : Prop where
  names : Names OneLine s
  values : ∀ f ∈ s.filters, ∀ text ∈ quotedText f.value, OneLine text

theorem shifted_append (levels : Nat) (s t : List Char) :
    shifted levels (s ++ t) = shifted levels s ++ shifted levels t :=
  List.flatMap_append

theorem shifted_of_not_mem {levels : Nat} {s : List Char} (unbroken : '\n' ∉ s) :
    shifted levels s = s := by
  induction s with
  | nil => rfl
  | cons c s ih =>
    rw [List.mem_cons, not_or] at unbroken
    rw [shifted, List.flatMap_cons, ← shifted, ih unbroken.2, if_neg (Ne.symm unbroken.1)]
    rfl

/-- Tokens that are written as other ones, but a number of levels further in. -/
def Deeper (levels : Nat) (ts us : List Token) : Prop :=
  tokensChars us = shifted levels (tokensChars ts)

section

variable {levels : Nat} {ts us ts' us' : List Token}

theorem Deeper.append (h : Deeper levels ts us) (h' : Deeper levels ts' us') :
    Deeper levels (ts ++ ts') (us ++ us') := by
  unfold Deeper at *
  rw [tokensChars_append, tokensChars_append, shifted_append, h, h']

theorem deeper_line (levels level : Nat) : Deeper levels (line level) (line (level + levels)) := by
  have nearer := tokensChars_line [] level
  have further := tokensChars_line [] (level + levels)
  rw [List.append_nil] at nearer further
  have spaces : '\n' ∉ List.replicate (2 * level) ' ' := by
    intro member
    cases List.eq_of_mem_replicate member
  have more : List.replicate (2 * (level + levels)) ' ' =
      List.replicate (2 * levels) ' ' ++ List.replicate (2 * level) ' ' := by
    rw [List.replicate_append_replicate]
    congr 1
    omega
  rw [Deeper, nearer, further, newLine, newLine, List.append_nil, List.append_nil, more, shifted,
    List.flatMap_cons, ← shifted, shifted_of_not_mem spaces, if_pos rfl]
  rfl

/-- Tokens without line feeds. -/
def Flat (ts : List Token) : Prop :=
  ∀ t ∈ ts, '\n' ∉ t.chars

theorem flat_nil : Flat [] :=
  List.forall_mem_nil _

theorem flat_cons {t : Token} : Flat (t :: ts) ↔ '\n' ∉ t.chars ∧ Flat ts :=
  List.forall_mem_cons

theorem flat_append : Flat (ts ++ us) ↔ Flat ts ∧ Flat us :=
  List.forall_mem_append

theorem Flat.deeper (flat : Flat ts) : Deeper levels ts ts := by
  have unbroken : '\n' ∉ tokensChars ts := by
    intro member
    obtain ⟨t, member, broken⟩ := List.mem_flatMap.1 member
    exact flat t member broken
  exact (shifted_of_not_mem unbroken).symm

theorem deeper_ite {first : Bool} (h : Deeper levels ts us) (h' : Deeper levels ts' us') :
    Deeper levels (if first then ts else ts') (if first then us else us') := by
  cases first with
  | true => exact h
  | false => exact h'

end

/-! ### Clauses -/

theorem oneLine_aliasName (n : Nat) : OneLine (aliasName n) := by
  intro member
  rw [aliasName, String.toList_append] at member
  rcases List.mem_append.1 member with member | member
  · exact absurd member (by decide)
  · rw [String.toList_ofList] at member
    have numeric : Numeric '\n' := numeric_of_mem_decimalDigits member
    exact absurd numeric (by decide)

theorem oneLine_of_resolveAlias {scopes : List Scope} {ref : TableRef} {source : String}
    (found : resolveAlias scopes ref = .ok source) : OneLine source := by
  rw [eq_aliasName found]
  exact oneLine_aliasName _

theorem oneLine_of_localAlias {options : Options} {scopes : List Scope} {ref : TableRef}
    {source : String} (found : localAlias options scopes ref = .ok source) : OneLine source := by
  rw [left_eq_aliasName found]
  exact oneLine_aliasName _

/-- A column name that is written on one line. -/
def ColumnName.OneLine (name : ColumnName) : Prop :=
  Sql.OneLine name.source ∧ Sql.OneLine name.column

theorem oneLine_of_stands {scopes : List Scope} {ref : TableRef} {column : String}
    {name : ColumnName} (stands : Stands scopes ref column name) (oneLine : OneLine column) :
    name.OneLine := by
  obtain ⟨source, found, rfl⟩ := stands
  exact ⟨oneLine_of_resolveAlias found, oneLine⟩

theorem flat_columnName {name : ColumnName} (oneLine : name.OneLine) :
    Flat (columnRef name.source name.column) := by
  simp only [columnRef, flat_cons]
  exact ⟨oneLine.1, by decide, oneLine.2, flat_nil⟩

theorem flat_selection {aggregate : Option Aggregate} {name : ColumnName}
    (oneLine : name.OneLine) : Flat (selection aggregate name.source name.column) := by
  have column := flat_columnName oneLine
  cases aggregate with
  | none => exact column
  | some a =>
    have function : '\n' ∉ (Token.function a).chars := by
      cases a <;> decide
    simp only [selection, flat_cons, flat_append]
    exact ⟨function, by decide, column, by decide, flat_nil⟩

theorem not_mem_qualifiedChars {database : Option String} {name : String}
    (inside : ∀ db, database = some db → db.isEmpty = false → OneLine db)
    (oneLine : OneLine name) : '\n' ∉ qualifiedChars database name := by
  cases database with
  | none => exact oneLine
  | some db =>
    rw [qualifiedChars]
    split
    · exact oneLine
    · rename_i named
      intro member
      rcases List.mem_append.1 member with member | member
      · exact inside db rfl (Bool.eq_false_iff.2 named) member
      · rcases List.mem_cons.1 member with same | member
        · cases same
        · exact oneLine member

theorem not_mem_quote {s : List Char} (unbroken : '\n' ∉ s) : '\n' ∉ quote '\'' s := by
  intro member
  rcases List.mem_cons.1 member with same | member
  · cases same
  rcases List.mem_append.1 member with member | member
  · obtain ⟨c, inside, member⟩ := List.mem_flatMap.1 member
    split at member
    · cases List.eq_of_mem_replicate (n := 2) member
    · exact unbroken (List.mem_singleton.1 member ▸ inside)
  · cases List.mem_singleton.1 member

theorem not_mem_literalToken {value : Literal} (oneLine : ∀ text ∈ quotedText value, OneLine text) :
    '\n' ∉ (literalToken value).chars := by
  cases value with
  | string s => exact not_mem_quote (oneLine s (List.mem_singleton_self s))
  | date s => exact not_mem_quote (oneLine s (List.mem_singleton_self s))
  | number x =>
    intro member
    exact absurd (numeric_of_mem_chars (x := x) member) (by decide)
  | boolean b =>
    cases b with
    | true => decide
    | false => decide

theorem deeper_selectedTokens (levels level : Nat) (first : Bool) {selected : List Selected}
    (oneLine : ∀ c ∈ selected, c.name.OneLine) (unlabelled : ∀ c ∈ selected, c.label = none) :
    Deeper levels (selectedTokens level first selected)
      (selectedTokens (level + levels) first selected) := by
  induction selected generalizing first with
  | nil => exact flat_nil.deeper
  | cons c rest ih =>
    rw [List.forall_mem_cons] at oneLine unlabelled
    have comma : Flat [.comma] := by simp [Flat]
    rw [selectedTokens, selectedTokens, unlabelled.1, Nat.add_right_comm level levels 1]
    have separator : Deeper levels (if first then [] else [.comma])
        (if first then [] else [.comma]) :=
      deeper_ite flat_nil.deeper comma.deeper
    have source : Flat (selection c.aggregate c.name.source c.name.column) :=
      flat_selection oneLine.1
    have column := (separator.append (deeper_line levels (level + 1))).append source.deeper
    exact (column.append flat_nil.deeper).append (ih false oneLine.2 unlabelled.2)

theorem deeper_conditionTokens (levels level : Nat) (first : Bool) {conditions : List Condition}
    (oneLine : ∀ c ∈ conditions, c.name.OneLine)
    (values : ∀ c ∈ conditions, ∀ text ∈ quotedText c.value, OneLine text) :
    Deeper levels (conditionTokens level first conditions)
      (conditionTokens (level + levels) first conditions) := by
  induction conditions generalizing first with
  | nil => exact flat_nil.deeper
  | cons c rest ih =>
    rw [List.forall_mem_cons] at oneLine values
    have keyword : Flat [.where] := flat_cons.2 ⟨by decide, flat_nil⟩
    have conjunction : Flat [.and, .space] :=
      flat_cons.2 ⟨by decide, flat_cons.2 ⟨by decide, flat_nil⟩⟩
    have operator : '\n' ∉ (Token.operator c.comparison).chars := by
      cases c.comparison <;> decide
    have comparison : Flat [.space, .operator c.comparison, .space, literalToken c.value] := by
      simp only [flat_cons]
      exact ⟨by decide, operator, by decide, not_mem_literalToken values.1, flat_nil⟩
    have head : Deeper levels (if first then line level ++ [.where] else [])
        (if first then line (level + levels) ++ [.where] else []) :=
      deeper_ite ((deeper_line levels level).append keyword.deeper) flat_nil.deeper
    have separator : Deeper levels (if first then [] else [.and, .space])
        (if first then [] else [.and, .space]) :=
      deeper_ite flat_nil.deeper conjunction.deeper
    rw [conditionTokens, conditionTokens, Nat.add_right_comm level levels 1]
    have condition := (((head.append (deeper_line levels (level + 1))).append separator).append
      (flat_columnName oneLine.1).deeper).append comparison.deeper
    exact condition.append (ih false oneLine.2 values.2)

theorem deeper_sortTokens (levels level : Nat) (first : Bool) {sortKeys : List SortKey}
    (oneLine : ∀ k ∈ sortKeys, k.name.OneLine) :
    Deeper levels (sortTokens level first sortKeys)
      (sortTokens (level + levels) first sortKeys) := by
  induction sortKeys generalizing first with
  | nil => exact flat_nil.deeper
  | cons k rest ih =>
    rw [List.forall_mem_cons] at oneLine
    have keyword : Flat [.orderBy, .space] :=
      flat_cons.2 ⟨by decide, flat_cons.2 ⟨by decide, flat_nil⟩⟩
    have comma : Flat [.comma, .space] :=
      flat_cons.2 ⟨by decide, flat_cons.2 ⟨by decide, flat_nil⟩⟩
    have direction : Flat [.space, if k.descending then .desc else .asc] := by
      cases k.descending with
      | true => exact flat_cons.2 ⟨by decide, flat_cons.2 ⟨by decide, flat_nil⟩⟩
      | false => exact flat_cons.2 ⟨by decide, flat_cons.2 ⟨by decide, flat_nil⟩⟩
    have head : Deeper levels (if first then line level ++ [.orderBy, .space] else [.comma, .space])
        (if first then line (level + levels) ++ [.orderBy, .space] else [.comma, .space]) :=
      deeper_ite ((deeper_line levels level).append keyword.deeper) comma.deeper
    rw [sortTokens, sortTokens]
    have key := (head.append (flat_columnName oneLine.1).deeper).append direction.deeper
    exact key.append (ih false oneLine.2)

theorem deeper_fromTokens (levels level : Nat) {database : Option String} {table : String}
    (unbroken : '\n' ∉ qualifiedChars database table) :
    Deeper levels (fromTokens level database table)
      (fromTokens (level + levels) database table) := by
  have table : Flat [.from, .space, .qualified database table, .space, .as, .space,
      .ident (aliasName 1)] := by
    simp only [flat_cons]
    exact ⟨by decide, by decide, unbroken, by decide, by decide, by decide, oneLine_aliasName 1,
      flat_nil⟩
  exact (deeper_line levels level).append table.deeper

theorem flat_onTokens {left right : ColumnName} (oneLine : left.OneLine)
    (oneLine' : right.OneLine) :
    Flat (onTokens left.source left.column right.source right.column) := by
  simp only [onTokens, flat_append, flat_cons]
  exact ⟨⟨⟨⟨by decide, by decide, by decide, oneLine'.1, by decide, by decide, by decide, flat_nil⟩,
    flat_columnName oneLine⟩, by decide, by decide, by decide, flat_nil⟩, flat_columnName oneLine'⟩

/-! ### Blocks -/

section

variable {options : Options} {level : Nat} {n : Node}

/-- A derived table whose block is written alike at every level, but for the indentation. -/
def NestedDeeper (options : Options) (level : Nat) (n : Node) (target : Target Spec) : Prop :=
  ∀ s, target = .derived s → ∀ b, (n.enter s).block options (level + 1) = .ok b →
    ∀ levels level, Deeper levels (b.tokens level) (b.tokens (level + levels))

theorem deeper_relationTokens (levels level' : Nat) {target : Target Spec}
    {relation : Relation Block} (names : Names OneLine n.spec)
    (oneLine : ∀ t, target = .table t → OneLine t.table)
    (nested : NestedDeeper options level n target)
    (resolved : relationOf options n.spec.database n.scopes level target = .ok relation) :
    Deeper levels (relationTokens level' relation) (relationTokens (level' + levels) relation) := by
  cases target with
  | table t =>
    rw [relationOf] at resolved
    split at resolved
    · cases resolved
    · cases resolved
      have name : Flat [.qualified n.spec.database t.table] :=
        flat_cons.2 ⟨not_mem_qualifiedChars names.database (oneLine t rfl), flat_nil⟩
      rw [relationTokens, relationTokens]
      exact name.deeper
  | derived s =>
    rw [relationOf] at resolved
    obtain ⟨b, block, resolved⟩ := bind_eq_ok.1 resolved
    cases resolved
    have opening : Flat [.lparen] := flat_cons.2 ⟨by decide, flat_nil⟩
    have closing : Flat [.rparen] := flat_cons.2 ⟨by decide, flat_nil⟩
    have inside := nested s rfl b block levels (level' + 1)
    rw [relationTokens, relationTokens, Nat.add_right_comm level' levels 1]
    exact (((opening.deeper.append (deeper_line levels (level' + 1))).append inside).append
      (deeper_line levels level')).append closing.deeper

theorem deeper_clauseTokens (levels level' : Nat) {numbered : List (Join Spec × Nat)}
    {clauses : List (JoinClause Block)}
    (resolved : List.Forall₂ (fun numbered clause =>
      clauseOf options n.spec.database n.scopes level numbered.1 numbered.2 = .ok clause)
      numbered clauses)
    (names : Names OneLine n.spec) (joined : ∀ entry ∈ numbered, entry.1 ∈ n.spec.joins)
    (nested : ∀ join ∈ n.spec.joins, NestedDeeper options level n join.target) :
    Deeper levels (clauseTokens level' clauses) (clauseTokens (level' + levels) clauses) := by
  induction resolved with
  | nil => exact flat_nil.deeper
  | @cons head clause numbered clauses first _ ih =>
    obtain ⟨join, number⟩ := head
    rw [List.forall_mem_cons] at joined
    obtain ⟨left, found, first⟩ := bind_eq_ok.1 first
    obtain ⟨relation, related, first⟩ := bind_eq_ok.1 first
    cases first
    have columns := names.joins join joined.1
    have word : '\n' ∉ (Token.join join.kind).chars := by
      cases join.kind <;> decide
    have kind : Flat [.join join.kind, .space] :=
      flat_cons.2 ⟨word, flat_cons.2 ⟨by decide, flat_nil⟩⟩
    have target := deeper_relationTokens levels level' names (names.targets join joined.1)
      (nested join joined.1) related
    have localName : ColumnName.OneLine ⟨left, join.localColumn⟩ :=
      ⟨oneLine_of_localAlias found, columns.1⟩
    have targetName : ColumnName.OneLine ⟨aliasName number, join.referenceColumn⟩ :=
      ⟨oneLine_aliasName number, columns.2⟩
    have equation := flat_onTokens localName targetName
    rw [clauseTokens, clauseTokens]
    exact ((((deeper_line levels level').append kind.deeper).append target).append
      equation.deeper).append (ih joined.2)

end

/-- A block without labels is written alike at every level, but for the indentation. -/
theorem deeper_block {options : Options} {level : Nat} (n : Node) {b : Block}
    (block : n.block options level = .ok b) (unbroken : n.Everywhere (Unbroken ·.spec))
    (unlabelled : (!n.spec.isSubquery && level == 0) = false) (levels level' : Nat) :
    Deeper levels (b.tokens level') (b.tokens (level' + levels)) := by
  induction n using Node.induction generalizing level b levels level' with
  | step n ih =>
    have resolves := blockOf_eq_ok.1 block
    obtain ⟨⟨names, values⟩, below⟩ := Node.everywhere_iff.1 unbroken
    have nested : ∀ join ∈ n.spec.joins, NestedDeeper options level n join.target := by
      intro join member s target b block levels level'
      exact ih join member s target block (below join member s target) (Bool.and_false _) levels
        level'
    have selected : ∀ c ∈ b.columns, c.name.OneLine := by
      refine forall_mem_of_forall₂ resolves.columns ?_ names.columns
      intro c selected resolved oneLine
      exact oneLine_of_stands (selectedOf_stands resolved) oneLine
    have labels : ∀ c ∈ b.columns, c.label = none := by
      refine forall_mem_of_forall₂ resolves.columns ?_ names.columns
      intro c selected resolved _
      obtain ⟨source, -, resolved⟩ := bind_eq_ok.1 resolved
      cases resolved
      rw [unlabelled]
      rfl
    have conditions : ∀ c ∈ b.conditions, c.name.OneLine := by
      refine forall_mem_of_forall₂ resolves.conditions ?_ names.filters
      intro f condition resolved oneLine
      exact oneLine_of_stands (conditionOf_stands resolved) oneLine
    have texts : ∀ c ∈ b.conditions, ∀ text ∈ quotedText c.value, OneLine text := by
      refine forall_mem_of_forall₂ resolves.conditions ?_ values
      intro f condition resolved oneLine
      obtain ⟨source, -, resolved⟩ := bind_eq_ok.1 resolved
      cases resolved
      exact oneLine
    have sortKeys : ∀ k ∈ b.sortKeys, k.name.OneLine := by
      refine forall_mem_of_forall₂ resolves.sortKeys ?_ names.orders
      intro o key resolved oneLine
      exact oneLine_of_stands (sortKeyOf_stands resolved) oneLine
    have joined : ∀ numbered ∈ n.spec.joins.zipIdx 2, numbered.1 ∈ n.spec.joins :=
      forall_mem_zipIdx.2 fun _ member => member
    have select : Flat [.select] := flat_cons.2 ⟨by decide, flat_nil⟩
    have primary := deeper_fromTokens levels level'
      (not_mem_qualifiedChars names.database names.table)
    have columns := deeper_selectedTokens levels level' true selected labels
    have joins := deeper_clauseTokens levels level' resolves.joins names joined nested
    have wheres := deeper_conditionTokens levels level' true conditions texts
    have orders := deeper_sortTokens levels level' true sortKeys
    rw [Block.tokens_eq, Block.tokens_eq, resolves.database, resolves.table]
    exact ((((select.deeper.append columns).append primary).append joins).append wheres).append
      orders

end QueryDesk.Sql
