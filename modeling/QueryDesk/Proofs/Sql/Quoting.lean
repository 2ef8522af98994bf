import QueryDesk.Proofs.Sql.Block
import QueryDesk.Proofs.Sql.Scan

/-!
# Quotes in SQL

What the text values and labels of a spec can do to the quotes of its SQL: nothing.  A scanner finds
the values and the quoted labels, and nothing else between quotes.
-/

namespace QueryDesk.Sql

open QueryDesk.Query QueryDesk.Outcome

/-- What a literal writes between quotes. -/
def quotedText : Literal → List String
  | .string s => [s]
  | .date s => [s]
  | .number _ => []
  | .boolean _ => []

/-- The labels of columns that are written between quotes. -/
def quotedLabels (columns : List Column) : List String :=
  (columns.map (·.label)).filter fun label => !label.isEmpty && !isPlainIdent label.toList

mutual

/-- The values of a tree that are written between quotes, in the order in which they are written:
    those of the derived tables first, then those of the spec's own filters. -/
def quotedValues : Spec → List String
  | ⟨_, _, _, _, joins, filters, _⟩ =>
    joinsValues joins ++ filters.flatMap fun f => quotedText f.value

/-- The values of the derived tables of joins. -/
def joinsValues : List (Join Spec) → List String
  | [] => []
  | ⟨_, _, _, target, _⟩ :: rest => targetValues target ++ joinsValues rest

/-- The values of a join's target. -/
def targetValues : Target Spec → List String
  | .table _ => []
  | .derived s => quotedValues s

end

/-- A spec whose names are written without quotes. -/
structure CleanNames (s : Spec) : Prop where
  database : ∀ name, s.database = some name → Clean name.toList
  table : Clean s.table.table.toList
  columns : ∀ c ∈ s.columns, Clean c.column.toList
  targets : ∀ join ∈ s.joins, ∀ t, join.target = .table t → Clean t.table.toList
  joins : ∀ join ∈ s.joins, Clean join.localColumn.toList ∧ Clean join.referenceColumn.toList
  filters : ∀ f ∈ s.filters, Clean f.column.toList
  orders : ∀ o ∈ s.orders, Clean o.column.toList

/-! ## Names -/

theorem clean_qualifiedChars {database : Option String} {name : String}
    (clean : ∀ db, database = some db → Clean db.toList) (clean' : Clean name.toList) :
    Clean (qualifiedChars database name) := by
  cases database with
  | none => exact clean'
  | some db =>
    have dot : Clean ['.'] := by decide
    unfold qualifiedChars
    dsimp only
    split
    · exact clean'
    · rw [← List.singleton_append, clean_append, clean_append]
      exact ⟨clean db rfl, dot, clean'⟩

theorem clean_of_resolveAlias {scopes : List Scope} {ref : TableRef} {source : String}
    (resolved : resolveAlias scopes ref = .ok source) : Clean source.toList := by
  obtain ⟨l, k, -, rfl⟩ := resolveAlias_eq_ok.1 resolved
  exact clean_aliasName k

theorem clean_of_localAlias {options : Options} {scopes : List Scope} {ref : TableRef}
    {source : String} (resolved : localAlias options scopes ref = .ok source) :
    Clean source.toList := by
  unfold localAlias at resolved
  split at resolved
  · exact clean_of_resolveAlias resolved
  · cases resolved
    exact clean_aliasName 1

/-! ## Clauses -/

theorem bare_line (level : Nat) : Bare (line level) := by
  unfold line indentation
  split
  · exact bare_cons.2 ⟨trivial, bare_nil⟩
  · exact bare_cons.2 ⟨trivial, bare_cons.2 ⟨trivial, bare_nil⟩⟩

theorem bare_ite {first : Bool} {ts us : List Token} (bare : Bare ts) (bare' : Bare us) :
    Bare (if first then ts else us) := by
  cases first with
  | true => exact bare
  | false => exact bare'

/-- A column name that is written without quotes. -/
def ColumnName.Clean (name : ColumnName) : Prop :=
  Sql.Clean name.source.toList ∧ Sql.Clean name.column.toList

theorem bare_columnName {name : ColumnName} (clean : name.Clean) :
    Bare (columnRef name.source name.column) := by
  simp only [columnRef, bare_cons]
  exact ⟨clean.1, trivial, clean.2, bare_nil⟩

theorem bare_selection {aggregate : Option Aggregate} {name : ColumnName} (clean : name.Clean) :
    Bare (selection aggregate name.source name.column) := by
  have column := bare_columnName clean
  cases aggregate with
  | none => exact column
  | some a =>
    simp only [selection, bare_cons, bare_append]
    exact ⟨trivial, trivial, column, trivial, bare_nil⟩

theorem scans_nil : Scans [] [] [] :=
  scans_bare bare_nil

/-- What a selected column writes between quotes. -/
def Selected.quotedLabel (c : Selected) : List String :=
  c.label.toList.filter fun label => !isPlainIdent label.toList

theorem scans_shownLabel (c : Selected) : Scans (shownLabelTokens c.label) [] c.quotedLabel := by
  unfold Selected.quotedLabel
  cases c.label with
  | none => exact scans_nil
  | some s =>
    have before : Scans [.space, .as] [] [] := scans_bare (by simp [Bare, Token.Bare])
    have label := before.append (scans_label s)
    rw [Option.toList_some, List.filter_singleton]
    cases plain : isPlainIdent s.toList with
    | true =>
      rw [plain] at label
      exact label
    | false =>
      rw [plain] at label
      exact label

/-- Selected columns scan to those of their labels that are quoted. -/
theorem scans_selectedTokens (level : Nat) (first : Bool) {selected : List Selected}
    (clean : ∀ c ∈ selected, c.name.Clean) :
    Scans (selectedTokens level first selected) [] (selected.flatMap Selected.quotedLabel) := by
  induction selected generalizing first with
  | nil => exact scans_nil
  | cons c rest ih =>
    rw [List.forall_mem_cons] at clean
    have column : Scans ((if first then [] else [Token.comma]) ++ line (level + 1) ++
        selection c.aggregate c.name.source c.name.column) [] [] := by
      apply scans_bare
      have comma : Bare [.comma] := bare_cons.2 ⟨trivial, bare_nil⟩
      simp only [bare_append]
      exact ⟨⟨bare_ite bare_nil comma, bare_line _⟩, bare_selection clean.1⟩
    exact (column.append (scans_shownLabel c)).append (ih false clean.2)

theorem scans_literal (value : Literal) :
    Scans [.space, literalToken value] (quotedText value) [] := by
  cases value with
  | string s => exact scans_string s
  | date s => exact scans_string s
  | number x => exact scans_bare (by simp [literalToken, Bare, Token.Bare])
  | boolean b => exact scans_bare (by simp [literalToken, Bare, Token.Bare])

/-- Conditions scan to the texts they compare with. -/
theorem scans_conditionTokens (level : Nat) (first : Bool) {conditions : List Condition}
    (clean : ∀ c ∈ conditions, c.name.Clean) :
    Scans (conditionTokens level first conditions)
      (conditions.flatMap fun c => quotedText c.value) [] := by
  induction conditions generalizing first with
  | nil => exact scans_nil
  | cons c rest ih =>
    rw [List.forall_mem_cons] at clean
    have comparison : Scans ((if first then line level ++ [Token.where] else []) ++
        line (level + 1) ++ (if first then [] else [Token.and, Token.space]) ++ c.name.tokens ++
        [Token.space, Token.operator c.comparison]) [] [] := by
      apply scans_bare
      have keyword : Bare [.where] := bare_cons.2 ⟨trivial, bare_nil⟩
      have conjunction : Bare [.and, .space] := by simp [Bare, Token.Bare]
      have operator : Bare [.space, .operator c.comparison] := by simp [Bare, Token.Bare]
      simp only [bare_append]
      exact ⟨⟨⟨⟨bare_ite (bare_append.2 ⟨bare_line _, keyword⟩) bare_nil, bare_line _⟩,
        bare_ite bare_nil conjunction⟩, bare_columnName clean.1⟩, operator⟩
    have condition := (comparison.append (scans_literal c.value)).append (ih false clean.2)
    simpa [conditionTokens] using condition

/-- A sort order has nothing between quotes. -/
theorem scans_sortTokens (level : Nat) (first : Bool) {sortKeys : List SortKey}
    (clean : ∀ k ∈ sortKeys, k.name.Clean) :
    Scans (sortTokens level first sortKeys) [] [] := by
  induction sortKeys generalizing first with
  | nil => exact scans_nil
  | cons k rest ih =>
    rw [List.forall_mem_cons] at clean
    have key : Scans ((if first then line level ++ [Token.orderBy, Token.space]
        else [Token.comma, Token.space]) ++ k.name.tokens ++
        [Token.space, if k.descending then Token.desc else Token.asc]) [] [] := by
      apply scans_bare
      have keyword : Bare [.orderBy, .space] := by simp [Bare, Token.Bare]
      have comma : Bare [.comma, .space] := by simp [Bare, Token.Bare]
      have direction : Bare [.space, if k.descending then .desc else .asc] := by
        cases k.descending with
        | true => simp [Bare, Token.Bare]
        | false => simp [Bare, Token.Bare]
      simp only [bare_append]
      exact ⟨⟨bare_ite (bare_append.2 ⟨bare_line _, keyword⟩) comma, bare_columnName clean.1⟩,
        direction⟩
    exact key.append (ih false clean.2)

theorem bare_fromTokens (level : Nat) {database : Option String} {table : String}
    (clean : Clean (qualifiedChars database table)) :
    Bare (fromTokens level database table) := by
  simp only [fromTokens, bare_append, bare_cons]
  exact ⟨bare_line _, trivial, trivial, clean, trivial, trivial, trivial, clean_aliasName 1,
    bare_nil⟩

theorem bare_onTokens {left right : ColumnName} (clean : left.Clean) (clean' : right.Clean) :
    Bare (onTokens left.source left.column right.source right.column) := by
  have comparison : Bare [.space, .operator .eq, .space] := by simp [Bare, Token.Bare]
  have opening : Bare [.space, .as, .space, .ident right.source, .space, .on, .space] := by
    simp only [bare_cons]
    exact ⟨trivial, trivial, trivial, clean'.1, trivial, trivial, trivial, bare_nil⟩
  simp only [onTokens, bare_append]
  exact ⟨⟨⟨opening, bare_columnName clean⟩, comparison⟩, bare_columnName clean'⟩

/-! ## Trees -/

theorem quotedValues_eq (s : Spec) :
    quotedValues s = joinsValues s.joins ++ s.filters.flatMap fun f => quotedText f.value := by
  cases s with
  | mk database isSubquery table columns joins filters orders => rw [quotedValues]

theorem joinsValues_cons (join : Join Spec) (rest : List (Join Spec)) :
    joinsValues (join :: rest) = targetValues join.target ++ joinsValues rest := by
  cases join with
  | mk kind localTable localColumn target referenceColumn => rw [joinsValues]

section

variable {options : Options} {level : Nat} {n : Node}

/-- A derived table whose block scans to its values. -/
def NestedScans (options : Options) (level : Nat) (n : Node) (target : Target Spec) : Prop :=
  ∀ s, target = .derived s → ∀ b, (n.enter s).block options (level + 1) = .ok b →
    Scans (b.tokens (level + 1)) (quotedValues s) []

theorem scans_relationTokens {target : Target Spec} {relation : Relation Block}
    (database : ∀ db, n.spec.database = some db → Clean db.toList)
    (clean : ∀ t, target = .table t → Clean t.table.toList)
    (nested : NestedScans options level n target)
    (resolved : relationOf options n.spec.database n.scopes level target = .ok relation) :
    Scans (relationTokens level relation) (targetValues target) [] := by
  cases target with
  | table t =>
    rw [relationOf] at resolved
    split at resolved
    · cases resolved
    · cases resolved
      have name := clean_qualifiedChars database (clean t rfl)
      exact scans_bare (bare_cons.2 ⟨name, bare_nil⟩)
  | derived s =>
    rw [relationOf] at resolved
    obtain ⟨b, block, resolved⟩ := bind_eq_ok.1 resolved
    cases resolved
    have opening : Scans ([.lparen] ++ line (level + 1)) [] [] :=
      scans_bare (bare_append.2 ⟨bare_cons.2 ⟨trivial, bare_nil⟩, bare_line _⟩)
    have closing : Scans (line level ++ [.rparen]) [] [] :=
      scans_bare (bare_append.2 ⟨bare_line _, bare_cons.2 ⟨trivial, bare_nil⟩⟩)
    have derived := (opening.append (nested s rfl b block)).append closing
    rw [targetValues]
    simpa [relationTokens] using derived

/-- Join clauses scan to the values of their derived tables. -/
theorem scans_clauseTokens {numbered : List (Join Spec × Nat)}
    {clauses : List (JoinClause Block)}
    (resolved : List.Forall₂ (fun numbered clause =>
      clauseOf options n.spec.database n.scopes level numbered.1 numbered.2 = .ok clause)
      numbered clauses)
    (clean : CleanNames n.spec) (joined : ∀ join ∈ numbered.map Prod.fst, join ∈ n.spec.joins)
    (nested : ∀ join ∈ n.spec.joins, NestedScans options level n join.target) :
    Scans (clauseTokens level clauses) (joinsValues (numbered.map Prod.fst)) [] := by
  induction resolved with
  | nil => exact scans_nil
  | @cons head clause numbered clauses first _ ih =>
    obtain ⟨join, number⟩ := head
    rw [List.map_cons, List.forall_mem_cons] at joined
    obtain ⟨left, found, first⟩ := bind_eq_ok.1 first
    obtain ⟨relation, related, first⟩ := bind_eq_ok.1 first
    cases first
    have names := clean.joins join joined.1
    have kind : Scans (line level ++ [.join join.kind, .space]) [] [] :=
      scans_bare (bare_append.2 ⟨bare_line _, by simp [Bare, Token.Bare]⟩)
    have target := scans_relationTokens clean.database (clean.targets join joined.1)
      (nested join joined.1) related
    have localName : ColumnName.Clean ⟨left, join.localColumn⟩ :=
      ⟨clean_of_localAlias found, names.1⟩
    have targetName : ColumnName.Clean ⟨aliasName number, join.referenceColumn⟩ :=
      ⟨clean_aliasName number, names.2⟩
    have equation := scans_bare (bare_onTokens localName targetName)
    have clause := ((kind.append target).append equation).append (ih joined.2)
    rw [List.map_cons, joinsValues_cons]
    simpa [clauseTokens] using clause

end

theorem flatMap_quotedLabel {scopes : List Scope} {labelled : Bool} {columns : List Column}
    {selected : List Selected}
    (resolved : List.Forall₂ (fun c s => selectedOf scopes labelled c = .ok s) columns selected) :
    selected.flatMap Selected.quotedLabel = if labelled then quotedLabels columns else [] := by
  induction resolved with
  | nil =>
    cases labelled with
    | true => rfl
    | false => rfl
  | @cons c s columns selected first _ ih =>
    obtain ⟨source, -, first⟩ := bind_eq_ok.1 first
    cases first
    rw [List.flatMap_cons, ih, Selected.quotedLabel]
    cases labelled with
    | false => rfl
    | true =>
      cases empty : c.label.isEmpty with
      | true => simp [quotedLabels, empty]
      | false =>
        cases plain : isPlainIdent c.label.toList with
        | true => simp [quotedLabels, empty, plain]
        | false => simp [quotedLabels, empty, plain]

theorem clean_of_stands {scopes : List Scope} {ref : TableRef} {column : String}
    {name : ColumnName} (stands : Stands scopes ref column name) (clean : Clean column.toList) :
    name.Clean := by
  obtain ⟨source, found, rfl⟩ := stands
  exact ⟨clean_of_resolveAlias found, clean⟩

theorem flatMap_quotedText {scopes : List Scope} {filters : List Filter}
    {conditions : List Condition}
    (resolved : List.Forall₂ (fun f c => conditionOf scopes f = .ok c) filters conditions) :
    (conditions.flatMap fun c => quotedText c.value) =
      filters.flatMap fun f => quotedText f.value := by
  induction resolved with
  | nil => rfl
  | cons first _ ih =>
    obtain ⟨source, found, first⟩ := bind_eq_ok.1 first
    cases first
    rw [List.flatMap_cons, List.flatMap_cons, ih]

/-- The tokens of a node scan to the values of its tree, and to its quoted labels if they are
    shown. -/
theorem scans_block {options : Options} {level : Nat} (n : Node) {b : Block}
    (clean : n.Everywhere (CleanNames ·.spec)) (block : n.block options level = .ok b) :
    Scans (b.tokens level) (quotedValues n.spec)
      (if !n.spec.isSubquery && level == 0 then quotedLabels n.spec.columns else []) := by
  induction n using Node.induction generalizing level b with
  | step n ih =>
    have resolves := blockOf_eq_ok.1 block
    obtain ⟨names, below⟩ := Node.everywhere_iff.1 clean
    have nested : ∀ join ∈ n.spec.joins, NestedScans options level n join.target := by
      intro join member s target b block
      have derived : Scans (b.tokens (level + 1)) (quotedValues s) _ :=
        ih join member s target (below join member s target) block
      have unlabelled : (level + 1 == 0) = false := rfl
      rw [unlabelled, Bool.and_false] at derived
      exact derived
    have selected : ∀ c ∈ b.columns, c.name.Clean := by
      refine forall_mem_of_forall₂ resolves.columns ?_ names.columns
      intro c selected resolved clean
      exact clean_of_stands (selectedOf_stands resolved) clean
    have conditions : ∀ c ∈ b.conditions, c.name.Clean := by
      refine forall_mem_of_forall₂ resolves.conditions ?_ names.filters
      intro f condition resolved clean
      exact clean_of_stands (conditionOf_stands resolved) clean
    have sortKeys : ∀ k ∈ b.sortKeys, k.name.Clean := by
      refine forall_mem_of_forall₂ resolves.sortKeys ?_ names.orders
      intro o key resolved clean
      exact clean_of_stands (sortKeyOf_stands resolved) clean
    have joined : ∀ join ∈ (n.spec.joins.zipIdx 2).map Prod.fst, join ∈ n.spec.joins := by
      rw [List.zipIdx_map_fst]
      exact fun _ member => member
    -- the clauses in the order in which they are written
    have select : Scans [.select] [] [] := scans_bare (bare_cons.2 ⟨trivial, bare_nil⟩)
    have columns := scans_selectedTokens level true selected
    have primary := scans_bare (bare_fromTokens level
      (clean_qualifiedChars names.database names.table))
    have joins := scans_clauseTokens resolves.joins names joined nested
    have wheres := scans_conditionTokens level true conditions
    have orders := scans_sortTokens level true sortKeys
    rw [flatMap_quotedLabel resolves.columns] at columns
    rw [List.zipIdx_map_fst] at joins
    rw [flatMap_quotedText resolves.conditions] at wheres
    have all :=
      ((((select.append columns).append primary).append joins).append wheres).append orders
    rw [Block.tokens_eq, resolves.database, resolves.table, quotedValues_eq]
    simpa using all

/-- However its values and labels read, the SQL of a spec with clean names ends outside of quotes,
    with the values of its tree between single quotes and its quoted labels between double quotes,
    and nothing else. -/
theorem scan_compile {options : Options} {s : Spec} {sql : String}
    (clean : (Node.root s).Everywhere (CleanNames ·.spec)) (h : compile options s = .ok sql) :
    (scan .plain sql.toList).ends = .plain ∧
      (scan .plain sql.toList).singles = (quotedValues s).map String.toList ∧
      (scan .plain sql.toList).doubles =
        (if s.isSubquery then [] else quotedLabels s.columns).map String.toList := by
  rw [compile_eq] at h
  cases block : (Node.root s).block options 0 with
  | error e =>
    rw [block] at h
    cases h
  | ok b =>
    rw [block] at h
    obtain rfl : tokensText (b.tokens 0) = sql := Except.ok.inj h
    have labels : (if !s.isSubquery && 0 == 0 then quotedLabels s.columns else []) =
        if s.isSubquery then [] else quotedLabels s.columns := by
      cases s.isSubquery with
      | true => rfl
      | false => rfl
    have scans : Scans (b.tokens 0) (quotedValues s) _ := scans_block (Node.root s) clean block
    have text := scans.scan [] ⟨by simp, by simp⟩
    rw [List.append_nil] at text
    rw [tokensText, String.toList_ofList, text, ← labels]
    exact ⟨rfl, List.append_nil _, List.append_nil _⟩

/-- The orders with an awkward note. -/
def awkwardNotes : Spec where
  database := none
  isSubquery := true
  table := .primary "orders"
  columns := [⟨.primary "orders", "user_id", "", none⟩]
  joins := []
  filters := [⟨.primary "orders", "note", .eq, .string "it's \"late\"'"⟩]
  orders := []

/-- Users whose city is an attempt to end its literal, joined with the orders of an awkward note. -/
def awkwardOrders : Spec where
  database := some "shop"
  isSubquery := false
  table := .primary "users"
  columns := [
    ⟨.primary "users", "id", "Id", none⟩,
    ⟨.primary "users", "name", "the \"name\"", none⟩]
  joins := [⟨.left, .primary "users", "id", .derived awkwardNotes, "user_id"⟩]
  filters := [⟨.primary "users", "city", .ne, .string "' OR 1=1 --"⟩]
  orders := []

theorem clean_awkwardNotes : CleanNames awkwardNotes where
  database := by
    intro name same
    cases same
  table := by decide
  columns := by decide
  targets := List.forall_mem_nil _
  joins := List.forall_mem_nil _
  filters := by decide
  orders := List.forall_mem_nil _

theorem clean_awkwardOrders : CleanNames awkwardOrders where
  database := by
    intro name same
    cases same
    decide
  table := by decide
  columns := by decide
  targets := by
    intro join member t target
    cases List.mem_singleton.1 member
    cases target
  joins := by decide
  filters := by decide
  orders := List.forall_mem_nil _

theorem scan_awkwardOrders :
    ∃ sql, compile .default awkwardOrders = .ok sql ∧
      (scan .plain sql.toList).ends = .plain ∧
      (scan .plain sql.toList).singles = ["it's \"late\"'".toList, "' OR 1=1 --".toList] ∧
      (scan .plain sql.toList).doubles = ["the \"name\"".toList] := by
  have clean : (Node.root awkwardOrders).Everywhere (CleanNames ·.spec) := by
    refine Node.everywhere_iff.2 ⟨clean_awkwardOrders, ?_⟩
    intro join member s target
    cases List.mem_singleton.1 member
    cases target
    refine Node.everywhere_iff.2 ⟨clean_awkwardNotes, ?_⟩
    intro join member
    cases member
  have compiled : ∃ sql, compile .default awkwardOrders = .ok sql := by
    rw [compile_eq]
    exact ⟨_, rfl⟩
  obtain ⟨sql, compiled⟩ := compiled
  obtain ⟨ends, singles, doubles⟩ := scan_compile clean compiled
  have values : quotedValues awkwardOrders = ["it's \"late\"'", "' OR 1=1 --"] := rfl
  refine ⟨sql, compiled, ends, ?_, ?_⟩
  · rw [singles, values, List.map_cons, List.map_singleton]
  · rw [doubles]
    decide

end QueryDesk.Sql
