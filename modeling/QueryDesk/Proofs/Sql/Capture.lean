import QueryDesk.Proofs.Sql.Block
import QueryDesk.Proofs.Sql.Lookup

/-!
# What aliases denote

In SQL an alias means the table that the innermost enclosing block introduces under it.  Every block
numbers its aliases from one, so an alias that the compiler took from an enclosing scope can be
captured on the way: by each block in between that has as many tables as the alias's number.
-/

namespace QueryDesk.Sql

open QueryDesk.Query QueryDesk.Outcome

/-! ## Reading blocks -/

/-- The aliases that a block introduces: that of the FROM clause, then those of the joins. -/
def Block.declared (b : Block) : List String :=
  aliasName 1 :: b.joins.map (·.handle)

/-- What an alias denotes in a chain of blocks, the innermost first: how many blocks further out it
    is declared, and the position of the table there, counted from one. -/
def denoted : List Block → String → Option (Nat × Nat)
  | [], _ => none
  | b :: outer, source =>
    match b.declared.idxOf? source with
    | some i => some (0, i + 1)
    | none => (denoted outer source).map fun (level, k) => (level + 1, k)

/-- The block at the end of a path and those around it, the innermost first. -/
def Block.chainAt (outer : List Block) (b : Block) : List Nat → Option (List Block)
  | [] => some (b :: outer)
  | i :: path => (b.derived? i).bind (·.chainAt (b :: outer) path)

/-! ## Aliases -/

theorem aliasName_injective {m n : Nat} (same : aliasName m = aliasName n) : m = n := by
  have digits : Json.decimalDigits m = Json.decimalDigits n := by
    simpa [aliasName, String.ext_iff] using same
  calc
    m = Nat.ofDigitChars 10 (Json.decimalDigits m) 0 := Nat.ofDigitChars_ten_toDigits.symm
    _ = Nat.ofDigitChars 10 (Json.decimalDigits n) 0 := by rw [digits]
    _ = n := Nat.ofDigitChars_ten_toDigits

/-- The position of an alias among consecutive ones. -/
theorem idxOf?_aliases (start count k : Nat) :
    ((List.range' start count).map aliasName).idxOf? (aliasName k) =
      if start ≤ k ∧ k < start + count then some (k - start) else none := by
  induction count generalizing start with
  | zero =>
    have outside : ¬ (start ≤ k ∧ k < start + 0) := by omega
    rw [if_neg outside]
    rfl
  | succ count ih =>
    rw [List.range'_succ, List.map_cons, List.idxOf?_cons, ih]
    by_cases first : start = k
    · subst first
      simp
    · have different : (aliasName start == aliasName k) = false := by
        rw [beq_eq_false_iff_ne]
        intro same
        exact first (aliasName_injective same)
      rw [different, if_neg Bool.false_ne_true]
      by_cases within : start + 1 ≤ k ∧ k < start + 1 + count
      · have within' : start ≤ k ∧ k < start + (count + 1) := by omega
        have position : k - (start + 1) + 1 = k - start := by omega
        rw [if_pos within, if_pos within', Option.map_some, position]
      · have outside : ¬ (start ≤ k ∧ k < start + (count + 1)) := by omega
        rw [if_neg within, if_neg outside, Option.map_none]

/-- A block that introduces the tables of a spec: its primary table and a table for each join, with
    consecutive aliases. -/
structure Mirrors (b : Block) (s : Spec) : Prop where
  database : b.database = s.database
  table : b.table = s.table.table
  declared : b.declared = (List.range' 1 (s.joins.length + 1)).map aliasName

/-- In a chain of blocks the alias of a number denotes a table of the first block that has as many
    tables. -/
theorem denoted_aliasName {blocks : List Block} {chain : List Spec} {l k : Nat}
    (mirrored : List.Forall₂ Mirrors blocks chain) (positive : 1 ≤ k) :
    denoted blocks (aliasName k) = some (l, k) ↔
      (∃ s, chain[l]? = some s ∧ k ≤ s.joins.length + 1) ∧
        ∀ i < l, ∀ s, chain[i]? = some s → s.joins.length + 1 < k := by
  induction mirrored generalizing l with
  | nil => simp [denoted]
  | @cons b s blocks chain here _ ih =>
    rw [denoted, here.declared, idxOf?_aliases]
    by_cases within : k ≤ s.joins.length + 1
    · have range : 1 ≤ k ∧ k < 1 + (s.joins.length + 1) := by omega
      have position : k - 1 + 1 = k := by omega
      rw [if_pos range]
      dsimp only
      rw [position]
      constructor
      · intro h
        cases h
        exact ⟨⟨s, rfl, within⟩, fun i below => absurd below (Nat.not_lt_zero i)⟩
      · rintro ⟨-, further⟩
        cases l with
        | zero => rfl
        | succ l =>
          have := further 0 (Nat.succ_pos l) s rfl
          omega
    · have range : ¬ (1 ≤ k ∧ k < 1 + (s.joins.length + 1)) := by omega
      rw [if_neg range]
      cases l with
      | zero =>
        constructor
        · intro h
          obtain ⟨⟨l', k'⟩, -, same⟩ := Option.map_eq_some_iff.1 h
          cases same
        · rintro ⟨⟨s', here, within'⟩, -⟩
          cases here
          exact absurd within' within
      | succ l =>
        have less : s.joins.length + 1 < k := by omega
        rw [Nat.forall_lt_succ_left, Option.map_eq_some_iff]
        simp [ih, less]

/-- Neither a node's spec nor one between it and the one `l` further out has `k` tables or more. -/
def Node.Clear (n : Node) (l k : Nat) : Prop :=
  ∀ i < l, ∀ s, n.chain[i]? = some s → s.joins.length + 1 < k

/-- A column of a node that is written behind the alias that its reference was resolved to, and
    that denotes the table it was resolved to just when the way there is clear. -/
def Reads (n : Node) (blocks : List Block) (ref : TableRef) (column : String)
    (name : ColumnName) : Prop :=
  name.column = column ∧ ∃ l k, locate n.scopes ref = some (l, k) ∧ name.source = aliasName k ∧
    (denoted blocks name.source = some (l, k) ↔ n.Clear l k)

theorem reads_of_stands {n : Node} {blocks : List Block} {ref : TableRef} {column : String}
    {name : ColumnName} (mirrored : List.Forall₂ Mirrors blocks n.chain)
    (stands : Stands n.scopes ref column name) : Reads n blocks ref column name := by
  obtain ⟨source, resolved, rfl⟩ := stands
  obtain ⟨l, k, found, rfl⟩ := resolveAlias_eq_ok.1 resolved
  obtain ⟨s, at_l, resolved⟩ := exists_resolve found
  obtain ⟨positive, bound⟩ := resolve_bounds resolved
  refine ⟨rfl, l, k, found, rfl, ?_⟩
  rw [denoted_aliasName mirrored positive]
  constructor
  · rintro ⟨-, clear⟩
    exact clear
  · intro clear
    exact ⟨⟨s, at_l, bound⟩, clear⟩

/-! ## Blocks of a tree -/

theorem clauseOf_eq_ok {options : Options} {database : Option String} {scopes : List Scope}
    {level number : Nat} {join : Join Spec} {clause : JoinClause Block}
    (h : clauseOf options database scopes level join number = .ok clause) :
    clause.handle = aliasName number ∧
      relationOf options database scopes level join.target = .ok clause.relation := by
  obtain ⟨left, -, h⟩ := bind_eq_ok.1 h
  obtain ⟨relation, related, h⟩ := bind_eq_ok.1 h
  cases h
  exact ⟨rfl, related⟩

theorem handles_eq {options : Options} {database : Option String} {scopes : List Scope}
    {level : Nat} {numbered : List (Join Spec × Nat)} {clauses : List (JoinClause Block)}
    (h : List.Forall₂ (fun numbered clause =>
      clauseOf options database scopes level numbered.1 numbered.2 = .ok clause)
      numbered clauses) :
    clauses.map (·.handle) = (numbered.map Prod.snd).map aliasName := by
  induction h with
  | nil => rfl
  | cons first _ ih =>
    rw [List.map_cons, List.map_cons, List.map_cons, ih, (clauseOf_eq_ok first).1]

/-- The block of a spec introduces its tables. -/
theorem mirrors_of_resolves {options : Options} {outer : List Scope} {level : Nat} {s : Spec}
    {b : Block} (h : Resolves options outer level s b) : Mirrors b s := by
  refine ⟨h.database, h.table, ?_⟩
  rw [Block.declared, handles_eq h.joins, List.zipIdx_map_snd, List.range'_succ, List.map_cons]

/-- A node below one with a block has its block at the same path, and the blocks around it are
    those of the specs that enclose it. -/
theorem exists_chainAt {options : Options} {level : Nat} {n m : Node} {b : Block}
    {outer : List Block} {path : List Nat} (block : n.block options level = .ok b)
    (mirrored : List.Forall₂ Mirrors outer n.outer) (found : n.at? path = some m) :
    ∃ b' outer', Block.chainAt outer b path = some (b' :: outer') ∧
      m.block options (level + path.length) = .ok b' ∧
      List.Forall₂ Mirrors (b' :: outer') m.chain := by
  induction path generalizing level n b outer with
  | nil =>
    cases found
    exact ⟨b, outer, rfl, block, .cons (mirrors_of_resolves (blockOf_eq_ok.1 block)) mirrored⟩
  | cons i path ih =>
    have resolves := blockOf_eq_ok.1 block
    -- one step down both trees: the join's derived table and its block
    obtain ⟨k, entered, found⟩ := Node.at?_cons.1 found
    obtain ⟨join, s, here, target, rfl⟩ := Node.derived?_eq_some.1 entered
    have numbered : (n.spec.joins.zipIdx 2)[i]? = some (join, 2 + i) := by
      rw [List.getElem?_zipIdx, here, Option.map_some]
    obtain ⟨clause, there, resolved⟩ := getElem?_of_forall₂ resolves.joins numbered
    have related := (clauseOf_eq_ok resolved).2
    dsimp only at related
    rw [target, relationOf] at related
    obtain ⟨nested, nestedBlock, related⟩ := bind_eq_ok.1 related
    have relation : clause.relation = .derived nested := (Except.ok.inj related).symm
    have derived : b.derived? i = some nested := by
      rw [Block.derived?, there, Option.bind_some, relation]
    have block : (n.enter s).block options (level + 1) = .ok nested := nestedBlock
    obtain ⟨b', outer', chained, block', mirrored'⟩ :=
      ih block (.cons (mirrors_of_resolves resolves) mirrored) found
    refine ⟨b', outer', ?_, ?_, mirrored'⟩
    · rw [Block.chainAt, derived]
      exact chained
    · rw [List.length_cons, Nat.add_comm path.length 1, ← Nat.add_assoc]
      exact block'

/-- The SQL of a spec is the text of a tree of blocks.  The block at the path of a node introduces
    the tables of its spec, and each column, filter and order is written behind the alias that its
    reference was resolved to.  That alias denotes the table it was resolved to unless the spec or
    one in between has as many tables as the alias's number. -/
theorem alias_denotes_iff_clear {options : Options} {s : Spec} {sql : String}
    (h : compile options s = .ok sql) :
    ∃ root : Block, sql = tokensText (root.tokens 0) ∧
      ∀ path n, (Node.root s).at? path = some n →
        ∃ b outer, Block.chainAt [] root path = some (b :: outer) ∧
          List.Forall₂ Mirrors (b :: outer) n.chain ∧
          List.Forall₂ (fun c selected => Reads n (b :: outer) c.table c.column selected.name)
            n.spec.columns b.columns ∧
          List.Forall₂ (fun f condition => Reads n (b :: outer) f.table f.column condition.name)
            n.spec.filters b.conditions ∧
          List.Forall₂ (fun o key => Reads n (b :: outer) o.table o.column key.name)
            n.spec.orders b.sortKeys := by
  rw [compile_eq] at h
  cases block : (Node.root s).block options 0 with
  | error e =>
    rw [block] at h
    cases h
  | ok root =>
    rw [block] at h
    refine ⟨root, (Except.ok.inj h).symm, ?_⟩
    intro path n found
    obtain ⟨b, outer, chained, block', mirrored⟩ := exists_chainAt block .nil found
    have resolves := blockOf_eq_ok.1 block'
    refine ⟨b, outer, chained, mirrored, ?_, ?_, ?_⟩
    · refine resolves.columns.imp ?_
      intro c selected resolved
      exact reads_of_stands mirrored (selectedOf_stands resolved)
    · refine resolves.conditions.imp ?_
      intro f condition resolved
      exact reads_of_stands mirrored (conditionOf_stands resolved)
    · refine resolves.sortKeys.imp ?_
      intro o key resolved
      exact reads_of_stands mirrored (sortKeyOf_stands resolved)

/-- Users with their regions, joined with the orders of European users in European regions.  The
    nested spec filters by both tables of the enclosing one. -/
def europeanOrders : Spec where
  database := none
  isSubquery := false
  table := .primary "users"
  columns := [⟨.primary "users", "id", "Id", none⟩]
  joins := [
    ⟨.inner, .primary "users", "region_id", .table (.plain "regions"), "id"⟩,
    ⟨.inner, .primary "users", "id", .derived {
      database := none
      isSubquery := true
      table := .primary "orders"
      columns := [⟨.primary "orders", "user_id", "", none⟩]
      joins := []
      filters := [
        ⟨.plain "users", "origin", .eq, .string "EU"⟩,
        ⟨.plain "regions", "code", .eq, .string "EU"⟩]
      orders := [] }, "user_id"⟩]
  filters := []
  orders := []

/-- The SQL of `europeanOrders` as a tree. -/
def europeanOrdersBlock : Block where
  columns := [⟨none, ⟨"t1", "id"⟩, some "Id"⟩]
  database := none
  table := "users"
  joins := [
    ⟨.inner, .table none "regions", "t2", ⟨"t1", "region_id"⟩, ⟨"t2", "id"⟩⟩,
    ⟨.inner, .derived {
      columns := [⟨none, ⟨"t1", "user_id"⟩, none⟩]
      database := none
      table := "orders"
      joins := []
      conditions := [
        ⟨⟨"t1", "origin"⟩, .eq, .string "EU"⟩,
        ⟨⟨"t2", "code"⟩, .eq, .string "EU"⟩]
      sortKeys := [] }, "t3", ⟨"t1", "id"⟩, ⟨"t3", "user_id"⟩⟩]
  conditions := []
  sortKeys := []

theorem compile_europeanOrders :
    compile .default europeanOrders = .ok (tokensText (europeanOrdersBlock.tokens 0)) := by
  have block : (Node.root europeanOrders).block .default 0 = .ok europeanOrdersBlock := rfl
  rw [compile_eq, block]
  rfl

/-- The first filter of the nested spec is resolved to the users, and its alias denotes the
    orders. -/
theorem enclosing_primary_captured :
    compile .default europeanOrders = .ok (tokensText (europeanOrdersBlock.tokens 0)) ∧
      ∃ n b outer f condition, (Node.root europeanOrders).at? [1] = some n ∧
        Block.chainAt [] europeanOrdersBlock [1] = some (b :: outer) ∧
        n.spec.filters[0]? = some f ∧ b.conditions[0]? = some condition ∧
        locate n.scopes f.table = some (1, 1) ∧
        denoted (b :: outer) condition.name.source = some (0, 1) :=
  ⟨compile_europeanOrders, _, _, _, _, _, rfl, rfl, rfl, rfl, rfl, rfl⟩

/-- The second filter is resolved to the regions, which its alias denotes. -/
theorem enclosing_target_denoted :
    ∃ sql root b outer users regions, compile .default europeanOrders = .ok sql ∧
      sql = tokensText (Block.tokens 0 root) ∧
      Block.chainAt [] root [1] = some (b :: outer) ∧ b.conditions = [users, regions] ∧
      denoted (b :: outer) users.name.source ≠ some (1, 1) ∧
      denoted (b :: outer) regions.name.source = some (1, 2) := by
  obtain ⟨root, text, reads⟩ := alias_denotes_iff_clear compile_europeanOrders
  obtain ⟨b, outer, chained, -, -, filters, -⟩ := reads [1] _ rfl
  generalize conditions : b.conditions = written at filters
  cases filters with
  | @cons _ users _ _ first rest =>
    cases rest with
    | @cons _ regions _ _ second rest =>
      cases rest
      refine ⟨_, root, b, outer, users, regions, compile_europeanOrders, text, chained, conditions,
        ?_, ?_⟩
      · obtain ⟨-, l, k, found, -, denotes⟩ := first
        cases found
        intro right
        have further := denotes.1 right 0 (Nat.succ_pos 0) _ rfl
        exact absurd further (by decide)
      · obtain ⟨-, l, k, found, -, denotes⟩ := second
        cases found
        refine denotes.2 ?_
        intro i below s here
        obtain rfl : i = 0 := by omega
        cases here
        decide

end QueryDesk.Sql
