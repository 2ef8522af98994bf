import QueryDesk.Proofs.Sql.Block
import QueryDesk.Proofs.Sql.Lookup

/-!
# When a spec compiles

The compiler stops at the first thing that it cannot write.  Here it is told which trees compile,
and what each error says about the tree.
-/

namespace QueryDesk.Sql

open QueryDesk.Query QueryDesk.Outcome

variable {options : Options} {level : Nat}

/-- The references that are looked up at a spec: those of its columns, filters and orders, and with
    `resolveLocals` the local tables of its joins. -/
def references (options : Options) (s : Spec) : List TableRef :=
  s.columns.map (·.table) ++ s.filters.map (·.table) ++ s.orders.map (·.table) ++
    if options.resolveLocals then s.joins.map (·.localTable) else []

/-- What the compiler asks of a node. -/
structure Admissible (options : Options) (n : Node) : Prop where
  primary : n.spec.table.isPrimary = true
  targets : ∀ join ∈ n.spec.joins, ∀ t, join.target = .table t → t.isPrimary = false
  references : ∀ ref ∈ references options n.spec, Resolvable n ref

/-- What an error says about a tree whose root is at a level of nesting. -/
def Justified (options : Options) (level : Nat) (n : Node) : CompileError → Prop
  | .tooDeep max => max = options.maxDepth ∧ options.maxDepth < level + n.spec.depth
  | .unflaggedPrimary name => n.Somewhere fun m => m.spec.table = .plain name
  | .flaggedTarget name =>
    n.Somewhere fun m => ∃ join ∈ m.spec.joins, join.target = .table (.primary name)
  | .unresolved name =>
    n.Somewhere fun m => ∃ ref ∈ references options m.spec, ref.table = name ∧ ¬ Resolvable m ref

theorem exists_resolveAlias {n : Node} {ref : TableRef} :
    (∃ source, resolveAlias n.scopes ref = .ok source) ↔ Resolvable n ref := by
  rw [← not_iff_not, ← locate_node_eq_none]
  unfold resolveAlias
  cases locate n.scopes ref with
  | none => simp
  | some found => simp

theorem resolveAlias_eq_error {n : Node} {ref : TableRef} {e : CompileError} :
    resolveAlias n.scopes ref = .error e ↔ e = .unresolved ref.table ∧ ¬ Resolvable n ref := by
  rw [← locate_node_eq_none]
  unfold resolveAlias
  cases locate n.scopes ref with
  | none => simp [eq_comm]
  | some found => simp

/-! ## One spec -/

theorem exists_relationOf {database : Option String} {n : Node} {target : Target Spec} :
    (∃ relation, relationOf options database n.scopes level target = .ok relation) ↔
      (∀ t, target = .table t → t.isPrimary = false) ∧
        ∀ s, target = .derived s → ∃ b, (n.enter s).block options (level + 1) = .ok b := by
  cases target with
  | table t =>
    rw [relationOf]
    cases flagged : t.isPrimary with
    | false => simp [flagged]
    | true => simp [flagged]
  | derived s =>
    rw [relationOf, exists_bind_pure_eq_ok]
    constructor
    · intro found
      refine ⟨?_, ?_⟩
      · intro t same
        cases same
      · intro s' same
        cases same
        exact found
    · rintro ⟨-, found⟩
      exact found s rfl

theorem exists_localAlias {n : Node} {ref : TableRef} :
    (∃ source, localAlias options n.scopes ref = .ok source) ↔
      (options.resolveLocals = true → Resolvable n ref) := by
  unfold localAlias
  split
  · rename_i resolved
    rw [exists_resolveAlias]
    simp [resolved]
  · rename_i fixed
    simp [fixed]

theorem exists_clauseOf {database : Option String} {n : Node} {join : Join Spec} {number : Nat} :
    (∃ clause, clauseOf options database n.scopes level join number = .ok clause) ↔
      (options.resolveLocals = true → Resolvable n join.localTable) ∧
        ∃ relation, relationOf options database n.scopes level join.target = .ok relation := by
  unfold clauseOf
  rw [exists_bind_eq_ok, ← exists_localAlias]
  constructor
  · rintro ⟨left, resolved, h⟩
    exact ⟨⟨left, resolved⟩, exists_bind_pure_eq_ok.1 h⟩
  · rintro ⟨⟨left, resolved⟩, h⟩
    exact ⟨left, resolved, exists_bind_pure_eq_ok.2 h⟩

theorem forall_mem_references {s : Spec} {P : TableRef → Prop} :
    (∀ ref ∈ references options s, P ref) ↔
      (∀ c ∈ s.columns, P c.table) ∧ (∀ f ∈ s.filters, P f.table) ∧ (∀ o ∈ s.orders, P o.table) ∧
        ∀ join ∈ s.joins, options.resolveLocals = true → P join.localTable := by
  unfold references
  simp only [List.forall_mem_append, List.forall_mem_map, and_assoc]
  refine and_congr_right fun _ => and_congr_right fun _ => and_congr_right fun _ => ?_
  split
  · rename_i resolved
    simp [resolved]
  · rename_i fixed
    simp [fixed]

theorem forall_mem_zipIdx {α : Type} {xs : List α} {k : Nat} {P : α → Prop} :
    (∀ numbered ∈ xs.zipIdx k, P numbered.1) ↔ ∀ x ∈ xs, P x := by
  rw [← List.forall_mem_map (P := P), List.zipIdx_map_fst]

/-- A node has a block when its flag is set and each of its clauses resolves. -/
theorem exists_block_iff_clauses {n : Node} :
    (∃ b, n.block options level = .ok b) ↔
      level ≤ options.maxDepth ∧ n.spec.table.isPrimary = true ∧
        (∀ c ∈ n.spec.columns, ∃ selected,
          selectedOf n.scopes (!n.spec.isSubquery && level == 0) c = .ok selected) ∧
        (∀ numbered ∈ n.spec.joins.zipIdx 2, ∃ clause,
          clauseOf options n.spec.database n.scopes level numbered.1 numbered.2 = .ok clause) ∧
        (∀ f ∈ n.spec.filters, ∃ condition, conditionOf n.scopes f = .ok condition) ∧
        ∀ o ∈ n.spec.orders, ∃ key, sortKeyOf n.scopes o = .ok key := by
  simp only [← exists_mapM_eq_ok, mapM_eq_ok, Node.block, blockOf_eq_ok]
  constructor
  · rintro ⟨b, h⟩
    exact ⟨h.shallow, h.flagged, ⟨_, h.columns⟩, ⟨_, h.joins⟩, ⟨_, h.conditions⟩,
      ⟨_, h.sortKeys⟩⟩
  · rintro ⟨shallow, flagged, ⟨selected, columns⟩, ⟨clauses, joins⟩, ⟨conditions, filters⟩,
      ⟨sortKeys, orders⟩⟩
    exact ⟨⟨selected, n.spec.database, n.spec.table.table, clauses, conditions, sortKeys⟩, shallow,
      flagged, columns, joins, filters, orders, rfl, rfl⟩

/-- A node has a block when the node itself is as it should be and its derived tables have
    blocks. -/
theorem exists_block {n : Node} :
    (∃ b, n.block options level = .ok b) ↔
      level ≤ options.maxDepth ∧ Admissible options n ∧
        ∀ join ∈ n.spec.joins, ∀ s, join.target = .derived s →
          ∃ b, (n.enter s).block options (level + 1) = .ok b := by
  have clauses : (∀ numbered ∈ n.spec.joins.zipIdx 2, ∃ clause,
      clauseOf options n.spec.database n.scopes level numbered.1 numbered.2 = .ok clause) ↔
        (∀ join ∈ n.spec.joins, options.resolveLocals = true → Resolvable n join.localTable) ∧
          (∀ join ∈ n.spec.joins, ∀ t, join.target = .table t → t.isPrimary = false) ∧
            ∀ join ∈ n.spec.joins, ∀ s, join.target = .derived s →
              ∃ b, (n.enter s).block options (level + 1) = .ok b := by
    simp only [exists_clauseOf, exists_relationOf]
    rw [forall_mem_zipIdx (P := fun join : Join Spec =>
      (options.resolveLocals = true → Resolvable n join.localTable) ∧
        (∀ t, join.target = .table t → t.isPrimary = false) ∧
          ∀ s, join.target = .derived s → ∃ b, (n.enter s).block options (level + 1) = .ok b)]
    simp only [forall_and]
  rw [exists_block_iff_clauses, clauses]
  simp only [selectedOf, conditionOf, sortKeyOf, exists_bind_pure_eq_ok, exists_resolveAlias]
  constructor
  · rintro ⟨shallow, primary, columns, ⟨locals, targets, below⟩, filters, orders⟩
    exact ⟨shallow, ⟨primary, targets, forall_mem_references.2 ⟨columns, filters, orders, locals⟩⟩,
      below⟩
  · rintro ⟨shallow, ⟨primary, targets, resolvable⟩, below⟩
    obtain ⟨columns, filters, orders, locals⟩ := forall_mem_references.1 resolvable
    exact ⟨shallow, primary, columns, ⟨locals, targets, below⟩, filters, orders⟩

theorem relationOf_eq_error {database : Option String} {n : Node} {target : Target Spec}
    {e : CompileError} (h : relationOf options database n.scopes level target = .error e) :
    (∃ t, target = .table t ∧ t.isPrimary = true ∧ e = .flaggedTarget t.table) ∨
      ∃ s, target = .derived s ∧ (n.enter s).block options (level + 1) = .error e := by
  cases target with
  | table t =>
    rw [relationOf] at h
    split at h
    · rename_i flagged
      cases h
      exact .inl ⟨t, rfl, flagged, rfl⟩
    · cases h
  | derived s =>
    rw [relationOf] at h
    exact .inr ⟨s, rfl, bind_pure_eq_error.1 h⟩

theorem localAlias_eq_error {n : Node} {ref : TableRef} {e : CompileError}
    (h : localAlias options n.scopes ref = .error e) :
    options.resolveLocals = true ∧ e = .unresolved ref.table ∧ ¬ Resolvable n ref := by
  unfold localAlias at h
  split at h
  · rename_i resolved
    exact ⟨resolved, resolveAlias_eq_error.1 h⟩
  · cases h

/-- What made a node fail: nesting, the flag of its table, a reference, or the target of a join. -/
theorem block_eq_error {n : Node} {e : CompileError} (h : n.block options level = .error e) :
    (options.maxDepth < level ∧ e = .tooDeep options.maxDepth) ∨
      (n.spec.table.isPrimary = false ∧ e = .unflaggedPrimary n.spec.table.table) ∨
      (∃ ref ∈ references options n.spec, e = .unresolved ref.table ∧ ¬ Resolvable n ref) ∨
      ∃ join ∈ n.spec.joins,
        relationOf options n.spec.database n.scopes level join.target = .error e := by
  obtain ⟨columns, filters, orders, locals⟩ := forall_mem_references.1
    fun ref (member : ref ∈ references options n.spec) => member
  unfold Node.block at h
  rw [blockOf_eq] at h
  split at h
  · rename_i deep
    cases h
    exact .inl ⟨deep, rfl⟩
  split at h
  · rename_i unflagged
    cases h
    exact .inr (.inl ⟨by simpa using unflagged, rfl⟩)
  refine .inr (.inr ?_)
  rcases bind_eq_error.1 h with failed | ⟨selected, -, h⟩
  · obtain ⟨c, member, failed⟩ := mapM_eq_error failed
    exact .inl ⟨c.table, columns c member, resolveAlias_eq_error.1 (bind_pure_eq_error.1 failed)⟩
  rcases bind_eq_error.1 h with failed | ⟨clauses, -, h⟩
  · obtain ⟨⟨join, number⟩, member, failed⟩ := mapM_eq_error failed
    have joined : join ∈ n.spec.joins :=
      forall_mem_zipIdx (P := (· ∈ n.spec.joins)).2 (fun _ member => member) _ member
    rcases bind_eq_error.1 failed with failed | ⟨left, -, failed⟩
    · obtain ⟨resolved, unresolved⟩ := localAlias_eq_error failed
      exact .inl ⟨join.localTable, locals join joined resolved, unresolved⟩
    · exact .inr ⟨join, joined, bind_pure_eq_error.1 failed⟩
  rcases bind_eq_error.1 h with failed | ⟨conditions, -, h⟩
  · obtain ⟨f, member, failed⟩ := mapM_eq_error failed
    exact .inl ⟨f.table, filters f member, resolveAlias_eq_error.1 (bind_pure_eq_error.1 failed)⟩
  · obtain ⟨o, member, failed⟩ := mapM_eq_error (bind_pure_eq_error.1 h)
    exact .inl ⟨o.table, orders o member, resolveAlias_eq_error.1 (bind_pure_eq_error.1 failed)⟩

/-! ## Trees -/

/-- A tree has a block when it is not too deep and every node is as it should be. -/
theorem exists_block_iff (n : Node) :
    (∃ b, n.block options level = .ok b) ↔
      level + n.spec.depth ≤ options.maxDepth ∧ n.Everywhere (Admissible options) := by
  induction n using Node.induction generalizing level with
  | step n ih =>
    have below : (∀ join ∈ n.spec.joins, ∀ s, join.target = .derived s →
        ∃ b, (n.enter s).block options (level + 1) = .ok b) ↔
          ∀ join ∈ n.spec.joins, ∀ s, join.target = .derived s →
            level + 1 + s.depth ≤ options.maxDepth ∧
              (n.enter s).Everywhere (Admissible options) :=
      forall_congr' fun join => forall_congr' fun member => forall_congr' fun s =>
        forall_congr' fun target => ih join member s target
    rw [exists_block, below, Node.everywhere_iff]
    -- the level and the depth of what is below it add up to the same at every node
    constructor
    · rintro ⟨shallow, admissible, below⟩
      have depth : n.spec.depth ≤ options.maxDepth - level := by
        rw [Node.depth_le_iff]
        intro join member s target
        have := (below join member s target).1
        omega
      refine ⟨by omega, admissible, ?_⟩
      intro join member s target
      exact (below join member s target).2
    · rintro ⟨depth, admissible, below⟩
      refine ⟨by omega, admissible, ?_⟩
      intro join member s target
      have := Node.depth_lt_of_derived member target
      exact ⟨by omega, below join member s target⟩

/-- What is said of a derived table is said of the tree it stands in. -/
theorem justified_of_derived {n : Node} {join : Join Spec} {s : Spec} {e : CompileError}
    (member : join ∈ n.spec.joins) (target : join.target = .derived s)
    (h : Justified options (level + 1) (n.enter s) e) : Justified options level n e := by
  cases e with
  | tooDeep max =>
    have shallower : s.depth < n.spec.depth := Node.depth_lt_of_derived member target
    obtain ⟨bound, deep⟩ : max = options.maxDepth ∧ options.maxDepth < level + 1 + s.depth := h
    exact ⟨bound, by omega⟩
  | unflaggedPrimary name => exact Node.somewhere_of_derived member target h
  | flaggedTarget name => exact Node.somewhere_of_derived member target h
  | unresolved name => exact Node.somewhere_of_derived member target h

/-- An error tells the truth about the tree. -/
theorem justified_of_error (n : Node) {e : CompileError}
    (h : n.block options level = .error e) : Justified options level n e := by
  induction n using Node.induction generalizing level with
  | step n ih =>
    rcases block_eq_error h with ⟨deep, rfl⟩ | ⟨unflagged, rfl⟩ | ⟨ref, member, rfl, unresolvable⟩ |
      ⟨join, member, failed⟩
    · exact ⟨rfl, by omega⟩
    · exact Node.somewhere_of_here (congrArg (TableRef.mk _) unflagged)
    · exact Node.somewhere_of_here ⟨ref, member, rfl, unresolvable⟩
    · rcases relationOf_eq_error failed with ⟨t, target, flagged, rfl⟩ | ⟨s, target, failed⟩
      · refine Node.somewhere_of_here ⟨join, member, ?_⟩
        rw [target, TableRef.primary, ← flagged]
      · exact justified_of_derived member target (ih join member s target failed)

section

variable {options' : Options} {scopes scopes' : List Scope}

theorem selected_congr {labelled : Bool} {columns : List Column}
    (same : ∀ c ∈ columns, resolveAlias scopes' c.table = resolveAlias scopes c.table) :
    columns.mapM (selectedOf scopes' labelled) = columns.mapM (selectedOf scopes labelled) := by
  apply mapM_congr
  intro c member
  rw [selectedOf, selectedOf, same c member]

theorem conditions_congr {filters : List Filter}
    (same : ∀ f ∈ filters, resolveAlias scopes' f.table = resolveAlias scopes f.table) :
    filters.mapM (conditionOf scopes') = filters.mapM (conditionOf scopes) := by
  apply mapM_congr
  intro f member
  rw [conditionOf, conditionOf, same f member]

theorem sortKeys_congr {orders : List Order}
    (same : ∀ o ∈ orders, resolveAlias scopes' o.table = resolveAlias scopes o.table) :
    orders.mapM (sortKeyOf scopes') = orders.mapM (sortKeyOf scopes) := by
  apply mapM_congr
  intro o member
  rw [sortKeyOf, sortKeyOf, same o member]

theorem clauses_congr {database : Option String} {number : Nat} {joins : List (Join Spec)}
    (locals : ∀ join ∈ joins, localAlias options' scopes' join.localTable =
      localAlias options scopes join.localTable)
    (below : ∀ join ∈ joins, ∀ s, join.target = .derived s →
      blockOf options' scopes' (level + 1) s = blockOf options scopes (level + 1) s) :
    ((joins.zipIdx number).mapM fun numbered =>
      clauseOf options' database scopes' level numbered.1 numbered.2) =
        (joins.zipIdx number).mapM fun numbered =>
          clauseOf options database scopes level numbered.1 numbered.2 := by
  apply mapM_congr
  rintro ⟨join, number⟩ member
  have joined : join ∈ joins :=
    forall_mem_zipIdx (P := (· ∈ joins)).2 (fun _ member => member) _ member
  have relation : relationOf options' database scopes' level join.target =
      relationOf options database scopes level join.target := by
    cases target : join.target with
    | table t => rw [relationOf, relationOf]
    | derived s => rw [relationOf, relationOf, below join joined s target]
  rw [clauseOf, clauseOf, locals join joined, relation]

end

/-- A spec has the same block inside two chains of specs when its references are looked up alike and
    its derived tables have the same blocks. -/
theorem block_congr {options' : Options} {s : Spec} {outer outer' : List Spec}
    (bound : options'.maxDepth = options.maxDepth ∨
      level ≤ options.maxDepth ∧ level ≤ options'.maxDepth)
    (columns : ∀ c ∈ s.columns, resolveAlias (Node.scopes ⟨s, outer'⟩) c.table =
      resolveAlias (Node.scopes ⟨s, outer⟩) c.table)
    (filters : ∀ f ∈ s.filters, resolveAlias (Node.scopes ⟨s, outer'⟩) f.table =
      resolveAlias (Node.scopes ⟨s, outer⟩) f.table)
    (orders : ∀ o ∈ s.orders, resolveAlias (Node.scopes ⟨s, outer'⟩) o.table =
      resolveAlias (Node.scopes ⟨s, outer⟩) o.table)
    (locals : ∀ join ∈ s.joins,
      localAlias options' (Node.scopes ⟨s, outer'⟩) join.localTable =
        localAlias options (Node.scopes ⟨s, outer⟩) join.localTable)
    (below : ∀ join ∈ s.joins, ∀ t, join.target = .derived t →
      Node.block options' (level + 1) ⟨t, s :: outer'⟩ =
        Node.block options (level + 1) ⟨t, s :: outer⟩) :
    Node.block options' level ⟨s, outer'⟩ = Node.block options level ⟨s, outer⟩ := by
  have scopes (chain : List Spec) : scopeOf s :: chain.map scopeOf = Node.scopes ⟨s, chain⟩ := rfl
  unfold Node.block
  rw [blockOf_eq, blockOf_eq, scopes, scopes, selected_congr columns, conditions_congr filters,
    sortKeys_congr orders, clauses_congr locals below]
  rcases bound with same | ⟨shallow, shallow'⟩
  · rw [same]
  · rw [if_neg (Nat.not_lt.2 shallow), if_neg (Nat.not_lt.2 shallow')]

/-- Bounds that a tree keeps do not matter. -/
theorem block_eq_of_depth_le {options' : Options} (n : Node)
    (same : options'.resolveLocals = options.resolveLocals)
    (kept : level + n.spec.depth ≤ options.maxDepth)
    (kept' : level + n.spec.depth ≤ options'.maxDepth) :
    n.block options' level = n.block options level := by
  induction n using Node.induction generalizing level with
  | step n ih =>
    apply block_congr
    · exact .inr ⟨by omega, by omega⟩
    · exact fun _ _ => rfl
    · exact fun _ _ => rfl
    · exact fun _ _ => rfl
    · intro join member
      unfold localAlias
      rw [same]
    · intro join member s target
      have shallower := Node.depth_lt_of_derived member target
      have deeper : level + 1 + s.depth ≤ level + n.spec.depth := by omega
      exact ih join member s target (Nat.le_trans deeper kept) (Nat.le_trans deeper kept')

/-- A spec has SQL exactly when its derived tables nest no deeper than the bound and every node has
    its table flagged, no plain target flagged, and only references that resolve.  An error is true
    of the tree.  A bound that is kept does not matter. -/
theorem compile_verdict (options : Options) (s : Spec) :
    ((∃ sql, compile options s = .ok sql) ↔
      s.depth ≤ options.maxDepth ∧ (Node.root s).Everywhere (Admissible options)) ∧
    (∀ e, compile options s = .error e → Justified options 0 (Node.root s) e) ∧
    ∀ bound, s.depth ≤ options.maxDepth → s.depth ≤ bound →
      compile { options with maxDepth := bound } s = compile options s := by
  refine ⟨?_, ?_, ?_⟩
  · rw [← Nat.zero_add s.depth]
    refine Iff.trans ?_ (exists_block_iff (Node.root s))
    rw [compile_eq]
    cases (Node.root s).block options 0 with
    | error e => simp [Except.map]
    | ok b => simp [Except.map]
  · intro e h
    rw [compile_eq] at h
    cases failed : (Node.root s).block options 0 with
    | error e' =>
      rw [failed] at h
      cases h
      exact justified_of_error (Node.root s) failed
    | ok b =>
      rw [failed] at h
      cases h
  · intro bound kept kept'
    rw [← Nat.zero_add s.depth] at kept kept'
    have same : (Node.root s).block { options with maxDepth := bound } 0 =
        (Node.root s).block options 0 := block_eq_of_depth_le (Node.root s) rfl kept kept'
    rw [compile_eq, compile_eq, same]

end QueryDesk.Sql
