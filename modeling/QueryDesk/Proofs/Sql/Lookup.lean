import QueryDesk.Proofs.Sql.Node

/-!
# Looking references up

When a reference is found, where, and under which alias.
-/

namespace QueryDesk.Sql

open QueryDesk.Query

/-- A spec has a table of a name: its primary table or a join target. -/
def Offers (s : Spec) (name : String) : Prop :=
  s.table.table = name ∨ ∃ join ∈ s.joins, join.target.name = name

/-- A reference that a node can make: to its own primary table, or to a table of the node or of an
    enclosing one. -/
def Resolvable (n : Node) (ref : TableRef) : Prop :=
  ref.isPrimary = true ∨ ∃ s ∈ n.chain, Offers s ref.table

/-- A scope has exactly the tables of its spec. -/
theorem resolve_eq_none {s : Spec} {ref : TableRef} :
    (scopeOf s).resolve ref = none ↔ ref.isPrimary = false ∧ ¬ Offers s ref.table := by
  unfold scopeOf Scope.of Scope.resolve Offers
  cases ref.isPrimary with
  | true => simp
  | false =>
    rw [← List.mem_map (f := fun join : Join Spec => join.target.name)]
    dsimp only
    cases found : (s.joins.map (·.target.name)).idxOf? ref.table with
    | some i =>
      have member := List.isSome_idxOf?.1 (Option.isSome_of_eq_some found)
      simp only [Bool.false_eq_true, if_false, true_and, reduceCtorEq, false_iff]
      intro absent
      exact absent (.inr member)
    | none =>
      rw [List.idxOf?_eq_none_iff] at found
      simp [found]

/-- A reference that is found in a scope has the alias of the primary table or of a join. -/
theorem resolve_bounds {s : Spec} {ref : TableRef} {k : Nat}
    (found : (scopeOf s).resolve ref = some k) : 1 ≤ k ∧ k ≤ s.joins.length + 1 := by
  unfold scopeOf Scope.of Scope.resolve at found
  split at found
  · cases found
    omega
  split at found
  · rename_i i joined
    cases found
    obtain ⟨below, -⟩ := List.idxOf?_eq_some_iff.1 joined
    rw [List.length_map] at below
    omega
  · split at found
    · cases found
      omega
    · cases found

/-- A reference is found when one of the scopes has it. -/
theorem locate_eq_none {scopes : List Scope} {ref : TableRef} :
    locate scopes ref = none ↔ ∀ scope ∈ scopes, scope.resolve ref = none := by
  induction scopes with
  | nil => simp [locate]
  | cons scope outer ih =>
    rw [locate, List.forall_mem_cons]
    cases scope.resolve ref with
    | some k => simp
    | none => simp [ih]

theorem locate_node_eq_none {n : Node} {ref : TableRef} :
    locate n.scopes ref = none ↔ ¬ Resolvable n ref := by
  unfold Node.scopes Resolvable
  rw [locate_eq_none, List.forall_mem_map]
  simp only [resolve_eq_none]
  constructor
  · intro missing
    rintro (primary | ⟨s, member, offered⟩)
    · have := (missing n.spec (List.mem_cons_self ..)).1
      rw [primary] at this
      cases this
    · exact (missing s member).2 offered
  · intro missing s member
    refine ⟨?_, ?_⟩
    · rw [← Bool.not_eq_true]
      intro primary
      exact missing (.inl primary)
    · intro offered
      exact missing (.inr ⟨s, member, offered⟩)

/-- A reference is found in the innermost scope that has it. -/
theorem locate_eq_some {scopes : List Scope} {ref : TableRef} {l k : Nat} :
    locate scopes ref = some (l, k) ↔
      (∃ scope, scopes[l]? = some scope ∧ scope.resolve ref = some k) ∧
        ∀ i < l, ∀ scope, scopes[i]? = some scope → scope.resolve ref = none := by
  induction scopes generalizing l with
  | nil => simp [locate]
  | cons scope outer ih =>
    rw [locate]
    cases here : scope.resolve ref with
    | some k' =>
      constructor
      · intro h
        cases h
        exact ⟨⟨scope, rfl, here⟩, fun i below => absurd below (Nat.not_lt_zero i)⟩
      · rintro ⟨⟨found, position, resolved⟩, missing⟩
        cases l with
        | zero =>
          cases position
          rw [here] at resolved
          cases resolved
          rfl
        | succ l =>
          have := missing 0 (Nat.succ_pos l) scope rfl
          rw [here] at this
          cases this
    | none =>
      cases l with
      | zero =>
        constructor
        · intro h
          obtain ⟨⟨l', k'⟩, -, same⟩ := Option.map_eq_some_iff.1 h
          cases same
        · rintro ⟨⟨found, position, resolved⟩, -⟩
          cases position
          rw [here] at resolved
          cases resolved
      | succ l =>
        rw [Nat.forall_lt_succ_left, Option.map_eq_some_iff]
        simp [ih, here]

/-- A reference of a node is found in the scope of the node's spec or of one that encloses it. -/
theorem exists_resolve {n : Node} {ref : TableRef} {l k : Nat}
    (found : locate n.scopes ref = some (l, k)) :
    ∃ s, n.chain[l]? = some s ∧ (scopeOf s).resolve ref = some k := by
  obtain ⟨⟨scope, here, resolved⟩, -⟩ := locate_eq_some.1 found
  obtain ⟨s, at_l, rfl⟩ : ∃ s, n.chain[l]? = some s ∧ scopeOf s = scope := by
    simpa [Node.scopes] using here
  exact ⟨s, at_l, resolved⟩

end QueryDesk.Sql
