import QueryDesk.Sql.Scope

/-!
# Nodes of a spec tree

A node is a spec of a tree together with the specs that enclose it.  It is reached from the root
by a path, which names at each step the join whose derived table is entered.  A property of all
nodes is proved by induction on the depth of the tree: a derived table is less deep than the spec
that joins it.
-/

namespace QueryDesk.Sql

open QueryDesk.Query

/-- The scope of a spec. -/
def scopeOf (s : Spec) : Scope :=
  Scope.of s.table s.joins

/-- A spec of a tree with the specs that enclose it, the innermost first. -/
structure Node where
  spec : Spec
  outer : List Spec

namespace Node

/-- The root of a tree. -/
def root (s : Spec) : Node := ⟨s, []⟩

/-- A node's spec and those that enclose it, the innermost first. -/
def chain (n : Node) : List Spec := n.spec :: n.outer

/-- The scopes that the references of a node are looked up in. -/
def scopes (n : Node) : List Scope := n.chain.map scopeOf

/-- The node of a derived table that a node joins. -/
def enter (n : Node) (s : Spec) : Node := ⟨s, n.chain⟩

/-- The node of the derived table that is the target of the `i`-th join. -/
def derived? (n : Node) (i : Nat) : Option Node :=
  n.spec.joins[i]?.bind fun join =>
    match join.target with
    | .table _ => none
    | .derived s => some (n.enter s)

/-- The node at the end of a path. -/
def at? (n : Node) : List Nat → Option Node
  | [] => some n
  | i :: path => (n.derived? i).bind (·.at? path)

/-- A property of a node and of all nodes below it. -/
def Everywhere (P : Node → Prop) (n : Node) : Prop :=
  ∀ path m, n.at? path = some m → P m

/-- A property of a node or of some node below it. -/
def Somewhere (P : Node → Prop) (n : Node) : Prop :=
  ∃ path m, n.at? path = some m ∧ P m

theorem derived?_eq_some {n m : Node} {i : Nat} :
    n.derived? i = some m ↔
      ∃ join s, n.spec.joins[i]? = some join ∧ join.target = .derived s ∧ m = n.enter s := by
  unfold derived?
  cases n.spec.joins[i]? with
  | none => simp
  | some join =>
    rcases join with ⟨kind, localTable, localColumn, _ | s, referenceColumn⟩
    · simp
    · simp [eq_comm]

theorem at?_cons {n m : Node} {i : Nat} {path : List Nat} :
    n.at? (i :: path) = some m ↔ ∃ k, n.derived? i = some k ∧ k.at? path = some m := by
  rw [at?, Option.bind_eq_some_iff]

theorem everywhere_iff {P : Node → Prop} {n : Node} :
    n.Everywhere P ↔
      P n ∧ ∀ join ∈ n.spec.joins, ∀ s, join.target = .derived s → (n.enter s).Everywhere P := by
  constructor
  · intro h
    refine ⟨h [] n rfl, ?_⟩
    intro join member s target path m found
    obtain ⟨i, here⟩ := List.mem_iff_getElem?.1 member
    exact h (i :: path) m (at?_cons.2 ⟨_, derived?_eq_some.2 ⟨join, s, here, target, rfl⟩, found⟩)
  · rintro ⟨here, below⟩ path m found
    cases path with
    | nil =>
      cases found
      exact here
    | cons i path =>
      obtain ⟨k, entered, found⟩ := at?_cons.1 found
      obtain ⟨join, s, at_i, target, rfl⟩ := derived?_eq_some.1 entered
      exact below join (List.mem_of_getElem? at_i) s target path m found

theorem somewhere_of_here {P : Node → Prop} {n : Node} (h : P n) : n.Somewhere P :=
  ⟨[], n, rfl, h⟩

theorem somewhere_of_derived {P : Node → Prop} {n : Node} {join : Join Spec} {s : Spec}
    (member : join ∈ n.spec.joins) (target : join.target = .derived s)
    (h : (n.enter s).Somewhere P) : n.Somewhere P := by
  obtain ⟨path, m, found, holds⟩ := h
  obtain ⟨i, here⟩ := List.mem_iff_getElem?.1 member
  exact ⟨i :: path, m, at?_cons.2 ⟨_, derived?_eq_some.2 ⟨join, s, here, target, rfl⟩, found⟩,
    holds⟩

/-! ## Depth -/

theorem joinsDepth_le_iff {joins : List (Join Spec)} {bound : Nat} :
    Spec.joinsDepth joins ≤ bound ↔
      ∀ join ∈ joins, ∀ s, join.target = .derived s → s.depth + 1 ≤ bound := by
  induction joins with
  | nil => simp [Spec.joinsDepth]
  | cons join rest ih =>
    rw [Spec.joinsDepth, Nat.max_le, ih, List.forall_mem_cons]
    refine and_congr_left fun _ => ?_
    cases join.target with
    | table t => simp [Spec.targetDepth]
    | derived s =>
      rw [Spec.targetDepth, Nat.add_comm]
      constructor
      · intro h s' same
        cases same
        exact h
      · intro h
        exact h s rfl

/-- A spec is as deep as its deepest derived table, and one level more. -/
theorem depth_le_iff {s : Spec} {bound : Nat} :
    s.depth ≤ bound ↔
      ∀ join ∈ s.joins, ∀ t, join.target = .derived t → t.depth + 1 ≤ bound := by
  cases s with
  | mk database isSubquery table columns joins filters orders =>
    rw [Spec.depth]
    exact joinsDepth_le_iff

theorem depth_lt_of_derived {s t : Spec} {join : Join Spec} (member : join ∈ s.joins)
    (target : join.target = .derived t) : t.depth < s.depth :=
  depth_le_iff.1 (Nat.le_refl _) join member t target

/-- Induction over trees: a property of a node follows from that of its derived tables. -/
theorem induction {P : Node → Prop}
    (step : ∀ n, (∀ join ∈ n.spec.joins, ∀ s, join.target = .derived s → P (n.enter s)) → P n)
    (n : Node) : P n := by
  generalize bound : n.spec.depth = depth
  induction depth using Nat.strongRecOn generalizing n with
  | ind depth ih =>
    apply step
    intro join member s target
    exact ih _ (bound ▸ depth_lt_of_derived member target) (n.enter s) rfl

end Node

/-! ## Names -/

/-- A spec whose names, as far as they are written, are of a kind.  An empty database is not
    written, nor is the table of a reference. -/
structure Names (P : String → Prop) (s : Spec) : Prop where
  database : ∀ name, s.database = some name → name.isEmpty = false → P name
  table : P s.table.table
  columns : ∀ c ∈ s.columns, P c.column
  targets : ∀ join ∈ s.joins, ∀ t, join.target = .table t → P t.table
  joins : ∀ join ∈ s.joins, P join.localColumn ∧ P join.referenceColumn
  filters : ∀ f ∈ s.filters, P f.column
  orders : ∀ o ∈ s.orders, P o.column

end QueryDesk.Sql
