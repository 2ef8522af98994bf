import QueryDesk.Proofs.Sql.Capture

/-!
# The left sides of ON clauses

With `resolveLocals` the left side of a join is looked up among all tables of its spec, those of
later joins included.  It is a table that stands before the join or one of an enclosing spec,
unless the first join with that name is the join itself or a later one.
-/

namespace QueryDesk.Sql

open QueryDesk.Query QueryDesk.Outcome

/-- The join at a position is the first one of a spec whose target has a name. -/
def FirstNamed (s : Spec) (name : String) (i : Nat) : Prop :=
  (∃ join, s.joins[i]? = some join ∧ join.target.name = name) ∧
    ∀ j < i, ∀ join, s.joins[j]? = some join → join.target.name ≠ name

/-- From the join at a position a reference looks ahead to a join: it is not flagged, and the first
    join of its name is that join, which is not an earlier one. -/
def LooksAhead (s : Spec) (i : Nat) (ref : TableRef) (j : Nat) : Prop :=
  ref.isPrimary = false ∧ i ≤ j ∧ FirstNamed s ref.table j

/-- A table that a node knows before the join at a position: one with an alias that the node has
    introduced so far, or one of a spec further out. -/
inductive KnownBefore (n : Node) (i : Nat) : Nat → Nat → Prop where
  | introduced {k : Nat} (positive : 1 ≤ k) (before : k ≤ i + 1) : KnownBefore n i 0 k
  | enclosing {l k : Nat} {s : Spec} (around : n.outer[l]? = some s) (positive : 1 ≤ k)
      (offered : k ≤ s.joins.length + 1) : KnownBefore n i (l + 1) k

/-! ## Scopes -/

theorem idxOf?_targets {s : Spec} {name : String} {i : Nat} :
    (s.joins.map (·.target.name)).idxOf? name = some i ↔ FirstNamed s name i := by
  unfold FirstNamed
  rw [List.idxOf?_eq_some_iff]
  constructor
  · rintro ⟨below, here, before⟩
    rw [List.length_map] at below
    rw [List.getElem_map] at here
    refine ⟨⟨s.joins[i], List.getElem?_eq_getElem below, here⟩, ?_⟩
    intro j earlier join found
    obtain ⟨inside, rfl⟩ := List.getElem?_eq_some_iff.1 found
    have different := before j earlier
    rw [List.getElem_map] at different
    exact different
  · rintro ⟨⟨join, found, named⟩, before⟩
    obtain ⟨below, rfl⟩ := List.getElem?_eq_some_iff.1 found
    refine ⟨by rwa [List.length_map], by rwa [List.getElem_map], ?_⟩
    intro j earlier
    rw [List.getElem_map]
    exact before j earlier _ (List.getElem?_eq_getElem (Nat.lt_trans earlier below))

/-- A reference that is not flagged means the first join of its name, if there is one. -/
theorem resolve_firstNamed {s : Spec} {ref : TableRef} {i : Nat} (plain : ref.isPrimary = false)
    (first : FirstNamed s ref.table i) : (scopeOf s).resolve ref = some (i + 2) := by
  have found := idxOf?_targets.2 first
  unfold scopeOf Scope.of Scope.resolve
  rw [plain, if_neg Bool.false_ne_true]
  dsimp only
  rw [found]

/-- A reference that is found in a scope means the primary table or the first join of its name. -/
theorem resolve_cases {s : Spec} {ref : TableRef} {k : Nat}
    (found : (scopeOf s).resolve ref = some k) :
    k = 1 ∨ ∃ i, k = i + 2 ∧ ref.isPrimary = false ∧ FirstNamed s ref.table i := by
  unfold scopeOf Scope.of Scope.resolve at found
  split at found
  · exact .inl (Option.some.inj found).symm
  rename_i plain
  rw [Bool.not_eq_true] at plain
  split at found
  · rename_i i joined
    exact .inr ⟨i, (Option.some.inj found).symm, plain, idxOf?_targets.1 joined⟩
  · split at found
    · exact .inl (Option.some.inj found).symm
    · cases found

/-! ## Nodes -/

theorem locate_firstNamed {n : Node} {ref : TableRef} {i : Nat} (plain : ref.isPrimary = false)
    (first : FirstNamed n.spec ref.table i) : locate n.scopes ref = some (0, i + 2) := by
  have scopes : n.scopes = scopeOf n.spec :: n.outer.map scopeOf := rfl
  rw [scopes, locate, resolve_firstNamed plain first]

/-- What a node looks up without looking ahead, it knows already. -/
theorem knownBefore_of_locate {n : Node} {ref : TableRef} {i l k : Nat}
    (behind : ∀ j, ¬ LooksAhead n.spec i ref j) (found : locate n.scopes ref = some (l, k)) :
    KnownBefore n i l k := by
  obtain ⟨s, around, resolved⟩ := exists_resolve found
  obtain ⟨positive, offered⟩ := resolve_bounds resolved
  cases l with
  | zero =>
    obtain rfl : n.spec = s := Option.some.inj around
    refine .introduced positive ?_
    rcases resolve_cases resolved with rfl | ⟨j, rfl, plain, first⟩
    · omega
    · by_cases ahead : i ≤ j
      · exact absurd ⟨plain, ahead, first⟩ (behind j)
      · omega
  | succ l => exact .enclosing around positive offered

/-- The clause of the join at a position of a node.  On its left side stands the alias of the table
    that the local table is found to be.  Unless the local table looks ahead, the node knows that
    table before the join. -/
structure HangsOff (n : Node) (i : Nat) (join : Join Spec) (clause : JoinClause Block) :
    Prop where
  handle : clause.handle = aliasName (i + 2)
  left : ∃ l k, locate n.scopes join.localTable = some (l, k) ∧
    clause.left = ⟨aliasName k, join.localColumn⟩ ∧
    ((∀ j, ¬ LooksAhead n.spec i join.localTable j) → KnownBefore n i l k) ∧
    ∀ j, LooksAhead n.spec i join.localTable j → l = 0 ∧ k = j + 2

theorem hangsOff_of_clauseOf {n : Node} {bound level i : Nat} {database : Option String}
    {join : Join Spec} {clause : JoinClause Block}
    (h : clauseOf ⟨bound, true⟩ database n.scopes level join (2 + i) = .ok clause) :
    HangsOff n i join clause := by
  rw [Nat.add_comm] at h
  refine ⟨(clauseOf_eq_ok h).1, ?_⟩
  obtain ⟨left, resolved, h⟩ := bind_eq_ok.1 h
  obtain ⟨relation, -, h⟩ := bind_eq_ok.1 h
  cases h
  rw [localAlias, if_pos rfl] at resolved
  obtain ⟨l, k, found, rfl⟩ := resolveAlias_eq_ok.1 resolved
  refine ⟨l, k, found, rfl, ?_, ?_⟩
  · intro behind
    exact knownBefore_of_locate behind found
  · rintro j ⟨plain, -, first⟩
    rw [locate_firstNamed plain first] at found
    cases found
    exact ⟨rfl, rfl⟩

/-- With `resolveLocals` the left side of every ON clause is a column of a table that stands before
    the join or in an enclosing spec, except where the local table is named like the join's own
    target or a later one and like no earlier one: then it is a column of the first such target. -/
theorem compile_hangs_off {bound : Nat} {s : Spec} {sql : String}
    (h : compile ⟨bound, true⟩ s = .ok sql) :
    ∃ root : Block, sql = tokensText (root.tokens 0) ∧
      ∀ path n, (Node.root s).at? path = some n →
        ∃ b outer, Block.chainAt [] root path = some (b :: outer) ∧
          List.Forall₂ Mirrors (b :: outer) n.chain ∧
          ∀ i join, n.spec.joins[i]? = some join →
            ∃ clause, b.joins[i]? = some clause ∧ HangsOff n i join clause := by
  obtain ⟨root, block, rfl⟩ := compile_eq_ok.1 h
  refine ⟨root, rfl, ?_⟩
  intro path n found
  obtain ⟨b, outer, chained, block', mirrored⟩ := exists_chainAt block .nil found
  refine ⟨b, outer, chained, mirrored, ?_⟩
  intro i join here
  have numbered : (n.spec.joins.zipIdx 2)[i]? = some (join, 2 + i) := by
    rw [List.getElem?_zipIdx, here, Option.map_some]
  obtain ⟨clause, there, resolved⟩ :=
    getElem?_of_forall₂ (blockOf_eq_ok.1 block').joins numbered
  exact ⟨clause, there, hangsOff_of_clauseOf resolved⟩

/-- Users with invoices, orders and refunds.  Invoices and refunds both hang off the orders, which
    are joined between them.  The payments inside the refunds hang off the invoices outside. -/
def refundedUsers : Spec :=
  { Spec.ofTable "users" with
    columns := [⟨.primary "users", "email", "Email", none⟩]
    joins := [
      ⟨.left, .plain "orders", "invoice_id", .table (.plain "invoices"), "id"⟩,
      ⟨.inner, .primary "users", "id", .table (.plain "orders"), "user_id"⟩,
      ⟨.inner, .plain "orders", "id", .derived { Spec.ofTable "refunds" with
        columns := [⟨.primary "refunds", "order_id", "", none⟩]
        joins := [⟨.inner, .plain "invoices", "id", .table (.plain "payments"), "invoice_id"⟩] },
        "order_id"⟩] }

theorem refundedUsers_hangs_off :
    ∃ sql root b outer invoices orders refunds payments,
      compile ⟨1, true⟩ refundedUsers = .ok sql ∧ sql = tokensText (Block.tokens 0 root) ∧
      root.joins[0]? = some invoices ∧ invoices.left = ⟨aliasName 3, "invoice_id"⟩ ∧
      root.joins[1]? = some orders ∧ orders.left = ⟨aliasName 1, "id"⟩ ∧
      root.joins[2]? = some refunds ∧ refunds.left = ⟨aliasName 3, "id"⟩ ∧
      Block.chainAt [] root [2] = some (b :: outer) ∧
      b.joins[0]? = some payments ∧ payments.left = ⟨aliasName 2, "id"⟩ := by
  have compiled : ∃ sql, compile ⟨1, true⟩ refundedUsers = .ok sql := by
    rw [compile_eq]
    exact ⟨_, rfl⟩
  obtain ⟨sql, compiled⟩ := compiled
  obtain ⟨root, text, hangs⟩ := compile_hangs_off compiled
  obtain ⟨_, _, here, -, clauses⟩ := hangs [] _ rfl
  cases here
  obtain ⟨b, outer, chained, -, nested⟩ := hangs [2] _ rfl
  obtain ⟨invoices, first, hung⟩ := clauses 0 _ rfl
  obtain ⟨_, _, found, invoices_left, -, -⟩ := hung.left
  cases found
  obtain ⟨orders, second, hung⟩ := clauses 1 _ rfl
  obtain ⟨_, _, found, orders_left, -, -⟩ := hung.left
  cases found
  obtain ⟨refunds, third, hung⟩ := clauses 2 _ rfl
  obtain ⟨_, _, found, refunds_left, -, -⟩ := hung.left
  cases found
  obtain ⟨payments, only, hung⟩ := nested 0 _ rfl
  obtain ⟨_, _, found, payments_left, -, -⟩ := hung.left
  cases found
  exact ⟨sql, root, b, outer, invoices, orders, refunds, payments, compiled, text, first,
    invoices_left, second, orders_left, third, refunds_left, chained, only, payments_left⟩

/-- Employees with their managers, who are employees. -/
def managedStaff : Spec :=
  { Spec.ofTable "employees" with
    columns := [
      ⟨.primary "employees", "name", "Employee", none⟩,
      ⟨.plain "employees", "name", "Manager", none⟩]
    joins := [
      ⟨.left, .plain "employees", "manager_id", .table (.plain "employees"), "id"⟩] }

/-- The SQL of `managedStaff` as a tree. -/
def managedStaffBlock : Block where
  columns := [⟨none, ⟨"t1", "name"⟩, some "Employee"⟩, ⟨none, ⟨"t2", "name"⟩, some "Manager"⟩]
  database := none
  table := "employees"
  joins := [⟨.left, .table none "employees", "t2", ⟨"t2", "manager_id"⟩, ⟨"t2", "id"⟩⟩]
  conditions := []
  sortKeys := []

/-- The managers are joined with themselves: both sides of the ON clause are columns of the join's
    own target. -/
theorem managedStaff_hangs_off_target :
    compile ⟨16, true⟩ managedStaff = .ok (tokensText (managedStaffBlock.tokens 0)) ∧
      ∃ join clause, managedStaff.joins[0]? = some join ∧
        managedStaffBlock.joins[0]? = some clause ∧ clause.left.source = clause.handle ∧
        clause.right.source = clause.handle ∧
        locate (Node.root managedStaff).scopes join.localTable = some (0, 2) ∧
        ¬ KnownBefore (Node.root managedStaff) 0 0 2 := by
  have block : (Node.root managedStaff).block ⟨16, true⟩ 0 = .ok managedStaffBlock := rfl
  refine ⟨compile_eq_ok.2 ⟨_, block, rfl⟩, _, _, rfl, rfl, rfl, rfl, rfl, ?_⟩
  rintro (⟨-, before⟩ | _)
  omega

end QueryDesk.Sql
