import QueryDesk.Proofs.Sql.Nesting

/-!
# Derived tables and plain ones

What a derived table adds to the SQL of a spec.  `flattened` puts a plain table of the same name in
its place.  The two texts agree up to that table and behind it, and where the one has the name the
other has the SQL of the derived spec, indented and between parentheses (`compile_flattened`): the
aliases do not depend on what a target is, and a spec that resolves on its own is not affected by
what encloses it.
-/

namespace QueryDesk.Sql

open QueryDesk.Query QueryDesk.Outcome

/-! ## Replacing a target -/

/-- A spec with the target of its `k`-th join changed. -/
def retarget (k : Nat) (f : Target Spec → Target Spec) (s : Spec) : Spec :=
  { s with joins := s.joins.modify k fun join => { join with target := f join.target } }

/-- A join's target with a plain table in place of the derived one at a path below it. -/
def flatten : List Nat → Target Spec → Target Spec
  | [], target => .table (.plain target.name)
  | _ :: _, .table t => .table t
  | k :: path, .derived s => .derived (retarget k (flatten path) s)

/-- A spec with a plain table in place of the derived one at a path below its `k`-th join. -/
def flattened (k : Nat) (path : List Nat) (s : Spec) : Spec :=
  retarget k (flatten path) s

theorem name_flatten (path : List Nat) (target : Target Spec) :
    (flatten path target).name = target.name := by
  cases path with
  | nil => rfl
  | cons k path =>
    cases target with
    | table t => rfl
    | derived s => rfl

theorem scopeOf_retarget {k : Nat} {f : Target Spec → Target Spec}
    (named : ∀ target, (f target).name = target.name) (s : Spec) :
    scopeOf (retarget k f s) = scopeOf s := by
  have targets : (retarget k f s).joins.map (·.target.name) = s.joins.map (·.target.name) := by
    apply List.ext_getElem?
    intro i
    simp only [retarget, List.getElem?_map, List.getElem?_modify]
    cases s.joins[i]? with
    | none => rfl
    | some join =>
      by_cases same : k = i
      · simp [same, named]
      · simp [same]
  rw [scopeOf, Scope.of, targets]
  rfl

/-! ## Around a relation -/

/-- A block whose `k`-th join clause has another relation. -/
def Block.joining (k : Nat) (relation : Relation Block) (b : Block) : Block :=
  { b with joins := b.joins.modify k fun clause => { clause with relation } }

/-- The tokens of a block up to the relation of its `k`-th join clause. -/
def Block.head (level k : Nat) (b : Block) : List Token :=
  [.select] ++ selectedTokens level true b.columns ++ fromTokens level b.database b.table ++
    clauseTokens level (b.joins.take k) ++
    match b.joins[k]? with
    | none => []
    | some clause => line level ++ [.join clause.kind, .space]

/-- The tokens of a block behind the relation of its `k`-th join clause. -/
def Block.tail (level k : Nat) (b : Block) : List Token :=
  (match b.joins[k]? with
    | none => []
    | some clause =>
      onTokens clause.left.source clause.left.column clause.handle clause.right.column) ++
    clauseTokens level (b.joins.drop (k + 1)) ++ conditionTokens level true b.conditions ++
    sortTokens level true b.sortKeys

/-- The tokens of a block up to the relation at a path below its `k`-th join clause. -/
def Block.before (level k : Nat) : List Nat → Block → List Token
  | [], b => b.head level k
  | i :: path, b =>
    b.head level k ++ [.lparen] ++ line (level + 1) ++
      match b.derived? k with
      | none => []
      | some d => d.before (level + 1) i path

/-- The tokens of a block behind the relation at a path below its `k`-th join clause. -/
def Block.after (level k : Nat) : List Nat → Block → List Token
  | [], b => b.tail level k
  | i :: path, b =>
    (match b.derived? k with
      | none => []
      | some d => d.after (level + 1) i path) ++ line level ++ [.rparen] ++ b.tail level k

section

variable {level k : Nat} {b : Block} {clause : JoinClause Block}

theorem clauseTokens_append (level : Nat) (clauses clauses' : List (JoinClause Block)) :
    clauseTokens level (clauses ++ clauses') =
      clauseTokens level clauses ++ clauseTokens level clauses' := by
  induction clauses with
  | nil => simp [clauseTokens]
  | cons clause clauses ih =>
    rw [List.cons_append, clauseTokens, clauseTokens, ih]
    simp only [List.append_assoc]

/-- A block is written as a relation with what is around it. -/
theorem tokens_split (level : Nat) (here : b.joins[k]? = some clause) :
    b.tokens level =
      b.head level k ++ relationTokens level clause.relation ++ b.tail level k := by
  obtain ⟨inside, rfl⟩ := List.getElem?_eq_some_iff.1 here
  have split : b.joins = b.joins.take k ++ b.joins[k] :: b.joins.drop (k + 1) := by
    rw [← List.drop_eq_getElem_cons inside, List.take_append_drop]
  rw [Block.tokens_eq, Block.head, Block.tail, here]
  conv_lhs => rw [split, clauseTokens_append, clauseTokens]
  simp only [List.append_assoc]

theorem head_joining (level k : Nat) (relation : Relation Block) (b : Block) :
    (b.joining k relation).head level k = b.head level k := by
  have clauses : (b.joining k relation).joins.take k = b.joins.take k := by
    rw [Block.joining, List.take_modify, List.modify_eq_self (List.length_take_le k b.joins)]
  rw [Block.head, Block.head, clauses, Block.joining, List.getElem?_modify]
  cases b.joins[k]? with
  | none => rfl
  | some clause => simp

theorem tail_joining (level k : Nat) (relation : Relation Block) (b : Block) :
    (b.joining k relation).tail level k = b.tail level k := by
  have clauses : (b.joining k relation).joins.drop (k + 1) = b.joins.drop (k + 1) := by
    rw [Block.joining, List.drop_modify_of_lt _ _ _ _ (Nat.lt_succ_self k)]
  rw [Block.tail, Block.tail, clauses, Block.joining, List.getElem?_modify]
  cases b.joins[k]? with
  | none => rfl
  | some clause => simp

theorem derived?_eq_some {d : Block} (here : b.joins[k]? = some clause)
    (relation : clause.relation = .derived d) : b.derived? k = some d := by
  rw [Block.derived?, here, Option.bind_some, relation]

theorem getElem?_joining (relation : Relation Block) (here : b.joins[k]? = some clause) :
    (b.joining k relation).joins[k]? = some { clause with relation } := by
  rw [Block.joining, List.getElem?_modify_eq, here]
  rfl

end

/-! ## Resolving with another target -/

theorem forall₂_zipIdx_modify {α β : Type} {R : α × Nat → β → Prop} {xs : List α} {ys : List β}
    {number k : Nat} {x : α} {f : α → α} {g : β → β}
    (h : List.Forall₂ R (xs.zipIdx number) ys) (here : xs[k]? = some x)
    (step : ∀ y, R (x, number + k) y → R (f x, number + k) (g y)) :
    List.Forall₂ R ((xs.modify k f).zipIdx number) (ys.modify k g) := by
  induction xs generalizing ys number k with
  | nil => cases here
  | cons x' xs ih =>
    cases h with
    | cons first rest =>
      cases k with
      | zero =>
        cases here
        exact .cons (step _ first) rest
      | succ k =>
        refine .cons first (ih rest here ?_)
        rw [Nat.add_right_comm]
        exact step

section

variable {options : Options} {level k : Nat} {n : Node} {b : Block} {join : Join Spec}

/-- The clause that a join resolves to. -/
theorem exists_clause (block : n.block options level = .ok b)
    (here : n.spec.joins[k]? = some join) :
    ∃ clause, b.joins[k]? = some clause ∧
      relationOf options n.spec.database n.scopes level join.target = .ok clause.relation := by
  have numbered : (n.spec.joins.zipIdx 2)[k]? = some (join, 2 + k) := by
    rw [List.getElem?_zipIdx, here]
    rfl
  obtain ⟨clause, found, resolved⟩ :=
    getElem?_of_forall₂ (blockOf_eq_ok.1 block).joins numbered
  obtain ⟨left, -, resolved⟩ := bind_eq_ok.1 resolved
  obtain ⟨relation, related, resolved⟩ := bind_eq_ok.1 resolved
  cases resolved
  exact ⟨_, found, related⟩

/-- With another target of the same name a spec has the same block, but for the relation. -/
theorem block_retarget {f : Target Spec → Target Spec} {relation : Relation Block}
    (named : ∀ target, (f target).name = target.name) (block : n.block options level = .ok b)
    (here : n.spec.joins[k]? = some join)
    (related : relationOf options n.spec.database n.scopes level (f join.target) = .ok relation) :
    (⟨retarget k f n.spec, n.outer⟩ : Node).block options level = .ok (b.joining k relation) := by
  have resolves := blockOf_eq_ok.1 block
  have scopes := scopeOf_retarget (k := k) named n.spec
  refine blockOf_eq_ok.2 ⟨resolves.shallow, resolves.flagged, ?_, ?_, ?_, ?_, resolves.database,
    resolves.table⟩
  · rw [scopes]
    exact resolves.columns
  · rw [scopes]
    refine forall₂_zipIdx_modify resolves.joins here ?_
    intro clause resolved
    obtain ⟨left, found, resolved⟩ := bind_eq_ok.1 resolved
    obtain ⟨old, -, resolved⟩ := bind_eq_ok.1 resolved
    cases resolved
    exact bind_eq_ok.2 ⟨left, found, bind_eq_ok.2 ⟨relation, related, rfl⟩⟩
  · rw [scopes]
    exact resolves.conditions
  · rw [scopes]
    exact resolves.sortKeys

end

/-- What a spec resolves to with a plain table in place of the derived one at a path: a block whose
    tokens are the same around that table. -/
structure Flattens (options : Options) (level k : Nat) (path : List Nat) (n m : Node)
    (parent : Spec) (b u : Block) (d : Block) : Prop where
  block : (⟨flattened k path n.spec, n.outer⟩ : Node).block options level = .ok u
  derived : m.block options (level + path.length + 1) = .ok d
  before : u.before level k path = b.before level k path
  after : u.after level k path = b.after level k path
  plain : u.tokens level = u.before level k path ++
    [.qualified parent.database m.spec.table.table] ++ u.after level k path
  nested : b.tokens level = b.before level k path ++
    relationTokens (level + path.length) (.derived d) ++ b.after level k path

theorem exists_flattens {options : Options} {level k : Nat} {path : List Nat} {n : Node}
    {s parent : Spec} {outer : List Spec} {b : Block} (block : n.block options level = .ok b)
    (found : n.at? (k :: path) = some ⟨s, parent :: outer⟩) :
    ∃ u d, Flattens options level k path n ⟨s, parent :: outer⟩ parent b u d := by
  induction path generalizing level k n b with
  | nil =>
    obtain ⟨m, entered, found⟩ := Node.at?_cons.1 found
    cases found
    obtain ⟨join, s', here, target, same⟩ := Node.derived?_eq_some.1 entered
    cases same
    obtain ⟨clause, clauses, related⟩ := exists_clause block here
    rw [target, relationOf] at related
    obtain ⟨d, derived, related⟩ := bind_eq_ok.1 related
    have relation : clause.relation = .derived d := (Except.ok.inj related).symm
    have plain : relationOf options n.spec.database n.scopes level (flatten [] join.target) =
        .ok (.table n.spec.database s.table.table) := by
      rw [target]
      rfl
    refine ⟨b.joining k (.table n.spec.database s.table.table), d, ?_⟩
    constructor
    · exact block_retarget (name_flatten []) block here plain
    · exact derived
    · exact head_joining level k _ b
    · exact tail_joining level k _ b
    · exact tokens_split level (getElem?_joining _ clauses)
    · have split := tokens_split level clauses
      rw [relation] at split
      exact split
  | cons i path ih =>
    obtain ⟨m, entered, found⟩ := Node.at?_cons.1 found
    obtain ⟨join, t, here, target, same⟩ := Node.derived?_eq_some.1 entered
    cases same
    obtain ⟨clause, clauses, related⟩ := exists_clause block here
    rw [target, relationOf] at related
    obtain ⟨inner, derived, related⟩ := bind_eq_ok.1 related
    have relation : clause.relation = .derived inner := (Except.ok.inj related).symm
    obtain ⟨u, d, flat⟩ := ih (n := n.enter t) derived found
    have flatter : relationOf options n.spec.database n.scopes level
        (flatten (i :: path) join.target) = .ok (.derived u) := by
      rw [target, flatten, relationOf]
      exact bind_eq_ok.2 ⟨u, flat.block, rfl⟩
    have inside := derived?_eq_some clauses relation
    have inside' := derived?_eq_some (getElem?_joining (.derived u) clauses) rfl
    have length : level + (i :: path).length = level + 1 + path.length := by
      rw [List.length_cons]
      omega
    refine ⟨b.joining k (.derived u), d, ?_⟩
    constructor
    · exact block_retarget (name_flatten (i :: path)) block here flatter
    · rw [length]
      exact flat.derived
    · simp only [Block.before, head_joining, inside, inside', flat.before]
    · simp only [Block.after, tail_joining, inside, inside', flat.after]
    · rw [tokens_split level (getElem?_joining (.derived u) clauses), relationTokens, flat.plain,
        Block.before, Block.after, inside']
      simp only [List.append_assoc]
    · rw [tokens_split level clauses, relation, relationTokens, flat.nested, length, Block.before,
        Block.after, inside]
      simp only [List.append_assoc]

/-! ## Texts -/

/-- The lines of a text between parentheses, which stand at a level of nesting. -/
def parenthesized (level : Nat) (text : List Char) : List Char :=
  ['(', '\n'] ++ indented (level + 1) text ++ newLine level [')']

theorem tokensChars_derived {level : Nat} {b : Block}
    (deeper : Deeper (level + 1) (b.tokens 0) (b.tokens (0 + (level + 1)))) :
    tokensChars (relationTokens level (.derived b)) =
      parenthesized level (tokensChars (b.tokens 0)) := by
  rw [Nat.zero_add] at deeper
  rw [relationTokens]
  simp only [tokensChars_append, List.append_assoc]
  rw [tokensChars_line, tokensChars_line, deeper]
  simp [parenthesized, newLine, indented]

/-- Inside of other specs a spec that compiles on its own has the block that it has then. -/
theorem block_of_alone {options : Options} {level : Nat} {s : Spec} {outer : List Spec}
    {b d : Block} (alone : (Node.root s.asSubquery).block options 0 = .ok b)
    (block : (⟨s, outer⟩ : Node).block options (level + 1) = .ok d) : d = b := by
  have depth : s.asSubquery.depth = s.depth := by
    cases s
    rfl
  have shallow : level + 1 + (Node.root s.asSubquery).spec.depth ≤ options.maxDepth := by
    rw [Node.root, depth]
    exact ((exists_block_iff ⟨s, outer⟩).1 ⟨d, block⟩).1
  have enclosed := block_enclosed _ outer alone shallow rfl
  rw [Node.block] at block
  rw [Node.block, Node.enclosed, Node.root, blockOf_asSubquery] at enclosed
  exact Except.ok.inj (block.symm.trans enclosed)

/-- A derived table is written as the SQL that its spec has on its own, indented and between
    parentheses; around it stands what stands around a plain table of the same name. -/
theorem compile_flattened {options : Options} {s n parent : Spec} {k : Nat} {path : List Nat}
    {outer : List Spec} {sql text : String}
    (found : (Node.root s).at? (k :: path) = some ⟨n, parent :: outer⟩)
    (unbroken : (Node.root n.asSubquery).Everywhere (Unbroken ·.spec))
    (whole : compile options s = .ok sql) (alone : compile options n.asSubquery = .ok text) :
    ∃ u x y, (Node.root (flattened k path s)).block options 0 = .ok u ∧
      x = tokensChars (u.before 0 k path) ∧ y = tokensChars (u.after 0 k path) ∧
      compile options (flattened k path s) =
        .ok (String.ofList (x ++ qualifiedChars parent.database n.table.table ++ y)) ∧
      sql = String.ofList (x ++ parenthesized path.length text.toList ++ y) := by
  obtain ⟨b, block, rfl⟩ := compile_eq_ok.1 whole
  obtain ⟨d, derived, rfl⟩ := compile_eq_ok.1 alone
  obtain ⟨u, d', flat⟩ := exists_flattens block found
  cases block_of_alone derived flat.derived
  have deeper := deeper_block (Node.root n.asSubquery) derived unbroken rfl (path.length + 1) 0
  refine ⟨u, _, _, flat.block, rfl, rfl, compile_eq_ok.2 ⟨u, flat.block, ?_⟩, ?_⟩
  · rw [tokensText, flat.plain]
    simp
  · rw [tokensText, flat.nested, flat.before, flat.after, Nat.zero_add, tokensText,
      String.toList_ofList, ← tokensChars_derived deeper]
    simp only [tokensChars_append]

/-- The items that were shipped. -/
def shippedItems : Spec :=
  { Spec.ofTable "items" with
    columns := [⟨.primary "items", "order_id", "order", none⟩]
    filters := [⟨.primary "items", "shipped", .ge, .date "2024-01-01"⟩] }

/-- The orders with shipped items, in a database of their own. -/
def shippedOrders : Spec :=
  { Spec.ofTable "orders" with
    database := some "shop"
    columns := [⟨.primary "orders", "user_id", "", none⟩]
    joins := [⟨.inner, .primary "orders", "id", .derived shippedItems, "order_id"⟩] }

/-- The users with their orders. -/
def servedUsers : Spec :=
  { Spec.ofTable "users" with
    columns := [⟨.primary "users", "name", "Name", none⟩]
    joins := [⟨.left, .primary "users", "id", .derived shippedOrders, "user_id"⟩] }

theorem unbroken_shippedItems : Unbroken shippedItems.asSubquery where
  names.database := by
    intro name same
    cases same
  names.table := by decide
  names.columns := by decide
  names.targets := List.forall_mem_nil _
  names.joins := List.forall_mem_nil _
  names.filters := by decide
  names.orders := List.forall_mem_nil _
  values := by decide

theorem compile_servedUsers :
    ∃ sql text x y, compile .default servedUsers = .ok sql ∧
      compile .default shippedItems.asSubquery = .ok text ∧
      compile .default (flattened 0 [0] servedUsers) =
        .ok (String.ofList (x ++ qualifiedChars (some "shop") "items" ++ y)) ∧
      sql = String.ofList (x ++ parenthesized 1 text.toList ++ y) := by
  have whole : ∃ sql, compile .default servedUsers = .ok sql := by
    rw [compile_eq]
    exact ⟨_, rfl⟩
  have alone : ∃ text, compile .default shippedItems.asSubquery = .ok text := by
    rw [compile_eq]
    exact ⟨_, rfl⟩
  obtain ⟨sql, whole⟩ := whole
  obtain ⟨text, alone⟩ := alone
  have unbroken : (Node.root shippedItems.asSubquery).Everywhere (Unbroken ·.spec) := by
    refine Node.everywhere_iff.2 ⟨unbroken_shippedItems, ?_⟩
    intro join member
    cases member
  have found : (Node.root servedUsers).at? [0, 0] =
      some ⟨shippedItems, [shippedOrders, servedUsers]⟩ := rfl
  obtain ⟨u, x, y, -, -, -, plain, nested⟩ := compile_flattened found unbroken whole alone
  exact ⟨sql, text, x, y, whole, alone, plain, nested⟩

end QueryDesk.Sql
