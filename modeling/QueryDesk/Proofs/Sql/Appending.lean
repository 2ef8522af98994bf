import QueryDesk.Proofs.Sql.Flattening

/-!
# Appending a join

A new join enlarges the scope of its spec, in which the references of the spec and of all derived
tables below it are looked up.  If none of them has the name of the new target, all of them keep
their alias: the SQL gains the clause of the new join, and the rest stays as it is.

The text of the clause is written out (`clauseText`).  The text around it is that of the resolved
spec, cut behind its joins.
-/

namespace QueryDesk.Sql

open QueryDesk.Query QueryDesk.Outcome

/-- None of the references of a node has a name, except for those to its primary table. -/
def Unnamed (options : Options) (name : String) (n : Node) : Prop :=
  ∀ ref ∈ references options n.spec, ref.isPrimary = false → ref.table ≠ name

/-- The tokens of a block up to the place of another join clause. -/
def Block.front (level : Nat) (b : Block) : List Token :=
  [.select] ++ selectedTokens level true b.columns ++ fromTokens level b.database b.table ++
    clauseTokens level b.joins

/-- The tokens of a block behind its join clauses. -/
def Block.back (level : Nat) (b : Block) : List Token :=
  conditionTokens level true b.conditions ++ sortTokens level true b.sortKeys

/-- A block with another join clause behind the last one. -/
def Block.append (b : Block) (clause : JoinClause Block) : Block :=
  { b with joins := b.joins ++ [clause] }

theorem tokens_front_back (level : Nat) (b : Block) :
    b.tokens level = b.front level ++ b.back level := by
  rw [Block.tokens_eq, Block.front, Block.back]
  simp only [List.append_assoc]

theorem tokens_append (level : Nat) (b : Block) (clause : JoinClause Block) :
    (b.append clause).tokens level =
      b.front level ++ clauseTokens level [clause] ++ b.back level := by
  rw [tokens_front_back, Block.front, Block.append, clauseTokens_append, Block.front, Block.back,
    Block.back]
  simp only [List.append_assoc]

/-! ## Scopes -/

section

variable {s : Spec} {join : Join Spec} {ref : TableRef}

/-- In a scope with another target a reference of another name means what it meant before. -/
theorem resolve_addJoin (unnamed : ref.isPrimary = false → ref.table ≠ join.target.name) :
    (scopeOf (s.addJoin join)).resolve ref = (scopeOf s).resolve ref := by
  unfold scopeOf Scope.of Scope.resolve
  cases flagged : ref.isPrimary with
  | true => rfl
  | false =>
    have different : join.target.name ≠ ref.table := (unnamed flagged).symm
    have targets : ((s.addJoin join).joins.map (·.target.name)).idxOf? ref.table =
        (s.joins.map (·.target.name)).idxOf? ref.table := by
      rw [Spec.addJoin, List.map_append]
      unfold List.idxOf?
      rw [List.findIdx?_append]
      simp [different]
    dsimp only
    rw [targets]
    rfl

theorem locate_addJoin (inner : List Scope)
    (unnamed : ref.isPrimary = false → ref.table ≠ join.target.name) :
    locate (inner ++ [scopeOf (s.addJoin join)]) ref = locate (inner ++ [scopeOf s]) ref := by
  induction inner with
  | nil => simp only [List.nil_append, locate, resolve_addJoin unnamed]
  | cons scope inner ih =>
    rw [List.cons_append, List.cons_append, locate, locate, ih]

theorem resolveAlias_addJoin (inner : List Scope)
    (unnamed : ref.isPrimary = false → ref.table ≠ join.target.name) :
    resolveAlias (inner ++ [scopeOf (s.addJoin join)]) ref =
      resolveAlias (inner ++ [scopeOf s]) ref := by
  rw [resolveAlias, resolveAlias, locate_addJoin inner unnamed]

theorem localAlias_addJoin {options : Options} (inner : List Scope)
    (unnamed : options.resolveLocals = true → ref.isPrimary = false →
      ref.table ≠ join.target.name) :
    localAlias options (inner ++ [scopeOf (s.addJoin join)]) ref =
      localAlias options (inner ++ [scopeOf s]) ref := by
  unfold localAlias
  by_cases resolved : options.resolveLocals = true
  · rw [if_pos resolved, if_pos resolved, resolveAlias_addJoin inner (unnamed resolved)]
  · rw [if_neg resolved, if_neg resolved]

end

/-! ## Blocks -/

/-- A derived table below a spec has the same block after another join. -/
theorem block_addJoin_below {options : Options} {level : Nat} {s : Spec} {join : Join Spec}
    (n : Node) (inner : List Spec) (below : n.outer = inner ++ [s])
    (unnamed : n.Everywhere (Unnamed options join.target.name)) :
    Node.block options level ⟨n.spec, inner ++ [s.addJoin join]⟩ = n.block options level := by
  induction n using Node.induction generalizing level inner with
  | step n ih =>
    obtain ⟨t, outer⟩ := n
    subst below
    obtain ⟨here, deeper⟩ := Node.everywhere_iff.1 unnamed
    obtain ⟨columns, filters, orders, locals⟩ := forall_mem_references.1 here
    have scopes (last : Spec) :
        Node.scopes ⟨t, inner ++ [last]⟩ = (t :: inner).map scopeOf ++ [scopeOf last] := by
      simp [Node.scopes, Node.chain]
    apply block_congr
    · exact .inl rfl
    · intro c member
      rw [scopes, scopes, resolveAlias_addJoin _ (columns c member)]
    · intro f member
      rw [scopes, scopes, resolveAlias_addJoin _ (filters f member)]
    · intro o member
      rw [scopes, scopes, resolveAlias_addJoin _ (orders o member)]
    · intro inside member
      rw [scopes, scopes, localAlias_addJoin _ (locals inside member)]
    · intro inside member u target
      exact ih inside member u target (t :: inner) rfl (deeper inside member u target)

/-- The block of a spec with another join is the block of the spec with the clause of that join. -/
theorem block_addJoin {options : Options} {s : Spec} {join : Join Spec} {b' : Block}
    (unnamed : (Node.root s).Everywhere (Unnamed options join.target.name))
    (block : (Node.root (s.addJoin join)).block options 0 = .ok b') :
    ∃ b clause, (Node.root s).block options 0 = .ok b ∧
      clauseOf options s.database [scopeOf (s.addJoin join)] 0 join (2 + s.joins.length) =
        .ok clause ∧
      b' = b.append clause := by
  obtain ⟨here, below⟩ := Node.everywhere_iff.1 unnamed
  obtain ⟨columns, filters, orders, locals⟩ := forall_mem_references.1 here
  have resolves : Resolves options [] 0 (s.addJoin join) b' := blockOf_eq_ok.1 block
  have selected := mapM_eq_ok.2 resolves.columns
  have conditions := mapM_eq_ok.2 resolves.conditions
  have sortKeys := mapM_eq_ok.2 resolves.sortKeys
  have clauses := mapM_eq_ok.2 resolves.joins
  have joined : (s.addJoin join).joins.zipIdx 2 =
      s.joins.zipIdx 2 ++ [(join, 2 + s.joins.length)] := by
    rw [Spec.addJoin, List.zipIdx_append]
    rfl
  rw [joined, List.mapM_append] at clauses
  obtain ⟨old, oldOk, clauses⟩ := bind_eq_ok.1 clauses
  obtain ⟨new, newOk, clauses⟩ := bind_eq_ok.1 clauses
  obtain ⟨clause, _, resolved, none, rfl⟩ := List.forall₂_cons_left_iff.1 (mapM_eq_ok.1 newOk)
  cases none
  have same : b' = Block.append ⟨b'.columns, s.database, s.table.table, old, b'.conditions,
      b'.sortKeys⟩ clause := by
    cases b'
    cases clauses
    cases resolves.database
    cases resolves.table
    rfl
  refine ⟨_, clause, ?_, resolved, same⟩
  refine blockOf_eq_ok.2 ⟨resolves.shallow, resolves.flagged, ?_, ?_, ?_, ?_, rfl, rfl⟩
  · rw [← mapM_eq_ok, ← selected]
    exact (selected_congr fun c member => resolveAlias_addJoin [] (columns c member)).symm
  · rw [← mapM_eq_ok, ← oldOk]
    refine (clauses_congr ?_ ?_).symm
    · exact fun inside member => localAlias_addJoin [] (locals inside member)
    · intro inside member t target
      exact block_addJoin_below ((Node.root s).enter t) [] rfl (below inside member t target)
  · rw [← mapM_eq_ok, ← conditions]
    exact (conditions_congr fun f member => resolveAlias_addJoin [] (filters f member)).symm
  · rw [← mapM_eq_ok, ← sortKeys]
    exact (sortKeys_congr fun o member => resolveAlias_addJoin [] (orders o member)).symm

/-! ## Texts -/

/-- The SQL of a resolved spec up to the place of another join: what is selected, the primary table
    and the joins. -/
def Resolved.front (r : Resolved) : String :=
  String.ofList (Resolved.write 0 { r with checks := [], sorting := [] } [])

/-- The SQL of a resolved spec behind its joins: the conditions and the sort order. -/
def Resolved.back (r : Resolved) : String :=
  String.ofList (writeChecks 0 true r.checks (writeSorting 0 true r.sorting []))

/-- The words of the kinds of joins. -/
def joinWord : JoinKind → String
  | .inner => "INNER"
  | .left => "LEFT"
  | .right => "RIGHT"
  | .outer => "OUTER"

/-- The SQL of what a spec joins: the name of a table, behind that of the spec's database if it has
    one, or the SQL of a derived table, which starts a level deeper and is put between
    parentheses. -/
def targetText (options : Options) (s : Spec) : Target Spec → String
  | .table t =>
    match s.database.filter fun name => !name.isEmpty with
    | none => t.table
    | some name => name ++ "." ++ t.table
  | .derived d =>
    "(\n  " ++ String.ofList ((resolvedAt options [scopeOf s] false d).write 1 []) ++ "\n)"

/-- The clause of a new join behind those of a spec, on a line of its own.  The left side is looked
    up in the scope that the new target is a part of. -/
def clauseText (options : Options) (s : Spec) (join : Join Spec) : String :=
  String.join ["\n", joinWord join.kind, " JOIN ",
    targetText options (s.addJoin join) join.target, " AS t", toString (2 + s.joins.length),
    " ON t", toString (leftNumber options [scopeOf (s.addJoin join)] join.localTable), ".",
    join.localColumn, " = t", toString (2 + s.joins.length), ".", join.referenceColumn]

theorem joinWord_eq (kind : JoinKind) : joinWord kind = kind.sql := by
  cases kind with
  | _ => rfl

/-- An alias is a letter and a number. -/
theorem aliasName_eq (n : Nat) : aliasName n = "t" ++ toString n := rfl

section

variable {options : Options}

theorem nestedWrites {level : Nat} (n : Node) (target : Target Spec) :
    NestedWrites options level n target :=
  fun t _ _ block rest => tokensChars_block (n.enter t) rest block

theorem resolved_eq (options : Options) (s : Spec) :
    resolved options s = ⟨s.database.filter fun name => !name.isEmpty, s.table.table,
      s.columns.map (outputOf [scopeOf s] !s.isSubquery), linksOf options [scopeOf s] s.joins,
      s.filters.map (checkOf [scopeOf s]), s.orders.map (sortedByOf [scopeOf s])⟩ := by
  cases s
  simp [resolved, resolvedAt, scopeOf]

variable {s : Spec} {b : Block} (block : (Node.root s).block options 0 = .ok b)

include block

theorem text_front : String.ofList (tokensChars (b.front 0)) = (resolved options s).front := by
  have resolves : Resolves options [] 0 s b := blockOf_eq_ok.1 block
  have nested : ∀ join ∈ s.joins, NestedWrites options 0 (Node.root s) join.target :=
    fun join _ => nestedWrites (Node.root s) join.target
  rw [Resolved.front, resolved_eq, Resolved.write, writeChecks, writeSorting, Block.front,
    resolves.database, resolves.table]
  simp only [tokensChars_append, List.append_assoc]
  rw [← List.append_nil (tokensChars (clauseTokens 0 b.joins)),
    tokensChars_clauseTokens [] nested resolves.joins, tokensChars_fromTokens,
    tokensChars_selectedTokens 0 true _ resolves.columns, ← qualifiedChars_filter,
    beq_self_eq_true, Bool.and_true]
  rfl

theorem text_back : String.ofList (tokensChars (b.back 0)) = (resolved options s).back := by
  have resolves : Resolves options [] 0 s b := blockOf_eq_ok.1 block
  rw [Resolved.back, resolved_eq, Block.back, tokensChars_append,
    ← List.append_nil (tokensChars (sortTokens 0 true b.sortKeys)),
    tokensChars_sortTokens 0 true [] resolves.sortKeys,
    tokensChars_conditionTokens 0 true _ resolves.conditions]

end

/-- What is joined is written as its text, whatever follows. -/
theorem writePartner_eq {options : Options} {s : Spec} {target : Target Spec}
    {relation : Relation Block}
    (related : relationOf options s.database [scopeOf s] 0 target = .ok relation)
    (rest : List Char) :
    writePartner 0 (s.database.filter fun name => !name.isEmpty)
        (partnerOf options [scopeOf s] target) rest =
      (targetText options s target).toList ++ rest := by
  cases target with
  | table t =>
    rw [partnerOf, writePartner, targetText]
    cases named : s.database.filter fun name => !name.isEmpty with
    | none => rfl
    | some name =>
      have shown : name.isEmpty = false := by
        simpa using (Option.filter_eq_some_iff.1 named).2
      simp [qualifiedChars, shown]
  | derived d =>
    obtain ⟨b, block, -⟩ := bind_eq_ok.1 related
    have written (after : List Char) : tokensChars (b.tokens 1) ++ after =
        (resolvedAt options [scopeOf s] false d).write 1 after :=
      tokensChars_block ((Node.root s).enter d) after block
    rw [partnerOf, writePartner, targetText, ← written, ← written]
    simp [newLine]

theorem text_clause {options : Options} {s : Spec} {join : Join Spec} {clause : JoinClause Block}
    (made : clauseOf options s.database [scopeOf (s.addJoin join)] 0 join (2 + s.joins.length) =
      .ok clause) :
    String.ofList (tokensChars (clauseTokens 0 [clause])) = clauseText options s join := by
  have nested : ∀ inside ∈ [join], NestedWrites options 0 (Node.root (s.addJoin join))
      inside.target :=
    fun inside _ => nestedWrites _ inside.target
  have written := tokensChars_clauseTokens [] nested (.cons made .nil)
  obtain ⟨left, -, made⟩ := bind_eq_ok.1 made
  obtain ⟨relation, related, -⟩ := bind_eq_ok.1 made
  have partner := writePartner_eq (s := s.addJoin join) related
  obtain ⟨kind, localTable, localColumn, target, referenceColumn⟩ := join
  rw [List.append_nil, linksOf, linksOf, writeLinks, writeLinks] at written
  apply String.toList_injective
  rw [String.toList_ofList, written, clauseText, joinWord_eq]
  simp only [aliasName_eq, newLine, Nat.mul_zero, List.replicate_zero, Mention.write,
    List.append_nil, List.cons_append, List.nil_append, String.join, List.foldl_cons,
    String.empty_append, List.foldl_nil, String.toList_append, String.reduceToList,
    List.append_assoc, List.cons.injEq, List.append_cancel_left_eq, true_and]
  exact partner _

/-- The SQL of a spec with another join is the SQL of the spec with one clause inserted, behind its
    last join clause and before its filters and orders, provided that no reference of the tree
    other than to a primary table has the name of the new target. -/
theorem compile_addJoin {options : Options} {s : Spec} {join : Join Spec} {sql : String}
    (unnamed : (Node.root s).Everywhere (Unnamed options join.target.name))
    (h : compile options (s.addJoin join) = .ok sql) :
    let r := resolved options s
    compile options s = .ok (r.front ++ r.back) ∧
      sql = r.front ++ clauseText options s join ++ r.back := by
  intro r
  obtain ⟨b', block', rfl⟩ := compile_eq_ok.1 h
  obtain ⟨b, clause, block, made, rfl⟩ := block_addJoin unnamed block'
  refine ⟨compile_eq_ok.2 ⟨b, block, ?_⟩, ?_⟩
  · rw [tokens_front_back, tokensText, tokensChars_append, String.ofList_append, text_front block,
      text_back block]
  · rw [tokens_append, tokensText, tokensChars_append, tokensChars_append, String.ofList_append,
      String.ofList_append, text_front block, text_back block, text_clause made]

/-- The clause of a plain table is one line. -/
example : clauseText ⟨1, true⟩ (Spec.ofTable "orders")
    ⟨.outer, .plain "orders", "id", .table (.plain "refunds"), "order_id"⟩ =
    "\nOUTER JOIN refunds AS t2 ON t1.id = t2.order_id" := by
  decide +kernel

/-- The items of an order that the order's customer has rated. -/
def ratedItems : Spec :=
  { Spec.ofTable "items" with
    columns := [⟨.primary "items", "order_id", "", none⟩]
    joins := [⟨.inner, .plain "customers", "id", .table (.plain "ratings"), "customer_id"⟩]
    filters := [⟨.plain "customers", "region", .eq, .string "EU"⟩] }

/-- The orders with their customers and rated items. -/
def ratedOrders : Spec :=
  { Spec.ofTable "orders" with
    columns := [
      ⟨.primary "orders", "id", "Order", none⟩,
      ⟨.plain "items", "order_id", "Items", some .count⟩]
    joins := [
      ⟨.inner, .primary "orders", "customer_id", .table (.plain "customers"), "id"⟩,
      ⟨.left, .primary "orders", "id", .derived ratedItems, "order_id"⟩]
    filters := [⟨.plain "customers", "name", .like, .string "O'Brien%"⟩]
    orders := [⟨.plain "orders", "placed", true⟩] }

/-- A join of the items with their refunds, which are named inside of it as well. -/
def refundedItems : Join Spec :=
  ⟨.left, .plain "items", "order_id", .derived
    { Spec.ofTable "refunds" with
      columns := [⟨.plain "refunds", "item_id", "", none⟩]
      filters := [⟨.plain "items", "price", .gt, .string "0"⟩] }, "item_id"⟩

/-- The clause of that join; a table of the enclosing spec is mentioned in its derived table. -/
def refundedClause : String :=
  "\nLEFT JOIN (\n  SELECT\n    t1.item_id\n  FROM refunds AS t1\n  WHERE\n    t3.price > '0'\n" ++
    ") AS t4 ON t3.order_id = t4.item_id"

theorem compile_refundedItems :
    let before := (resolved ⟨1, true⟩ ratedOrders).front
    let behind := (resolved ⟨1, true⟩ ratedOrders).back
    compile ⟨1, true⟩ ratedOrders = .ok (before ++ behind) ∧
      compile ⟨1, true⟩ (ratedOrders.addJoin refundedItems) =
        .ok (before ++ refundedClause ++ behind) := by
  have compiled : ∃ sql, compile ⟨1, true⟩ (ratedOrders.addJoin refundedItems) = .ok sql := by
    rw [compile_eq]
    exact ⟨_, rfl⟩
  obtain ⟨sql, compiled⟩ := compiled
  have unnamed : (Node.root ratedOrders).Everywhere
      (Unnamed ⟨1, true⟩ refundedItems.target.name) := by
    refine Node.everywhere_iff.2 ⟨by unfold Unnamed; decide, ?_⟩
    intro join member s target
    cases member with
    | head => cases target
    | tail _ member =>
      cases member with
      | head =>
        cases target
        refine Node.everywhere_iff.2 ⟨by unfold Unnamed; decide, ?_⟩
        intro join member s target
        cases member with
        | head => cases target
        | tail _ member => cases member
      | tail _ member => cases member
  have clause : clauseText ⟨1, true⟩ ratedOrders refundedItems = refundedClause := by
    decide +kernel
  obtain ⟨before, after⟩ := compile_addJoin unnamed compiled
  rw [clause] at after
  exact ⟨before, compiled.trans (congrArg Except.ok after)⟩

end QueryDesk.Sql
