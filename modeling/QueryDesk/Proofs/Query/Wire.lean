import QueryDesk.Query.Wire
import QueryDesk.Proofs.Json.Codec
import QueryDesk.Proofs.Json.Number
import QueryDesk.Proofs.Json.Writer
import QueryDesk.Proofs.Sql.Node

/-!
# The JSON form of a spec is read back

The reader of specs takes the tree of a written spec to the spec if it may open what nests in the
tree (`reads_spec`).  A derived table takes three openings: of the list of joins, of the join and
of the nested spec.  What a spec has beside derived tables takes two openings to four, so that the
nesting of the tree tells the depth of the spec (`le_nesting_spec`, `nesting_spec_le`).

The one thing that may not survive is a number, which travels as text: the text of a double need not
be read as the double.  Specs are therefore asked to keep their numbers.
-/

namespace QueryDesk.Query

open QueryDesk.Json QueryDesk.Json.Reader QueryDesk.Sql QueryDesk.Text

/-- A property of a spec follows from that of its derived tables. -/
theorem Spec.induction {P : Spec → Prop}
    (step : ∀ s, (∀ join ∈ s.joins, ∀ t, join.target = .derived t → P t) → P s) (s : Spec) : P s :=
  Node.induction (P := fun n => P n.spec) (fun n below => step n.spec below) (Node.root s)

/-! ## Literals -/

/-- A number that its text is read as. -/
def Kept (x : Number) : Prop :=
  Number.parse? x.text = some x

/-- A spec whose numbers are kept, those of its derived tables included. -/
inductive KeepsNumbers : Spec → Prop
  | mk {s : Spec} (here : ∀ f ∈ s.filters, ∀ x, f.value = .number x → Kept x)
      (below : ∀ join ∈ s.joins, ∀ t, join.target = .derived t → KeepsNumbers t) : KeepsNumbers s

theorem dropWhile_visible {s : List Char} (visible : ∀ c ∈ s, isBlank c = false) :
    s.dropWhile isBlank = s := by
  cases s with
  | nil => rfl
  | cons c s =>
    rw [List.dropWhile_cons, visible c (List.mem_cons_self ..), if_neg Bool.false_ne_true]

theorem trim_visible {s : String} (visible : ∀ c ∈ s.toList, isBlank c = false) : trim s = s := by
  have backwards : ∀ c ∈ s.toList.reverse, isBlank c = false := by
    intro c member
    exact visible c (List.mem_reverse.1 member)
  rw [trim, dropWhile_visible visible, dropEndWhile, dropWhile_visible backwards,
    List.reverse_reverse, String.ofList_toList]

theorem isBlank_numeric {c : Char} (numeric : Numeric c) : isBlank c = false := by
  rcases numeric with digit | member
  · simp only [Char.isDigit, Bool.and_eq_true, decide_eq_true_eq] at digit
    have low : 48 ≤ c.toNat := digit.1
    have high : c.toNat ≤ 57 := digit.2
    simp only [isBlank, Bool.or_eq_false_iff, Bool.and_eq_false_iff, decide_eq_false_iff_not,
      beq_eq_false_iff_ne]
    omega
  · simp only [List.mem_cons, List.not_mem_nil, or_false] at member
    rcases member with rfl | rfl | rfl | rfl
    all_goals rfl

/-- The text of a literal stands for the literal, unless it is a number that is not kept. -/
theorem parse_raw_iff {literal : Literal} :
    Literal.parse literal.kind literal.raw = .ok literal ↔
      ∀ x, literal = .number x → Kept x := by
  cases literal with
  | string s => simp [Literal.kind, Literal.raw, Literal.parse]
  | date s => simp [Literal.kind, Literal.raw, Literal.parse]
  | number x =>
    have visible : ∀ c ∈ x.text.toList, isBlank c = false := by
      intro c member
      rw [Number.text, String.toList_ofList] at member
      exact isBlank_numeric (numeric_of_mem_chars member)
    simp only [Literal.kind, Literal.raw, Literal.parse, trim_visible visible, Literal.number.injEq,
      forall_eq', Kept]
    cases Number.parse? x.text with
    | none => simp
    | some y => simp
  | boolean b =>
    have parsed : Literal.parse .boolean (Literal.boolean b).raw = .ok (.boolean b) := by
      cases b with
      | true => rfl
      | false => rfl
    simpa [Literal.kind] using parsed

/-! ## Names -/

theorem lookup_kind (k : JoinKind) : JoinKind.names.lookup k.sql = some k := by
  cases k with
  | inner => rfl
  | left => rfl
  | right => rfl
  | outer => rfl

theorem lookup_aggregate (a : Aggregate) : Aggregate.names.lookup a.sql = some a := by
  cases a with
  | count => rfl
  | sum => rfl
  | avg => rfl
  | min => rfl
  | max => rfl

theorem lookup_comparison (c : Comparison) : Comparison.names.lookup c.sql = some c := by
  cases c with
  | eq => rfl
  | ne => rfl
  | lt => rfl
  | le => rfl
  | gt => rfl
  | ge => rfl
  | like => rfl
  | notLike => rfl

theorem lookup_literalKind (k : LiteralKind) : LiteralKind.names.lookup k.name = some k := by
  cases k with
  | string => rfl
  | date => rfl
  | number => rfl
  | boolean => rfl

/-! ## The trees of written specs -/

theorem joinsToJson_eq (joins : List (Join Spec)) : joinsToJson joins = joins.map Join.toJson := by
  induction joins with
  | nil => rw [joinsToJson, List.map_nil]
  | cons join rest ih =>
    rw [joinsToJson, ih, List.map_cons]
    rfl

theorem tree_tableRef (t : TableRef) :
    t.toJson.tree = .object
      [(some "table", .string (some t.table)), (some "isPrimary", .bool t.isPrimary)] true := by
  simp [TableRef.toJson, Value.tree, Value.memberTrees]

theorem tree_column (c : Column) :
    c.toJson.tree = .object
      ([(some "table", c.table.toJson.tree), (some "column", .string (some c.column)),
          (some "label", .string (some c.label))] ++
        c.aggregate.toList.map fun a => (some "aggregate", .string (some a.sql))) true := by
  cases h : c.aggregate with
  | none => simp [Column.toJson, Value.tree, Value.memberTrees, optionalMember, h]
  | some a => simp [Column.toJson, Value.tree, Value.memberTrees, optionalMember, h]

/-- The JSON form of a filter whose literal is given by kind and text. -/
def FilterForm.toJson (f : FilterForm) : Value :=
  .object [("table", f.table.toJson), ("field", .string f.field),
    ("operator", .string f.comparison.sql), ("type", .string f.kind.name),
    ("value", .string f.value)]

/-- The form that a filter is written in. -/
def Filter.form (f : Filter) : FilterForm :=
  ⟨f.table, f.column, f.comparison, f.value.kind, f.value.raw⟩

theorem toJson_form (f : Filter) : f.form.toJson = f.toJson := rfl

theorem tree_form (f : FilterForm) :
    f.toJson.tree = .object
      [(some "table", f.table.toJson.tree), (some "field", .string (some f.field)),
        (some "operator", .string (some f.comparison.sql)),
        (some "type", .string (some f.kind.name)),
        (some "value", .string (some f.value))] true := by
  simp [FilterForm.toJson, Value.tree, Value.memberTrees]

theorem tree_order (o : Order) :
    o.toJson.tree = .object
      [(some "table", o.table.toJson.tree), (some "column", .string (some o.column)),
        (some "descending", .bool o.descending)] true := by
  simp [Order.toJson, Value.tree, Value.memberTrees]

/-- A join writes its target under one of two names. -/
theorem tree_join (j : Join Spec) :
    j.toJson.tree = .object
      ([(some "type", .string (some j.kind.sql)), (some "localTable", j.localTable.toJson.tree),
          (some "localColumn", .string (some j.localColumn))] ++
        match j.target with
        | .table t => [(some "referenceTable", t.toJson.tree),
            (some "referenceColumn", .string (some j.referenceColumn))]
        | .derived s => [(some "referenceColumn", .string (some j.referenceColumn)),
            (some "subQuery", s.toJson.tree)]) true := by
  cases h : j.target with
  | table t =>
    simp [Join.toJson, h, targetToJson, joinMembers, optionalMember, Value.tree, Value.memberTrees]
  | derived s =>
    simp [Join.toJson, h, targetToJson, joinMembers, optionalMember, Value.tree, Value.memberTrees]

theorem toJson_spec (s : Spec) :
    s.toJson = .object (optionalMember "database" (s.database.map .string) ++
      [("isSubQuery", .bool s.isSubquery), ("table", s.table.toJson),
        ("columns", .array (s.columns.map Column.toJson)),
        ("joins", .array (s.joins.map Join.toJson)),
        ("filters", .array (s.filters.map Filter.toJson)),
        ("orders", .array (s.orders.map Order.toJson))]) := by
  cases s with
  | mk database isSubquery table columns joins filters orders => rw [Spec.toJson, joinsToJson_eq]

/-- The tree of a spec whose lists have the given trees. -/
def Spec.treeWith (s : Spec) (columns joins filters orders : List Tree) : Tree :=
  .object
    ((s.database.toList.map fun d => (some "database", .string (some d))) ++
      [(some "isSubQuery", .bool s.isSubquery), (some "table", s.table.toJson.tree),
        (some "columns", .array columns true), (some "joins", .array joins true),
        (some "filters", .array filters true), (some "orders", .array orders true)]) true

theorem tree_spec (s : Spec) :
    s.toJson.tree = s.treeWith (s.columns.map fun c => c.toJson.tree)
      (s.joins.map fun j => j.toJson.tree) (s.filters.map fun f => f.toJson.tree)
      (s.orders.map fun o => o.toJson.tree) := by
  rw [toJson_spec, Spec.treeWith]
  cases s.database with
  | none =>
    simp [optionalMember, Value.tree, Value.memberTrees, Value.itemTrees_eq, Function.comp_def]
  | some database =>
    simp [optionalMember, Value.tree, Value.memberTrees, Value.itemTrees_eq, Function.comp_def]

/-- No number is in the JSON form of a spec. -/
theorem numberless_spec (s : Spec) : s.toJson.numberless = true := by
  induction s using Spec.induction with
  | step s ih =>
    have columns : ∀ c ∈ s.columns, c.toJson.numberless = true := by
      rintro ⟨table, column, label, _ | a⟩ -
      · rfl
      · rfl
    have filters : ∀ f ∈ s.filters, f.toJson.numberless = true := by
      intro f _
      rfl
    have orders : ∀ o ∈ s.orders, o.toJson.numberless = true := by
      intro o _
      rfl
    have joins : ∀ j ∈ s.joins, j.toJson.numberless = true := by
      rintro ⟨kind, localTable, localColumn, t | t, referenceColumn⟩ member
      · rfl
      · have below : t.toJson.numberless = true := ih _ member t rfl
        simp [Join.toJson, targetToJson, joinMembers, optionalMember, Value.numberless,
          Value.membersNumberless, TableRef.toJson, below]
    rw [toJson_spec]
    cases s.database with
    | none =>
      simpa [optionalMember, Value.numberless, Value.membersNumberless,
        Value.itemsNumberless_iff, TableRef.toJson] using ⟨columns, joins, filters, orders⟩
    | some database =>
      simpa [optionalMember, Value.numberless, Value.membersNumberless,
        Value.itemsNumberless_iff, TableRef.toJson] using ⟨columns, joins, filters, orders⟩

/-! ## Reading back -/

variable {bound : Nat}

theorem reads_tableRef (t : TableRef) : Reads bound TableRef.reader t.toJson.tree t := by
  rw [tree_tableRef]
  have fills : Fills bound TableRef.shape
      [(some "table", .string (some t.table)), (some "isPrimary", .bool t.isPrimary)] []
      TableRef.shape.initial t :=
    .cons rfl rfl ((reads_text _).put _ _ _) <|
    .cons rfl rfl ((reads_bool _).put _ _ _) <|
    .nil rfl
  exact (Reads.record fills).mono (Nat.le_succ bound)

theorem reads_column (c : Column) : Reads bound Column.reader c.toJson.tree c := by
  rw [tree_column]
  apply Reads.mono _ (Nat.le_succ bound)
  apply Reads.record
  obtain ⟨table, column, label, _ | a⟩ := c
  · exact .cons rfl rfl ((reads_tableRef _).put _ _ _) <|
      .cons rfl rfl ((reads_text _).put _ _ _) <|
      .cons rfl rfl ((reads_text _).put _ _ _) <|
      .nil rfl
  · have aggregate : Reads bound (.option (.oneOf Aggregate.names)) _ (some a) :=
      (reads_oneOf (lookup_aggregate a)).option (by simp)
    exact .cons rfl rfl ((reads_tableRef _).put _ _ _) <|
      .cons rfl rfl ((reads_text _).put _ _ _) <|
      .cons rfl rfl ((reads_text _).put _ _ _) <|
      .cons rfl rfl (aggregate.put _ _ _) <|
      .nil rfl

theorem reads_filterForm (form : FilterForm) :
    Reads bound (.record FilterForm.shape) form.toJson.tree form := by
  rw [tree_form]
  apply Reads.mono _ (Nat.le_succ bound)
  apply Reads.record
  exact .cons rfl rfl ((reads_tableRef _).put _ _ _) <|
    .cons rfl rfl ((reads_text _).put _ _ _) <|
    .cons rfl rfl ((reads_oneOf (lookup_comparison _)).put _ _ _) <|
    .cons rfl rfl ((reads_oneOf (lookup_literalKind _)).put _ _ _) <|
    .cons rfl rfl ((reads_text _).put _ _ _) <|
    .nil rfl

/-- The form of a filter is read as the filter that it stands for. -/
theorem reads_form {form : FilterForm} {f : Filter} (checked : form.check = .ok f) :
    Reads bound Filter.reader form.toJson.tree f :=
  (reads_filterForm form).convert checked

theorem reads_filter (f : Filter) (kept : ∀ x, f.value = .number x → Kept x) :
    Reads bound Filter.reader f.toJson.tree f := by
  have checked : f.form.check = .ok f := by
    rw [FilterForm.check, Filter.form, parse_raw_iff.2 kept]
    rfl
  exact reads_form checked

theorem reads_order (o : Order) : Reads bound Order.reader o.toJson.tree o := by
  rw [tree_order]
  apply Reads.mono _ (Nat.le_succ bound)
  apply Reads.record
  exact .cons rfl rfl ((reads_tableRef _).put _ _ _) <|
    .cons rfl rfl ((reads_text _).put _ _ _) <|
    .cons rfl rfl ((reads_bool _).put _ _ _) <|
    .nil rfl

/-- A join is read back if its derived table is. -/
theorem reads_join {spec : Reader Spec} (j : Join Spec)
    (below : ∀ s, j.target = .derived s → Reads bound spec s.toJson.tree s) :
    Reads bound (Join.readerWith spec) j.toJson.tree j := by
  rw [tree_join]
  apply Reads.mono _ (Nat.le_succ bound)
  obtain ⟨kind, localTable, localColumn, t | s, referenceColumn⟩ := j
  · have target : Reads bound (.option TableRef.reader) _ (some t) :=
      (reads_tableRef t).option (by simp [tree_tableRef])
    have fills : Fills bound (JoinForm.shape spec)
        [(some "type", .string (some kind.sql)), (some "localTable", localTable.toJson.tree),
          (some "localColumn", .string (some localColumn)),
          (some "referenceTable", t.toJson.tree),
          (some "referenceColumn", .string (some referenceColumn))] []
        (JoinForm.shape spec).initial
        ⟨kind, localTable, localColumn, some t, referenceColumn, none⟩ :=
      .cons rfl rfl ((reads_oneOf (lookup_kind _)).put _ _ _) <|
      .cons rfl rfl ((reads_tableRef _).put _ _ _) <|
      .cons rfl rfl ((reads_text _).put _ _ _) <|
      .cons rfl rfl (target.put _ _ _) <|
      .cons rfl rfl ((reads_text _).put _ _ _) <|
      .nil rfl
    exact (Reads.record fills).convert rfl
  · have target := (below s rfl).option (by simp [tree_spec, Spec.treeWith])
    have fills : Fills bound (JoinForm.shape spec)
        [(some "type", .string (some kind.sql)), (some "localTable", localTable.toJson.tree),
          (some "localColumn", .string (some localColumn)),
          (some "referenceColumn", .string (some referenceColumn)),
          (some "subQuery", s.toJson.tree)] []
        (JoinForm.shape spec).initial
        ⟨kind, localTable, localColumn, none, referenceColumn, some s⟩ :=
      .cons rfl rfl ((reads_oneOf (lookup_kind _)).put _ _ _) <|
      .cons rfl rfl ((reads_tableRef _).put _ _ _) <|
      .cons rfl rfl ((reads_text _).put _ _ _) <|
      .cons rfl rfl ((reads_text _).put _ _ _) <|
      .cons rfl rfl (target.put _ _ _) <|
      .nil rfl
    exact (Reads.record fills).convert rfl

/-- A spec is read with one level more than its lists. -/
theorem reads_treeWith {s : Spec} {levels : Nat} {columns joins filters orders : List Tree}
    (readsColumns : Reads levels (.list Column.reader) (.array columns true) s.columns)
    (readsJoins : Reads levels (.list (Join.readerWith (Spec.readerUpTo levels)))
      (.array joins true) s.joins)
    (readsFilters : Reads levels (.list Filter.reader) (.array filters true) s.filters)
    (readsOrders : Reads levels (.list Order.reader) (.array orders true) s.orders) :
    Reads (levels + 1) (Spec.readerUpTo (levels + 1)) (s.treeWith columns joins filters orders)
      s := by
  rw [Spec.treeWith, Spec.readerUpTo]
  apply Reads.record
  obtain ⟨_ | database, isSubquery, table, _, _, _, _⟩ := s
  · exact .cons rfl rfl ((reads_bool _).put _ _ _) <|
      .cons rfl rfl ((reads_tableRef _).put _ _ _) <|
      .cons rfl rfl (readsColumns.put _ _ _) <|
      .cons rfl rfl (readsJoins.put _ _ _) <|
      .cons rfl rfl (readsFilters.put _ _ _) <|
      .cons rfl rfl (readsOrders.put _ _ _) <|
      .nil rfl
  · have named : Reads levels (.option .text) _ (some database) :=
      (reads_text database).option (by simp)
    exact .cons rfl rfl (named.put _ _ _) <|
      .cons rfl rfl ((reads_bool _).put _ _ _) <|
      .cons rfl rfl ((reads_tableRef _).put _ _ _) <|
      .cons rfl rfl (readsColumns.put _ _ _) <|
      .cons rfl rfl (readsJoins.put _ _ _) <|
      .cons rfl rfl (readsFilters.put _ _ _) <|
      .cons rfl rfl (readsOrders.put _ _ _) <|
      .nil rfl

/-- A spec is read back by a reader for more levels than openings. -/
theorem reads_spec {s : Spec} (kept : KeepsNumbers s) (levels : Nat) :
    Reads levels (Spec.readerUpTo levels) s.toJson.tree s := by
  induction kept generalizing levels with
  | @mk s here _ ih =>
    cases levels with
    | zero =>
      intro budget small
      cases small
    | succ levels =>
      have lower := Nat.le_succ levels
      rw [tree_spec]
      apply reads_treeWith
      · exact (Reads.list fun c _ => reads_column c).mono lower
      · have joins : ∀ j ∈ s.joins,
            Reads levels (Join.readerWith (Spec.readerUpTo levels)) j.toJson.tree j := by
          intro j member
          exact reads_join j fun t target => ih j member t target levels
        exact (Reads.list joins).mono lower
      · exact (Reads.list fun f member => reads_filter f (here f member)).mono lower
      · exact (Reads.list fun o _ => reads_order o).mono lower

/-! ## Nesting -/

theorem nesting_tableRef (t : TableRef) : t.toJson.tree.nesting = 1 := by
  simp [tree_tableRef, Tree.nesting, Tree.membersNesting]

/-- The depth of a spec counts for three openings a level. -/
theorem le_nesting_spec (s : Spec) : 3 * s.depth + 2 ≤ s.toJson.tree.nesting := by
  induction s using Spec.induction with
  | step s ih =>
    have table : s.table.toJson.tree.nesting < s.toJson.tree.nesting := by
      rw [tree_spec s, Spec.treeWith]
      exact Tree.nesting_lt_object (m := (some "table", s.table.toJson.tree)) true (by simp)
    rw [nesting_tableRef] at table
    -- the list of joins, the join and the derived table are three openings
    have deep : s.depth ≤ (s.toJson.tree.nesting - 2) / 3 := by
      rw [Node.depth_le_iff]
      intro join member t target
      have below : 3 * t.depth + 2 ≤ t.toJson.tree.nesting := ih join member t target
      have inJoin : t.toJson.tree.nesting < join.toJson.tree.nesting := by
        rw [tree_join]
        exact Tree.nesting_lt_object (m := (some "subQuery", _)) true (by simp [target])
      have inJoins : join.toJson.tree.nesting <
          (Tree.array (s.joins.map fun j => j.toJson.tree) true).nesting :=
        Tree.nesting_lt_array true (List.mem_map.2 ⟨join, member, rfl⟩)
      have inSpec : (Tree.array (s.joins.map fun j => j.toJson.tree) true).nesting <
          s.toJson.tree.nesting := by
        rw [tree_spec s, Spec.treeWith]
        exact Tree.nesting_lt_object (m := (some "joins", _)) true (by simp)
      omega
    omega

theorem nesting_column_le (c : Column) : c.toJson.tree.nesting ≤ 2 := by
  obtain ⟨table, column, label, _ | a⟩ := c
  · simp [tree_column, Tree.nesting, Tree.membersNesting, nesting_tableRef]
  · simp [tree_column, Tree.nesting, Tree.membersNesting, nesting_tableRef]

/-- A level takes three openings, and what is beside the derived tables up to four. -/
theorem nesting_spec_le (s : Spec) : s.toJson.tree.nesting ≤ 3 * s.depth + 4 := by
  induction s using Spec.induction with
  | step s ih =>
    have columns : ∀ c ∈ s.columns, c.toJson.tree.nesting ≤ 3 * s.depth + 2 := by
      intro c _
      have := nesting_column_le c
      omega
    have filters : ∀ f ∈ s.filters, f.toJson.tree.nesting ≤ 3 * s.depth + 2 := by
      intro f _
      simp [← toJson_form, tree_form, Tree.nesting, Tree.membersNesting, nesting_tableRef]
    have orders : ∀ o ∈ s.orders, o.toJson.tree.nesting ≤ 3 * s.depth + 2 := by
      intro o _
      simp [tree_order, Tree.nesting, Tree.membersNesting, nesting_tableRef]
    have joins : ∀ j ∈ s.joins, j.toJson.tree.nesting ≤ 3 * s.depth + 2 := by
      intro j member
      rw [tree_join]
      cases target : j.target with
      | table t => simp [Tree.nesting, Tree.membersNesting, nesting_tableRef]
      | derived t =>
        have below : t.toJson.tree.nesting ≤ 3 * t.depth + 4 := ih j member t target
        have shallower := Node.depth_lt_of_derived member target
        simp [Tree.nesting, Tree.membersNesting, nesting_tableRef]
        omega
    rw [tree_spec, Spec.treeWith, Tree.nesting_object_le_iff]
    cases s.database with
    | none =>
      simpa [Tree.nesting, Tree.itemsNesting_le_iff, nesting_tableRef] using
        ⟨columns, joins, filters, orders⟩
    | some database =>
      simpa [Tree.nesting, Tree.itemsNesting_le_iff, nesting_tableRef] using
        ⟨columns, joins, filters, orders⟩

end QueryDesk.Query
