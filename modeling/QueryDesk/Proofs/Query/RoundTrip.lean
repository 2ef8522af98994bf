import QueryDesk.Proofs.Json.Integer
import QueryDesk.Proofs.Query.Wire

/-!
# Which specs come back from their text

A text nests at most 127 arrays and objects, which is enough for derived tables that nest 41 deep.
The text of a deeper spec is malformed, and so no spec that was read is deeper: what was read is
read again from its own text (`specs_read_again`), unless a number was not kept (`price_changed`).
-/

namespace QueryDesk.Query

open QueryDesk.Json QueryDesk.Json.Reader QueryDesk.Sql QueryDesk.Text

/-- The text of a spec is read as the spec down to 41 levels of derived tables. -/
theorem parse_toJson {s : Spec} (kept : KeepsNumbers s) :
    Spec.parse s.toJson.render = if s.depth ≤ 41 then .ok s else .error .malformed := by
  have low := le_nesting_spec s
  have high := nesting_spec_le s
  have openings : s.toJson.tree.nesting ≤ maxNesting ↔ s.depth ≤ 41 := by
    rw [maxNesting]
    omega
  rw [Spec.parse, parse_of_isText _ (Value.isText_render _ (numberless_spec s)), Spec.reader,
    reads_spec kept _ maxNesting (Nat.lt_succ_self _)]
  simp only [openings]

/-! ## Specs that were read -/

variable {spec : Reader Spec} {budget : Nat}

theorem keeps_subquery : Keeps budget (JoinForm.shape spec).fields fun form =>
    ∀ s, form.subquery = some s → ∃ t, spec budget t = .ok s := by
  refine .cons (fun _ _ _ _ holds => holds) ?_
  refine .cons (fun _ _ _ _ holds => holds) ?_
  refine .cons (fun _ _ _ _ holds => holds) ?_
  refine .cons (fun _ _ _ _ holds => holds) ?_
  refine .cons (fun _ _ _ _ holds => holds) ?_
  refine .cons ?_ .nil
  rintro t subquery form was_read - s rfl
  exact ⟨t, option_eq_some was_read⟩

/-- The derived table of a join that was read was read inside it. -/
theorem derived_of_read {t : Tree} {join : Join Spec} {s : Spec}
    (h : Join.readerWith spec budget t = .ok join) (target : join.target = .derived s) :
    ∃ inner t', budget = inner + 1 ∧ spec inner t' = .ok s := by
  obtain ⟨form, read, checked⟩ := convert_eq_ok h
  obtain ⟨inner, rfl, -⟩ := record_eq_ok.1 read
  have nested : form.subquery = some s := by
    obtain ⟨kind, localTable, localColumn, _ | reference, referenceColumn, _ | subquery⟩ := form
    · cases checked
    · cases checked
      cases target
      rfl
    · cases checked
      cases target
    · cases checked
  have none_yet : ∀ s, (JoinForm.shape spec).initial.subquery = some s →
      ∃ t, spec inner t = .ok s := by
    intro s absent
    cases absent
  obtain ⟨t', below⟩ := record_induction read none_yet keeps_subquery s nested
  exact ⟨inner, t', rfl, below⟩

theorem keeps_joins : Keeps budget (Spec.shape spec).fields fun s =>
    ∀ join ∈ s.joins, ∀ t, join.target = .derived t →
      ∃ inner t', budget = inner + 2 ∧ spec inner t' = .ok t := by
  refine .cons (fun _ _ _ _ holds => holds) ?_
  refine .cons (fun _ _ _ _ holds => holds) ?_
  refine .cons (fun _ _ _ _ holds => holds) ?_
  refine .cons (fun _ _ _ _ holds => holds) ?_
  refine .cons ?_ ?_
  · intro t joins s was_read _ join member derived target
    obtain ⟨rest, ts, rfl, -, found⟩ := list_eq_ok was_read
    obtain ⟨u, read⟩ := items_eq_ok found join member
    obtain ⟨inner, t', rfl, below⟩ := derived_of_read read target
    exact ⟨inner, t', rfl, below⟩
  refine .cons (fun _ _ _ _ holds => holds) ?_
  exact .cons (fun _ _ _ _ holds => holds) .nil

/-- A spec that was read took three openings a level, and two more. -/
theorem depth_of_read {levels budget : Nat} {t : Tree} {s : Spec}
    (h : Spec.readerUpTo levels budget t = .ok s) : 3 * s.depth + 2 ≤ budget := by
  induction levels generalizing budget t s with
  | zero => cases h
  | succ levels ih =>
    rw [Spec.readerUpTo] at h
    obtain ⟨rest, rfl, -⟩ := record_eq_ok.1 h
    -- a spec without joins has its table to read, which is an object or an array of its own
    have opened : 0 < rest := by
      have named : (Spec.shape (Spec.readerUpTo levels)).fields.find? (·.name == "table") =
          some (.needed "table" TableRef.reader fun v r => { r with table := v }) := rfl
      obtain ⟨t, set, put⟩ := exists_put h named rfl
      obtain ⟨table, was_read, -⟩ := put_eq_ok put
      obtain ⟨inner, rfl, -⟩ := record_eq_ok.1 was_read
      exact Nat.succ_pos inner
    have none_yet : ∀ join ∈ (Spec.shape (Spec.readerUpTo levels)).initial.joins, ∀ t,
        join.target = .derived t →
          ∃ inner t', rest = inner + 2 ∧ Spec.readerUpTo levels inner t' = .ok t := by
      intro join member
      cases member
    have deep : s.depth ≤ (rest - 1) / 3 := by
      rw [Node.depth_le_iff]
      intro join member t target
      obtain ⟨inner, t', rfl, read⟩ := record_induction h none_yet keeps_joins join member t target
      have below := ih read
      omega
    omega

/-- No text has a spec whose derived tables nest deeper than 41 levels. -/
theorem depth_of_parse {text : String} {s : Spec} (h : Spec.parse text = .ok s) : s.depth ≤ 41 := by
  obtain ⟨t, -, read⟩ := parse_eq_ok.1 h
  have := depth_of_read read
  rw [maxNesting] at this
  omega

/-! ## Specs that were read from their own text -/

theorem kept_of_read {f : Filter} (h : Filter.reader budget f.toJson.tree = .ok f) :
    ∀ x, f.value = .number x → Kept x := by
  obtain ⟨form, read, checked⟩ := convert_eq_ok h
  rw [← toJson_form, reads_filterForm f.form budget (Nat.lt_succ_self _)] at read
  split at read
  · cases read
    apply parse_raw_iff.1
    rw [FilterForm.check, Filter.form] at checked
    cases parsed : Literal.parse f.value.kind f.value.raw with
    | error reason =>
      rw [parsed] at checked
      cases checked
    | ok literal =>
      rw [parsed] at checked
      have value : literal = f.value := congrArg Filter.value (Except.ok.inj checked)
      rw [value]
  · cases read

theorem subquery_of_read {join : Join Spec} {t : Spec}
    (h : Join.readerWith spec budget join.toJson.tree = .ok join)
    (target : join.target = .derived t) : ∃ inner, spec inner t.toJson.tree = .ok t := by
  obtain ⟨form, read, checked⟩ := convert_eq_ok h
  rw [tree_join, target] at read
  obtain ⟨inner, -, ⟨ms, seen, tree, found, -⟩ | ⟨ts, closed, tree, -⟩⟩ := record_eq_ok.1 read
  · cases tree
    obtain ⟨kind, -, found⟩ := members_of_eq_ok found rfl
    obtain ⟨localTable, -, found⟩ := members_of_eq_ok found rfl
    obtain ⟨localColumn, -, found⟩ := members_of_eq_ok found rfl
    obtain ⟨referenceColumn, -, found⟩ := members_of_eq_ok found rfl
    obtain ⟨subquery, was_read, found⟩ := members_of_eq_ok found rfl
    cases found
    cases subquery with
    | none => cases checked
    | some u =>
      cases checked
      cases target
      exact ⟨inner, option_eq_some was_read⟩
  · cases tree

theorem lists_of_read {levels : Nat} {s : Spec}
    (h : Spec.readerUpTo (levels + 1) budget s.toJson.tree = .ok s) :
    ∃ rest,
      Reader.list (Join.readerWith (Spec.readerUpTo levels)) rest
          (.array (s.joins.map fun j => j.toJson.tree) true) = .ok s.joins ∧
        Reader.list Filter.reader rest (.array (s.filters.map fun f => f.toJson.tree) true) =
          .ok s.filters := by
  rw [tree_spec, Spec.treeWith, Spec.readerUpTo] at h
  obtain ⟨rest, -, ⟨ms, seen', tree, found, -⟩ | ⟨ts, closed, tree, -⟩⟩ := record_eq_ok.1 h
  · cases tree
    -- the database is there or not; what follows it is the same
    have after : ∃ seen r, members (Spec.shape (Spec.readerUpTo levels)) rest
        [(some "isSubQuery", .bool s.isSubquery), (some "table", s.table.toJson.tree),
          (some "columns", .array (s.columns.map fun c => c.toJson.tree) true),
          (some "joins", .array (s.joins.map fun j => j.toJson.tree) true),
          (some "filters", .array (s.filters.map fun f => f.toJson.tree) true),
          (some "orders", .array (s.orders.map fun o => o.toJson.tree) true)] seen r =
        .ok (seen', s) := by
      cases database : s.database with
      | none =>
        rw [database] at found
        exact ⟨_, _, found⟩
      | some d =>
        rw [database] at found
        obtain ⟨_, -, found⟩ := members_field_eq_ok found rfl
        exact ⟨_, _, found⟩
    obtain ⟨seen, r, found⟩ := after
    obtain ⟨isSubquery, -, found⟩ := members_of_eq_ok found rfl
    obtain ⟨table, -, found⟩ := members_of_eq_ok found rfl
    obtain ⟨columns, -, found⟩ := members_of_eq_ok found rfl
    obtain ⟨joins, joins_read, found⟩ := members_of_eq_ok found rfl
    obtain ⟨filters, filters_read, found⟩ := members_of_eq_ok found rfl
    obtain ⟨orders, -, found⟩ := members_of_eq_ok found rfl
    cases found
    exact ⟨rest, joins_read, filters_read⟩
  · cases tree

/-- A spec that is read from its own tree keeps its numbers. -/
theorem keepsNumbers_of_read {levels : Nat} {s : Spec}
    (h : Spec.readerUpTo levels budget s.toJson.tree = .ok s) : KeepsNumbers s := by
  induction levels generalizing budget s with
  | zero => cases h
  | succ levels ih =>
    obtain ⟨rest, joins_read, filters_read⟩ := lists_of_read h
    refine .mk ?_ ?_
    · intro f member
      obtain ⟨_, _, -, same, found⟩ := list_eq_ok filters_read
      cases same
      exact kept_of_read (items_map_eq_ok found f member)
    · intro join member t target
      obtain ⟨_, _, -, same, found⟩ := list_eq_ok joins_read
      cases same
      obtain ⟨inner, below⟩ := subquery_of_read (items_map_eq_ok found join member) target
      exact ih below

/-- The specs that come back from their text: those whose derived tables nest at most 41 deep, and
    which keep their numbers. -/
theorem parse_toJson_eq_ok {s : Spec} :
    Spec.parse s.toJson.render = .ok s ↔ s.depth ≤ 41 ∧ KeepsNumbers s := by
  constructor
  · intro h
    have kept : KeepsNumbers s := by
      rw [Spec.parse, parse_of_isText _ (Value.isText_render _ (numberless_spec s))] at h
      exact keepsNumbers_of_read h
    exact ⟨depth_of_parse h, kept⟩
  · rintro ⟨shallow, kept⟩
    rw [parse_toJson kept, if_pos shallow]

/-! ## Nested and priced orders -/

theorem depth_nest {name localColumn referenceColumn : String} {kind : JoinKind} (n : Nat)
    (s : Spec) : (Spec.nest name kind localColumn referenceColumn n s).depth = s.depth + n := by
  induction n generalizing s with
  | zero => rfl
  | succ n ih =>
    have joined : ((Spec.ofTable name).addJoin
        ⟨kind, .primary name, localColumn, .derived s, referenceColumn⟩).depth = 1 + s.depth := by
      simp [Spec.ofTable, Spec.addJoin, Spec.depth, Spec.joinsDepth, Spec.targetDepth]
    rw [Spec.nest, ih, joined]
    omega

theorem keepsNumbers_nest {name localColumn referenceColumn : String} {kind : JoinKind} (n : Nat)
    {s : Spec} (kept : KeepsNumbers s) :
    KeepsNumbers (Spec.nest name kind localColumn referenceColumn n s) := by
  induction n generalizing s with
  | zero => exact kept
  | succ n ih =>
    apply ih
    refine .mk ?_ ?_
    · intro f member
      cases member
    · intro join member t target
      simp only [Spec.ofTable, Spec.addJoin, List.nil_append, List.mem_singleton] at member
      subst member
      cases target
      exact kept

/-- The orders at a price. -/
def priced (x : Number) : Spec :=
  (Spec.ofTable "orders").addFilter ⟨.primary "orders", "price", .eq, .number x⟩

/-- The JSON form of the orders at a price that is given as text. -/
def pricedJson (price : String) : Value :=
  .object [("isSubQuery", .bool false), ("table", (TableRef.primary "orders").toJson),
    ("columns", .array []), ("joins", .array []),
    ("filters", .array [FilterForm.toJson ⟨.primary "orders", "price", .eq, .number, price⟩]),
    ("orders", .array [])]

theorem toJson_priced (x : Number) : (priced x).toJson = pricedJson x.text := rfl

theorem depth_priced (x : Number) : (priced x).depth = 0 := rfl

theorem keepsNumbers_priced {x : Number} (kept : Kept x) : KeepsNumbers (priced x) := by
  refine .mk ?_ ?_
  · intro f member y value
    simp only [priced, Spec.ofTable, Spec.addFilter, List.nil_append, List.mem_singleton] at member
    subst member
    cases value
    exact kept
  · intro join member
    cases member

theorem priced_inj {x y : Number} (same : priced x = priced y) : x = y := by
  simpa [priced, Spec.ofTable, Spec.addFilter] using same

/-- A price is read from its text, with white space around it or not. -/
theorem parse_priced {price : String} {x : Number} (read : Number.parse? (trim price) = some x) :
    Spec.parse (pricedJson price).render = .ok (priced x) := by
  let form : FilterForm := ⟨.primary "orders", "price", .eq, .number, price⟩
  have checked : form.check = .ok ⟨.primary "orders", "price", .eq, .number x⟩ := by
    rw [FilterForm.check, Literal.parse, read]
    rfl
  have tree : (pricedJson price).tree = (priced x).treeWith [] [] [form.toJson.tree] [] := by
    simp [pricedJson, priced, form, Spec.ofTable, Spec.addFilter, Spec.treeWith, Value.tree,
      Value.memberTrees, Value.itemTrees]
  have filters : ∀ f ∈ (priced x).filters, Reads maxNesting Filter.reader form.toJson.tree f := by
    intro f member
    rw [List.mem_singleton.1 member]
    exact reads_form checked
  have spec : Reads (maxNesting + 1) (Spec.readerUpTo (maxNesting + 1)) (pricedJson price).tree
      (priced x) := by
    rw [tree]
    apply reads_treeWith (reads_nil _) (reads_nil _) _ (reads_nil _)
    exact (Reads.list filters).mono (Nat.le_succ maxNesting)
  rw [Spec.parse, parse_of_isText _ (Value.isText_render _ rfl), Spec.reader,
    spec maxNesting (Nat.lt_succ_self _), if_pos]
  simp [tree, Spec.treeWith, Tree.nesting, Tree.membersNesting, Tree.itemsNesting, tree_form,
    nesting_tableRef, maxNesting, priced, Spec.ofTable, Spec.addFilter]

/-- The orders at a price of 42, joined a number of times over. -/
def nestedPrice (n : Nat) : Spec :=
  Spec.nest "orders" .left "id" "order_id" n (priced (.integer 42))

/-! ## Round trips -/

/-- A spec comes back from its text exactly when its derived tables nest at most 41 deep and it
    keeps its numbers; with more levels its text is malformed.  Integers of 64 bits are kept.  What
    was read from a text, however it is spelled, is read again from its own text, which is then the
    same once more. -/
theorem specs_read_again :
    (∀ s : Spec, Spec.parse s.toJson.render = .ok s ↔ s.depth ≤ 41 ∧ KeepsNumbers s) ∧
    (∀ s, KeepsNumbers s → 42 ≤ s.depth → Spec.parse s.toJson.render = .error .malformed) ∧
    (∀ i : Int, -(Nat.pow 2 63 : Int) ≤ i → i < (Nat.pow 2 64 : Int) → Kept (.integer i)) ∧
    ∀ text s, Spec.parse text = .ok s → KeepsNumbers s →
      Spec.parse s.toJson.render = .ok s ∧
      (Spec.parse s.toJson.render).map (·.toJson.render) = .ok s.toJson.render := by
  refine ⟨fun s => parse_toJson_eq_ok, ?_, ?_, ?_⟩
  · intro s kept deep
    rw [parse_toJson kept, if_neg (Nat.not_le.2 deep)]
  · intro i low high
    exact parse?_integer low high
  · intro text s read kept
    have again : Spec.parse s.toJson.render = .ok s :=
      parse_toJson_eq_ok.2 ⟨depth_of_parse read, kept⟩
    rw [again]
    exact ⟨rfl, rfl⟩

/-- Orders that are joined 41 times over are read again, and not once more; a price that was written
    with white space around it is read again without. -/
theorem nestedPrice_read_again :
    Spec.parse (nestedPrice 41).toJson.render = .ok (nestedPrice 41) ∧
      Spec.parse (nestedPrice 42).toJson.render = .error .malformed ∧
      Spec.parse (pricedJson " 42 ").render = .ok (priced (.integer 42)) ∧
      Spec.parse (priced (.integer 42)).toJson.render = .ok (priced (.integer 42)) := by
  obtain ⟨shallow, deep, integers, again⟩ := specs_read_again
  have kept : KeepsNumbers (priced (.integer 42)) :=
    keepsNumbers_priced (integers 42 (by decide) (by decide))
  have depth (n : Nat) : (nestedPrice n).depth = n := by
    rw [nestedPrice, depth_nest, depth_priced, Nat.zero_add]
  have padded : Spec.parse (pricedJson " 42 ").render = .ok (priced (.integer 42)) :=
    parse_priced (by decide +kernel)
  refine ⟨?_, ?_, padded, ?_⟩
  · exact (shallow (nestedPrice 41)).2 ⟨Nat.le_of_eq (depth 41), keepsNumbers_nest 41 kept⟩
  · exact deep (nestedPrice 42) (keepsNumbers_nest 42 kept) (Nat.le_of_eq (depth 42).symm)
  · exact (again _ _ padded kept).1

/-- A price that is read, written and read again as another double. -/
theorem price_changed :
    ∃ s again, Spec.parse (pricedJson "92825888904893795e-16").render = .ok s ∧
      s.toJson = pricedJson "9.282588890489379" ∧
      Spec.parse s.toJson.render = .ok again ∧
      again.toJson = pricedJson "9.28258889048938" ∧ again ≠ s := by
  have first : (Number.parse? (trim "92825888904893795e-16")).map Number.text =
      some "9.282588890489379" := by decide +kernel
  have second : (Number.parse? (trim "9.282588890489379")).map Number.text =
      some "9.28258889048938" := by decide +kernel
  obtain ⟨x, readFirst, textFirst⟩ := Option.map_eq_some_iff.1 first
  obtain ⟨y, readSecond, textSecond⟩ := Option.map_eq_some_iff.1 second
  refine ⟨priced x, priced y, parse_priced readFirst, ?_, ?_, ?_, ?_⟩
  · rw [toJson_priced, textFirst]
  · rw [toJson_priced, textFirst]
    exact parse_priced readSecond
  · rw [toJson_priced, textSecond]
  · intro same
    rw [priced_inj same, textFirst] at textSecond
    exact absurd textSecond (by decide)

end QueryDesk.Query
