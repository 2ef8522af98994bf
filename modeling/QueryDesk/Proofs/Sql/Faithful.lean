import QueryDesk.Proofs.Sql.Readable

/-!
# What SQL tells of a spec

The SQL of a spec tells its resolved form and nothing else, when its names are plain identifiers.
Texts and labels may hold anything, also what looks like SQL.
-/

namespace QueryDesk.Sql

open QueryDesk.Query QueryDesk.Json

/-- A plain identifier. -/
def Plain (name : String) : Prop :=
  isPlainIdent name.toList = true

instance (name : String) : Decidable (Plain name) :=
  inferInstanceAs (Decidable (_ = _))

theorem numeral_constantOf (value : Literal) : (constantOf value).Numeral := by
  cases value with
  | number x =>
    have text : x.text.toList = x.chars := String.toList_ofList
    intro c member
    rw [text] at member
    exact numeric_of_mem_chars member
  | string s => trivial
  | date s => trivial
  | boolean b => trivial

theorem legible_linksOf {options : Options} {scopes : List Scope} {joins : List (Join Spec)}
    (names : ∀ join ∈ joins, isPlainIdent join.localColumn.toList = true ∧
      isPlainIdent join.referenceColumn.toList = true)
    (partners : ∀ join ∈ joins, LegiblePartner (partnerOf options scopes join.target)) :
    LegibleLinks (linksOf options scopes joins) := by
  induction joins with
  | nil =>
    rw [linksOf, LegibleLinks]
    trivial
  | cons join joins ih =>
    rw [List.forall_mem_cons] at names partners
    cases join with
    | mk kind localTable localColumn target referenceColumn =>
      rw [linksOf, LegibleLinks]
      exact ⟨names.1.1, names.1.2, partners.1, ih names.2 partners.2⟩

theorem legible_resolvedAt {options : Options} {outermost : Bool} (n : Node)
    (plain : n.Everywhere fun n => Names Plain n.spec) :
    (resolvedAt options (n.outer.map scopeOf) outermost n.spec).Legible := by
  induction n using Node.induction generalizing outermost with
  | step n ih =>
    obtain ⟨names, below⟩ := Node.everywhere_iff.1 plain
    have partners : ∀ join ∈ n.spec.joins,
        LegiblePartner (partnerOf options n.scopes join.target) := by
      intro join member
      cases target : join.target with
      | table t =>
        rw [partnerOf, LegiblePartner]
        exact names.targets join member t target
      | derived s =>
        rw [partnerOf, LegiblePartner]
        exact ih join member s target (below join member s target)
    have links := legible_linksOf names.joins partners
    have database : ∀ db, (n.spec.database.filter fun name => !name.isEmpty) = some db →
        isPlainIdent db.toList = true := by
      intro db shown
      obtain ⟨present, nonempty⟩ := Option.filter_eq_some_iff.1 shown
      exact names.database db present (by simpa using nonempty)
    cases n with
    | mk spec outer =>
      cases spec with
      | mk name isSubquery table columns joins filters orders =>
        rw [resolvedAt, Resolved.Legible]
        refine ⟨database, names.table, ?_, links, ?_, ?_⟩
        · exact List.forall_mem_map.2 names.columns
        · exact List.forall_mem_map.2 fun f member =>
            ⟨names.filters f member, numeral_constantOf f.value⟩
        · exact List.forall_mem_map.2 names.orders

/-- Two specs with plain names have the same SQL just when they have the same resolved form. -/
theorem compile_eq_compile_iff {options : Options} {a b : Spec}
    (plain : (Node.root a).Everywhere fun n => Names Plain n.spec)
    (plain' : (Node.root b).Everywhere fun n => Names Plain n.spec)
    (compiles : ∃ sql, compile options a = .ok sql)
    (compiles' : ∃ sql, compile options b = .ok sql) :
    compile options a = compile options b ↔ resolved options a = resolved options b := by
  obtain ⟨sql, text⟩ := compiles
  obtain ⟨sql', text'⟩ := compiles'
  rw [text, text', Except.ok.injEq, text_of_compile text, text_of_compile text', String.ofList_inj]
  constructor
  · intro same
    exact (Resolved.write_inj 0 _ _ (legible_resolvedAt (Node.root a) plain)
      (legible_resolvedAt (Node.root b) plain') (.inl rfl) (.inl rfl) same).1
  · intro same
    rw [same]

/-- The orders with a note that looks like SQL, as a spec that says more than its SQL: the column
    has a label, the spec no flag, and the note is a date. -/
def orderNotes : Spec where
  database := none
  isSubquery := false
  table := .primary "orders"
  columns := [⟨.primary "orders", "user_id", "User", some .max⟩]
  joins := []
  filters := [⟨.plain "orders", "note", .ne, .date "'\n) AS t2 ON t1.id = t2.id\nWHERE"⟩]
  orders := []

/-- Users by name with those orders; the database is empty and the local table means nothing. -/
def notedOrders : Spec where
  database := some ""
  isSubquery := false
  table := .primary "users"
  columns := [⟨.primary "users", "name", "'\nFROM \"x\"", none⟩]
  joins := [⟨.left, .plain "nobody", "id", .derived orderNotes, "user_id"⟩]
  filters := [⟨.plain "orders", "total", .ge, .number (.integer 30)⟩]
  orders := [⟨.plain "users", "name", true⟩]

/-- The same orders without what SQL does not tell. -/
def orderNotesRestated : Spec :=
  { orderNotes with
    isSubquery := true
    columns := [⟨.plain "orders", "user_id", "", some .max⟩]
    filters := [⟨.primary "orders", "note", .ne, .string "'\n) AS t2 ON t1.id = t2.id\nWHERE"⟩] }

/-- The same users without what SQL does not tell. -/
def notedOrdersRestated : Spec :=
  { notedOrders with
    database := none
    joins := [⟨.left, .primary "users", "id", .derived orderNotesRestated, "user_id"⟩]
    orders := [⟨.primary "users", "name", true⟩] }

theorem plain_of_join {s t : Spec} {join : Join Spec} (joins : s.joins = [join])
    (target : join.target = .derived t) (flat : t.joins = []) (plain : Names Plain s)
    (nested : Names Plain t) : (Node.root s).Everywhere fun n => Names Plain n.spec := by
  refine Node.everywhere_iff.2 ⟨plain, ?_⟩
  intro join' member u target'
  rw [Node.root, joins] at member
  cases List.mem_singleton.1 member
  cases target.symm.trans target'
  refine Node.everywhere_iff.2 ⟨nested, ?_⟩
  intro join'' member'
  rw [Node.enter, flat] at member'
  cases member'

theorem plain_orderNotes : Names Plain orderNotes where
  database := by
    intro name same
    cases same
  table := by decide
  columns := by decide
  targets := List.forall_mem_nil _
  joins := List.forall_mem_nil _
  filters := by decide
  orders := List.forall_mem_nil _

theorem plain_notedOrders : Names Plain notedOrders where
  database := by
    intro name same
    cases same
    intro nonempty
    exact absurd nonempty (by decide)
  table := by decide
  columns := by decide
  targets := by
    intro join member t target
    cases List.mem_singleton.1 member
    cases target
  joins := by decide
  filters := by decide
  orders := by decide

theorem plain_orderNotesRestated : Names Plain orderNotesRestated where
  database := by
    intro name same
    cases same
  table := by decide
  columns := by decide
  targets := List.forall_mem_nil _
  joins := List.forall_mem_nil _
  filters := by decide
  orders := List.forall_mem_nil _

theorem plain_notedOrdersRestated : Names Plain notedOrdersRestated where
  database := by
    intro name same
    cases same
  table := by decide
  columns := by decide
  targets := by
    intro join member t target
    cases List.mem_singleton.1 member
    cases target
  joins := by decide
  filters := by decide
  orders := by decide

theorem compile_notedOrders :
    compile .default notedOrders = compile .default notedOrdersRestated := by
  have compiles : ∃ sql, compile .default notedOrders = .ok sql := by
    rw [compile_eq]
    exact ⟨_, rfl⟩
  have compiles' : ∃ sql, compile .default notedOrdersRestated = .ok sql := by
    rw [compile_eq]
    exact ⟨_, rfl⟩
  refine (compile_eq_compile_iff ?_ ?_ compiles compiles').2 rfl
  · exact plain_of_join rfl rfl rfl plain_notedOrders plain_orderNotes
  · exact plain_of_join rfl rfl rfl plain_notedOrdersRestated plain_orderNotesRestated

end QueryDesk.Sql
