import QueryDesk.Proofs.Store.Completion
import QueryDesk.Store.Maintenance

/-!
# What a failed update leaves

`rename` and `complete` write a row and then read it back, so they are all or nothing only for some
rows.  One that finds no row leaves the table as it was.  One that finds a row has written it,
whether the row is read back or not; it fails when the row has a text that it does not replace and
that cannot be read (`allOrNothing_iff`).

The table may hold any texts, also those of another tool; ids are unique in it, and stay so
whatever a tool does (`ids_poke`, `ids_insert`, `ids_delete`).
-/

namespace QueryDesk.Store

open QueryDesk.Record

/-- The constraints of the table: no two rows have the same id, and every status is a known one. -/
structure Constrained (s : Store) : Prop where
  ids : (s.rows.filterMap Row.id).Nodup
  statuses : ∀ row ∈ s.rows, row.status = "in_progress" ∨ row.status = "complete"

/-- A call that leaves the table as it was if it fails. -/
def AllOrNothing (s : Store) (called : Except Failure DynamicQuery × Store) : Prop :=
  ∀ failure, called.1 = .error failure → called.2 = s

/-- A row under a new name. -/
def Row.renamed (row : Row) (name : String) (now : Timestamp) : Row :=
  { row with name := name, updatedAt := now.microsText }

/-! ## Tables changed by a tool -/

section Tool

variable {s : Store} (unique : (s.rows.filterMap Row.id).Nodup)

theorem not_mem_of_idTaken {rows : List Row} {id : String} (free : idTaken rows (some id) = false) :
    id ∉ rows.filterMap Row.id := by
  intro member
  obtain ⟨row, member, same⟩ := List.mem_filterMap.1 member
  have taken : idTaken rows (some id) = true := by
    rw [idTaken, Option.isSome_some, Bool.true_and, List.any_eq_true]
    exact ⟨row, member, by rw [same, beq_self_eq_true]⟩
  rw [free] at taken
  cases taken

include unique

/-- Ids stay unique if one of them is taken away or replaced by a free one. -/
theorem nodup_replaced {id : String} {new : Option String}
    (free : ∀ id', new = some id' → id' = id ∨ id' ∉ s.rows.filterMap Row.id) :
    ((s.rows.filterMap Row.id).filterMap fun i => if i = id then new else some i).Nodup := by
  rw [List.Nodup, List.pairwise_filterMap]
  refine List.Pairwise.imp_of_mem ?_ unique
  intro i j hi hj different b hb b' hb' same
  subst same
  by_cases first : i = id
  · rw [if_pos first] at hb
    rw [if_neg (fun second => different (first.trans second.symm)), Option.some.injEq] at hb'
    subst hb'
    rcases free _ hb with here | absent
    · exact different (first.trans here.symm)
    · exact absent hj
  · rw [if_neg first, Option.some.injEq] at hb
    subst hb
    by_cases second : j = id
    · rw [if_pos second] at hb'
      rcases free _ hb' with here | absent
      · exact first here
      · exact absent hi
    · rw [if_neg second, Option.some.injEq] at hb'
      exact different hb'.symm

/-- A tool that changes a row leaves the ids unique. -/
theorem ids_poke (id : String) (cell : Cell) (text : Option String) :
    ((s.poke id cell text).2.rows.filterMap Row.id).Nodup := by
  unfold poke
  cases found : s.rows.find? (·.id == some id) with
  | none => exact unique
  | some row =>
    have hid : row.id = some id := by simpa using List.find?_some found
    cases made : row.set cell text with
    | error violation => simpa [made] using unique
    | ok changed =>
      simp only [made]
      split
      · exact unique
      · rename_i allowed
        have ids : (s.rows.map fun r => if r.id == some id then changed else r).filterMap Row.id =
            (s.rows.filterMap Row.id).filterMap fun i => if i = id then changed.id else some i := by
          rw [List.filterMap_map, List.filterMap_filterMap]
          refine List.filterMap_congr fun r _ => ?_
          cases hr : r.id with
          | none => simp [hr]
          | some i => by_cases same : i = id <;> simp [hr, same]
        rw [ids]
        refine nodup_replaced unique fun id' new => ?_
        by_cases same : id' = id
        · exact .inl same
        · refine .inr (not_mem_of_idTaken ?_)
          simpa [new, hid, same] using allowed

/-- A tool that adds a row leaves the ids unique. -/
theorem ids_insert (row : Row) : ((s.insert row).2.rows.filterMap Row.id).Nodup := by
  unfold insert
  split
  · exact unique
  · rename_i free
    rw [List.filterMap_append]
    cases hid : row.id with
    | none => simpa [hid] using unique
    | some id =>
      rw [hid, Bool.not_eq_true] at free
      have last : [row].filterMap Row.id = [id] := by simp [hid]
      rw [last, List.nodup_append]
      refine ⟨unique, List.pairwise_singleton _ id, ?_⟩
      rintro i member j here rfl
      rw [List.mem_singleton.1 here] at member
      exact not_mem_of_idTaken free member

/-- A tool that deletes a row leaves the ids unique. -/
theorem ids_delete (id : String) : ((s.delete id).2.rows.filterMap Row.id).Nodup :=
  unique.sublist (List.filter_sublist.filterMap Row.id)

end Tool

/-! ## Reading a row back -/

/-- Besides its id, a row has three texts that may be illegible. -/
theorem Row.isOk_read_iff {row : Row} {id : Uuid} (hid : row.id = some id.text) :
    row.read.isOk = true ↔ (Status.parse? row.status).isSome = true ∧
      (Timestamp.parseStrict? row.createdAt).isSome = true ∧
      (Timestamp.parseStrict? row.updatedAt).isSome = true := by
  unfold Row.read
  rw [hid]
  simp only [Row.orFail, Uuid.parse?_text, bind, Except.bind]
  cases Status.parse? row.status with
  | none => simp [Except.isOk, Except.toBool]
  | some status =>
    cases Timestamp.parseStrict? row.createdAt with
    | none => simp [Except.isOk, Except.toBool]
    | some createdAt =>
      cases Timestamp.parseStrict? row.updatedAt <;>
        simp [Except.isOk, Except.toBool, pure, Except.pure]

theorem isOk_readRow (row : Row) : (readRow row).isOk = row.read.isOk := by
  unfold readRow
  split
  · rename_i read
    rw [read]
    rfl
  · rename_i read
    rw [read]
    rfl

theorem Row.eq_of_hasId {row : Row} {id : Uuid} (h : row.hasId id = true) :
    row.id = some id.text :=
  eq_of_beq h

/-! ## Updating a table of any texts -/

/-- With unique ids, a row is the one that is found by its id. -/
theorem find?_hasId_of_mem {rows : List Row} (unique : (rows.filterMap Row.id).Nodup) {row : Row}
    (member : row ∈ rows) {id : Uuid} (h : row.hasId id = true) :
    rows.find? (·.hasId id) = some row := by
  induction rows with
  | nil => exact absurd member List.not_mem_nil
  | cons first rest ih =>
    by_cases here : first.hasId id = true
    · rw [List.find?_cons_of_pos (by simpa using here)]
      rcases List.mem_cons.1 member with rfl | later
      · rfl
      · -- the id of a later row would be there twice
        have twice : id.text ∈ rest.filterMap Row.id :=
          List.mem_filterMap.2 ⟨row, later, Row.eq_of_hasId h⟩
        rw [List.filterMap_cons, Row.eq_of_hasId here, List.nodup_cons] at unique
        exact absurd twice unique.1
    · have other : row ≠ first := by
        rintro rfl
        exact here h
      rw [List.find?_cons_of_neg (by simpa using here)]
      refine ih ?_ ((List.mem_cons.1 member).resolve_left other)
      exact ((List.sublist_cons_self first rest).filterMap Row.id).nodup unique

theorem updateRows_eq_self_iff (s : Store) (id : Uuid) (change : Row → Row) :
    s.updateRows id change = s ↔ ∀ row ∈ s.rows, row.hasId id = true → change row = row := by
  have whole : s.updateRows id change = s ↔ (s.updateRows id change).rows = s.rows := by
    cases s
    simp [updateRows]
  rw [whole]
  unfold updateRows
  conv_lhs => rhs; rw [← List.map_id s.rows]
  rw [List.map_inj_left]
  refine forall₂_congr fun row _ => ?_
  by_cases here : row.hasId id = true <;> simp [here]

/-- An update finds no row and changes nothing, or changes a row and answers what is read of it. -/
theorem update_cases (s : Store) (id : Uuid) {change : Row → Row}
    (keeps : ∀ row : Row, (change row).hasId id = row.hasId id) :
    (s.row? id = none ∧ s.update id change = (.error (.notFound id), s)) ∨
    ∃ row, s.row? id = some row ∧ row ∈ s.rows ∧ row.hasId id = true ∧
      s.update id change = (readRow (change row), s.updateRows id change) := by
  have changed := row?_updateRows s id change keeps
  unfold update
  dsimp only
  cases found : s.row? id with
  | none =>
    left
    have absent : ∀ row ∈ s.rows, row.hasId id ≠ true := List.find?_eq_none.1 found
    have same : s.updateRows id change = s :=
      (updateRows_eq_self_iff s id change).2 fun row member here =>
        absurd here (absent row member)
    rw [found, Option.map_none] at changed
    rw [changed, same]
    exact ⟨rfl, rfl⟩
  | some row =>
    right
    rw [found, Option.map_some] at changed
    rw [changed]
    have here : row.hasId id = true := by simpa using List.find?_some found
    exact ⟨row, rfl, List.mem_of_find?_eq_some found, here, rfl⟩

/-- An update is all or nothing just for rows that are read back, and for those that already are as
    it would leave them. -/
theorem allOrNothing_update_iff {s : Store} (unique : (s.rows.filterMap Row.id).Nodup) (id : Uuid)
    {change : Row → Row} (keeps : ∀ row : Row, (change row).hasId id = row.hasId id) :
    AllOrNothing s (s.update id change) ↔ ∀ row ∈ s.rows, row.id = some id.text →
      (change row).read.isOk = true ∨ change row = row := by
  rcases update_cases s id keeps with ⟨missing, result⟩ | ⟨row, found, member, here, result⟩
  · have absent : ∀ row ∈ s.rows, row.hasId id ≠ true := List.find?_eq_none.1 missing
    rw [result]
    constructor
    · intro _ row member hid
      exact absurd (beq_iff_eq.2 hid) (absent row member)
    · intro _ failure _
      rfl
  · have only : ∀ row' ∈ s.rows, row'.hasId id = true → row' = row := by
      intro row' member' here'
      exact Option.some.inj ((find?_hasId_of_mem unique member' here').symm.trans found)
    have same : s.updateRows id change = s ↔ change row = row := by
      rw [updateRows_eq_self_iff]
      constructor
      · intro all
        exact all row member here
      · intro kept row' member' here'
        rw [only row' member' here', kept]
    rw [result]
    constructor
    · intro clean row' member' hid
      rw [only row' member' (beq_iff_eq.2 hid)]
      cases read : readRow (change row) with
      | ok q =>
        left
        rw [← isOk_readRow, read]
        rfl
      | error failure =>
        right
        exact same.1 (clean failure read)
    · intro rows failure failed
      rcases rows row member (Row.eq_of_hasId here) with legible | kept
      · have failed : readRow (change row) = .error failure := failed
        rw [← isOk_readRow, failed] at legible
        cases legible
      · exact same.2 kept

/-- Which updates are all or nothing, on any table with unique ids.  A renaming that fails has been
    written if the status or the time of creation cannot be read; a completion replaces the status,
    so only the time of creation counts.  The time that is written counts too, since that of a year
    with more than four digits is not read back. -/
theorem allOrNothing_iff {s : Store} (unique : (s.rows.filterMap Row.id).Nodup) (id : Uuid)
    (now : Timestamp) :
    (∀ name, AllOrNothing s (s.rename id now name) ↔
      ∀ row ∈ s.rows, row.id = some id.text →
        ((Status.parse? row.status).isSome = true ∧
          (Timestamp.parseStrict? row.createdAt).isSome = true ∧
          (Timestamp.parseStrict? now.microsText).isSome = true) ∨
        row.renamed name now = row) ∧
    ∀ query responseId, AllOrNothing s (s.complete id now query responseId) ↔
      ∀ row ∈ s.rows, row.id = some id.text →
        ((Timestamp.parseStrict? row.createdAt).isSome = true ∧
          (Timestamp.parseStrict? now.microsText).isSome = true) ∨
        row.completed query responseId now = row := by
  constructor
  · intro name
    have keeps : ∀ row : Row, (row.renamed name now).hasId id = row.hasId id := fun _ => rfl
    refine (allOrNothing_update_iff unique id keeps).trans ?_
    refine forall₃_congr fun row _ hid => or_congr ?_ Iff.rfl
    have same : (row.renamed name now).id = some id.text := hid
    exact Row.isOk_read_iff same
  · intro query responseId
    have keeps : ∀ row : Row, (row.completed query responseId now).hasId id = row.hasId id :=
      fun _ => rfl
    refine (allOrNothing_update_iff unique id keeps).trans ?_
    refine forall₃_congr fun row _ hid => or_congr ?_ Iff.rfl
    have same : (row.completed query responseId now).id = some id.text := hid
    have known : (Status.parse? Status.complete.text).isSome = true := rfl
    exact (Row.isOk_read_iff same).trans (and_iff_right known)

/-- A table with a row of another tool, a row without an id, and two rows whose ids the store has
    written.  The time of creation of the last one is no time. -/
def foreignStore : Store where
  rows :=
    [⟨some "Q4", "", "", none, none, "complete", "", "never"⟩,
      ⟨none, "", "", none, none, "in_progress", "", ""⟩,
      ⟨some (Uuid.ofNat 0).text, "Sales", "total", none, none, "in_progress",
        "2024-02-29T23:59:60Z", "soon"⟩,
      ⟨some (Uuid.ofNat 1).text, "Sales", "total", none, none, "in_progress", "yesterday",
        "2024-02-29T23:59:59.000000Z"⟩]
  version := some "1"

/-- A time at which rows are updated. -/
def leapDay : Timestamp := ⟨2024, 2, 29, 12, 0, 0, 0⟩

theorem foreignStore_constrained : foreignStore.Constrained where
  ids := by decide
  statuses := by decide

/-- The rows of other tools do not matter, nor does a time that is replaced. -/
theorem foreignStore_allOrNothing :
    (foreignStore.rows.filterMap Row.id).Nodup ∧
      AllOrNothing foreignStore (foreignStore.rename (.ofNat 0) leapDay "Orders") ∧
      AllOrNothing foreignStore (foreignStore.rename (.ofNat 2) leapDay "Orders") ∧
      ¬ AllOrNothing foreignStore (foreignStore.rename (.ofNat 1) leapDay "Orders") ∧
      ¬ AllOrNothing foreignStore (foreignStore.complete (.ofNat 1) leapDay "SELECT 1" "r") := by
  have unique := foreignStore_constrained.ids
  refine ⟨unique, ?_, ?_, ?_, ?_⟩
  · rw [(allOrNothing_iff unique _ _).1]
    decide
  · rw [(allOrNothing_iff unique _ _).1]
    decide
  · rw [(allOrNothing_iff unique _ _).1]
    decide
  · rw [(allOrNothing_iff unique _ _).2]
    decide

/-- On a table that meets its constraints, a renaming and a completion fail and have been
    written. -/
theorem foreignStore_written :
    foreignStore.Constrained ∧
      (foreignStore.rename (.ofNat 1) leapDay "Orders").1 = .error (.unreadable .badCreation) ∧
      (foreignStore.rename (.ofNat 1) leapDay "Orders").2 ≠ foreignStore ∧
      (foreignStore.complete (.ofNat 1) leapDay "SELECT 1" "r").1 =
        .error (.unreadable .badCreation) ∧
      (foreignStore.complete (.ofNat 1) leapDay "SELECT 1" "r").2 ≠ foreignStore :=
  ⟨foreignStore_constrained, by decide, by decide, by decide, by decide⟩

end QueryDesk.Store
