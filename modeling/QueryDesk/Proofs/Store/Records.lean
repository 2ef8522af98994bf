import QueryDesk.Store.Basic
import QueryDesk.Proofs.Outcome
import QueryDesk.Proofs.Record.Uuid

/-!
# The table as a list of records

A table that only the store has written holds the rows of a list of records.  `Holds` says which;
for each operation there is one lemma that says what it does to that list.  Nothing is assumed of
the clock: a row whose timestamps cannot be read back is a row of a record all the same.
-/

namespace QueryDesk.Record.DynamicQuery

/-- A record under a new name. -/
def renamed (q : DynamicQuery) (name : String) (now : Timestamp) : DynamicQuery :=
  { q with name := name, updatedAt := now }

/-- A record with the outcome of a generation. -/
def completed (q : DynamicQuery) (query responseId : String) (now : Timestamp) : DynamicQuery :=
  { q with query := some query, responseId := some responseId, status := .complete,
           updatedAt := now }

/-- Changes the records with an id. -/
def mapId (id : Uuid) (change : DynamicQuery → DynamicQuery) (qs : List DynamicQuery) :
    List DynamicQuery :=
  qs.map fun q => if q.id = id then change q else q

end QueryDesk.Record.DynamicQuery

namespace QueryDesk.Store

open QueryDesk.Record

/-- The table consists of the rows of some records. -/
def Holds (s : Store) (qs : List DynamicQuery) : Prop :=
  s.rows = qs.map Row.ofRecord

theorem Row.hasId_ofRecord (q : DynamicQuery) (id : Uuid) :
    (Row.ofRecord q).hasId id = decide (q.id = id) := by
  by_cases same : q.id = id
  · simp [Row.hasId, Row.ofRecord, same]
  · have different : q.id.text ≠ id.text := fun h => same (Uuid.text_injective h)
    simp [Row.hasId, Row.ofRecord, same, different]

theorem Row.orFail_eq_ok {α : Type} {failure : Unreadable} {found : Option α} {a : α} :
    Row.orFail failure found = .ok a ↔ found = some a := by
  cases found <;> simp [Row.orFail]

/-- Reading a record's row back can change nothing but the precision of its two timestamps. -/
theorem Row.read_ofRecord {q q' : DynamicQuery} (h : (Row.ofRecord q).read = .ok q') :
    q' = { q with createdAt := q'.createdAt, updatedAt := q'.updatedAt } := by
  have hstatus : Status.parse? q.status.text = some q.status := by cases q.status <;> rfl
  unfold Row.read Row.ofRecord at h
  simp only [Outcome.bind_eq_ok, Row.orFail_eq_ok] at h
  obtain ⟨idText, hidText, id, hid, status, hs, createdAt, -, updatedAt, -, hq⟩ := h
  cases hidText
  rw [Uuid.parse?_text] at hid
  rw [hstatus] at hs
  cases hid
  cases hs
  cases hq
  rfl

theorem holds_empty : Store.empty.Holds [] := rfl

theorem row?_of_holds {s : Store} {qs : List DynamicQuery} (h : s.Holds qs) (id : Uuid) :
    s.row? id = (qs.find? (·.id = id)).map Row.ofRecord := by
  unfold Holds at h
  simp only [row?, h, List.find?_map, Function.comp_def, Row.hasId_ofRecord]

/-- A record that the store returns is one of those it holds, up to its timestamps. -/
theorem mem_of_get {s : Store} {qs : List DynamicQuery} (h : s.Holds qs) {id : Uuid}
    {q' : DynamicQuery} (found : s.get id = .ok (some q')) :
    ∃ q ∈ qs, q.id = id ∧ q' = { q with createdAt := q'.createdAt, updatedAt := q'.updatedAt } := by
  unfold get at found
  rw [row?_of_holds h] at found
  cases hfind : qs.find? (·.id = id) with
  | none => simp [hfind] at found
  | some q =>
    have hid : q.id = id := by simpa using List.find?_some hfind
    refine ⟨q, List.mem_of_find?_eq_some hfind, hid, ?_⟩
    apply Row.read_ofRecord
    simp only [hfind, Option.map_some, readRow] at found
    cases hread : (Row.ofRecord q).read with
    | error cause => simp [hread, Except.map] at found
    | ok q'' =>
      simp only [hread, Except.map, Except.ok.injEq, Option.some.injEq] at found
      rw [found]

/-- Either the id is taken and nothing happens, or the new record comes last. -/
theorem create_cases {s : Store} {qs : List DynamicQuery} (h : s.Holds qs) (id : Uuid)
    (now : Timestamp) (name prompt : String) :
    ((∃ q ∈ qs, q.id = id) ∧ s.create id now name prompt = (.error .duplicateId, s)) ∨
    ((∀ q ∈ qs, q.id ≠ id) ∧ ∃ s', s.create id now name prompt =
        (.ok (.fresh id name prompt now), s') ∧ s'.Holds (qs ++ [.fresh id name prompt now])) := by
  have htaken : s.rows.any (·.hasId id) = qs.any (·.id = id) := by
    unfold Holds at h
    simp [h, List.any_map, Function.comp_def, Row.hasId_ofRecord]
  by_cases taken : ∃ q ∈ qs, q.id = id
  · left
    refine ⟨taken, ?_⟩
    have : s.rows.any (·.hasId id) = true := by rw [htaken]; simpa using taken
    simp [create, this]
  · right
    simp only [not_exists, not_and] at taken
    have : s.rows.any (·.hasId id) = false := by rw [htaken]; simpa using taken
    refine ⟨taken, { s with rows := s.rows ++ [Row.ofRecord (.fresh id name prompt now)] }, ?_, ?_⟩
    · simp [create, this]
    · unfold Holds at h ⊢
      simp [h]

theorem updateRows_holds {s : Store} {qs : List DynamicQuery} (h : s.Holds qs) (id : Uuid)
    {change : Row → Row} {change' : DynamicQuery → DynamicQuery}
    (agree : ∀ q, change (Row.ofRecord q) = Row.ofRecord (change' q)) :
    (s.updateRows id change).Holds (DynamicQuery.mapId id change' qs) := by
  unfold Holds at h ⊢
  simp only [updateRows, h, DynamicQuery.mapId, List.map_map]
  apply List.map_congr_left
  intro q _
  by_cases same : q.id = id
  · simp [Row.hasId_ofRecord, same, agree]
  · simp [Row.hasId_ofRecord, same]

theorem update_snd (s : Store) (id : Uuid) (change : Row → Row) :
    (s.update id change).2 = s.updateRows id change := by
  simp only [update]
  split <;> rfl

theorem rename_holds {s : Store} {qs : List DynamicQuery} (h : s.Holds qs) (id : Uuid)
    (now : Timestamp) (name : String) :
    (s.rename id now name).2.Holds (DynamicQuery.mapId id (·.renamed name now) qs) := by
  unfold rename
  rw [update_snd]
  exact updateRows_holds h id fun _ => rfl

theorem complete_holds {s : Store} {qs : List DynamicQuery} (h : s.Holds qs) (id : Uuid)
    (now : Timestamp) (query responseId : String) :
    (s.complete id now query responseId).2.Holds
      (DynamicQuery.mapId id (·.completed query responseId now) qs) := by
  unfold complete
  rw [update_snd]
  exact updateRows_holds h id fun _ => rfl

end QueryDesk.Store
