import QueryDesk.Proofs.Store.Records

/-!
# What storing an outcome leaves

`complete` writes the row with an id and reads it back.  It leaves the other texts of the row as
they are, so it may write and still fail; if it succeeds, the record that it answers is the one
that is read from then on, with the outcome (`get_complete`).
-/

namespace QueryDesk.Store

open QueryDesk.Record

/-- A row with the outcome of a generation. -/
def Row.completed (row : Row) (query responseId : String) (now : Timestamp) : Row :=
  { row with query := some query, responseId := some responseId,
             status := Status.complete.text, updatedAt := now.microsText }

/-- A change that keeps ids changes the row that is found by its id. -/
theorem row?_updateRows (s : Store) (id : Uuid) (change : Row → Row)
    (keeps : ∀ row : Row, (change row).hasId id = row.hasId id) :
    (s.updateRows id change).row? id = (s.row? id).map change := by
  unfold updateRows row?
  induction s.rows with
  | nil => rfl
  | cons row rest ih =>
    by_cases here : row.hasId id = true
    · have changed : (change row).hasId id = true := by rw [keeps, here]
      simp [here, changed]
    · rw [Bool.not_eq_true] at here
      simpa [List.find?_cons, here] using ih

theorem row?_complete (s : Store) (id : Uuid) (now : Timestamp) (query responseId : String) :
    (s.complete id now query responseId).2.row? id =
      (s.row? id).map (·.completed query responseId now) := by
  unfold complete
  rw [update_snd]
  exact row?_updateRows s id _ fun _ => rfl

/-- The answer is read from the changed row. -/
theorem complete_fst (s : Store) (id : Uuid) (now : Timestamp) (query responseId : String) :
    (s.complete id now query responseId).1 =
      match s.row? id with
      | none => .error (.notFound id)
      | some row => readRow (row.completed query responseId now) := by
  have found := row?_complete s id now query responseId
  unfold complete at found ⊢
  rw [update_snd] at found
  unfold update
  dsimp only
  rw [found]
  cases s.row? id <;> rfl

/-- A row with an outcome is read if its other texts can be read. -/
theorem read_completed {row : Row} {id : Uuid} {createdAt : Timestamp}
    (hid : row.id = some id.text) (created : Timestamp.parseStrict? row.createdAt = some createdAt)
    (query responseId : String) (now : Timestamp) :
    (row.completed query responseId now).read =
      match Timestamp.parseStrict? now.microsText with
      | some updatedAt => .ok ⟨id, row.name, row.prompt, some query, some responseId, .complete,
          createdAt, updatedAt⟩
      | none => .error .badUpdate := by
  have status : Status.parse? Status.complete.text = some .complete := rfl
  unfold Row.read Row.completed
  dsimp only
  rw [hid, created, status]
  simp only [Row.orFail, Uuid.parse?_text, bind, Except.bind]
  cases Timestamp.parseStrict? now.microsText <;> rfl

/-- What is read from a row with an outcome has the outcome. -/
theorem outcome_of_readRow {row : Row} {query responseId : String} {now : Timestamp}
    {q : DynamicQuery} (h : readRow (row.completed query responseId now) = .ok q) :
    q.query = some query ∧ q.responseId = some responseId ∧ q.status = .complete := by
  unfold readRow at h
  split at h
  · rename_i q' read
    cases h
    unfold Row.read Row.completed at read
    simp only [Outcome.bind_eq_ok, Row.orFail_eq_ok] at read
    obtain ⟨idText, -, id, -, status, known, createdAt, -, updatedAt, -, hq⟩ := read
    cases known
    cases hq
    exact ⟨rfl, rfl, rfl⟩
  · cases h

/-- A record that was completed is read with its outcome. -/
theorem get_complete {s : Store} {id : Uuid} {now : Timestamp} {query responseId : String}
    {q : DynamicQuery} (h : (s.complete id now query responseId).1 = .ok q) :
    (s.complete id now query responseId).2.get id = .ok (some q) ∧
      q.query = some query ∧ q.responseId = some responseId ∧ q.status = .complete := by
  rw [complete_fst] at h
  cases found : s.row? id with
  | none =>
    rw [found] at h
    cases h
  | some row =>
    rw [found] at h
    dsimp only at h
    refine ⟨?_, outcome_of_readRow h⟩
    rw [get, row?_complete, found]
    simp only [Option.map_some, h]
    rfl

end QueryDesk.Store
