import QueryDesk.Proofs.Service.Session

/-!
# Errors leave no trace

Some requests are refused before anything is written.  Others call the store and fail there: a
creation writes only if it succeeds, and an update that fails has found no row to change, for every
row of a session is read back.  So a response with a status of 400 or above leaves the table as it
was (`refusal_leaves_table`).
-/

namespace QueryDesk.Store

open QueryDesk.Generation QueryDesk.Record

/-! ## Calls that fail -/

section Failing

variable {s : Store} {qs : List DynamicQuery}

theorem updateRows_of_absent (h : s.Holds qs) {id : Uuid} (absent : ∀ q ∈ qs, q.id ≠ id)
    (change : Row → Row) : s.updateRows id change = s := by
  have same : s.rows.map (fun row => if row.hasId id then change row else row) = s.rows := by
    refine (List.map_congr_left ?_).trans (List.map_id s.rows)
    intro row member
    change (if row.hasId id = true then change row else row) = row
    unfold Holds at h
    rw [h] at member
    obtain ⟨q, hq, rfl⟩ := List.mem_map.1 member
    have other : (Row.ofRecord q).hasId id = false := by
      rw [Row.hasId_ofRecord]
      exact decide_eq_false (absent q hq)
    rw [other, if_neg Bool.false_ne_true]
  rw [updateRows, same]

/-- An update of rows that are all read back fails only if it finds none. -/
theorem update_failed (h : s.Holds qs) (id : Uuid) {change : Row → Row}
    (change' : DynamicQuery → DynamicQuery)
    (agree : ∀ q, change (Row.ofRecord q) = Row.ofRecord (change' q))
    (keeps : ∀ q, (change' q).id = q.id) (kept : ∀ q ∈ qs, (change' q).Kept) {failure : Failure}
    (failed : (s.update id change).1 = .error failure) : (s.update id change).2 = s := by
  rw [update_of_holds h id agree keeps kept] at failed
  rw [update_snd]
  cases found : qs.find? (·.id = id) with
  | none =>
    apply updateRows_of_absent h
    simpa using found
  | some q =>
    rw [found] at failed
    cases failed

end Failing

end QueryDesk.Store

namespace QueryDesk.Generation.Backend

open QueryDesk.Completion QueryDesk.Record QueryDesk.Store

section Failing

variable {b : Backend} {qs : List DynamicQuery}

theorem create_failed {name prompt : String} {failure : Store.Failure}
    (failed : (b.create name prompt).1 = .error failure) :
    (b.create name prompt).2.store = b.store := by
  unfold create Store.create at failed ⊢
  dsimp only at failed ⊢
  split at failed
  · rename_i taken
    rw [if_pos taken]
  · cases failed

theorem rename_failed (hold : b.store.Holds qs) (kept : ∀ q ∈ qs, q.Kept)
    (now : b.supply.takeTime.1.Kept) {id : Uuid} {name : String} {failure : Store.Failure}
    (failed : (b.rename id name).1 = .error failure) : (b.rename id name).2.store = b.store :=
  update_failed hold id (·.renamed name b.supply.takeTime.1) (fun _ => rfl) (fun _ => rfl)
    (fun q member => (kept q member).renamed now name) failed

theorem settle_failed (hold : b.store.Holds qs) (kept : ∀ q ∈ qs, q.Kept)
    (now : b.supply.takeTime.1.Kept) {id : Uuid} {response : Response} {failure : Failure}
    (failed : (b.settle id response).1 = .error failure) :
    (b.settle id response).2.store = b.store := by
  rw [settle_store]
  unfold settle at failed
  cases reads : parseOutput response.text with
  | error fault => rfl
  | ok sql =>
    rw [reads] at failed
    dsimp only at failed ⊢
    cases stored : (b.store.complete id b.supply.takeTime.1 sql response.id).1 with
    | ok q => simp [stored] at failed
    | error cause =>
      exact update_failed hold id (·.completed sql response.id b.supply.takeTime.1)
        (fun _ => rfl) (fun _ => rfl)
        (fun q member => (kept q member).completed now sql response.id) stored

/-- Asking the provider changes nothing else. -/
theorem ask_backend (b : Backend) (request : Request) :
    (b.ask request).2 = { b with provider := (b.ask request).2.provider } := by
  simp only [ask]
  split <;> rfl

/-- A generation that fails has stored nothing. -/
theorem generate_failed (hold : b.store.Holds qs) (kept : ∀ q ∈ qs, q.Kept)
    (now : b.supply.takeTime.1.Kept) {settings : Settings} {id : Uuid} {failure : Failure}
    (failed : (b.generate settings id).1 = .error failure) :
    (b.generate settings id).2.store = b.store := by
  unfold generate at failed ⊢
  cases loaded : b.load id with
  | error cause => rfl
  | ok q =>
    simp only [loaded] at failed ⊢
    have asked := ask_backend b (requestFor settings q)
    rcases answer : b.ask (requestFor settings q) with ⟨result, b'⟩
    rw [answer] at asked failed
    cases result with
    | error cause =>
      dsimp only at asked ⊢
      rw [asked]
    | ok response =>
      dsimp only at asked failed ⊢
      rw [asked] at failed ⊢
      exact settle_failed (b := { b with provider := b'.provider }) hold kept now failed

end Failing

end QueryDesk.Generation.Backend

namespace QueryDesk.Desk

open QueryDesk.Generation QueryDesk.Record QueryDesk.Service

/-! ## Responses that refuse -/

theorem failed_of_recordResponse {ε : Type} {refuse : ε → Refusal}
    {result : Except ε DynamicQuery} (refused : 400 ≤ (recordResponse refuse result).status) :
    ∃ failure, result = .error failure := by
  cases result with
  | error failure => exact ⟨failure, rfl⟩
  | ok q =>
    have ok : (recordResponse refuse (.ok q)).status = 200 := rfl
    omega

theorem failed_of_creationResponse {result : Except Store.Failure DynamicQuery}
    (refused : 400 ≤ (creationResponse result).status) : ∃ failure, result = .error failure := by
  cases result with
  | error failure => exact ⟨failure, rfl⟩
  | ok q =>
    have created : (creationResponse (.ok q)).status = 201 := rfl
    omega

/-- What is refused is not written, if all rows are read back and the time is kept by a row. -/
theorem act_refused {d : Desk} {qs : List DynamicQuery} (hold : d.backend.store.Holds qs)
    (kept : ∀ q ∈ qs, q.Kept) (now : d.backend.supply.takeTime.1.Kept) {r : Request} {a : Action}
    (refused : 400 ≤ (d.act r a).1.status) :
    (d.act r a).2.backend.store = d.backend.store := by
  cases a with
  | create =>
    rw [act] at refused ⊢
    cases read : readCreation r with
    | error refusal => rw [create_of_error d read]
    | ok c =>
      rw [create_of_ok d read] at refused ⊢
      obtain ⟨failure, failed⟩ := failed_of_creationResponse refused
      exact Backend.create_failed failed
  | rename segment =>
    rw [act] at refused ⊢
    cases hid : readId segment with
    | error refusal => rw [rename_of_badId d hid]
    | ok id =>
      cases read : readName r with
      | error refusal => rw [rename_of_error d hid read]
      | ok name =>
        rw [rename_of_ok d hid read] at refused ⊢
        obtain ⟨failure, failed⟩ := failed_of_recordResponse refused
        exact Backend.rename_failed hold kept now failed
  | generate segment =>
    rw [act] at refused ⊢
    cases hid : readId segment with
    | error refusal => rw [generate_of_badId d hid]
    | ok id =>
      rw [generate_of_ok d hid] at refused ⊢
      obtain ⟨failure, failed⟩ := failed_of_recordResponse refused
      exact Backend.generate_failed hold kept now failed
  | _ => rw [act_backend d r rfl]

theorem handle_refused {d : Desk} {qs : List DynamicQuery} (hold : d.backend.store.Holds qs)
    (kept : ∀ q ∈ qs, q.Kept) (now : d.backend.supply.takeTime.1.Kept) {r : Request}
    (refused : 400 ≤ (d.handle r).1.status) :
    (d.handle r).2.backend.store = d.backend.store := by
  cases asks : r.action? with
  | none => rw [handle_of_none d asks]
  | some a =>
    rw [handle_of_action d asks] at refused ⊢
    rw [Request.sent_status] at refused
    exact act_refused hold kept now refused

/-- `GET` writes nothing before its response is there. -/
theorem handle_get (d : Desk) {r : Request} (get : r.method = .get) :
    (d.handle r).2.backend = d.backend := by
  cases asks : r.action? with
  | none => rw [handle_of_none d asks]
  | some a =>
    rw [handle_of_action d asks]
    exact act_backend d r (r.writes_of_get get asks)

/-- Errors leave no trace.  After any session on a new store, and whatever the provider and the
    engine answer, a request whose response has a status of 400 or above leaves the table as it is,
    and so does a `GET` that does not ask for a stream; reading their bodies changes nothing either.
    Each row of the table is the row of a record that is read from it, whose name and prompt are
    more than white space, and whose SQL is, if it has any. -/
theorem refusal_leaves_table {d : Desk} (new : d.backend.store = Store.empty)
    (clock : ∀ n, (d.backend.supply.timeAt n).Civil) (steps : List Step) :
    let desk := (Session.run d steps).desk
    let table := desk.backend.store
    (∀ r, 400 ≤ (desk.handle r).1.status ∨
        r.method = .get ∧ (∀ segment, r.action? ≠ some (.stream segment)) →
      (desk.handle r).2.backend.store = table ∧
        ((desk.handle r).2.deliver (desk.handle r).1.body).2.backend.store = table) ∧
    ∀ row ∈ table.rows, ∃ q, row = Store.Row.ofRecord q ∧ row.read = .ok q ∧ Filled q := by
  intro desk table
  have sound := Session.run_sound new clock steps
  obtain ⟨hold, records⟩ := sound.records
  have kept : ∀ q ∈ replay (Session.run d steps).history, q.Kept := by
    intro q member
    exact (records q member).2
  have now : desk.backend.supply.takeTime.1.Kept := (sound.clock _).kept_truncated
  refine ⟨?_, ?_⟩
  · intro r condition
    have unwritten : (desk.handle r).2.backend.store = table := by
      rcases condition with refused | ⟨get, -⟩
      · exact handle_refused hold kept now refused
      · rw [handle_get desk get]
    have text : ∃ text, (desk.handle r).1.body = .text text := by
      apply handle_body
      rcases condition with refused | ⟨-, other⟩
      · exact .inl refused
      · right
        intro a asks
        cases a with
        | stream segment => exact absurd asks (other segment)
        | _ => rfl
    obtain ⟨text, body⟩ := text
    rw [deliver_text _ body]
    exact ⟨unwritten, unwritten⟩
  · intro row member
    have rows : table.rows = (replay (Session.run d steps).history).map Store.Row.ofRecord := hold
    rw [rows] at member
    obtain ⟨q, hq, rfl⟩ := List.mem_map.1 member
    exact ⟨q, rfl, (kept q hq).read, (records q hq).1⟩

end QueryDesk.Desk

namespace QueryDesk.Service

open QueryDesk.Generation QueryDesk.Record QueryDesk.Text

/-- A desk with a new store, whose clock stands still. -/
def newDesk (responses : List (Except Completion.Failure Completion.Response))
    (answers : List (Except Engine.Failure Json.Value)) : Desk where
  options := .default
  settings := .default
  backend := ⟨Store.empty, .scripted responses [],
    ⟨.ofNat, fun _ => ⟨2000, 1, 1, 0, 0, 0, 0⟩, 1, 0⟩⟩
  engine := .scripted answers

theorem civil_newDesk (responses : List (Except Completion.Failure Completion.Response))
    (answers : List (Except Engine.Failure Json.Value)) (n : Nat) :
    ((newDesk responses answers).backend.supply.timeAt n).Civil :=
  ⟨⟨(by decide : (0 : Int) ≤ 2000), (by decide : (2000 : Int) ≤ 9999)⟩,
    (rfl : isDate 2000 1 1 = true), (by decide : 0 < 24), (by decide : 0 < 60),
    (by decide : 0 ≤ 60), (by decide : 0 < 1000000000)⟩

/-- A request to create a record. -/
def salesCreation : Request :=
  ⟨.post, "/api/dynamic-queries", [("content-type", "application/json")],
    Utf8.encode "\x7b\"name\": \"Sales\", \"prompt\": \"total sales\"\x7d"⟩

/-- A request to generate the SQL of the first record. -/
def salesGeneration : Request :=
  ⟨.post, "/api/dynamic-queries/00000000-0000-0000-0000-000000000001/generate", [], []⟩

/-- A response whose SQL is blank. -/
def blankResponse : Completion.Response := ⟨"resp_1", "\x7b\"sql_query\": \" \"\x7d"⟩

/-- A record has been created, and the provider is about to answer with blank SQL. -/
def blankSession : Session :=
  .run (newDesk [.ok blankResponse] []) [.request salesCreation]

/-- The generation fails, and the record stays as it is. -/
theorem blankSession_leaves_table :
    blankSession.desk.backend.store.rows.length = 1 ∧
      (blankSession.desk.handle salesGeneration).1.status = 500 ∧
      (blankSession.desk.handle salesGeneration).2.backend.store =
        blankSession.desk.backend.store := by
  have created : blankSession.desk.backend.store.rows.length = 1 := by decide +kernel
  have failed : (blankSession.desk.handle salesGeneration).1.status = 500 := by decide +kernel
  have refused : 400 ≤ (blankSession.desk.handle salesGeneration).1.status := by
    rw [failed]
    decide
  have session : Session.run (newDesk [.ok blankResponse] []) [.request salesCreation] =
      blankSession := rfl
  have unwritten := Desk.refusal_leaves_table (d := newDesk [.ok blankResponse] []) rfl
    (civil_newDesk [.ok blankResponse] []) [.request salesCreation]
  rw [session] at unwritten
  exact ⟨created, failed, (unwritten.1 salesGeneration (.inl refused)).1⟩

end QueryDesk.Service
