import QueryDesk.Proofs.Json.Writer
import QueryDesk.Proofs.Service.Refusals

/-!
# What the engine is asked

The engine receives a statement only when results are asked for, and then it is the SQL of the
record with the id that was asked for, prepared and otherwise as it is stored.  That SQL was taken
from a completion that had been delivered to a generation for the same id (`generated_of_get`), so
by induction over a session each statement in the engine's log can be traced back to a request and
a completion (`statements_generated`).

What the engine answers is handed on as the data of a JSON object, and the text of that object says
what the value is, its numbers included (`Request.HandsOver`).
-/

namespace QueryDesk.Service

open QueryDesk.Completion QueryDesk.Generation QueryDesk.Json QueryDesk.Record QueryDesk.Store

/-! ## Requests for results -/

/-- A request for the results of the record with an id. -/
def Request.AsksResults (r : Request) (id : Uuid) : Prop :=
  ∃ segment, r.action? = some (.results segment) ∧ readId segment = .ok id

/-- A response that hands a value over: its text is that of an object whose data says what the value
    is.  As always, a response to `HEAD` has no text. -/
def Request.HandsOver (r : Request) (response : Response) (value : Value) : Prop :=
  ∃ text, response = ⟨200, [("content-type", "application/json"),
      ("access-control-allow-origin", "*")], .text text⟩ ∧
    (r.method = .head → text = "") ∧
    (r.method ≠ .head → ∃ data, data.Says value ∧ IsText text
      (.object [(some "message", .string (some "Success")),
        (some "details", .string (some "The request was successful.")), (some "data", data)] true))

/-- A success hands its value over. -/
theorem Request.handsOver_success (r : Request) (value : Value) :
    r.HandsOver (r.sent (.success 200 value)) value := by
  by_cases head : r.method = .head
  · refine ⟨"", ?_, fun _ => rfl, fun other => absurd head other⟩
    rw [Request.sent, if_pos head]
    rfl
  · obtain ⟨data, spelled, meant⟩ := value.exists_spells_chars
    have members : List.Forall₂ (fun m v => m.1 = some v.1 ∧ m.2.Spells v.2.chars)
        [(some "message", .string (some "Success")),
          (some "details", .string (some "The request was successful.")), (some "data", data)]
        [("message", .string "Success"), ("details", .string "The request was successful."),
          ("data", value)] :=
      .cons ⟨rfl, Value.spells_chars (.string "Success") rfl⟩
        (.cons ⟨rfl, Value.spells_chars (.string "The request was successful.") rfl⟩
          (.cons ⟨rfl, spelled⟩ .nil))
    refine ⟨_, ?_, fun same => absurd same head,
      fun _ => ⟨data, meant, Value.isText_render_object members⟩⟩
    rw [Request.sent, if_neg head]
    rfl

/-- In a session, SQL for an id was taken from a completion that was delivered to the `k`th of the
    requests that had got to the store, one that generates for the id, and then stored for it. -/
def Generated (d : Desk) (steps : List Step) (id : Uuid) (sql : String) : Prop :=
  ∃ k response now demand, (steps.filterMap Step.demand?)[k]? = some demand ∧
    demand.Generates id ∧ parseOutput response.text = .ok sql ∧
    [.delivered k id response, .stored k id response sql now].Sublist (Session.run d steps).history

/-- SQL that is read from the table of a session was generated for the same id. -/
theorem generated_of_get {d : Desk} (new : d.backend.store = Store.empty)
    (clock : ∀ n, (d.backend.supply.timeAt n).Civil) {steps : List Step} {id : Uuid}
    {q : DynamicQuery} {sql : String}
    (found : (Session.run d steps).desk.backend.store.get id = .ok (some q))
    (query : q.query = some sql) : Generated d steps id sql := by
  have sound := Session.run_sound new clock steps
  rw [sound.get, Except.ok.injEq] at found
  have hid : q.id = id := by simpa using List.find?_some found
  have accounted := accounted_of_mem_replay sound.world.orderly q (List.mem_of_find?_eq_some found)
  have complete : q.status = .complete := by
    cases status : q.status with
    | complete => rfl
    | inProgress =>
      rw [accounted.inProgress_iff_query.1 status] at query
      cases query
  obtain ⟨k, response, now, sql', -, stored, reads, here, -⟩ := accounted.completed complete
  rw [query, Option.some.injEq] at here
  subst here
  rw [hid] at stored
  have delivered : .delivered k id response ∈ (Session.run d steps).history :=
    stored.subset (List.mem_cons_self ..)
  obtain ⟨t, wanted, generates⟩ := sound.world.delivered delivered
  refine ⟨k, response, now, t.demand, ?_, generates, reads, stored⟩
  rw [← Session.run_demands, List.getElem?_map]
  exact congrArg (Option.map Task.demand) wanted

end QueryDesk.Service

namespace QueryDesk.Desk

open QueryDesk.Generation QueryDesk.Record QueryDesk.Service

/-! ## One request -/

section Results

variable (d : Desk) {r : Request} {id : Uuid}

theorem handle_of_asksResults (asks : r.AsksResults id) :
    ∃ segment, readId segment = .ok id ∧
      d.handle r = (r.sent (d.results segment).1, (d.results segment).2) := by
  obtain ⟨segment, action, hid⟩ := asks
  exact ⟨segment, hid, handle_of_action d action⟩

theorem results_unknown (asks : r.AsksResults id) (absent : d.backend.store.get id = .ok none) :
    d.handle r = (r.sent Refusal.notFound.response, d) := by
  obtain ⟨segment, hid, handled⟩ := d.handle_of_asksResults asks
  have missing : d.find id = .error .notFound := by rw [find, absent]
  rw [handled, results_of_error d hid missing]

theorem results_notGenerated (asks : r.AsksResults id) {q : DynamicQuery}
    (found : d.backend.store.get id = .ok (some q)) (without : q.query = none) :
    d.handle r = (r.sent (runRefusal (.notGenerated q.id)).response, d) := by
  obtain ⟨segment, hid, handled⟩ := d.handle_of_asksResults asks
  have here : d.find id = .ok q := by rw [find, found]
  have failed : d.engine.run q = (.error (.notGenerated q.id), d.engine) := by
    rw [Engine.run, without]
  rw [handled, results_of_ok d hid here, failed]
  rfl

/-- The engine is asked for the prepared SQL, and its answer is passed on. -/
theorem results_submitted (asks : r.AsksResults id) {q : DynamicQuery} {sql : String}
    (found : d.backend.store.get id = .ok (some q)) (query : q.query = some sql) :
    d.handle r =
      (r.sent (runResponse ((d.engine.submit (Engine.prepare sql)).1.mapError .engine)),
        { d with engine := (d.engine.submit (Engine.prepare sql)).2 }) := by
  obtain ⟨segment, hid, handled⟩ := d.handle_of_asksResults asks
  have here : d.find id = .ok q := by rw [find, found]
  have ran : d.engine.run q = ((d.engine.submit (Engine.prepare sql)).1.mapError .engine,
      (d.engine.submit (Engine.prepare sql)).2) := by
    simp only [Engine.run, query, Engine.execute]
    cases (d.engine.submit (Engine.prepare sql)).1 <;> rfl
  rw [handled, results_of_ok d hid here, ran]

/-- A value of the engine is what makes a response one of status 200. -/
theorem runResponse_status (answer : Except Engine.Failure Json.Value) :
    (runResponse (answer.mapError .engine)).status = 200 ↔ ∃ value, answer = .ok value := by
  cases answer with
  | ok value => exact iff_of_true rfl ⟨value, rfl⟩
  | error failure =>
    refine iff_of_false ?_ ?_
    · intro status
      cases status
    · rintro ⟨value, same⟩
      cases same

/-- No other request gets to the engine. -/
theorem handle_engine (other : ¬ ∃ id, r.AsksResults id) : (d.handle r).2.engine = d.engine := by
  cases asks : r.action? with
  | none => rw [handle_of_none d asks]
  | some a =>
    rw [handle_of_action d asks]
    dsimp only
    cases runs : a.runs with
    | false => rw [act_of_runs d r runs]
    | true =>
      cases a with
      | results segment =>
        cases hid : readId segment with
        | error refusal => rw [act, results_of_badId d hid]
        | ok id => exact absurd ⟨id, segment, asks, hid⟩ other
      | _ => cases runs

theorem submit_statements (e : Engine) (statement : String) :
    (e.submit statement).2.statements = e.statements ++ [statement] := by
  unfold Engine.submit
  dsimp only
  split <;> rfl

/-- A statement that is new to the engine is the prepared SQL of the record asked for. -/
theorem statements_of_handle {statement : String}
    (given : statement ∈ (d.handle r).2.engine.statements) :
    statement ∈ d.engine.statements ∨ ∃ id q sql, r.AsksResults id ∧
      d.backend.store.get id = .ok (some q) ∧ q.query = some sql ∧
      statement = Engine.prepare sql := by
  by_cases asks : ∃ id, r.AsksResults id
  · obtain ⟨id, asks⟩ := asks
    cases got : d.backend.store.get id with
    | error failure =>
      obtain ⟨segment, hid, handled⟩ := d.handle_of_asksResults asks
      have failed : d.find id = .error (storeRefusal failure) := by rw [find, got]
      rw [handled, results_of_error d hid failed] at given
      exact .inl given
    | ok found =>
      cases found with
      | none =>
        rw [d.results_unknown asks got] at given
        exact .inl given
      | some q =>
        cases query : q.query with
        | none =>
          rw [d.results_notGenerated asks got query] at given
          exact .inl given
        | some sql =>
          rw [d.results_submitted asks got query] at given
          dsimp only at given
          rw [submit_statements] at given
          rcases List.mem_append.1 given with old | last
          · exact .inl old
          · exact .inr ⟨id, q, sql, asks, got, query, List.mem_singleton.1 last⟩
  · rw [d.handle_engine asks] at given
    exact .inl given

end Results

/-! ## All requests -/

/-- A step that answers no request leaves the engine alone. -/
theorem step_engine (s : Session) {x : Step} (other : ∀ r, x ≠ .request r) :
    (s.step x).desk.engine = s.desk.engine := by
  cases x with
  | request r => exact absurd rfl (other r)
  | start r =>
    rw [Session.step, Session.start]
    split <;> rfl
  | turn k => rw [Session.step, Session.turn_desk]

/-- Each statement was sent for a request, from what was stored then. -/
theorem statements_traced {d : Desk} (unasked : d.engine.statements = []) (steps : List Step) :
    ∀ statement ∈ (Session.run d steps).desk.engine.statements,
      ∃ before r after id q sql, steps = before ++ .request r :: after ∧ r.AsksResults id ∧
        (Session.run d before).desk.backend.store.get id = .ok (some q) ∧ q.query = some sql ∧
        statement = Engine.prepare sql := by
  induction steps using List.reverseRecOn with
  | nil =>
    intro statement given
    change statement ∈ d.engine.statements at given
    rw [unasked] at given
    cases given
  | append_singleton steps x ih =>
    intro statement given
    rw [Session.run_concat] at given
    have earlier : statement ∈ (Session.run d steps).desk.engine.statements →
        ∃ before r after id q sql, steps ++ [x] = before ++ .request r :: after ∧
          r.AsksResults id ∧ (Session.run d before).desk.backend.store.get id = .ok (some q) ∧
          q.query = some sql ∧ statement = Engine.prepare sql := by
      intro old
      obtain ⟨before, r, after, id, q, sql, cut, rest⟩ := ih statement old
      refine ⟨before, r, after ++ [x], id, q, sql, ?_, rest⟩
      rw [cut, List.append_assoc, List.cons_append]
    by_cases answers : ∃ r, x = .request r
    · obtain ⟨r, rfl⟩ := answers
      rcases statements_of_handle (Session.run d steps).desk given with
        old | ⟨id, q, sql, asks, found, query, same⟩
      · exact earlier old
      · exact ⟨steps, r, [], id, q, sql, rfl, asks, found, query, same⟩
    · rw [step_engine _ fun r same => answers ⟨r, same⟩] at given
      exact earlier given

/-- Only generated SQL of the record that was asked for reaches the engine.  In any session on a
    new store, whatever the provider and the engine answer, each statement that the engine has
    received was sent for a request for results: it is the prepared SQL of the record with that id
    as it was then, and the SQL was taken from a completion of a generation for the same id.  A
    request for results sends nothing if there is no such record (404) or it has no SQL (400), and
    otherwise this one statement; it is answered by 200 just if the engine has a value, which the
    response hands over as it is.  Nothing else gets to the engine. -/
theorem statements_generated {d : Desk} (new : d.backend.store = Store.empty)
    (unasked : d.engine.statements = []) (clock : ∀ n, (d.backend.supply.timeAt n).Civil)
    (steps : List Step) :
    let desk := (Session.run d steps).desk
    (∀ statement ∈ desk.engine.statements, ∃ before r after id q sql,
        steps = before ++ .request r :: after ∧ r.AsksResults id ∧
        (Session.run d before).desk.backend.store.get id = .ok (some q) ∧ q.query = some sql ∧
        statement = Engine.prepare sql ∧ Generated d before id sql) ∧
      (∀ r id, r.AsksResults id → ∃ found, desk.backend.store.get id = .ok found ∧
        (found = none → (desk.handle r).1.status = 404 ∧ (desk.handle r).2 = desk) ∧
        (∀ q, found = some q → q.query = none →
          (desk.handle r).1.status = 400 ∧ (desk.handle r).2 = desk) ∧
        ∀ q sql, found = some q → q.query = some sql →
          let submitted := desk.engine.submit (Engine.prepare sql)
          (desk.handle r).2 = { desk with engine := submitted.2 } ∧
            submitted.2.statements = desk.engine.statements ++ [Engine.prepare sql] ∧
            ((desk.handle r).1.status = 200 ↔ ∃ value, submitted.1 = .ok value) ∧
            ∀ value, submitted.1 = .ok value → r.HandsOver (desk.handle r).1 value) ∧
      (∀ r, (¬ ∃ id, r.AsksResults id) → (desk.handle r).2.engine = desk.engine) ∧
      ∀ x, (∀ r, x ≠ .request r) →
        ((Session.run d steps).step x).desk.engine = desk.engine := by
  intro desk
  have sound := Session.run_sound new clock steps
  refine ⟨?_, ?_, ?_, ?_⟩
  · intro statement given
    obtain ⟨before, r, after, id, q, sql, cut, asks, found, query, same⟩ :=
      statements_traced unasked steps statement given
    exact ⟨before, r, after, id, q, sql, cut, asks, found, query, same,
      generated_of_get new clock found query⟩
  · intro r id asks
    refine ⟨_, sound.get id, ?_, ?_, ?_⟩
    · intro absent
      have got := sound.get id
      rw [absent] at got
      rw [desk.results_unknown asks got, Request.sent_status]
      exact ⟨rfl, rfl⟩
    · intro q here without
      have got := sound.get id
      rw [here] at got
      rw [desk.results_notGenerated asks got without, Request.sent_status]
      exact ⟨rfl, rfl⟩
    · intro q sql here query submitted
      have got := sound.get id
      rw [here] at got
      rw [desk.results_submitted asks got query, Request.sent_status]
      refine ⟨rfl, submit_statements desk.engine _, ?_, ?_⟩
      · exact runResponse_status submitted.1
      · intro value answered
        change r.HandsOver (r.sent (runResponse (submitted.1.mapError .engine))) value
        rw [answered]
        exact r.handsOver_success value
  · intro r other
    exact desk.handle_engine other
  · intro x other
    exact step_engine _ other

end QueryDesk.Desk

namespace QueryDesk.Service

open QueryDesk.Generation QueryDesk.Json QueryDesk.Record

/-- A request for the results of the first record. -/
def salesResults : Request :=
  ⟨.get, "/api/dynamic-queries/00000000-0000-0000-0000-000000000001/results", [], []⟩

/-- A response whose SQL ends in a semicolon and a line end. -/
def separatedResponse : Completion.Response :=
  ⟨"resp_1", "\x7b\"sql_query\": \"SELECT 1;\\n\"\x7d"⟩

/-- Results are asked for before and after a generation. -/
def salesSteps : List Step :=
  [.request salesCreation, .request salesResults, .request salesGeneration, .request salesResults]

/-- A desk whose provider answers once, and whose engine has no value at first and then one. -/
def salesDesk : Desk := newDesk [.ok separatedResponse] [.error .noRows, .ok (.string "42")]

/-- The one statement is that of the second request for results.  A third one would be handed the
    engine's value. -/
theorem salesSteps_statements :
    (Session.run salesDesk salesSteps).desk.engine.statements = ["SELECT 1"] ∧
      (∃ before r after id q sql, salesSteps = before ++ .request r :: after ∧ r.AsksResults id ∧
        (Session.run salesDesk before).desk.backend.store.get id = .ok (some q) ∧
        q.query = some sql ∧ "SELECT 1" = Engine.prepare sql ∧
        Generated salesDesk before id sql) ∧
      salesResults.HandsOver ((Session.run salesDesk salesSteps).desk.handle salesResults).1
        (.string "42") := by
  have asks : salesResults.AsksResults (.ofNat 1) :=
    ⟨"00000000-0000-0000-0000-000000000001", by decide +kernel, by decide +kernel⟩
  have reached : (Session.run salesDesk salesSteps).desk.engine.statements = ["SELECT 1"] ∧
      ((Session.run salesDesk salesSteps).desk.backend.store.get (.ofNat 1)).toOption.join.bind
        DynamicQuery.query = some "SELECT 1;\n" ∧
      ((Session.run salesDesk salesSteps).desk.engine.submit "SELECT 1").1.toOption.bind
        Value.text? = some "42" := by
    decide +kernel
  have prepared : Engine.prepare "SELECT 1;\n" = "SELECT 1" := by decide +kernel
  obtain ⟨traced, answered, -⟩ := Desk.statements_generated (d := salesDesk) rfl rfl
    (civil_newDesk [.ok separatedResponse] [.error .noRows, .ok (.string "42")]) salesSteps
  generalize (Session.run salesDesk salesSteps).desk = desk at reached traced answered ⊢
  obtain ⟨sent, stored, text⟩ := reached
  have given : "SELECT 1" ∈ desk.engine.statements := by
    rw [sent]
    exact List.mem_singleton_self _
  refine ⟨sent, traced "SELECT 1" given, ?_⟩
  obtain ⟨found, got, -, -, submitted⟩ := answered salesResults (.ofNat 1) asks
  rw [got] at stored
  obtain ⟨q, here, query⟩ := Option.bind_eq_some_iff.1 stored
  obtain ⟨-, -, -, handed⟩ := submitted q _ here query
  rw [prepared] at handed
  cases reply : (desk.engine.submit "SELECT 1").1 with
  | error failure =>
    rw [reply] at text
    cases text
  | ok value =>
    rw [reply] at text
    cases value with
    | string s =>
      cases text
      exact handed _ reply
    | _ => cases text

end QueryDesk.Service
