import QueryDesk.Service.Desk

/-!
# What handling a request comes to

A request either asks for one of the nine actions or is turned away with an empty body
(`handle_of_action`, `handle_of_none`), so what is to be said of all requests is said of the
actions.  Most actions leave the store, the provider and the supply alone (`act_backend`), and only
one asks the engine (`act_engine`).  A body is a text unless it is that of a stream.
-/

namespace QueryDesk.Service

open QueryDesk.Generation QueryDesk.Json

/-! ## Requests and responses -/

namespace Request

/-- What a request asks for, if its path is known and its method is served there. -/
def action? (r : Request) : Option Action :=
  (r.segments?.bind Route.ofSegments?).bind fun route =>
    route.action? (if r.method = .head then .get else r.method)

/-- A response as it is sent to the requester. -/
def sent (r : Request) (response : Response) : Response :=
  (if r.method = .head then response.withoutBody else response).withHeader
    "access-control-allow-origin" "*"

/-- The response to a request that asks for nothing that is served. -/
def unserved (r : Request) : Response :=
  (match r.segments?.bind Route.ofSegments? with
    | none => Response.bare (if r.method = Method.options then 200 else 404)
    | some route => (Response.bare (if r.method = Method.options then 200 else 405)).withHeader
        "allow" route.allow).withHeader "access-control-allow-origin" "*"

theorem sent_status (r : Request) (response : Response) :
    (r.sent response).status = response.status := by
  unfold sent
  split <;> rfl

theorem unserved_body (r : Request) : r.unserved.body = .text "" := by
  unfold unserved
  split <;> rfl

/-- What is sent is a text if the response is one. -/
theorem sent_text {response : Response} {text : String} (h : response.body = .text text)
    (r : Request) : ∃ text', (r.sent response).body = .text text' := by
  unfold sent
  split
  · exact ⟨"", rfl⟩
  · exact ⟨text, h⟩

end Request

/-- Whether an action may write to the store before its response is there. -/
def Action.writes : Action → Bool
  | .create | .rename _ | .generate _ => true
  | _ => false

/-- Whether an action asks the engine. -/
def Action.runs : Action → Bool
  | .results _ => true
  | _ => false

/-- Whether an action answers with a stream. -/
def Action.streams : Action → Bool
  | .stream _ => true
  | _ => false

/-- `GET` asks for nothing that writes. -/
theorem Request.writes_of_get {r : Request} (get : r.method = .get) {a : Action}
    (asks : r.action? = some a) : a.writes = false := by
  obtain ⟨route, -, served⟩ := Option.bind_eq_some_iff.1 asks
  have other : ¬ r.method = .head := by rw [get]; exact Method.noConfusion
  rw [if_neg other, get] at served
  cases route <;> simp only [Route.action?, Option.some.injEq, reduceCtorEq] at served <;>
    · subst served
      rfl

/-- A refusal is a text. -/
theorem Refusal.response_body (refusal : Refusal) :
    ∃ text, refusal.response.body = .text text := by
  cases refusal <;> exact ⟨_, rfl⟩

/-- The response for a new record, or for a failure. -/
def creationResponse : Except Store.Failure Record.DynamicQuery → Response
  | .ok q => .success 201 (.string q.id.text)
  | .error failure => (storeRefusal failure).response

/-- The response for the value of a query, or for a failure. -/
def runResponse : Except Engine.RunFailure Value → Response
  | .ok value => .success 200 value
  | .error failure => (runRefusal failure).response

theorem creationResponse_body (result : Except Store.Failure Record.DynamicQuery) :
    ∃ text, (creationResponse result).body = .text text := by
  cases result with
  | ok q => exact ⟨_, rfl⟩
  | error failure => exact (storeRefusal failure).response_body

theorem runResponse_body (result : Except Engine.RunFailure Value) :
    ∃ text, (runResponse result).body = .text text := by
  cases result with
  | ok value => exact ⟨_, rfl⟩
  | error failure => exact (runRefusal failure).response_body

theorem recordResponse_body {ε : Type} (refuse : ε → Refusal)
    (result : Except ε Record.DynamicQuery) :
    ∃ text, (recordResponse refuse result).body = .text text := by
  cases result with
  | ok q => exact ⟨_, rfl⟩
  | error failure => exact (refuse failure).response_body

theorem sqlResponse_body (result : Except Sql.CompileError String) :
    ∃ text, (sqlResponse result).body = .text text := by
  cases result with
  | ok sql => exact ⟨_, rfl⟩
  | error e => exact Refusal.response_body _

end QueryDesk.Service

namespace QueryDesk.Desk

open QueryDesk.Generation QueryDesk.Record QueryDesk.Service

/-! ## From requests to actions -/

theorem handle_of_none (d : Desk) {r : Request} (h : r.action? = none) :
    d.handle r = (r.unserved, d) := by
  unfold Request.action? at h
  unfold handle Request.unserved
  cases known : r.segments?.bind Route.ofSegments? with
  | none => rfl
  | some route =>
    rw [known, Option.bind_some] at h
    simp only [answer, h]

theorem handle_of_action (d : Desk) {r : Request} {a : Action} (h : r.action? = some a) :
    d.handle r = (r.sent (d.act r a).1, (d.act r a).2) := by
  unfold Request.action? at h
  unfold handle Request.sent
  cases known : r.segments?.bind Route.ofSegments? with
  | none =>
    rw [known] at h
    cases h
  | some route =>
    rw [known, Option.bind_some] at h
    simp only [answer, h]

/-! ## Actions by what they read

Each action first reads the request.  What it does then is a call and a response to its result. -/

section Actions

variable (d : Desk) {r : Request} {segment : String} {refusal : Refusal} {id : Uuid}

theorem create_of_error (h : readCreation r = .error refusal) :
    d.create r = (refusal.response, d) := by
  rw [create, h]

theorem create_of_ok {c : Creation} (h : readCreation r = .ok c) :
    d.create r = (creationResponse (d.backend.create c.name c.prompt).1,
      { d with backend := (d.backend.create c.name c.prompt).2 }) := by
  rw [create, h]
  dsimp only
  cases (d.backend.create c.name c.prompt).1 <;> rfl

theorem rename_of_badId (h : readId segment = .error refusal) :
    d.rename segment r = (refusal.response, d) := by
  rw [rename, h]

theorem rename_of_error (hid : readId segment = .ok id) (h : readName r = .error refusal) :
    d.rename segment r = (refusal.response, d) := by
  rw [rename, hid]
  dsimp only
  rw [h]

theorem rename_of_ok {name : String} (hid : readId segment = .ok id) (h : readName r = .ok name) :
    d.rename segment r = (recordResponse storeRefusal (d.backend.rename id name).1,
      { d with backend := (d.backend.rename id name).2 }) := by
  rw [rename, hid]
  dsimp only
  rw [h]

theorem generate_of_badId (h : readId segment = .error refusal) :
    d.generate segment = (refusal.response, d) := by
  rw [generate, h]

theorem generate_of_ok (h : readId segment = .ok id) :
    d.generate segment = (recordResponse generationRefusal (d.backend.generate d.settings id).1,
      { d with backend := (d.backend.generate d.settings id).2 }) := by
  rw [generate, h]

theorem results_of_badId (h : readId segment = .error refusal) :
    d.results segment = (refusal.response, d) := by
  rw [results, h]

theorem results_of_error (hid : readId segment = .ok id) (h : d.find id = .error refusal) :
    d.results segment = (refusal.response, d) := by
  rw [results, hid]
  dsimp only
  rw [h]

theorem results_of_ok {q : DynamicQuery} (hid : readId segment = .ok id) (h : d.find id = .ok q) :
    d.results segment = (runResponse (d.engine.run q).1,
      { d with engine := (d.engine.run q).2 }) := by
  rw [results, hid]
  dsimp only
  rw [h]
  dsimp only
  cases (d.engine.run q).1 <;> rfl

end Actions

/-! ## What an action leaves alone -/

theorem results_backend (d : Desk) (segment : String) :
    (d.results segment).2 = { d with engine := (d.results segment).2.engine } := by
  cases hid : readId segment with
  | error refusal => rw [results_of_badId d hid]
  | ok id =>
    cases found : d.find id with
    | error refusal => rw [results_of_error d hid found]
    | ok q => rw [results_of_ok d hid found]

/-- Most actions write nothing. -/
theorem act_backend (d : Desk) (r : Request) {a : Action} (h : a.writes = false) :
    (d.act r a).2.backend = d.backend := by
  cases a with
  | create | rename segment | generate segment => cases h
  | results segment =>
    rw [act, results_backend]
  | _ => rfl

/-- An action that does not ask the engine changes the backend at most. -/
theorem act_of_runs (d : Desk) (r : Request) {a : Action} (h : a.runs = false) :
    (d.act r a).2 = { d with backend := (d.act r a).2.backend } := by
  cases a with
  | results segment => cases h
  | create =>
    rw [act]
    cases read : readCreation r with
    | error refusal => rw [create_of_error d read]
    | ok c => rw [create_of_ok d read]
  | rename segment =>
    rw [act]
    cases hid : readId segment with
    | error refusal => rw [rename_of_badId d hid]
    | ok id =>
      cases read : readName r with
      | error refusal => rw [rename_of_error d hid read]
      | ok name => rw [rename_of_ok d hid read]
  | generate segment =>
    rw [act]
    cases hid : readId segment with
    | error refusal => rw [generate_of_badId d hid]
    | ok id => rw [generate_of_ok d hid]
  | _ => rfl

/-! ## Bodies -/

theorem stream_body (d : Desk) (segment : String) :
    (∃ text, (d.stream segment).body = .text text) ∨
      ∃ relay, d.stream segment = .stream relay := by
  unfold stream
  split
  · exact .inl (Refusal.response_body _)
  · split
    · exact .inl (Refusal.response_body _)
    · exact .inr ⟨_, rfl⟩

/-- An action answers with a text, but that a stream may be started. -/
theorem act_body (d : Desk) (r : Request) (a : Action) :
    (∃ text, (d.act r a).1.body = .text text) ∨
      a.streams = true ∧ ∃ relay, (d.act r a).1 = .stream relay := by
  cases a with
  | list =>
    left
    rw [act, list]
    split
    · exact ⟨_, rfl⟩
    · exact Refusal.response_body _
  | create =>
    left
    rw [act]
    cases read : readCreation r with
    | error refusal => rw [create_of_error d read]; exact refusal.response_body
    | ok c => rw [create_of_ok d read]; exact creationResponse_body _
  | preview => exact .inl (sqlResponse_body _)
  | fetch segment =>
    left
    rw [act, fetch]
    split
    · exact Refusal.response_body _
    · exact recordResponse_body _ _
  | rename segment =>
    left
    rw [act]
    cases hid : readId segment with
    | error refusal => rw [rename_of_badId d hid]; exact refusal.response_body
    | ok id =>
      cases read : readName r with
      | error refusal => rw [rename_of_error d hid read]; exact refusal.response_body
      | ok name => rw [rename_of_ok d hid read]; exact recordResponse_body _ _
  | stream segment =>
    rcases stream_body d segment with text | relay
    · exact .inl text
    · exact .inr ⟨rfl, relay⟩
  | generate segment =>
    left
    rw [act]
    cases hid : readId segment with
    | error refusal => rw [generate_of_badId d hid]; exact refusal.response_body
    | ok id => rw [generate_of_ok d hid]; exact recordResponse_body _ _
  | results segment =>
    left
    rw [act]
    cases hid : readId segment with
    | error refusal => rw [results_of_badId d hid]; exact refusal.response_body
    | ok id =>
      cases found : d.find id with
      | error refusal => rw [results_of_error d hid found]; exact refusal.response_body
      | ok q => rw [results_of_ok d hid found]; exact runResponse_body _
  | compile =>
    left
    rw [act, compile]
    split
    · exact Refusal.response_body _
    · exact sqlResponse_body _

/-- A response that is refused, or whose request does not ask for a stream, is a text. -/
theorem handle_body (d : Desk) (r : Request)
    (h : 400 ≤ (d.handle r).1.status ∨ ∀ a, r.action? = some a → a.streams = false) :
    ∃ text, (d.handle r).1.body = .text text := by
  cases asks : r.action? with
  | none =>
    rw [handle_of_none d asks]
    exact ⟨"", r.unserved_body⟩
  | some a =>
    rw [handle_of_action d asks] at h ⊢
    rcases act_body d r a with ⟨text, body⟩ | ⟨streams, relay, opened⟩
    · exact r.sent_text body
    · rcases h with refused | other
      · simp only [Request.sent_status, opened] at refused
        have ok : (Response.stream relay).status = 200 := rfl
        omega
      · rw [other a asks] at streams
        cases streams

/-- A text is delivered without further work. -/
theorem deliver_text (d : Desk) {body : Body} {text : String} (h : body = .text text) :
    d.deliver body = (text, d) := by
  rw [h, deliver]

end QueryDesk.Desk
