import QueryDesk.Proofs.Generation.Agreement
import QueryDesk.Proofs.Store.Listing

/-!
# A generation continues the last response that was stored

Requests are served one after another, each from start to end, whatever the provider answers.  To
the store a request is a few calls: a generation makes one for each response whose output is
accepted, in the order in which they come, and none if it fails before (`serve_calls`).  Of a record
the store keeps the prompt that it was created with and what it was last completed with.  So a
generation sends this prompt, and continues the last response that any generation of the record has
stored (`request_continues`).
-/

namespace QueryDesk.Store

open QueryDesk.Generation QueryDesk.Record

/-! ## The last completion -/

/-- The SQL and the response id that a call completes the record with an id with. -/
def Call.completion? (id : Uuid) : Call → Option (String × String)
  | .complete id' query responseId => if id' = id then some (query, responseId) else none
  | _ => none

/-- A table in which the record with an id has a prompt, and the SQL and the response id of a
    completion if there was one. -/
structure Shows (s : Store) (id : Uuid) (prompt : String) (last : Option (String × String))
    (qs : List DynamicQuery) : Prop where
  holds : s.Holds qs
  present : ∃ q ∈ qs, q.id = id
  shown : ∀ q ∈ qs, q.id = id →
    q.prompt = prompt ∧ q.query = last.map Prod.fst ∧ q.responseId = last.map Prod.snd

section Calls

variable {s : Store} {id : Uuid} {prompt : String} {last : Option (String × String)}
  {qs : List DynamicQuery}

/-- What is read under the id is what the table shows. -/
theorem Shows.of_get (h : s.Shows id prompt last qs) {q : DynamicQuery}
    (found : s.get id = .ok (some q)) :
    q.prompt = prompt ∧ q.query = last.map Prod.fst ∧ q.responseId = last.map Prod.snd := by
  obtain ⟨q', member, hid, same⟩ := mem_of_get h.holds found
  rw [same]
  exact h.shown q' member hid

/-- An update of the rows with another id, or one that leaves what is shown of this id. -/
theorem shows_update (h : s.Shows id prompt last qs) (id' : Uuid) {change : Row → Row}
    (change' : DynamicQuery → DynamicQuery) {last' : Option (String × String)}
    (agree : ∀ q, change (Row.ofRecord q) = Row.ofRecord (change' q))
    (keeps : ∀ q, (change' q).id = q.id)
    (other : id' ≠ id → last' = last)
    (shown : id' = id → ∀ q : DynamicQuery, q.prompt = prompt ∧ q.query = last.map Prod.fst ∧
      q.responseId = last.map Prod.snd → (change' q).prompt = prompt ∧
        (change' q).query = last'.map Prod.fst ∧ (change' q).responseId = last'.map Prod.snd) :
    (s.update id' change).2.Shows id prompt last' (DynamicQuery.mapId id' change' qs) where
  holds := by
    rw [update_snd]
    exact updateRows_holds h.holds id' agree
  present := by
    obtain ⟨q, member, hid⟩ := h.present
    have ids : id ∈ (DynamicQuery.mapId id' change' qs).map (·.id) := by
      rw [mapId_ids id' keeps, ← hid]
      exact List.mem_map_of_mem member
    exact List.mem_map.1 ids
  shown := by
    intro q member hid
    rcases mem_mapId member with ⟨q', member', hid', rfl⟩ | ⟨old, hid'⟩
    · rw [keeps] at hid
      exact shown (hid'.symm.trans hid) q' (h.shown q' member' hid)
    · rw [other fun same => hid' (hid.trans same.symm)]
      exact h.shown q old hid

end Calls

/-- A call leaves the rows of some records. -/
theorem holds_call {b : Backend} {qs : List DynamicQuery} (h : b.store.Holds qs) (x : Call) :
    ∃ qs', (tableCall b x).2.store.Holds qs' := by
  cases x with
  | create name prompt =>
    rw [tableCall, Backend.create]
    dsimp only
    rcases create_cases h b.supply.takeId.1 b.supply.takeId.2.takeTime.1 name prompt with
      ⟨-, refused⟩ | ⟨-, s', made, holds⟩
    · rw [refused]
      exact ⟨qs, h⟩
    · rw [made]
      exact ⟨_, holds⟩
  | get id => exact ⟨qs, h⟩
  | rename id name => exact ⟨_, rename_holds h id _ name⟩
  | complete id query responseId => exact ⟨_, complete_holds h id _ query responseId⟩

/-- A record that the table shows can be read if all times are exact. -/
theorem Shows.get {s : Store} {id : Uuid} {prompt : String} {last : Option (String × String)}
    {created qs qs' : List DynamicQuery} (h : s.Shows id prompt last qs)
    (covers : s.Covers created qs') : ∃ q, s.get id = .ok (some q) := by
  have read := get_of_holds covers.holds (fun q member => (covers.times q member).kept) id
  have row := row?_of_holds h.holds id
  rw [row?_of_holds covers.holds] at row
  cases found : qs'.find? (·.id = id) with
  | some q =>
    rw [found] at read
    exact ⟨q, read⟩
  | none =>
    obtain ⟨q, member, hid⟩ := h.present
    rw [found, Option.map_none, eq_comm, Option.map_eq_none_iff, List.find?_eq_none] at row
    exact absurd (decide_eq_true hid) (row q member)

/-- A new record shows its prompt, and no completion. -/
theorem shows_create {b : Backend} {qs : List DynamicQuery} (h : b.store.Holds qs)
    {name prompt : String} {q : DynamicQuery} (created : (b.create name prompt).1 = .ok q) :
    ∃ qs', (b.create name prompt).2.store.Shows q.id prompt none qs' := by
  rw [Backend.create] at created ⊢
  dsimp only at created ⊢
  rcases create_cases h b.supply.takeId.1 b.supply.takeId.2.takeTime.1 name prompt with
    ⟨-, refused⟩ | ⟨unused, s', made, holds⟩
  · rw [refused] at created
    cases created
  · rw [made] at created ⊢
    cases created
    refine ⟨_, holds, ⟨_, List.mem_concat_self, rfl⟩, ?_⟩
    intro q member hid
    rcases List.mem_append.1 member with old | new
    · exact absurd hid (unused q old)
    · rw [List.mem_singleton.1 new]
      exact ⟨rfl, rfl, rfl⟩

/-- One call: the record shows the same prompt, and another completion only if the call was one. -/
theorem shows_call {b : Backend} {id : Uuid} {prompt : String} {last : Option (String × String)}
    {qs : List DynamicQuery} (h : b.store.Shows id prompt last qs) (x : Call) :
    ∃ qs', (tableCall b x).2.store.Shows id prompt ((x.completion? id).or last) qs' := by
  cases x with
  | create name prompt' =>
    rw [tableCall, Backend.create]
    dsimp only
    rcases create_cases h.holds b.supply.takeId.1 b.supply.takeId.2.takeTime.1 name prompt' with
      ⟨-, refused⟩ | ⟨unused, s', made, holds⟩
    · rw [refused]
      exact ⟨qs, h⟩
    · rw [made]
      obtain ⟨known, member, hid⟩ := h.present
      refine ⟨_, holds, ⟨known, List.mem_append_left _ member, hid⟩, ?_⟩
      intro q member' hid'
      rcases List.mem_append.1 member' with old | new
      · exact h.shown q old hid'
      · rw [List.mem_singleton.1 new] at hid'
        exact absurd (hid.trans hid'.symm) (unused known member)
  | get id' => exact ⟨qs, h⟩
  | rename id' name =>
    exact ⟨_, shows_update h id' (·.renamed name b.supply.takeTime.1) (fun _ => rfl)
      (fun _ => rfl) (fun _ => rfl) (fun _ _ shown => shown)⟩
  | complete id' query responseId =>
    refine ⟨_, shows_update h id' (·.completed query responseId b.supply.takeTime.1)
      (fun _ => rfl) (fun _ => rfl) ?_ ?_⟩
    · intro other
      rw [Call.completion?, if_neg other]
      rfl
    · intro same q shown
      rw [Call.completion?, if_pos same]
      exact ⟨shown.1, rfl, rfl⟩

/-- The last completion of some calls is that of the first one only if no other has one. -/
theorem getLast?_completions_cons (id : Uuid) (x : Call) (rest : List Call)
    (last : Option (String × String)) :
    ((x :: rest).filterMap (Call.completion? id)).getLast?.or last =
      (rest.filterMap (Call.completion? id)).getLast?.or ((x.completion? id).or last) := by
  rw [List.filterMap_cons]
  cases x.completion? id with
  | none => rfl
  | some outcome =>
    dsimp only
    rw [List.getLast?_cons]
    cases (rest.filterMap (Call.completion? id)).getLast? <;> rfl

/-- Any number of calls: the record shows the same prompt, and the last completion of all. -/
theorem shows_answers {b : Backend} {id : Uuid} {prompt : String}
    {last : Option (String × String)} {qs : List DynamicQuery}
    (h : b.store.Shows id prompt last qs) (calls : List Call) :
    ∃ qs', (answers tableCall b calls).2.store.Shows id prompt
      ((calls.filterMap (Call.completion? id)).getLast?.or last) qs' := by
  induction calls generalizing b last qs with
  | nil => exact ⟨qs, h⟩
  | cons x rest ih =>
    obtain ⟨qs', first⟩ := shows_call h x
    rw [getLast?_completions_cons]
    exact ih first

/-- Any number of calls leaves the rows of some records. -/
theorem holds_answers {b : Backend} {qs : List DynamicQuery} (h : b.store.Holds qs)
    (calls : List Call) : ∃ qs', (answers tableCall b calls).2.store.Holds qs' := by
  induction calls generalizing b qs with
  | nil => exact ⟨qs, h⟩
  | cons x rest ih =>
    obtain ⟨qs', first⟩ := holds_call h x
    exact ih first

theorem reached_answers {b b' : Backend} {created : List DynamicQuery}
    (reached : Reached b created b') (calls : List Call) :
    ∃ created', Reached b created' (answers tableCall b' calls).2 := by
  induction calls generalizing b' created with
  | nil => exact ⟨created, reached⟩
  | cons x rest ih => exact ih (reached.call x)

theorem answers_append (b : Backend) (calls more : List Call) :
    (answers tableCall b (calls ++ more)).2 =
      (answers tableCall (answers tableCall b calls).2 more).2 := by
  induction calls generalizing b with
  | nil => rfl
  | cons x rest ih => exact ih (tableCall b x).2

/-- Calls do not look at the provider. -/
theorem answers_with_provider (b : Backend) (provider : Completion.Provider) (calls : List Call) :
    (answers tableCall { b with provider := provider } calls).2 =
      { (answers tableCall b calls).2 with provider := provider } := by
  induction calls generalizing b with
  | nil => rfl
  | cons x rest ih =>
    have first : (tableCall { b with provider := provider } x).2 =
        { (tableCall b x).2 with provider := provider } := by
      cases x <;> rfl
    simp only [answers]
    rw [first]
    exact ih (tableCall b x).2

end QueryDesk.Store

namespace QueryDesk.Generation

open QueryDesk.Completion QueryDesk.Record QueryDesk.Store

/-! ## Requests one after another -/

/-- What the provider has for the next request of a kind, as the items of a stream: a response that
    is waited for is one terminal event, and a stream that cannot be opened has none. -/
def itemsFor (p : Provider) : Demand → List Item
  | .generate _ => (p.responses.head?.map (·.map Event.completed)).toList
  | .stream _ => (p.streams.head?.map itemsOf).getD []
  | _ => []

namespace Backend

/-- The backend once a request has been served from start to end. -/
def serve (settings : Settings) (b : Backend) : Demand → Backend
  | .create name prompt => (b.create name prompt).2
  | .rename id name => (b.rename id name).2
  | .generate id => (b.generate settings id).2
  | .stream id => (b.streamed settings id).2

/-- The backend once requests have been served one after another. -/
def serveAll (settings : Settings) (b : Backend) (demands : List Demand) : Backend :=
  demands.foldl (serve settings) b

/-- The completions that a generation stores: one for each accepted output, up to the first failure
    of the provider, if the record can be loaded. -/
def completions (b : Backend) (id : Uuid) (items : List Item) : List Call :=
  if (b.load id).isOk then
    ((pulled items).filterMap outcome?).map fun outcome => .complete id outcome.1 outcome.2
  else []

/-- The calls of the store that a request makes, apart from reading. -/
def calls (b : Backend) (d : Demand) : List Call :=
  match d with
  | .create name prompt => [.create name prompt]
  | .rename id name => [.rename id name]
  | .generate id | .stream id => b.completions id (itemsFor b.provider d)

/-- The calls that requests make one after another. -/
def callsAll (settings : Settings) (b : Backend) : List Demand → List Call
  | [] => []
  | d :: rest => b.calls d ++ callsAll settings (b.serve settings d) rest

/-- The SQL and the response id of every completion that requests store for a record, in order. -/
def persisted (settings : Settings) (b : Backend) (id : Uuid) (demands : List Demand) :
    List (String × String) :=
  (b.callsAll settings demands).filterMap (Call.completion? id)

theorem storing_eq_answers (b : Backend) (id : Uuid) (outcomes : List (String × String)) :
    b.storing id outcomes = (answers tableCall b
      (outcomes.map fun outcome => .complete id outcome.1 outcome.2)).2 := by
  induction outcomes generalizing b with
  | nil => rfl
  | cons outcome rest ih => exact ih (b.complete id outcome.1 outcome.2).2

theorem load_of_get {b : Backend} {id : Uuid} {q : DynamicQuery}
    (found : b.store.get id = .ok (some q)) : b.load id = .ok q := by
  rw [load, found]

/-- Settling a response is storing what it asks of the store. -/
theorem settle_snd (b : Backend) (id : Uuid) (c : Response) :
    (b.settle id c).2 = b.storing id (outcome? (.ok (.completed c))).toList := by
  simp only [settle, outcome?]
  cases parseOutput c.text with
  | error fault => rfl
  | ok sql =>
    dsimp only
    split <;> rfl

/-- A generation that waits sends the request of its record, once, and stores what comes back. -/
theorem generate_of_load {b : Backend} (settings : Settings) {id : Uuid} {q : DynamicQuery}
    (loaded : b.load id = .ok q) :
    ∃ provider : Provider, provider.requests = b.provider.requests ++ [requestFor settings q] ∧
      (b.generate settings id).2 =
        { b.storing id ((pulled (itemsFor b.provider (.generate id))).filterMap outcome?) with
          provider := provider } := by
  refine ⟨(b.provider.complete (requestFor settings q)).2, ?_, ?_⟩
  · unfold Provider.complete
    dsimp only
    split <;> rfl
  rw [generate, loaded]
  dsimp only
  unfold ask Provider.complete itemsFor
  rcases b.provider.responses with _ | ⟨failure | c, later⟩
  · rfl
  · rfl
  · dsimp only
    rw [settle_snd, storing_with_provider]
    rfl

/-- A streamed generation sends the request of its record, once, and stores what is streamed. -/
theorem streamed_of_load {b : Backend} (settings : Settings) {id : Uuid} {q : DynamicQuery}
    (loaded : b.load id = .ok q) :
    ∃ provider : Provider, provider.requests = b.provider.requests ++ [requestFor settings q] ∧
      (b.streamed settings id).2 =
        { b.storing id ((pulled (itemsFor b.provider (.stream id))).filterMap outcome?) with
          provider := provider } := by
  obtain ⟨hid, -⟩ := row?_of_get (get_of_load loaded)
  have started : b.stream settings id =
      .ok ⟨id, requestFor settings q, settings.emitErrors, .unopened⟩ := by
    rw [stream, loaded, ← hid]
    rfl
  obtain ⟨-, left, -⟩ :=
    drain_unopened ⟨id, requestFor settings q, settings.emitErrors, .unopened⟩ rfl b
  rw [streamed, started]
  dsimp only
  rw [left, reading, asked, storing_with_provider]
  have script : itemsOf (Relay.script ⟨id, requestFor settings q, settings.emitErrors, .unopened⟩ b)
      = itemsFor b.provider (.stream id) := by
    unfold Relay.script Provider.openStream itemsFor
    rcases b.provider.streams with _ | ⟨answer, later⟩ <;> rfl
  rw [script]
  refine ⟨_, ?_, rfl⟩
  unfold Provider.openStream
  dsimp only
  split <;> rfl

/-- To the store a request is its calls. -/
theorem serve_calls (settings : Settings) (b : Backend) (d : Demand) :
    ∃ provider, b.serve settings d =
      { (answers tableCall b (b.calls d)).2 with provider := provider } := by
  cases d with
  | create name prompt => exact ⟨b.provider, rfl⟩
  | rename id name => exact ⟨b.provider, rfl⟩
  | generate id =>
    rw [serve, calls, completions]
    cases loaded : b.load id with
    | error failure =>
      rw [(generate_streamed_of_error rfl settings loaded).1]
      exact ⟨b.provider, rfl⟩
    | ok q =>
      obtain ⟨provider, -, left⟩ := generate_of_load settings loaded
      rw [left, storing_eq_answers]
      exact ⟨provider, rfl⟩
  | stream id =>
    rw [serve, calls, completions]
    cases loaded : b.load id with
    | error failure =>
      rw [(generate_streamed_of_error rfl settings loaded).2]
      exact ⟨b.provider, rfl⟩
    | ok q =>
      obtain ⟨provider, -, left⟩ := streamed_of_load settings loaded
      rw [left, storing_eq_answers]
      exact ⟨provider, rfl⟩

/-- To the store requests one after another are their calls one after another. -/
theorem serveAll_calls (settings : Settings) (b : Backend) (demands : List Demand) :
    ∃ provider, b.serveAll settings demands =
      { (answers tableCall b (b.callsAll settings demands)).2 with provider := provider } := by
  induction demands generalizing b with
  | nil => exact ⟨b.provider, rfl⟩
  | cons d rest ih =>
    obtain ⟨between, first⟩ := serve_calls settings b d
    obtain ⟨provider, others⟩ := ih (b.serve settings d)
    refine ⟨provider, ?_⟩
    rw [callsAll, answers_append, serveAll, List.foldl_cons, ← serveAll, others]
    generalize (b.serve settings d).callsAll settings rest = later
    rw [first, answers_with_provider]

/-- A generation of a record that can be loaded sends its request, once. -/
theorem requests_serve {b : Backend} (settings : Settings) {id : Uuid} {q : DynamicQuery}
    (loaded : b.load id = .ok q) {d : Demand} (generates : d.Generates id) :
    (b.serve settings d).provider.requests = b.provider.requests ++ [requestFor settings q] := by
  cases d with
  | create name prompt => cases generates
  | rename id' name => cases generates
  | generate id' =>
    cases generates
    obtain ⟨provider, requests, left⟩ := generate_of_load settings loaded
    rw [serve, left]
    exact requests
  | stream id' =>
    cases generates
    obtain ⟨provider, requests, left⟩ := streamed_of_load settings loaded
    rw [serve, left]
    exact requests

/-- A generation of a record that cannot be loaded does nothing. -/
theorem serve_of_error {b : Backend} (settings : Settings) {id : Uuid} {failure : Failure}
    (loaded : b.load id = .error failure) {d : Demand} (generates : d.Generates id) :
    b.serve settings d = b := by
  obtain ⟨waits, streams⟩ := generate_streamed_of_error (b := b) rfl settings loaded
  cases d with
  | create name prompt => cases generates
  | rename id' name => cases generates
  | generate id' =>
    cases generates
    rw [serve, waits]
  | stream id' =>
    cases generates
    rw [serve, streams]

/-- Requests leave the rows of some records, and of a record that was created before them the
    prompt and the last completion that they have stored. -/
theorem shows_serveAll {b : Backend} (settings : Settings) {qs : List DynamicQuery}
    (h : b.store.Holds qs) {name prompt : String} {q : DynamicQuery}
    (created : (b.create name prompt).1 = .ok q) (demands : List Demand) :
    let start := b.serve settings (.create name prompt)
    ∃ qs', (start.serveAll settings demands).store.Shows q.id prompt
      (start.persisted settings q.id demands).getLast? qs' := by
  intro start
  obtain ⟨qs', new⟩ := shows_create h created
  obtain ⟨provider, left⟩ := serveAll_calls settings start demands
  rw [left, persisted, ← Option.or_none (o := List.getLast? _)]
  exact shows_answers new _

end Backend

/-- A generation continues the last response that was stored.  Whatever requests have been served
    since a record was created, and whatever has failed in them: a generation of the record, waiting
    or streamed, sends one request, with the prompt of the creation and the id of the last response
    that was stored for the record since, or none if there was none; it is the response whose SQL
    the record has.  A record that cannot be loaded sends none, which the times of the years 0 to
    9999 rule out. -/
theorem request_continues {b : Backend} (new : b.store = Store.empty) (settings : Settings)
    (before : List Demand) {name prompt : String} {q : DynamicQuery}
    (created : ((b.serveAll settings before).create name prompt).1 = .ok q)
    (earlier : List Demand) {d : Demand} (generates : d.Generates q.id) :
    let start := (b.serveAll settings before).serve settings (.create name prompt)
    let here := start.serveAll settings earlier
    let there := here.serve settings d
    let last := (start.persisted settings q.id earlier).getLast?
    (∀ failure, here.load q.id = .error failure → there = here) ∧
    (∀ record, here.load q.id = .ok record → record.query = last.map Prod.fst ∧
      ∃ request, there.provider.requests = here.provider.requests ++ [request] ∧
        request.previous = last.map Prod.snd ∧ request.input = prompt) ∧
    ((∀ n, (b.supply.timeAt n).Civil) → ∃ record, here.load q.id = .ok record) := by
  intro start here there last
  obtain ⟨provider, past⟩ := Backend.serveAll_calls settings b before
  have empty : b.store.Holds [] := by
    rw [new]
    exact holds_empty
  obtain ⟨qs, holds⟩ := holds_answers empty (b.callsAll settings before)
  obtain ⟨qs', shows⟩ := Backend.shows_serveAll settings (b := b.serveAll settings before)
    (by rw [past]; exact holds) created earlier
  refine ⟨?_, ?_, ?_⟩
  · intro failure loaded
    exact Backend.serve_of_error settings loaded generates
  · intro record loaded
    obtain ⟨input, query, previous⟩ := shows.of_get (Backend.get_of_load loaded)
    exact ⟨query, _, Backend.requests_serve settings loaded generates, previous, input⟩
  · intro clock
    have whole : here = b.serveAll settings (before ++ .create name prompt :: earlier) := by
      simp only [here, start, Backend.serveAll, List.foldl_append, List.foldl_cons]
    obtain ⟨provider', left⟩ :=
      Backend.serveAll_calls settings b (before ++ .create name prompt :: earlier)
    obtain ⟨all, reached⟩ := reached_answers (.start (b := b))
      (b.callsAll settings (before ++ .create name prompt :: earlier))
    obtain ⟨-, qs'', covers⟩ := covers_of_reached new clock reached
    have covers : here.store.Covers all qs'' := by
      rw [whole, left]
      exact covers
    obtain ⟨record, found⟩ := shows.get covers
    exact ⟨record, Backend.load_of_get found⟩

/-- A new store, and a provider whose first response is rejected and whose first stream has two
    terminal events and fails. -/
def talkativeBackend : Backend where
  store := Store.empty
  provider := .scripted [.ok ⟨"resp_1", "no SQL"⟩, .ok ⟨"resp_4", twoLineOutput⟩]
    [.ok [.ok (.completed ⟨"resp_2", twoLineOutput⟩), .ok (.progress "response.audit"),
      .ok (.completed ⟨"resp_3", twoLineOutput⟩), .error .transport], .error .transport]
  supply := ⟨Uuid.ofNat, fun _ => earlyTime, 0, 0⟩

/-- Of six requests, four of them generations of the record, the stream alone stores something. -/
def talkativeDemands : List Demand :=
  [.generate (.ofNat 1), .stream (.ofNat 1), .rename (.ofNat 1) "New", .generate (.ofNat 0),
    .generate (.ofNat 1), .stream (.ofNat 1)]

/-- The next generation continues the second terminal event of the stream. -/
theorem talkativeBackend_continues :
    let start := (talkativeBackend.serveAll .default [.create "Other" "others"]).serve .default
      (.create "Sales" "total sales")
    let here := start.serveAll .default talkativeDemands
    ∃ request, (here.serve .default (.generate (.ofNat 1))).provider.requests =
        here.provider.requests ++ [request] ∧
      request.previous = some "resp_3" ∧ request.input = "total sales" := by
  have created : ((talkativeBackend.serveAll .default [.create "Other" "others"]).create "Sales"
      "total sales").1 = .ok (.fresh (.ofNat 1) "Sales" "total sales" earlyTime) := by
    decide +kernel
  have last : (((talkativeBackend.serveAll .default [.create "Other" "others"]).serve .default
      (.create "Sales" "total sales")).persisted .default (.ofNat 1) talkativeDemands).getLast? =
        some ("SELECT 1", "resp_3") := by
    decide +kernel
  obtain ⟨-, sends, readable⟩ := request_continues (b := talkativeBackend) rfl .default
    [.create "Other" "others"] created talkativeDemands (d := .generate (.ofNat 1)) rfl
  obtain ⟨record, loaded⟩ := readable fun _ => civil_earlyTime
  obtain ⟨-, request, sent, previous, input⟩ := sends record loaded
  exact ⟨request, sent, previous.trans (congrArg (Option.map Prod.snd) last), input⟩

end QueryDesk.Generation
