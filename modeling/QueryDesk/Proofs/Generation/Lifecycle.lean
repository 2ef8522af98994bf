import QueryDesk.Proofs.Generation.History

/-!
# The life of a record among concurrent requests

Whatever requests arrive, in whatever order they take their turns and whatever the provider
answers: the table is the replay of an orderly history (`run_sound`), so every record is accounted
for.  The invariant has to say of each request in flight where the response that it is about to
store comes from, and of each happening which demand it was made for (`Happening.MadeBy`).
-/

namespace QueryDesk.Generation

open QueryDesk.Completion QueryDesk.EventStream QueryDesk.Record QueryDesk.Store

/-! ## What a turn does -/

/-- A response that a request is about to store was delivered to it, and a relay relays for the
    record of its request. -/
def Task.Grounded (history : List Happening) (k : Nat) (t : Task) : Prop :=
  match t.demand, t.stage with
  | .generate id, .settling response => .delivered k id response ∈ history
  | .stream id, .relaying relay => relay.id = id
  | _, _ => True

theorem Task.Grounded.append {history : List Happening} {k : Nat} {t : Task}
    (h : t.Grounded history k) (more : List Happening) : t.Grounded (history ++ more) k := by
  unfold Task.Grounded at *
  split
  · simp_all
  · simp_all
  · trivial

/-- What can happen for the demand of the request with number `k`.  A record is created with the
    name and the prompt that the demand has, and a renaming is the one that it asks for. -/
def Happening.MadeBy (k : Nat) (d : Demand) : Happening → Prop
  | .created q => d = .create q.name q.prompt
  | .renamed id name _ => d = .rename id name
  | .delivered k' id _ => k' = k ∧ d.Generates id
  | .stored k' id _ _ _ => k' = k ∧ d.Generates id

/-- What a turn of the request with number `k` keeps, given the history before it. -/
structure Turned (past : List Happening) (k : Nat) (t t' : Task) (b' : Backend)
    (happened : List Happening) : Prop where
  demand : t'.demand = t.demand
  table : b'.store.Holds (replay (past ++ happened))
  orderly : Orderly (past ++ happened)
  grounded : t'.Grounded (past ++ happened) k
  made : ∀ x ∈ happened, x.MadeBy k t.demand

section Turn

variable {past : List Happening} {k : Nat} {b : Backend}

/-- A turn that leaves the store alone. -/
theorem turned_idle (hold : b.store.Holds (replay past)) (orderly : Orderly past) {t t' : Task}
    {b' : Backend} (demand : t'.demand = t.demand) (store : b'.store = b.store)
    (grounded : t'.Grounded past k) : Turned past k t t' b' [] where
  demand := demand
  table := by
    rw [store, List.append_nil]
    exact hold
  orderly := by rwa [List.append_nil]
  grounded := by rwa [List.append_nil]
  made := by simp

theorem settle_store (id : Uuid) (response : Response) (b : Backend) :
    (b.settle id response).2.store =
      match parseOutput response.text with
      | .ok sql => (b.store.complete id b.supply.takeTime.1 sql response.id).2
      | .error _ => b.store := by
  unfold Backend.settle
  cases parseOutput response.text with
  | error fault => rfl
  | ok sql =>
    simp only
    split <;> rfl

theorem settle_holds (hold : b.store.Holds (replay past)) (id : Uuid) (response : Response) :
    (b.settle id response).2.store.Holds (replay (past ++ settled k id response b)) := by
  rw [settle_store, settled]
  cases parseOutput response.text with
  | error fault => simpa using hold
  | ok sql =>
    rw [replay_concat]
    exact complete_holds hold id b.supply.takeTime.1 sql response.id

theorem settled_orderly (orderly : Orderly past) {id : Uuid} {response : Response}
    (delivered : .delivered k id response ∈ past) : Orderly (past ++ settled k id response b) := by
  unfold settled
  cases reads : parseOutput response.text with
  | error fault => simpa using orderly
  | ok sql => exact .stored _ orderly delivered reads

theorem settled_made (d : Demand) {id : Uuid} (generates : d.Generates id) (response : Response) :
    ∀ x ∈ settled k id response b, x.MadeBy k d := by
  unfold settled
  cases parseOutput response.text with
  | error fault => simp
  | ok sql =>
    rw [List.forall_mem_singleton]
    exact ⟨rfl, generates⟩

theorem handleItem_store (emitErrors : Bool) (id : Uuid) (item : Item) (b : Backend) :
    (handleItem emitErrors id item b).2.2.store =
      match itemResponse? item with
      | some response => (b.settle id response).2.store
      | none => b.store := by
  rcases item with failure | ⟨type | response⟩
  · rfl
  · rfl
  · have same := settle_store id response { b with provider := b.provider.handOut }
    have plain := settle_store id response b
    simp only [handleItem, itemResponse?, plain, ← same]
    split <;> simp_all

theorem step_store (r : Relay) (b : Backend) :
    (r.step b).2.2.store =
      match r.response? with
      | some response => (b.settle r.id response).2.store
      | none => b.store := by
  rcases r with ⟨id, request, emitErrors, phase⟩
  cases phase with
  | unopened => rfl
  | ended => rfl
  | connected =>
    simp only [Relay.step, Relay.response?]
    split <;> rfl
  | reading items =>
    cases items with
    | nil => rfl
    | cons item rest =>
      have handled := handleItem_store emitErrors id item b
      simp only [Relay.step, Relay.response?]
      rw [← handled]
      split <;> simp_all

theorem step_id (r : Relay) (b : Backend) : (r.step b).2.1.id = r.id := by
  rcases r with ⟨id, request, emitErrors, phase⟩
  cases phase with
  | unopened => rfl
  | ended => rfl
  | connected =>
    simp only [Relay.step]
    split <;> rfl
  | reading items =>
    cases items with
    | nil => rfl
    | cons item rest =>
      simp only [Relay.step]
      split <;> rfl

theorem load_id (hold : b.store.Holds (replay past)) {id : Uuid} {q : DynamicQuery}
    (loaded : b.load id = .ok q) : q.id = id := by
  unfold Backend.load at loaded
  split at loaded
  · cases loaded
  · cases loaded
  · rename_i found
    cases loaded
    obtain ⟨q₀, -, hid, hq⟩ := mem_of_get hold found
    rw [hq]
    exact hid

theorem stream_id (hold : b.store.Holds (replay past)) {settings : Settings} {id : Uuid}
    {relay : Relay} (opened : b.stream settings id = .ok relay) : relay.id = id := by
  unfold Backend.stream at opened
  cases loaded : b.load id with
  | error failure =>
    rw [loaded] at opened
    cases opened
  | ok q =>
    rw [loaded] at opened
    cases opened
    exact load_id hold loaded

theorem ask_store (request : Request) (b : Backend) : (b.ask request).2.store = b.store := by
  simp only [Backend.ask]
  split <;> rfl

theorem turned_create (hold : b.store.Holds (replay past)) (orderly : Orderly past)
    (settings : Settings) (name prompt : String) :
    let t : Task := ⟨.create name prompt, .waiting⟩
    let out := t.turn settings k b
    Turned past k t out.1 out.2.1 out.2.2 := by
  simp only [Task.turn, Backend.create]
  rcases create_cases hold b.supply.takeId.1 b.supply.takeId.2.takeTime.1 name prompt with
    ⟨-, made⟩ | ⟨new, s', made, hold'⟩
  · simp only [made]
    exact turned_idle hold orderly rfl rfl trivial
  · simp only [made]
    refine ⟨rfl, ?_, .created _ _ _ _ orderly new, trivial, List.forall_mem_singleton.2 rfl⟩
    rw [replay_concat]
    exact hold'

theorem turned_rename (hold : b.store.Holds (replay past)) (orderly : Orderly past)
    (settings : Settings) (id : Uuid) (name : String) :
    let t : Task := ⟨.rename id name, .waiting⟩
    let out := t.turn settings k b
    Turned past k t out.1 out.2.1 out.2.2 := by
  refine ⟨rfl, ?_, .renamed _ _ _ orderly, trivial, List.forall_mem_singleton.2 rfl⟩
  simp only [Task.turn]
  rw [replay_concat]
  exact rename_holds hold id b.supply.takeTime.1 name

theorem turned_generate (hold : b.store.Holds (replay past)) (orderly : Orderly past)
    (settings : Settings) (id : Uuid) (stage : Stage)
    (grounded : Task.Grounded past k ⟨.generate id, stage⟩) :
    let t : Task := ⟨.generate id, stage⟩
    let out := t.turn settings k b
    Turned past k t out.1 out.2.1 out.2.2 := by
  cases stage with
  | waiting =>
    simp only [Task.turn]
    cases b.load id with
    | error failure => exact turned_idle hold orderly rfl rfl trivial
    | ok q => exact turned_idle hold orderly rfl rfl trivial
  | asking request =>
    have store := ask_store request b
    simp only [Task.turn]
    rcases asked : b.ask request with ⟨answer, b'⟩
    rw [asked] at store
    cases answer with
    | error failure => exact turned_idle hold orderly rfl store trivial
    | ok response =>
      refine ⟨rfl, ?_, .delivered _ _ _ orderly, ?_, List.forall_mem_singleton.2 ⟨rfl, rfl⟩⟩
      · change b'.store = b.store at store
        rw [replay_concat, store]
        exact hold
      · simp [Task.Grounded]
  | settling response =>
    exact ⟨rfl, settle_holds hold id response, settled_orderly orderly grounded, trivial,
      settled_made (.generate id) rfl response⟩
  | relaying relay => exact turned_idle hold orderly rfl rfl trivial
  | finished => exact turned_idle hold orderly rfl rfl trivial

theorem turned_stream (hold : b.store.Holds (replay past)) (orderly : Orderly past)
    (settings : Settings) (id : Uuid) (stage : Stage)
    (grounded : Task.Grounded past k ⟨.stream id, stage⟩) :
    let t : Task := ⟨.stream id, stage⟩
    let out := t.turn settings k b
    Turned past k t out.1 out.2.1 out.2.2 := by
  cases stage with
  | waiting =>
    simp only [Task.turn]
    cases opened : b.stream settings id with
    | error failure => exact turned_idle hold orderly rfl rfl trivial
    | ok relay => exact turned_idle hold orderly rfl rfl (stream_id hold opened)
  | asking request => exact turned_idle hold orderly rfl rfl trivial
  | settling response => exact turned_idle hold orderly rfl rfl trivial
  | relaying relay =>
    have hid : relay.id = id := grounded
    have store := step_store relay b
    simp only [Task.turn]
    cases received : relay.response? with
    | none =>
      rw [received] at store
      exact turned_idle hold orderly rfl store ((step_id relay b).trans hid)
    | some response =>
      rw [received] at store
      have hold' : b.store.Holds (replay (past ++ [.delivered k relay.id response])) := by
        rw [replay_concat]
        exact hold
      -- the response is delivered and handed to the store in one turn
      refine ⟨rfl, ?_, ?_, (step_id relay b).trans hid, ?_⟩
      · rw [store, List.append_cons]
        exact settle_holds hold' relay.id response
      · rw [List.append_cons]
        exact settled_orderly (.delivered _ _ _ orderly) (by simp)
      · rw [List.forall_mem_cons]
        exact ⟨⟨rfl, hid.symm⟩, settled_made (.stream id) hid.symm response⟩
  | finished => exact turned_idle hold orderly rfl rfl trivial

/-- Every turn of every request keeps the table the replay of an orderly history. -/
theorem turned_turn (hold : b.store.Holds (replay past)) (orderly : Orderly past)
    (settings : Settings) (t : Task) (grounded : t.Grounded past k) :
    Turned past k t (t.turn settings k b).1 (t.turn settings k b).2.1
      (t.turn settings k b).2.2 := by
  rcases t with ⟨demand, stage⟩
  cases demand with
  | create name prompt =>
    cases stage with
    | waiting => exact turned_create hold orderly settings name prompt
    | _ => exact turned_idle hold orderly rfl rfl trivial
  | rename id name =>
    cases stage with
    | waiting => exact turned_rename hold orderly settings id name
    | _ => exact turned_idle hold orderly rfl rfl trivial
  | generate id => exact turned_generate hold orderly settings id stage grounded
  | stream id => exact turned_stream hold orderly settings id stage grounded

end Turn

/-! ## What a run does -/

/-- The invariant of the whole. -/
structure World.Sound (w : World) : Prop where
  table : w.store.Holds (replay w.history)
  orderly : Orderly w.history
  grounded : ∀ (k : Nat) (t : Task), w.tasks[k]? = some t → t.Grounded w.history k
  made : ∀ x ∈ w.history, ∃ (k : Nat) (t : Task), w.tasks[k]? = some t ∧ x.MadeBy k t.demand

section Made

variable {w : World} (h : w.Sound)

include h

theorem World.Sound.created {q : DynamicQuery} (created : .created q ∈ w.history) :
    ∃ t ∈ w.tasks, t.demand = .create q.name q.prompt := by
  obtain ⟨k, t, found, made⟩ := h.made _ created
  exact ⟨t, List.mem_of_getElem? found, made⟩

theorem World.Sound.renamed {id : Uuid} {name : String} {now : Timestamp}
    (renamed : .renamed id name now ∈ w.history) : ∃ t ∈ w.tasks, t.demand = .rename id name := by
  obtain ⟨k, t, found, made⟩ := h.made _ renamed
  exact ⟨t, List.mem_of_getElem? found, made⟩

theorem World.Sound.delivered {k : Nat} {id : Uuid} {response : Response}
    (delivered : .delivered k id response ∈ w.history) :
    ∃ t, w.tasks[k]? = some t ∧ t.demand.Generates id := by
  obtain ⟨_, t, found, rfl, generates⟩ := h.made _ delivered
  exact ⟨t, found, generates⟩

end Made

theorem sound_initial : World.initial.Sound where
  table := holds_empty
  orderly := .nil
  grounded := by simp [World.initial]
  made := by simp [World.initial]

/-- Replacing a request by one with the same demand keeps what was made for every request. -/
theorem made_set {x : Happening} {tasks : List Task} {k : Nat} {t t' : Task}
    (found : tasks[k]? = some t) (same : t'.demand = t.demand)
    (h : ∃ k' t₀, tasks[k']? = some t₀ ∧ x.MadeBy k' t₀.demand) :
    ∃ k' t₀, (tasks.set k t')[k']? = some t₀ ∧ x.MadeBy k' t₀.demand := by
  obtain ⟨k', t₀, found', made⟩ := h
  refine ⟨k', ?_⟩
  by_cases here : k = k'
  · subst here
    rw [found] at found'
    cases found'
    have bound : k < tasks.length := (List.getElem?_eq_some_iff.1 found).1
    refine ⟨t', ?_, same ▸ made⟩
    rw [List.getElem?_set_self bound]
  · refine ⟨t₀, ?_, made⟩
    rw [List.getElem?_set_ne here]
    exact found'

/-- Replacing a request by a grounded one keeps all requests grounded. -/
theorem grounded_set {history : List Happening} {tasks : List Task} {k : Nat} {t t' : Task}
    (found : tasks[k]? = some t) (grounded : t'.Grounded history k)
    (others : ∀ (k' : Nat) (t₀ : Task), tasks[k']? = some t₀ → t₀.Grounded history k')
    (k' : Nat) (t₀ : Task) (found' : (tasks.set k t')[k']? = some t₀) :
    t₀.Grounded history k' := by
  by_cases here : k = k'
  · subst here
    have bound : k < tasks.length := (List.getElem?_eq_some_iff.1 found).1
    rw [List.getElem?_set_self bound] at found'
    cases found'
    exact grounded
  · rw [List.getElem?_set_ne here] at found'
    exact others k' t₀ found'

theorem sound_arrive (settings : Settings) {w : World} (h : w.Sound) (demand : Demand) :
    (w.move settings (.arrive demand)).Sound := by
  refine ⟨h.table, h.orderly, ?_, ?_⟩
  · intro k t found
    simp only [World.move, List.getElem?_append] at found
    split at found
    · exact h.grounded k t found
    · obtain ⟨-, rfl⟩ := List.getElem?_eq_some_iff.1 found
      cases demand <;> simp [Task.Grounded]
  · intro x member
    obtain ⟨k, t, found, made⟩ := h.made x member
    have before : k < w.tasks.length := (List.getElem?_eq_some_iff.1 found).1
    refine ⟨k, t, ?_, made⟩
    simp only [World.move]
    rw [List.getElem?_append_left before]
    exact found

theorem sound_turn (settings : Settings) {w : World} (h : w.Sound) (k : Nat)
    (provider : Provider) (supply : Supply) :
    (w.move settings (.turn k provider supply)).Sound := by
  simp only [World.move]
  cases found : w.tasks[k]? with
  | none => exact h
  | some t =>
    obtain ⟨demand, table, orderly, grounded, made⟩ :=
      turned_turn (b := ⟨w.store, provider, supply⟩) h.table h.orderly settings t
        (h.grounded k t found)
    refine ⟨table, orderly, ?_, ?_⟩
    · apply grounded_set found grounded
      intro k' t₀ found'
      exact (h.grounded k' t₀ found').append _
    · intro x member
      rcases List.mem_append.1 member with before | now
      · exact made_set found demand (h.made x before)
      · exact made_set found demand ⟨k, t, found, made x now⟩

theorem sound_drop (settings : Settings) {w : World} (h : w.Sound) (k : Nat) :
    (w.move settings (.drop k)).Sound := by
  cases found : w.tasks[k]? with
  | none =>
    simp only [World.move, found]
    exact h
  | some t =>
    simp only [World.move, found]
    refine ⟨h.table, h.orderly, ?_, ?_⟩
    · have finished : Task.Grounded w.history k { t with stage := .finished } := by
        cases t.demand <;> simp [Task.Grounded]
      exact grounded_set found finished h.grounded
    · intro x member
      exact made_set found rfl (h.made x member)

theorem sound_move (settings : Settings) {w : World} (h : w.Sound) (m : Move) :
    (w.move settings m).Sound := by
  cases m with
  | arrive demand => exact sound_arrive settings h demand
  | turn k provider supply => exact sound_turn settings h k provider supply
  | drop k => exact sound_drop settings h k

theorem run_concat (settings : Settings) (moves : List Move) (m : Move) :
    World.run settings (moves ++ [m]) = (World.run settings moves).move settings m := by
  simp [World.run]

/-- The invariant holds after every run. -/
theorem run_sound (settings : Settings) (moves : List Move) :
    (World.run settings moves).Sound := by
  induction moves using List.reverseRecOn with
  | nil => exact sound_initial
  | append_singleton moves m ih =>
    rw [run_concat]
    exact sound_move settings ih m

theorem move_history (settings : Settings) (w : World) (m : Move) :
    ∃ more, (w.move settings m).history = w.history ++ more := by
  cases m with
  | arrive demand => exact ⟨[], (List.append_nil _).symm⟩
  | turn k provider supply =>
    simp only [World.move]
    split
    · exact ⟨[], (List.append_nil _).symm⟩
    · exact ⟨_, rfl⟩
  | drop k =>
    simp only [World.move]
    split <;> exact ⟨[], (List.append_nil _).symm⟩

/-- A run only adds to the history. -/
theorem run_history (settings : Settings) (moves later : List Move) :
    ∃ more, (World.run settings (moves ++ later)).history =
      (World.run settings moves).history ++ more := by
  induction later using List.reverseRecOn with
  | nil => exact ⟨[], by simp⟩
  | append_singleton later m ih =>
    obtain ⟨more, hmore⟩ := ih
    obtain ⟨last, hlast⟩ := move_history settings (World.run settings (moves ++ later)) m
    refine ⟨more ++ last, ?_⟩
    rw [← List.append_assoc, run_concat, hlast, hmore, List.append_assoc]

/-- Lifecycle safety.  After every run the table consists of the rows of some records with
    different ids, each of them accounted for by the history.  The history tells what requests did:
    a record was created with the name and the prompt of a creation, a name was given by a renaming
    that asked for it, and a completion that went into a record was delivered to a request for that
    record.  What a client reads is one of these records.  After any further steps each of them is
    still there, with the same prompt and time of creation, and complete if it was. -/
theorem records_accounted (settings : Settings) (moves : List Move) :
    let w := World.run settings moves
    ∃ qs : List DynamicQuery, w.store.Holds qs ∧ (qs.map (·.id)).Nodup ∧
      (∀ q ∈ qs, Accounted w.history q) ∧
      (∀ q, .created q ∈ w.history → ∃ t ∈ w.tasks, t.demand = .create q.name q.prompt) ∧
      (∀ id name now, .renamed id name now ∈ w.history →
        ∃ t ∈ w.tasks, t.demand = .rename id name) ∧
      (∀ k id response, .delivered k id response ∈ w.history →
        ∃ t, w.tasks[k]? = some t ∧ t.demand.Generates id) ∧
      (∀ id q', w.store.get id = .ok (some q') → ∃ q ∈ qs, q.id = id ∧
        q' = { q with createdAt := q'.createdAt, updatedAt := q'.updatedAt }) ∧
      ∀ later, ∃ qs', (World.run settings (moves ++ later)).store.Holds qs' ∧
        ∀ q ∈ qs, ∃ q' ∈ qs', Continues q q' := by
  intro w
  have sound := run_sound settings moves
  refine ⟨replay w.history, sound.table, nodup_ids sound.orderly,
    accounted_of_mem_replay sound.orderly, fun _ => sound.created, fun _ _ _ => sound.renamed,
    fun _ _ _ => sound.delivered, ?_, ?_⟩
  · intro id q' found
    exact mem_of_get sound.table found
  · intro later
    obtain ⟨more, hmore⟩ := run_history settings moves later
    refine ⟨_, (run_sound settings (moves ++ later)).table, ?_⟩
    intro q member
    rw [hmore]
    exact continues_of_mem_replay member more

end QueryDesk.Generation
