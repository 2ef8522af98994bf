import QueryDesk.Proofs.Generation.Filling
import QueryDesk.Proofs.Service.Handling

/-!
# Sessions

A session is what the desk has been through: requests that were answered one after the other, and
generations that went on beside them.  A request may also only be started and take its turns later,
so that a generation that waits, or a stream that is read, overlaps with other requests.

Beside the desk a session keeps what the requests wanted of the store, and what happened.  A
request that is answered whole takes its turns without a break (`handle_backend_of_some`), so the
invariants of requests at the same time carry over (`run_sound`).
-/

namespace QueryDesk.Service

open QueryDesk.Generation QueryDesk.Record QueryDesk.Store QueryDesk.Text

/-! ## What a request wants of the store -/

/-- What a request wants of the store, if it is good enough to get there.  The stream that answers
    `HEAD` is never read. -/
def Request.demand? (r : Request) : Option Demand :=
  match r.action? with
  | some .create => match readCreation r with
    | .ok c => some (.create c.name c.prompt)
    | .error _ => none
  | some (.rename segment) => match readId segment, readName r with
    | .ok id, .ok name => some (.rename id name)
    | _, _ => none
  | some (.generate segment) => match readId segment with
    | .ok id => some (.generate id)
    | .error _ => none
  | some (.stream segment) => match readId segment with
    | .ok id => if r.method = .get then some (.stream id) else none
    | .error _ => none
  | _ => none

/-- The number of turns after which a request has its response. -/
def turnsFor : Demand → Nat
  | .generate _ => 3
  | _ => 1

/-- Where the parts of a demand have been read. -/
inductive Wants (r : Request) : Demand → Prop
  | create {c : Creation} (asks : r.action? = some .create) (read : readCreation r = .ok c) :
      Wants r (.create c.name c.prompt)
  | rename {segment name : String} {id : Uuid} (asks : r.action? = some (.rename segment))
      (hid : readId segment = .ok id) (read : readName r = .ok name) : Wants r (.rename id name)
  | generate {segment : String} {id : Uuid} (asks : r.action? = some (.generate segment))
      (hid : readId segment = .ok id) : Wants r (.generate id)
  | stream {segment : String} {id : Uuid} (asks : r.action? = some (.stream segment))
      (hid : readId segment = .ok id) : Wants r (.stream id)

theorem wants_of_demand? {r : Request} {demand : Demand} (h : r.demand? = some demand) :
    Wants r demand := by
  unfold Request.demand? at h
  split at h
  · rename_i asks
    split at h
    · rename_i c read
      cases h
      exact .create asks read
    · cases h
  · rename_i segment asks
    split at h
    · rename_i id name hid read
      cases h
      exact .rename asks hid read
    · cases h
  · rename_i segment asks
    split at h
    · rename_i id hid
      cases h
      exact .generate asks hid
    · cases h
  · rename_i segment asks
    split at h
    · rename_i id hid
      split at h
      · cases h
        exact .stream asks hid
      · cases h
    · cases h
  · cases h

theorem filled_of_readCreation {r : Request} {c : Creation} (h : readCreation r = .ok c) :
    isBlankText c.name = false ∧ isBlankText c.prompt = false := by
  unfold readCreation at h
  split at h
  · cases h
  · split at h
    · cases h
    · rename_i filled
      cases h
      rw [Bool.not_eq_true, Bool.or_eq_false_iff] at filled
      exact filled

theorem filled_of_readName {r : Request} {name : String} (h : readName r = .ok name) :
    isBlankText name = false := by
  unfold readName at h
  split at h
  · cases h
  · split at h
    · cases h
    · rename_i filled
      cases h
      exact Bool.eq_false_iff.2 filled

/-- A request that gets to the store brings no blank text. -/
theorem Wants.filled {r : Request} {demand : Demand} (h : Wants r demand) : demand.Filled := by
  cases h with
  | create asks read => exact filled_of_readCreation read
  | rename asks hid read => exact filled_of_readName read
  | generate asks hid => exact trivial
  | stream asks hid => exact trivial

end QueryDesk.Service

namespace QueryDesk.Desk

open QueryDesk.Generation QueryDesk.Record QueryDesk.Service

/-! ## Requests that are answered whole -/

/-- A request that wants nothing of the store leaves it alone. -/
theorem handle_backend_of_none (d : Desk) {r : Request} (h : r.demand? = none) :
    (d.handle r).2.backend = d.backend := by
  cases asks : r.action? with
  | none => rw [handle_of_none d asks]
  | some a =>
    rw [handle_of_action d asks]
    dsimp only
    simp only [Request.demand?, asks] at h
    cases a with
    | create =>
      cases read : readCreation r with
      | error refusal => rw [act, create_of_error d read]
      | ok c => simp [read] at h
    | rename segment =>
      cases hid : readId segment with
      | error refusal => rw [act, rename_of_badId d hid]
      | ok id =>
        cases read : readName r with
        | error refusal => rw [act, rename_of_error d hid read]
        | ok name => simp [hid, read] at h
    | generate segment =>
      cases hid : readId segment with
      | error refusal => rw [act, generate_of_badId d hid]
      | ok id => simp [hid] at h
    | _ => exact act_backend d r rfl

theorem turns_create (settings : Settings) (k : Nat) (name prompt : String) (b : Backend) :
    (Task.turns settings k 1 ⟨.create name prompt, .waiting⟩ b).2 = (b.create name prompt).2 := by
  simp only [Task.turns, Task.turn]
  split <;> simp_all

theorem turns_stream (settings : Settings) (k : Nat) (id : Uuid) (b : Backend) :
    (Task.turns settings k 1 ⟨.stream id, .waiting⟩ b).2 = b := by
  simp only [Task.turns, Task.turn]
  split <;> rfl

/-- A request takes its turns without a break. -/
theorem handle_backend_of_some (d : Desk) {r : Request} {demand : Demand}
    (h : r.demand? = some demand) (k : Nat) :
    (d.handle r).2.backend =
      (Task.turns d.settings k (turnsFor demand) ⟨demand, .waiting⟩ d.backend).2 := by
  cases wants_of_demand? h with
  | create asks read =>
    rw [handle_of_action d asks, act, create_of_ok d read]
    exact (turns_create d.settings k _ _ d.backend).symm
  | rename asks hid read =>
    rw [handle_of_action d asks, act, rename_of_ok d hid read]
    rfl
  | @generate segment id asks hid =>
    rw [handle_of_action d asks, act, generate_of_ok d hid]
    exact (turns_generate d.settings k id d.backend).symm
  | @stream segment id asks hid =>
    rw [handle_of_action d asks, act]
    exact (turns_stream d.settings k id d.backend).symm

end QueryDesk.Desk

namespace QueryDesk.Service

open QueryDesk.Generation QueryDesk.Record QueryDesk.Store

/-- The desk, what its requests wanted of the store, and what has happened. -/
structure Session where
  desk : Desk
  tasks : List Task
  history : List Happening

/-- A step of a session: a request is answered whole, or arrives to take its turns later, or one
    turn of a request that has arrived.  Reading on in a stream is a turn. -/
inductive Step where
  | request (r : Request)
  | start (r : Request)
  | turn (k : Nat)

/-- What a step newly wants of the store. -/
def Step.demand? : Step → Option Demand
  | .request r => r.demand?
  | .start r => r.demand?
  | .turn _ => none

namespace Session

/-- A session that has not begun. -/
def initial (d : Desk) : Session := ⟨d, [], []⟩

/-- The store and the requests, as requests at the same time see them. -/
def world (s : Session) : World := ⟨s.desk.backend.store, s.tasks, s.history⟩

/-- A request arrives. -/
def start (s : Session) (r : Request) : Session :=
  match r.demand? with
  | none => s
  | some demand => { s with tasks := s.tasks ++ [⟨demand, .waiting⟩] }

/-- One turn of a request. -/
def turn (s : Session) (k : Nat) : Session :=
  match s.tasks[k]? with
  | none => s
  | some t =>
    let (t', b, happened) := t.turn s.desk.settings k s.desk.backend
    ⟨{ s.desk with backend := b }, s.tasks.set k t', s.history ++ happened⟩

/-- Some turns of a request, one after the other. -/
def turns (s : Session) (k : Nat) : Nat → Session
  | 0 => s
  | n + 1 => (s.turn k).turns k n

/-- A request is answered whole. -/
def request (s : Session) (r : Request) : Session :=
  { (s.start r).turns s.tasks.length (r.demand?.elim 0 turnsFor) with desk := (s.desk.handle r).2 }

/-- One step. -/
def step (s : Session) : Step → Session
  | .request r => s.request r
  | .start r => s.start r
  | .turn k => s.turn k

/-- The session after some steps. -/
def run (d : Desk) (steps : List Step) : Session :=
  steps.foldl step (initial d)

theorem run_concat (d : Desk) (steps : List Step) (x : Step) :
    run d (steps ++ [x]) = (run d steps).step x := by
  simp [run]

/-! ## What turns do to the desk -/

theorem turn_of_some {s : Session} {k : Nat} {t : Task} (found : s.tasks[k]? = some t) :
    s.turn k = ⟨{ s.desk with backend := (t.turn s.desk.settings k s.desk.backend).2.1 },
      s.tasks.set k (t.turn s.desk.settings k s.desk.backend).1,
      s.history ++ (t.turn s.desk.settings k s.desk.backend).2.2⟩ := by
  rw [turn, found]

/-- Turns change the backend at most. -/
theorem turn_desk (s : Session) (k : Nat) :
    (s.turn k).desk = { s.desk with backend := (s.turn k).desk.backend } := by
  unfold turn
  split <;> rfl

theorem turns_desk {s : Session} {k : Nat} {t : Task} (found : s.tasks[k]? = some t) (n : Nat) :
    (s.turns k n).desk =
      { s.desk with backend := (Task.turns s.desk.settings k n t s.desk.backend).2 } := by
  induction n generalizing s t with
  | zero => rfl
  | succ n ih =>
    have here : k < s.tasks.length := (List.getElem?_eq_some_iff.1 found).1
    have found' : (s.turn k).tasks[k]? = some (t.turn s.desk.settings k s.desk.backend).1 := by
      rw [turn_of_some found]
      exact List.getElem?_set_self here
    rw [turns, ih found', turn_of_some found]
    rfl

/-- Answering a request whole is letting it arrive and take its turns. -/
theorem request_backend (s : Session) (r : Request) :
    (s.desk.handle r).2.backend =
      ((s.start r).turns s.tasks.length (r.demand?.elim 0 turnsFor)).desk.backend := by
  cases wanted : r.demand? with
  | none =>
    rw [s.desk.handle_backend_of_none wanted, start, wanted]
    rfl
  | some demand =>
    have found : (s.start r).tasks[s.tasks.length]? = some ⟨demand, .waiting⟩ := by
      rw [start, wanted]
      exact List.getElem?_concat_length
    rw [Option.elim_some, turns_desk found, s.desk.handle_backend_of_some wanted s.tasks.length,
      start, wanted]

/-! ## Invariants -/

/-- What every session keeps: the table is the replay of an orderly and clean history, and the
    clock tells moments of the years 0 to 9999. -/
structure Sound (s : Session) : Prop where
  world : s.world.Sound
  clean : ∀ x ∈ s.history, x.Clean
  filled : ∀ demand ∈ s.tasks.map (·.demand), demand.Filled
  clock : ∀ n, (s.desk.backend.supply.timeAt n).Civil

theorem sound_initial {d : Desk} (new : d.backend.store = Store.empty)
    (clock : ∀ n, (d.backend.supply.timeAt n).Civil) : (initial d).Sound where
  world := by
    have same : (initial d).world = World.initial := by
      rw [world, initial, new]
      rfl
    rw [same]
    exact Generation.sound_initial
  clean := List.forall_mem_nil _
  filled := List.forall_mem_nil _
  clock := clock

/-- Only the backend of the desk counts. -/
theorem Sound.withDesk {s : Session} (h : s.Sound) {d : Desk}
    (same : d.backend = s.desk.backend) : ({ s with desk := d } : Session).Sound where
  world := by
    have unchanged : ({ s with desk := d } : Session).world = s.world := by
      simp only [Session.world, same]
    rw [unchanged]
    exact h.world
  clean := h.clean
  filled := h.filled
  clock := by
    intro n
    dsimp only
    rw [same]
    exact h.clock n

theorem start_demands (s : Session) (r : Request) :
    (s.start r).tasks.map (·.demand) = s.tasks.map (·.demand) ++ r.demand?.toList := by
  unfold start
  cases r.demand? <;> simp

theorem sound_start {s : Session} (h : s.Sound) (r : Request) : (s.start r).Sound where
  world := by
    unfold start
    cases r.demand? with
    | none => exact h.world
    | some demand => exact Generation.sound_arrive s.desk.settings h.world demand
  clean := by
    unfold start
    cases r.demand? <;> exact h.clean
  filled := by
    rw [start_demands, List.forall_mem_append]
    refine ⟨h.filled, ?_⟩
    intro demand wanted
    exact (wants_of_demand? (Option.mem_toList.1 wanted)).filled
  clock := by
    unfold start
    cases r.demand? <;> exact h.clock

theorem turn_demand (settings : Settings) (k : Nat) (t : Task) (b : Backend) :
    (t.turn settings k b).1.demand = t.demand := by
  unfold Task.turn
  split <;> first | rfl | (split <;> rfl)

theorem turn_demands (s : Session) (k : Nat) :
    (s.turn k).tasks.map (·.demand) = s.tasks.map (·.demand) := by
  cases found : s.tasks[k]? with
  | none => simp only [turn, found]
  | some t =>
    obtain ⟨here, same⟩ := List.getElem?_eq_some_iff.1 found
    rw [turn_of_some found, List.map_set, turn_demand, ← same]
    apply List.ext_getElem
    · simp
    · intro i _ _
      rw [List.getElem_set]
      split
      · rename_i at_
        subst at_
        rw [List.getElem_map]
      · rfl

theorem sound_turn {s : Session} (h : s.Sound) (k : Nat) : (s.turn k).Sound := by
  cases found : s.tasks[k]? with
  | none =>
    simp only [turn, found]
    exact h
  | some t =>
    have now : s.desk.backend.supply.takeTime.1.Kept :=
      (h.clock s.desk.backend.supply.ticks).kept_truncated
    have demand : t.demand ∈ s.tasks.map (·.demand) :=
      List.mem_map_of_mem (List.mem_of_getElem? found)
    refine ⟨?_, ?_, ?_, ?_⟩
    · have moved := Generation.sound_turn s.desk.settings h.world k s.desk.backend.provider
        s.desk.backend.supply
      simp only [World.move, Session.world, found] at moved
      rw [turn_of_some found]
      exact moved
    · rw [turn_of_some found, List.forall_mem_append]
      exact ⟨h.clean, turn_clean now s.desk.settings k (h.filled _ demand)⟩
    · rw [turn_demands]
      exact h.filled
    · rw [turn_of_some found]
      dsimp only
      rw [turn_timeAt]
      exact h.clock

theorem sound_turns {s : Session} (h : s.Sound) (k n : Nat) : (s.turns k n).Sound := by
  induction n generalizing s with
  | zero => exact h
  | succ n ih => exact ih (sound_turn h k)

theorem sound_step {s : Session} (h : s.Sound) (x : Step) : (s.step x).Sound := by
  cases x with
  | request r => exact (sound_turns (sound_start h r) _ _).withDesk (request_backend s r)
  | start r => exact sound_start h r
  | turn k => exact sound_turn h k

/-- The invariants hold after every session on a new store. -/
theorem run_sound {d : Desk} (new : d.backend.store = Store.empty)
    (clock : ∀ n, (d.backend.supply.timeAt n).Civil) (steps : List Step) :
    (run d steps).Sound := by
  induction steps using List.reverseRecOn with
  | nil => exact sound_initial new clock
  | append_singleton steps x ih =>
    rw [run_concat]
    exact sound_step ih x

/-! ## Which requests have wanted what -/

theorem turns_demands (s : Session) (k n : Nat) :
    (s.turns k n).tasks.map (·.demand) = s.tasks.map (·.demand) := by
  induction n generalizing s with
  | zero => rfl
  | succ n ih => rw [turns, ih, turn_demands]

theorem step_demands (s : Session) (x : Step) :
    (s.step x).tasks.map (·.demand) = s.tasks.map (·.demand) ++ x.demand?.toList := by
  cases x with
  | request r => exact (turns_demands _ _ _).trans (start_demands s r)
  | start r => exact start_demands s r
  | turn k => rw [step, turn_demands, Step.demand?, Option.toList_none, List.append_nil]

/-- The requests under way are those of the steps, in order. -/
theorem run_demands (d : Desk) (steps : List Step) :
    (run d steps).tasks.map (·.demand) = steps.filterMap Step.demand? := by
  induction steps using List.reverseRecOn with
  | nil => rfl
  | append_singleton steps x ih =>
    rw [run_concat, step_demands, ih, List.filterMap_append]
    cases wanted : x.demand? <;> simp [wanted]

/-! ## The table of a session -/

/-- The table consists of the rows of the records of its history, none with a blank text, and each
    read back as it is. -/
theorem Sound.records {s : Session} (h : s.Sound) :
    s.desk.backend.store.Holds (replay s.history) ∧
      ∀ q ∈ replay s.history, Filled q ∧ q.Kept :=
  ⟨h.world.table, filled_of_mem_replay h.clean⟩

/-- What is read of a session's table is what its history has. -/
theorem Sound.get {s : Session} (h : s.Sound) (id : Uuid) :
    s.desk.backend.store.get id = .ok ((replay s.history).find? (·.id = id)) :=
  get_of_holds h.records.1 (fun q member => (h.records.2 q member).2) id

end Session

end QueryDesk.Service
