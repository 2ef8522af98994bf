import QueryDesk.Generation.Orchestrator

/-!
# Requests at the same time

Any number of requests work on one store.  A request is a demand and the stage it has reached; one
turn takes it from one stage to the next and calls the store at most once.  Turns of different
requests follow each other in any order.  What surrounds the store, the provider with its answers
and the supply of ids and times, is chosen anew for each turn, and a request may be dropped at any
time, as one is whose client has left.

A streamed generation takes one turn for each item of the provider's stream (`Relay.step`), where
`Relay.next` runs on to the next frame; `steps_next` says that it takes the same steps.

The history keeps what happened: records created and renamed, completions delivered to a request,
and completions handed to the store.
-/

namespace QueryDesk.Generation

open QueryDesk.Completion QueryDesk.EventStream QueryDesk.Record QueryDesk.Store

/-! ## One item at a time -/

/-- One step of a relay: it opens the stream, handles one item or ends.  The frame is the one that
    the step makes, if it makes one. -/
def Relay.step (r : Relay) (b : Backend) : Option Frame × Relay × Backend :=
  match r.phase with
  | .connected =>
    match b.provider.openStream r.request with
    | (.error failure, provider) =>
      (errorFrame? r.emitErrors failure.message, { r with phase := .ended },
        { b with provider := provider })
    | (.ok items, provider) =>
      (none, { r with phase := .reading items }, { b with provider := provider })
  | .reading (item :: rest) =>
    match handleItem r.emitErrors r.id item b with
    | (frame, false, b) => (frame, { r with phase := .ended }, b)
    | (frame, true, b) => (frame, { r with phase := .reading rest }, b)
  | _ => r.next b

/-- A number of steps of a relay. -/
def Relay.steps (r : Relay) : Nat → Backend → Relay × Backend
  | 0, b => (r, b)
  | n + 1, b => steps (r.step b).2.1 n (r.step b).2.2

/-- The response that an item carries. -/
def itemResponse? : Item → Option Response
  | .ok (.completed response) => some response
  | _ => none

/-- The response that the next step of a relay receives. -/
def Relay.response? (r : Relay) : Option Response :=
  match r.phase with
  | .reading (item :: _) => itemResponse? item
  | _ => none

theorem steps_readItems (r : Relay) (items : List Item) (b : Backend) :
    ∃ n, Relay.steps { r with phase := .reading items } n b =
      ({ r with phase := (readItems r.emitErrors r.id items b).2.1 },
        (readItems r.emitErrors r.id items b).2.2) := by
  induction items generalizing b with
  | nil => exact ⟨1, rfl⟩
  | cons item rest ih =>
    unfold readItems
    rcases hitem : handleItem r.emitErrors r.id item b with ⟨frame, goesOn, b'⟩
    cases goesOn with
    | false => exact ⟨1, by simp [Relay.steps, Relay.step, hitem]⟩
    | true =>
      cases frame with
      | some frame => exact ⟨1, by simp [Relay.steps, Relay.step, hitem]⟩
      | none =>
        obtain ⟨n, hn⟩ := ih b'
        refine ⟨n + 1, ?_⟩
        simp only [Relay.steps, Relay.step, hitem]
        exact hn

/-- Taking the next frame of a relay is taking some of its steps. -/
theorem steps_next (r : Relay) (b : Backend) : ∃ n, r.steps n b = (r.next b).2 := by
  rcases r with ⟨id, request, emitErrors, phase⟩
  cases phase with
  | unopened => exact ⟨1, rfl⟩
  | ended => exact ⟨1, rfl⟩
  | reading items => exact steps_readItems ⟨id, request, emitErrors, .reading items⟩ items b
  | connected =>
    rcases hopened : b.provider.openStream request with ⟨opened, provider⟩
    cases opened with
    | error failure => exact ⟨1, by simp [Relay.steps, Relay.step, Relay.next, hopened]⟩
    | ok items =>
      obtain ⟨n, hn⟩ := steps_readItems ⟨id, request, emitErrors, .connected⟩ items
        { b with provider := provider }
      refine ⟨n + 1, ?_⟩
      simp only [Relay.steps, Relay.step, hopened, Relay.next]
      exact hn

/-! ## Requests -/

/-- What a request is for. -/
inductive Demand where
  | create (name prompt : String)
  | rename (id : Uuid) (name : String)
  | generate (id : Uuid)
  | stream (id : Uuid)

/-- Whether a request generates the SQL of the record with an id. -/
def Demand.Generates (id : Uuid) : Demand → Prop
  | .generate id' => id' = id
  | .stream id' => id' = id
  | _ => False

/-- How far a request has come.  `asking` has loaded its record and sends a request to the
    provider; `settling` has received a response and stores it. -/
inductive Stage where
  | waiting
  | asking (request : Request)
  | settling (response : Response)
  | relaying (relay : Relay)
  | finished

/-- A request in progress. -/
structure Task where
  demand : Demand
  stage : Stage

/-- Something that happened.  `stored` is a call of the store with the SQL of a response. -/
inductive Happening where
  | created (q : DynamicQuery)
  | renamed (id : Uuid) (name : String) (now : Timestamp)
  | delivered (task : Nat) (id : Uuid) (response : Response)
  | stored (task : Nat) (id : Uuid) (response : Response) (sql : String) (now : Timestamp)

/-- What happens when a response for a record is settled: the store is called if the output holds
    SQL. -/
def settled (k : Nat) (id : Uuid) (response : Response) (b : Backend) : List Happening :=
  match parseOutput response.text with
  | .ok sql => [.stored k id response sql b.supply.takeTime.1]
  | .error _ => []

/-- One turn of the request with number `k`. -/
def Task.turn (settings : Settings) (k : Nat) (t : Task) (b : Backend) :
    Task × Backend × List Happening :=
  match t.demand, t.stage with
  | .create name prompt, .waiting =>
    match b.create name prompt with
    | (.ok q, b) => ({ t with stage := .finished }, b, [.created q])
    | (.error _, b) => ({ t with stage := .finished }, b, [])
  | .rename id name, .waiting =>
    ({ t with stage := .finished }, (b.rename id name).2, [.renamed id name b.supply.takeTime.1])
  | .generate id, .waiting =>
    match b.load id with
    | .ok q => ({ t with stage := .asking (requestFor settings q) }, b, [])
    | .error _ => ({ t with stage := .finished }, b, [])
  | .generate id, .asking request =>
    match b.ask request with
    | (.ok response, b) => ({ t with stage := .settling response }, b, [.delivered k id response])
    | (.error _, b) => ({ t with stage := .finished }, b, [])
  | .generate id, .settling response =>
    ({ t with stage := .finished }, (b.settle id response).2, settled k id response b)
  | .stream id, .waiting =>
    match b.stream settings id with
    | .ok relay => ({ t with stage := .relaying relay }, b, [])
    | .error _ => ({ t with stage := .finished }, b, [])
  | .stream _, .relaying relay =>
    let (_, relay', b') := relay.step b
    ({ t with stage := .relaying relay' }, b',
      match relay.response? with
      | some response => .delivered k relay.id response :: settled k relay.id response b
      | none => [])
  | _, _ => (t, b, [])

/-- A number of turns of a request that is alone. -/
def Task.turns (settings : Settings) (k : Nat) : Nat → Task → Backend → Task × Backend
  | 0, t, b => (t, b)
  | n + 1, t, b => turns settings k n (t.turn settings k b).1 (t.turn settings k b).2.1

/-- Alone, a generation takes three turns and does what `generate` does. -/
theorem turns_generate (settings : Settings) (k : Nat) (id : Uuid) (b : Backend) :
    (Task.turns settings k 3 ⟨.generate id, .waiting⟩ b).2 = (b.generate settings id).2 := by
  cases loaded : b.load id with
  | error failure => simp [Task.turns, Task.turn, Backend.generate, loaded]
  | ok q =>
    rcases asked : b.ask (requestFor settings q) with ⟨answer, b'⟩
    cases answer with
    | error failure => simp [Task.turns, Task.turn, Backend.generate, loaded, asked]
    | ok response => simp [Task.turns, Task.turn, Backend.generate, loaded, asked]

/-- Alone, a streamed generation takes the steps of its relay. -/
theorem turns_relaying (settings : Settings) (k : Nat) (id : Uuid) (n : Nat) (r : Relay)
    (b : Backend) : Task.turns settings k n ⟨.stream id, .relaying r⟩ b =
      (⟨.stream id, .relaying (r.steps n b).1⟩, (r.steps n b).2) := by
  induction n generalizing r b with
  | zero => rfl
  | succ n ih =>
    simp only [Task.turns, Task.turn, Relay.steps]
    exact ih _ _

/-! ## All requests together -/

/-- The store, the requests that have arrived, and what has happened so far. -/
structure World where
  store : Store
  tasks : List Task
  history : List Happening

/-- A step of the whole: a request arrives, takes a turn, or is dropped. -/
inductive Move where
  | arrive (demand : Demand)
  | turn (task : Nat) (provider : Provider) (supply : Supply)
  | drop (task : Nat)

namespace World

/-- An empty store and no requests. -/
def initial : World := ⟨Store.empty, [], []⟩

/-- One step; a turn of a request that does not exist changes nothing. -/
def move (settings : Settings) (w : World) : Move → World
  | .arrive demand => { w with tasks := w.tasks ++ [⟨demand, .waiting⟩] }
  | .turn k provider supply =>
    match w.tasks[k]? with
    | none => w
    | some t =>
      let (t', b, happened) := t.turn settings k ⟨w.store, provider, supply⟩
      ⟨b.store, w.tasks.set k t', w.history ++ happened⟩
  | .drop k =>
    match w.tasks[k]? with
    | none => w
    | some t => { w with tasks := w.tasks.set k { t with stage := .finished } }

/-- The world after some steps. -/
def run (settings : Settings) (moves : List Move) : World :=
  moves.foldl (move settings) initial

end World

end QueryDesk.Generation
