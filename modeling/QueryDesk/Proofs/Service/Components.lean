import QueryDesk.Proofs.Service.Handling

/-!
# The desk over its components

What the desk does with a request depends on its components only through the calls that it makes:
those of the store, the question to the provider and the statement for the engine.  Here the
actions are written over components that are arbitrary, so that each call may fail in every way,
whatever state it works on.  The desk is the case of its own store, provider and engine
(`handle_eq_components`).
-/

namespace QueryDesk.Service

open QueryDesk.Generation QueryDesk.Json QueryDesk.Query QueryDesk.Record

/-! ## Operations -/

/-- A call that works on a state and may fail. -/
def Operation (σ ε α : Type) : Type := σ → Except ε α × σ

namespace Operation

variable {σ ε ε' α β : Type}

instance : Monad (Operation σ ε) where
  pure a := fun s => (.ok a, s)
  bind x f := fun s => match x s with
    | (.ok a, s) => f a s
    | (.error e, s) => (.error e, s)

/-- A result without a call. -/
def ofExcept (result : Except ε α) : Operation σ ε α := fun s => (result, s)

/-- An operation whose failures are seen as others. -/
def mapError (f : ε → ε') (x : Operation σ ε α) : Operation σ ε' α :=
  fun s => ((x s).1.mapError f, (x s).2)

@[simp] theorem pure_apply (a : α) (s : σ) : (pure a : Operation σ ε α) s = (.ok a, s) := rfl

@[simp] theorem ofExcept_apply (result : Except ε α) (s : σ) :
    ofExcept result s = (result, s) := rfl

@[simp] theorem mapError_ok (f : ε → ε') (a : α) :
    (Except.ok a : Except ε α).mapError f = .ok a := rfl

@[simp] theorem mapError_error (f : ε → ε') (e : ε) :
    (Except.error e : Except ε α).mapError f = .error (f e) := rfl

@[simp] theorem mapError_apply (f : ε → ε') (x : Operation σ ε α) (s : σ) :
    x.mapError f s = ((x s).1.mapError f, (x s).2) := rfl

@[simp] theorem bind_apply (x : Operation σ ε α) (f : α → Operation σ ε β) (s : σ) :
    (x >>= f) s = match (x s).1 with
      | .ok a => f a (x s).2
      | .error e => (.error e, (x s).2) := by
  change (match x s with
    | (.ok a, s) => f a s
    | (.error e, s) => (.error e, s)) = _
  rcases x s with ⟨_ | a, s'⟩ <;> rfl

/-- The response of an operation, a refusal if it fails. -/
def respond (x : Operation σ Refusal Response) (s : σ) : Response × σ :=
  match x s with
  | (.ok response, s) => (response, s)
  | (.error refusal, s) => (refusal.response, s)

end Operation

/-! ## Components -/

/-- What the desk works with: a store, a provider and an engine, by their calls. -/
structure Components (σ : Type) where
  list : Operation σ Store.Failure (List DynamicQuery)
  create (name prompt : String) : Operation σ Store.Failure DynamicQuery
  get (id : Uuid) : Operation σ Store.Failure (Option DynamicQuery)
  rename (id : Uuid) (name : String) : Operation σ Store.Failure DynamicQuery
  complete (id : Uuid) (query responseId : String) : Operation σ Store.Failure DynamicQuery
  ask (request : Completion.Request) : Operation σ Completion.Failure Completion.Response
  submit (statement : String) : Operation σ Engine.Failure Value

namespace Components

open Operation

variable {σ : Type} (options : Sql.Options) (settings : Settings) (c : Components σ)

/-- The record with an id. -/
def find (id : Uuid) : Operation σ Refusal DynamicQuery := do
  let found ← (c.get id).mapError storeRefusal
  ofExcept (match found with
    | some q => .ok q
    | none => .error .notFound)

/-- The record that a generation is for. -/
def load (id : Uuid) : Operation σ Refusal DynamicQuery := do
  let found ← (c.get id).mapError fun cause => generationRefusal (.store cause)
  ofExcept (match found with
    | some q => .ok q
    | none => .error (generationRefusal (.notFound id)))

/-- The SQL and the id of an answer, if there is one and its output is accepted. -/
def accepted (answer : Except Completion.Failure Completion.Response) :
    Except Refusal (String × String) :=
  match answer with
  | .error cause => .error (generationRefusal (.completion cause))
  | .ok response => match parseOutput response.text with
    | .error fault => .error (generationRefusal (.invalidOutput fault))
    | .ok sql => .ok (sql, response.id)

/-- Asks the provider for SQL. -/
def request (q : DynamicQuery) : Operation σ Refusal (String × String) :=
  fun s => (accepted (c.ask (requestFor settings q) s).1, (c.ask (requestFor settings q) s).2)

/-- The SQL of a spec, or the compile error. -/
def sql (spec : Spec) : Operation σ Refusal Response :=
  ofExcept (match Sql.compile options spec with
    | .ok sql => .ok (.plain 200 sql)
    | .error e => .error (.badRequest e.message))

/-- Does what a request asks for. -/
def act (r : Request) : Action → Operation σ Refusal Response
  | .list => do
    let qs ← c.list.mapError storeRefusal
    pure (.success 200 (.array (qs.map DynamicQuery.toJson)))
  | .create => do
    let body ← ofExcept (readCreation r)
    let q ← (c.create body.name body.prompt).mapError storeRefusal
    pure (.success 201 (.string q.id.text))
  | .preview => sql options BuiltIn.customersWithAddresses
  | .fetch segment => do
    let id ← ofExcept (readId segment)
    let q ← c.find id
    pure (.success 200 q.toJson)
  | .rename segment => do
    let id ← ofExcept (readId segment)
    let name ← ofExcept (readName r)
    let q ← (c.rename id name).mapError storeRefusal
    pure (.success 200 q.toJson)
  | .stream segment => do
    let id ← ofExcept (readId segment)
    let q ← c.load id
    pure (.stream ⟨q.id, requestFor settings q, settings.emitErrors, .unopened⟩)
  | .generate segment => do
    let id ← ofExcept (readId segment)
    let q ← c.load id
    let (query, responseId) ← c.request settings q
    let q ← (c.complete id query responseId).mapError fun cause => generationRefusal (.store cause)
    pure (.success 200 q.toJson)
  | .results segment => do
    let id ← ofExcept (readId segment)
    let q ← c.find id
    let query ← ofExcept (match q.query with
      | some query => .ok query
      | none => .error (runRefusal (.notGenerated q.id)))
    let value ← (c.submit (Engine.prepare query)).mapError fun cause => runRefusal (.engine cause)
    pure (.success 200 value)
  | .compile => do
    let spec ← ofExcept (readBody Spec.reader r)
    sql options spec

/-- Answers a request. -/
def handle (r : Request) (s : σ) : Response × σ :=
  match r.action? with
  | none => (r.unserved, s)
  | some a => (r.sent ((c.act options settings r a).respond s).1,
      ((c.act options settings r a).respond s).2)

end Components

end QueryDesk.Service

namespace QueryDesk.Desk

open QueryDesk.Generation QueryDesk.Json QueryDesk.Query QueryDesk.Record QueryDesk.Service
open Operation

/-! ## The components of the desk -/

/-- The store, the provider and the engine of a desk. -/
def components : Components (Backend × Engine) where
  list := fun s => (s.1.store.list, s)
  create name prompt := fun s =>
    ((s.1.create name prompt).1, (s.1.create name prompt).2, s.2)
  get id := fun s => (s.1.store.get id, s)
  rename id name := fun s => ((s.1.rename id name).1, (s.1.rename id name).2, s.2)
  complete id query responseId := fun s =>
    ((s.1.complete id query responseId).1, (s.1.complete id query responseId).2, s.2)
  ask request := fun s =>
    ((s.1.provider.complete request).1,
      { s.1 with provider := (s.1.provider.complete request).2 }, s.2)
  submit statement := fun s =>
    ((s.2.submit statement).1, s.1, (s.2.submit statement).2)

section Calls

variable (s : Backend × Engine) (id : Uuid) (name prompt query responseId statement : String)
  (request : Completion.Request)

@[simp] theorem components_list : components.list s = (s.1.store.list, s) := rfl

@[simp] theorem components_create : components.create name prompt s =
    ((s.1.create name prompt).1, (s.1.create name prompt).2, s.2) := rfl

@[simp] theorem components_get : components.get id s = (s.1.store.get id, s) := rfl

@[simp] theorem components_rename : components.rename id name s =
    ((s.1.rename id name).1, (s.1.rename id name).2, s.2) := rfl

@[simp] theorem components_complete : components.complete id query responseId s =
    ((s.1.complete id query responseId).1, (s.1.complete id query responseId).2, s.2) := rfl

@[simp] theorem components_ask : components.ask request s =
    ((s.1.provider.complete request).1,
      { s.1 with provider := (s.1.provider.complete request).2 }, s.2) := rfl

@[simp] theorem components_submit : components.submit statement s =
    ((s.2.submit statement).1, s.1, (s.2.submit statement).2) := rfl

end Calls

/-- What an operation on the contents of a desk answers, and the desk after it. -/
def answerOf (d : Desk) (x : Operation (Backend × Engine) Refusal Response) : Response × Desk :=
  let (response, backend, engine) := x.respond (d.backend, d.engine)
  (response, { d with backend := backend, engine := engine })

/-! ## Each action -/

section Actions

variable (d : Desk) (r : Request) (segment : String)

theorem find_components (id : Uuid) :
    components.find id (d.backend, d.engine) = (d.find id, d.backend, d.engine) := by
  cases got : d.backend.store.get id with
  | error failure => simp [Components.find, find, got]
  | ok found => cases found <;> simp [Components.find, find, got]

theorem load_components (id : Uuid) :
    components.load id (d.backend, d.engine) =
      ((d.backend.load id).mapError generationRefusal, d.backend, d.engine) := by
  cases got : d.backend.store.get id with
  | error failure => simp [Components.load, Backend.load, got]
  | ok found => cases found <;> simp [Components.load, Backend.load, got]

theorem act_list : d.act r .list = d.answerOf (components.act d.options d.settings r .list) := by
  cases got : d.backend.store.list <;>
    simp [act, list, answerOf, respond, Components.act, got]

theorem act_create :
    d.act r .create = d.answerOf (components.act d.options d.settings r .create) := by
  rw [act]
  cases read : readCreation r with
  | error refusal =>
    rw [create_of_error d read]
    simp [answerOf, respond, Components.act, read]
  | ok c =>
    rw [create_of_ok d read]
    cases made : (d.backend.create c.name c.prompt).1 <;>
      simp [answerOf, respond, Components.act, read, made, creationResponse]

theorem act_preview :
    d.act r .preview = d.answerOf (components.act d.options d.settings r .preview) := by
  cases compiled : Sql.compile d.options BuiltIn.customersWithAddresses <;>
    simp [act, preview, answerOf, respond, Components.act, Components.sql, sqlResponse, compiled]

theorem act_fetch : d.act r (.fetch segment) =
    d.answerOf (components.act d.options d.settings r (.fetch segment)) := by
  cases hid : readId segment with
  | error refusal => simp [act, fetch, answerOf, respond, Components.act, hid]
  | ok id =>
    cases found : d.find id <;>
      simp [act, fetch, answerOf, respond, Components.act, hid, find_components, found,
        recordResponse]

theorem act_rename : d.act r (.rename segment) =
    d.answerOf (components.act d.options d.settings r (.rename segment)) := by
  rw [act]
  cases hid : readId segment with
  | error refusal =>
    rw [rename_of_badId d hid]
    simp [answerOf, respond, Components.act, hid]
  | ok id =>
    cases read : readName r with
    | error refusal =>
      rw [rename_of_error d hid read]
      simp [answerOf, respond, Components.act, hid, read]
    | ok name =>
      rw [rename_of_ok d hid read]
      cases renamed : (d.backend.rename id name).1 <;>
        simp [answerOf, respond, Components.act, hid, read, renamed, recordResponse]

theorem act_stream : d.act r (.stream segment) =
    d.answerOf (components.act d.options d.settings r (.stream segment)) := by
  cases hid : readId segment with
  | error refusal => simp [act, stream, answerOf, respond, Components.act, hid]
  | ok id =>
    cases loaded : d.backend.load id <;>
      simp [act, stream, Backend.stream, answerOf, respond, Components.act, hid, load_components,
        loaded, Except.map]

/-- A generation loads its record, asks, and stores what is accepted. -/
theorem act_generate : d.act r (.generate segment) =
    d.answerOf (components.act d.options d.settings r (.generate segment)) := by
  rw [act]
  cases hid : readId segment with
  | error refusal =>
    rw [generate_of_badId d hid]
    simp [answerOf, respond, Components.act, hid]
  | ok id =>
    rw [generate_of_ok d hid]
    cases loaded : d.backend.load id with
    | error failure =>
      simp [answerOf, respond, Components.act, hid, load_components, loaded, Backend.generate,
        recordResponse]
    | ok q =>
      rcases asked : d.backend.provider.complete (requestFor d.settings q) with ⟨answer, provider⟩
      cases answer with
      | error cause =>
        simp [answerOf, respond, Components.act, hid, load_components, loaded, Backend.generate,
          Backend.ask, Components.request, Components.accepted, asked, recordResponse]
      | ok response =>
        cases reads : parseOutput response.text with
        | error fault =>
          simp [answerOf, respond, Components.act, hid, load_components, loaded, Backend.generate,
            Backend.ask, Components.request, Components.accepted, asked, Backend.settle, reads,
            recordResponse]
        | ok sql =>
          cases stored : (d.backend.store.complete id d.backend.supply.takeTime.1 sql
              response.id).1 <;>
            simp [answerOf, respond, Components.act, hid, load_components, loaded,
              Backend.generate, Backend.ask, Components.request, Components.accepted, asked,
              Backend.settle, Backend.complete, reads, stored, recordResponse]

theorem act_results : d.act r (.results segment) =
    d.answerOf (components.act d.options d.settings r (.results segment)) := by
  rw [act]
  cases hid : readId segment with
  | error refusal =>
    rw [results_of_badId d hid]
    simp [answerOf, respond, Components.act, hid]
  | ok id =>
    cases found : d.find id with
    | error refusal =>
      rw [results_of_error d hid found]
      simp [answerOf, respond, Components.act, hid, find_components, found]
    | ok q =>
      rw [results_of_ok d hid found]
      cases query : q.query with
      | none =>
        simp [answerOf, respond, Components.act, hid, find_components, found, Engine.run, query,
          runResponse]
      | some sql =>
        cases ran : (d.engine.submit (Engine.prepare sql)).1 <;>
          simp [answerOf, respond, Components.act, hid, find_components, found, Engine.run, query,
            Engine.execute, ran, runResponse]

theorem act_compile :
    d.act r .compile = d.answerOf (components.act d.options d.settings r .compile) := by
  cases read : readBody Spec.reader r with
  | error refusal => simp [act, compile, answerOf, respond, Components.act, read]
  | ok spec =>
    cases compiled : Sql.compile d.options spec <;>
      simp [act, compile, answerOf, respond, Components.act, Components.sql, sqlResponse, read,
        compiled]

end Actions

/-- What the desk does is what is done with its components. -/
theorem handle_eq_components (d : Desk) (r : Request) :
    d.handle r = ((components.handle d.options d.settings r (d.backend, d.engine)).1,
      { d with backend := (components.handle d.options d.settings r (d.backend, d.engine)).2.1,
               engine := (components.handle d.options d.settings r (d.backend, d.engine)).2.2 }) := by
  unfold Components.handle
  cases asks : r.action? with
  | none => exact handle_of_none d asks
  | some a =>
    have acted : d.act r a = d.answerOf (components.act d.options d.settings r a) := by
      cases a with
      | list => exact act_list d r
      | create => exact act_create d r
      | preview => exact act_preview d r
      | fetch segment => exact act_fetch d r segment
      | rename segment => exact act_rename d r segment
      | stream segment => exact act_stream d r segment
      | generate segment => exact act_generate d r segment
      | results segment => exact act_results d r segment
      | compile => exact act_compile d r
    rw [handle_of_action d asks, acted]
    rfl

end QueryDesk.Desk
