import QueryDesk.Proofs.Generation.Agreement
import QueryDesk.Proofs.Service.Components
import QueryDesk.Proofs.Service.Refusals

/-!
# Internal failures stay internal

Two runs may differ in what fails inside: in the failures of the store, but not in whether a record
is found, in the failures of the provider and the outputs that are rejected, and in the failures of
the engine.  A call is followed through both runs by `Agree`, which is kept by doing one thing after
another (`agree_bind`), so every action answers the same in both.

A refusal that is not internal is a complaint about the request, or says that something was not
found (`Complaint`).  There is one exception: if no nesting at all is allowed, the built-in query
does not compile, and the preview says so.
-/

namespace QueryDesk.Service

open QueryDesk.Generation QueryDesk.Json QueryDesk.Query QueryDesk.Record QueryDesk.Store

/-! ## Results that differ inside -/

/-- Results that are equal, or failures that are both internal. -/
def AlikeBut {ε α : Type} (internal : ε → Prop) (x x' : Except ε α) : Prop :=
  x = x' ∨ ∃ e e', x = .error e ∧ x' = .error e' ∧ internal e ∧ internal e'

/-- Every failure of the store, but that a record is not found. -/
def InternalToStore : Store.Failure → Prop
  | .notFound _ => False
  | _ => True

/-- An answer of the provider without SQL: a failure, or a response whose output is rejected. -/
def Useless : Except Completion.Failure Completion.Response → Prop
  | .error _ => True
  | .ok response => ∃ fault, parseOutput response.text = .error fault

/-- Answers of the provider that are equal, or both without SQL. -/
def AnswersAlike (x x' : Except Completion.Failure Completion.Response) : Prop :=
  x = x' ∨ Useless x ∧ Useless x'

/-- Values of the engine that are equal, or two failures. -/
def ValuesAlike (x x' : Except Engine.Failure Value) : Prop :=
  AlikeBut (fun _ => True) x x'

theorem storeRefusal_of_internal {e : Store.Failure} (h : InternalToStore e) :
    storeRefusal e = .internal := by
  cases e with
  | notFound id => exact h.elim
  | _ => rfl

theorem mapError_storeRefusal {α : Type} {x x' : Except Store.Failure α}
    (h : AlikeBut InternalToStore x x') : x.mapError storeRefusal = x'.mapError storeRefusal := by
  rcases h with rfl | ⟨e, e', rfl, rfl, inside, inside'⟩
  · rfl
  · rw [Operation.mapError_error, Operation.mapError_error, storeRefusal_of_internal inside,
      storeRefusal_of_internal inside']

theorem mapError_engine {x x' : Except Engine.Failure Value} (h : ValuesAlike x x') :
    (x.mapError fun cause => runRefusal (.engine cause)) =
      x'.mapError fun cause => runRefusal (.engine cause) := by
  rcases h with rfl | ⟨e, e', rfl, rfl, -, -⟩
  · rfl
  · rfl

theorem accepted_of_useless {x : Except Completion.Failure Completion.Response} (h : Useless x) :
    Components.accepted x = .error .internal := by
  cases x with
  | error cause => rfl
  | ok response =>
    obtain ⟨fault, rejected⟩ := h
    rw [Components.accepted, rejected]
    rfl

theorem accepted_alike {x x' : Except Completion.Failure Completion.Response}
    (h : AnswersAlike x x') : Components.accepted x = Components.accepted x' := by
  rcases h with rfl | ⟨useless, useless'⟩
  · rfl
  · rw [accepted_of_useless useless, accepted_of_useless useless']

/-! ## Two runs of an operation -/

section TwoRuns

variable {σ σ' ε ε' α β : Type} {R : σ → σ' → Prop}

/-- In related states two operations have related results, and leave related states. -/
def Agree (R : σ → σ' → Prop) (P : Except ε α → Except ε α → Prop) (x : Operation σ ε α)
    (x' : Operation σ' ε α) : Prop :=
  ∀ s s', R s s' → P (x s).1 (x' s').1 ∧ R (x s).2 (x' s').2

theorem agree_pure (a : α) : Agree R Eq (pure a : Operation σ ε α) (pure a : Operation σ' ε α) :=
  fun _ _ related => ⟨rfl, related⟩

theorem agree_ofExcept (result : Except ε α) :
    Agree R Eq (Operation.ofExcept result) (Operation.ofExcept result) :=
  fun _ _ related => ⟨rfl, related⟩

theorem agree_bind {x : Operation σ ε α} {x' : Operation σ' ε α} {f : α → Operation σ ε β}
    {f' : α → Operation σ' ε β} (first : Agree R Eq x x') (next : ∀ a, Agree R Eq (f a) (f' a)) :
    Agree R Eq (x >>= f) (x' >>= f') := by
  intro s s' related
  obtain ⟨same, left⟩ := first s s' related
  rw [Operation.bind_apply, Operation.bind_apply, ← same]
  cases (x s).1 with
  | error e => exact ⟨rfl, left⟩
  | ok a => exact next a _ _ left

/-- Results that are alike are equal once their failures are seen as refusals. -/
theorem agree_mapError {P : Except ε α → Except ε α → Prop} {x : Operation σ ε α}
    {x' : Operation σ' ε α} (h : Agree R P x x') {f : ε → ε'}
    (hides : ∀ {result result'}, P result result' → result.mapError f = result'.mapError f) :
    Agree R Eq (x.mapError f) (x'.mapError f) := by
  intro s s' related
  obtain ⟨alike, left⟩ := h s s' related
  exact ⟨hides alike, left⟩

end TwoRuns

/-- Components that cannot be told apart but by what fails inside. -/
structure Components.Alike {σ σ' : Type} (R : σ → σ' → Prop) (c : Components σ)
    (c' : Components σ') : Prop where
  list : Agree R (AlikeBut InternalToStore) c.list c'.list
  create : ∀ name prompt, Agree R (AlikeBut InternalToStore) (c.create name prompt)
    (c'.create name prompt)
  get : ∀ id, Agree R (AlikeBut InternalToStore) (c.get id) (c'.get id)
  rename : ∀ id name, Agree R (AlikeBut InternalToStore) (c.rename id name) (c'.rename id name)
  complete : ∀ id query responseId, Agree R (AlikeBut InternalToStore)
    (c.complete id query responseId) (c'.complete id query responseId)
  ask : ∀ request, Agree R AnswersAlike (c.ask request) (c'.ask request)
  submit : ∀ statement, Agree R ValuesAlike (c.submit statement) (c'.submit statement)

section Handling

variable {σ σ' : Type} {R : σ → σ' → Prop} {c : Components σ} {c' : Components σ'}

theorem agree_find (alike : c.Alike R c') (id : Uuid) : Agree R Eq (c.find id) (c'.find id) :=
  agree_bind (agree_mapError (alike.get id) mapError_storeRefusal) fun _ => agree_ofExcept _

theorem agree_load (alike : c.Alike R c') (id : Uuid) : Agree R Eq (c.load id) (c'.load id) :=
  agree_bind (agree_mapError (alike.get id) mapError_storeRefusal) fun _ => agree_ofExcept _

theorem agree_request (alike : c.Alike R c') (settings : Settings) (q : DynamicQuery) :
    Agree R Eq (c.request settings q) (c'.request settings q) := by
  intro s s' related
  obtain ⟨answers, left⟩ := alike.ask (requestFor settings q) s s' related
  exact ⟨accepted_alike answers, left⟩

/-- Every action answers the same. -/
theorem agree_act (alike : c.Alike R c') (options : Sql.Options) (settings : Settings)
    (r : Request) (a : Action) :
    Agree R Eq (c.act options settings r a) (c'.act options settings r a) := by
  cases a with
  | list => exact agree_bind (agree_mapError alike.list mapError_storeRefusal) fun _ => agree_pure _
  | create =>
    apply agree_bind (agree_ofExcept _)
    intro body
    apply agree_bind (agree_mapError (alike.create body.name body.prompt) mapError_storeRefusal)
    exact fun _ => agree_pure _
  | preview => exact agree_ofExcept _
  | fetch segment =>
    apply agree_bind (agree_ofExcept _)
    intro id
    exact agree_bind (agree_find alike id) fun _ => agree_pure _
  | rename segment =>
    apply agree_bind (agree_ofExcept _)
    intro id
    apply agree_bind (agree_ofExcept _)
    intro name
    apply agree_bind (agree_mapError (alike.rename id name) mapError_storeRefusal)
    exact fun _ => agree_pure _
  | stream segment =>
    apply agree_bind (agree_ofExcept _)
    intro id
    exact agree_bind (agree_load alike id) fun _ => agree_pure _
  | generate segment =>
    apply agree_bind (agree_ofExcept _)
    intro id
    apply agree_bind (agree_load alike id)
    intro q
    apply agree_bind (agree_request alike settings q)
    intro answer
    apply agree_bind (agree_mapError (alike.complete id answer.1 answer.2) mapError_storeRefusal)
    exact fun _ => agree_pure _
  | results segment =>
    apply agree_bind (agree_ofExcept _)
    intro id
    apply agree_bind (agree_find alike id)
    intro q
    apply agree_bind (agree_ofExcept _)
    intro query
    apply agree_bind (agree_mapError (alike.submit (Engine.prepare query)) mapError_engine)
    exact fun _ => agree_pure _
  | compile =>
    apply agree_bind (agree_ofExcept _)
    exact fun _ => agree_ofExcept _

/-- Every request is answered the same. -/
theorem handle_alike (alike : c.Alike R c') (options : Sql.Options) (settings : Settings)
    (r : Request) {s : σ} {s' : σ'} (related : R s s') :
    (c.handle options settings r s).1 = (c'.handle options settings r s').1 ∧
      R (c.handle options settings r s).2 (c'.handle options settings r s').2 := by
  unfold Components.handle
  cases r.action? with
  | none => exact ⟨rfl, related⟩
  | some a =>
    obtain ⟨same, left⟩ := agree_act alike options settings r a s s' related
    dsimp only
    unfold Operation.respond
    rcases acted : c.act options settings r a s with ⟨result, t⟩
    rcases acted' : c'.act options settings r a s' with ⟨result', t'⟩
    rw [acted, acted'] at same left
    dsimp only at same left
    subst same
    cases result with
    | ok response => exact ⟨rfl, left⟩
    | error refusal => exact ⟨rfl, left⟩

end Handling

/-! ## What a refusal says -/

/-- The segment of a path that is read as an id. -/
def Action.segment? : Action → Option String
  | .fetch segment | .rename segment | .stream segment | .generate segment
  | .results segment => some segment
  | _ => none

/-- Refusals that say no more than what the requester has supplied: the id in the path, a body that
    is not accepted, a spec that does not compile, the id of a record without SQL, or that
    something was not found.  What the service holds plays no part here. -/
inductive Complaint (options : Sql.Options) (r : Request) : Refusal → Prop
  | id {a : Action} {segment : String} {refusal : Refusal} (asks : r.action? = some a)
      (names : a.segment? = some segment) (bad : readId segment = .error refusal) :
      Complaint options r refusal
  | creation {refusal : Refusal} (asks : r.action? = some .create)
      (bad : readCreation r = .error refusal) : Complaint options r refusal
  | name {segment : String} {refusal : Refusal} (asks : r.action? = some (.rename segment))
      (bad : readName r = .error refusal) : Complaint options r refusal
  | spec {refusal : Refusal} (asks : r.action? = some .compile)
      (bad : readBody Spec.reader r = .error refusal) : Complaint options r refusal
  | compilation {spec : Spec} {e : Sql.CompileError} (asks : r.action? = some .compile)
      (read : readBody Spec.reader r = .ok spec) (fails : Sql.compile options spec = .error e) :
      Complaint options r (.badRequest e.message)
  | notGenerated {segment : String} {id : Uuid} (asks : r.action? = some (.results segment))
      (read : readId segment = .ok id) : Complaint options r (runRefusal (.notGenerated id))
  | notFound : Complaint options r .notFound

/-- The built-in query does not compile where no nesting is allowed. -/
def previewRefusal : Refusal := .badRequest (Sql.CompileError.tooDeep 0).message

/-- What an action may refuse with. -/
inductive Refused (options : Sql.Options) (r : Request) : Refusal → Prop
  | internal : Refused options r .internal
  | complaint {refusal : Refusal} (h : Complaint options r refusal) : Refused options r refusal
  | preview (asks : r.action? = some .preview) (shallow : options.maxDepth = 0) :
      Refused options r previewRefusal

theorem exists_preview {options : Sql.Options} (deep : 0 < options.maxDepth) :
    ∃ sql, Sql.compile options BuiltIn.customersWithAddresses = .ok sql := by
  rcases options with ⟨depth, locals⟩
  have outer : ¬ depth < 0 := Nat.not_lt_zero depth
  have inner : ¬ depth < 0 + 1 := by
    dsimp only at deep
    omega
  unfold Sql.compile Sql.compileTokens BuiltIn.customersWithAddresses BuiltIn.addresses
  simp only [Sql.specTokens, Sql.joinTokens, Sql.targetTokens, if_neg outer, if_neg inner]
  cases locals <;> exact ⟨_, rfl⟩

theorem preview_shallow (locals : Bool) :
    Sql.compile ⟨0, locals⟩ BuiltIn.customersWithAddresses = .error (.tooDeep 0) := by
  cases locals <;> rfl

section Meeting

variable {σ ε α β : Type} {returns : α → Prop} {refuses : Refusal → Prop}

/-- In every state an operation returns, or refuses, as it may. -/
def Meets (returns : α → Prop) (refuses : Refusal → Prop) (x : Operation σ Refusal α) : Prop :=
  ∀ s, match (x s).1 with
    | .ok a => returns a
    | .error refusal => refuses refusal

theorem meets_pure {a : α} (h : returns a) :
    Meets returns refuses (pure a : Operation σ Refusal α) :=
  fun _ => h

theorem meets_ofExcept {result : Except Refusal α} (ok : ∀ a, result = .ok a → returns a)
    (error : ∀ refusal, result = .error refusal → refuses refusal) :
    Meets returns refuses (Operation.ofExcept result : Operation σ Refusal α) := by
  intro s
  rw [Operation.ofExcept_apply]
  cases result with
  | ok a => exact ok a rfl
  | error refusal => exact error refusal rfl

theorem meets_bind {x : Operation σ Refusal α} {f : α → Operation σ Refusal β}
    {returns' : β → Prop} (first : Meets returns refuses x)
    (next : ∀ a, returns a → Meets returns' refuses (f a)) :
    Meets returns' refuses (x >>= f) := by
  intro s
  have met := first s
  rw [Operation.bind_apply]
  cases result : (x s).1 with
  | ok a =>
    rw [result] at met
    exact next a met _
  | error refusal =>
    rw [result] at met
    exact met

theorem meets_mapError {f : ε → Refusal} (h : ∀ e, refuses (f e)) (x : Operation σ ε α) :
    Meets (fun _ => True) refuses (x.mapError f) := by
  intro s
  rw [Operation.mapError_apply]
  cases (x s).1 with
  | ok a => exact trivial
  | error e => exact h e

end Meeting

/-- A record is found under its own id. -/
def Components.FindsById {σ : Type} (c : Components σ) : Prop :=
  ∀ id s q, (c.get id s).1 = .ok (some q) → q.id = id

section Refusing

variable {σ : Type} {c : Components σ} {options : Sql.Options} {r : Request}

/-- A response that does not refuse anything. -/
def Accepting (response : Response) : Prop := response.status < 400

theorem refused_storeRefusal (e : Store.Failure) : Refused options r (storeRefusal e) := by
  cases e with
  | notFound id => exact .complaint .notFound
  | _ => exact .internal

theorem meets_find (finds : c.FindsById) (id : Uuid) :
    Meets (fun q => q.id = id) (Refused options r) (c.find id) := by
  intro s
  unfold Components.find
  rw [Operation.bind_apply, Operation.mapError_apply]
  cases got : (c.get id s).1 with
  | error e => exact refused_storeRefusal e
  | ok found =>
    cases found with
    | none => exact .complaint .notFound
    | some q => exact finds id s q got

theorem meets_load (id : Uuid) : Meets (fun _ => True) (Refused options r) (c.load id) := by
  apply meets_bind (meets_mapError refused_storeRefusal (c.get id))
  intro found _
  apply meets_ofExcept (fun _ _ => trivial)
  intro refusal none
  cases found with
  | some q => cases none
  | none =>
    cases none
    exact .complaint .notFound

theorem meets_request (settings : Settings) (q : DynamicQuery) :
    Meets (fun _ => True) (Refused options r) (c.request settings q) := by
  intro s
  unfold Components.request
  dsimp only
  cases (c.ask (requestFor settings q) s).1 with
  | error cause => exact .internal
  | ok response =>
    rw [Components.accepted]
    cases parseOutput response.text with
    | error fault => exact .internal
    | ok sql => exact trivial

theorem meets_readId {a : Action} {segment : String} (asks : r.action? = some a)
    (names : a.segment? = some segment) :
    Meets (fun id => readId segment = .ok id) (Refused options r)
      (Operation.ofExcept (readId segment) : Operation σ Refusal Uuid) :=
  meets_ofExcept (fun _ read => read) fun _ bad => .complaint (.id asks names bad)

/-- An action accepts, or refuses as it may. -/
theorem meets_act (finds : c.FindsById) (settings : Settings) {a : Action}
    (asks : r.action? = some a) :
    Meets Accepting (Refused options r) (c.act options settings r a) := by
  have shown : ∀ status data, status < 400 → Meets Accepting (Refused options r)
      (pure (.success status data) : Operation σ Refusal Response) := by
    intro status data low
    exact meets_pure low
  cases a with
  | list =>
    apply meets_bind (meets_mapError refused_storeRefusal c.list)
    exact fun _ _ => shown 200 _ (by decide)
  | create =>
    apply meets_bind (meets_ofExcept (fun _ _ => trivial) fun _ bad =>
      .complaint (.creation asks bad))
    intro body _
    apply meets_bind (meets_mapError refused_storeRefusal (c.create body.name body.prompt))
    exact fun _ _ => shown 201 _ (by decide)
  | preview =>
    apply meets_ofExcept
    · intro response compiled
      split at compiled
      · cases compiled
        exact (by decide : 200 < 400)
      · cases compiled
    · intro refusal failed
      by_cases shallow : options.maxDepth = 0
      · have here : options = ⟨0, options.resolveLocals⟩ := by rw [← shallow]
        rw [here, preview_shallow] at failed
        cases failed
        exact .preview asks shallow
      · obtain ⟨sql, compiled⟩ := exists_preview (Nat.pos_of_ne_zero shallow)
        rw [compiled] at failed
        cases failed
  | fetch segment =>
    apply meets_bind (meets_readId asks rfl)
    intro id _
    apply meets_bind (meets_find finds id)
    exact fun _ _ => shown 200 _ (by decide)
  | rename segment =>
    apply meets_bind (meets_readId asks rfl)
    intro id _
    apply meets_bind (meets_ofExcept (fun _ _ => trivial) fun _ bad => .complaint (.name asks bad))
    intro name _
    apply meets_bind (meets_mapError refused_storeRefusal (c.rename id name))
    exact fun _ _ => shown 200 _ (by decide)
  | stream segment =>
    apply meets_bind (meets_readId asks rfl)
    intro id _
    apply meets_bind (meets_load id)
    exact fun _ _ => meets_pure (by decide : 200 < 400)
  | generate segment =>
    apply meets_bind (meets_readId asks rfl)
    intro id _
    apply meets_bind (meets_load id)
    intro q _
    apply meets_bind (meets_request settings q)
    intro answer _
    apply meets_bind (meets_mapError refused_storeRefusal (c.complete id answer.1 answer.2))
    exact fun _ _ => shown 200 _ (by decide)
  | results segment =>
    apply meets_bind (meets_readId asks rfl)
    intro id read
    apply meets_bind (meets_find finds id)
    intro q hid
    refine meets_bind (?_ : Meets (fun _ => True) _ _) ?_
    · apply meets_ofExcept (fun _ _ => trivial)
      intro refusal without
      split at without
      · cases without
      · cases without
        rw [hid]
        exact .complaint (.notGenerated asks read)
    · intro query _
      apply meets_bind (meets_mapError (fun _ => .internal) (c.submit (Engine.prepare query)))
      exact fun _ _ => shown 200 _ (by decide)
  | compile =>
    apply meets_bind (meets_ofExcept (fun _ read => read) fun _ bad => .complaint (.spec asks bad))
    intro spec read
    apply meets_ofExcept
    · intro response compiled
      split at compiled
      · cases compiled
        exact (by decide : 200 < 400)
      · cases compiled
    · intro refusal failed
      split at failed
      · cases failed
      · rename_i e fails
        cases failed
        exact .complaint (.compilation asks read fails)

end Refusing

/-! ## What a response says -/

/-- A response of status 4xx that says no more than the requester knows. -/
def Disclosed (options : Sql.Options) (r : Request) (response : Response) : Prop :=
  response = r.unserved ∨
    ∃ refusal, Complaint options r refusal ∧ response = r.sent refusal.response

/-- The response for a preview where no nesting is allowed. -/
def IsShallowPreview (options : Sql.Options) (r : Request) (response : Response) : Prop :=
  r.action? = some .preview ∧ options.maxDepth = 0 ∧ response = r.sent previewRefusal.response

/-- A response that refuses says what the requester knows, or it is the one for internal
    failures. -/
theorem handle_disclosed {σ : Type} {c : Components σ} (finds : c.FindsById)
    (options : Sql.Options) (settings : Settings) (r : Request) (s : σ)
    (refused : 400 ≤ (c.handle options settings r s).1.status) :
    Disclosed options r (c.handle options settings r s).1 ∨
      IsShallowPreview options r (c.handle options settings r s).1 ∨
      (c.handle options settings r s).1 = r.sent Refusal.internal.response := by
  unfold Components.handle at refused ⊢
  cases asks : r.action? with
  | none => exact .inl (.inl rfl)
  | some a =>
    rw [asks] at refused
    dsimp only at refused ⊢
    rw [Request.sent_status] at refused
    have meets : Meets Accepting (Refused options r) (c.act options settings r a) :=
      meets_act finds settings asks
    have met := meets s
    unfold Operation.respond at refused ⊢
    rcases acted : c.act options settings r a s with ⟨result, t⟩
    rw [acted] at refused met
    cases result with
    | ok response =>
      have low : response.status < 400 := met
      exact absurd refused (Nat.not_le.2 low)
    | error refusal =>
      dsimp only at met ⊢
      cases met with
      | internal => exact .inr (.inr rfl)
      | complaint h => exact .inl (.inr ⟨refusal, h, rfl⟩)
      | preview asks' shallow => exact .inr (.inl ⟨asks', shallow, rfl⟩)

end QueryDesk.Service

namespace QueryDesk.Desk

open QueryDesk.Generation QueryDesk.Json QueryDesk.Record QueryDesk.Service QueryDesk.Store

/-! ## Two desks -/

/-- Contents that differ in the failures to come, of the provider and of the engine, and in the
    outputs to come that are rejected.  Streams to come may differ in everything. -/
structure ContentsAlike (s s' : Backend × Engine) : Prop where
  store : s'.1.store = s.1.store
  supply : s'.1.supply = s.1.supply
  responses : List.Forall₂ AnswersAlike s.1.provider.responses s'.1.provider.responses
  answers : List.Forall₂ ValuesAlike s.2.answers s'.2.answers

/-- Desks with contents that are alike. -/
structure Alike (d d' : Desk) : Prop where
  options : d'.options = d.options
  settings : d'.settings = d.settings
  contents : ContentsAlike (d.backend, d.engine) (d'.backend, d'.engine)

/-- A call of the store does the same in both. -/
theorem agree_stored {α : Type} (call : Backend → Except Store.Failure α × Backend)
    (result : ∀ b b' : Backend, b'.store = b.store → b'.supply = b.supply →
      (call b').1 = (call b).1 ∧ (call b').2.store = (call b).2.store ∧
        (call b').2.supply = (call b).2.supply)
    (provider : ∀ b, (call b).2.provider = b.provider) :
    Agree ContentsAlike (AlikeBut InternalToStore)
      (fun s => ((call s.1).1, (call s.1).2, s.2) : Operation (Backend × Engine) Store.Failure α)
      (fun s => ((call s.1).1, (call s.1).2, s.2)) := by
  intro s s' alike
  obtain ⟨same, store, supply⟩ := result s.1 s'.1 alike.store alike.supply
  refine ⟨.inl same.symm, store, supply, ?_, alike.answers⟩
  dsimp only
  rw [provider, provider]
  exact alike.responses

/-- The components of the desk cannot be told apart but by what fails inside. -/
theorem components_alike : components.Alike ContentsAlike components where
  list := by
    intro s s' alike
    refine ⟨.inl ?_, alike⟩
    rw [components_list, components_list, alike.store]
  create name prompt := agree_stored (·.create name prompt)
    (fun b b' store supply => by
      unfold Backend.create
      rw [store, supply]
      exact ⟨rfl, rfl, rfl⟩)
    fun _ => rfl
  get id := by
    intro s s' alike
    refine ⟨.inl ?_, alike⟩
    rw [components_get, components_get, alike.store]
  rename id name := agree_stored (·.rename id name)
    (fun b b' store supply => by
      unfold Backend.rename
      rw [store, supply]
      exact ⟨rfl, rfl, rfl⟩)
    fun _ => rfl
  complete id query responseId := agree_stored (·.complete id query responseId)
    (fun b b' store supply => by
      unfold Backend.complete
      rw [store, supply]
      exact ⟨rfl, rfl, rfl⟩)
    fun _ => rfl
  ask request := by
    intro s s' alike
    have scripts := alike.responses
    rw [components_ask, components_ask]
    unfold Completion.Provider.complete
    dsimp only
    cases here : s.1.provider.responses with
    | nil =>
      rw [here, List.forall₂_nil_left_iff] at scripts
      rw [scripts]
      exact ⟨.inl rfl, alike.store, alike.supply, .nil, alike.answers⟩
    | cons answer rest =>
      rw [here, List.forall₂_cons_left_iff] at scripts
      obtain ⟨answer', rest', first, others, there⟩ := scripts
      rw [there]
      exact ⟨first, alike.store, alike.supply, others, alike.answers⟩
  submit statement := by
    intro s s' alike
    have scripts := alike.answers
    rw [components_submit, components_submit]
    unfold Engine.submit
    dsimp only
    cases here : s.2.answers with
    | nil =>
      rw [here, List.forall₂_nil_left_iff] at scripts
      rw [scripts]
      exact ⟨.inl rfl, alike.store, alike.supply, alike.responses, .nil⟩
    | cons answer rest =>
      rw [here, List.forall₂_cons_left_iff] at scripts
      obtain ⟨answer', rest', first, others, there⟩ := scripts
      rw [there]
      exact ⟨first, alike.store, alike.supply, alike.responses, others⟩

theorem findsById_components : components.FindsById := by
  intro id s q found
  exact (row?_of_get found).1

/-! ## The service -/

/-- Two desks that are alike answer every request the same, and stay alike. -/
theorem handle_desks {d d' : Desk} (alike : d.Alike d') (r : Request) :
    (d.handle r).1 = (d'.handle r).1 ∧ (d.handle r).2.Alike (d'.handle r).2 := by
  obtain ⟨options, settings, contents⟩ := alike
  obtain ⟨same, left⟩ := handle_alike components_alike d.options d.settings r contents
  rw [handle_eq_components, handle_eq_components, options, settings]
  exact ⟨same, rfl, rfl, left⟩

/-- Internal failures stay internal.  Whatever the components are, two runs that differ only in
    their internal failures answer every request the same, to the last character (what is read of a
    stream afterwards is another matter), and this goes on from request to request; so do two desks
    whose provider and engine differ in their failures to come.  A response of status 400 or above
    says no more than the requester knows, with one exception, or it is the one response for
    internal failures. -/
theorem failures_stay_internal :
    (∀ (σ σ' : Type) (R : σ → σ' → Prop) (c : Components σ) (c' : Components σ'), c.Alike R c' →
      ∀ options settings r s s', R s s' →
        (c.handle options settings r s).1 = (c'.handle options settings r s').1 ∧
          R (c.handle options settings r s).2 (c'.handle options settings r s').2) ∧
    (∀ d d' : Desk, d.Alike d' → ∀ r,
      (d.handle r).1 = (d'.handle r).1 ∧ (d.handle r).2.Alike (d'.handle r).2) ∧
    (∀ (σ : Type) (c : Components σ), c.FindsById → ∀ options settings r s,
      400 ≤ (c.handle options settings r s).1.status →
        Disclosed options r (c.handle options settings r s).1 ∨
          IsShallowPreview options r (c.handle options settings r s).1 ∨
          (c.handle options settings r s).1 = r.sent Refusal.internal.response) ∧
    ∀ (d : Desk) (r : Request), 400 ≤ (d.handle r).1.status →
      Disclosed d.options r (d.handle r).1 ∨ IsShallowPreview d.options r (d.handle r).1 ∨
        (d.handle r).1 = r.sent Refusal.internal.response := by
  refine ⟨?_, ?_, ?_, ?_⟩
  · intro σ σ' R c c' alike options settings r s s' related
    exact handle_alike alike options settings r related
  · intro d d' alike r
    exact handle_desks alike r
  · intro σ c finds options settings r s refused
    exact handle_disclosed finds options settings r s refused
  · intro d r refused
    rw [handle_eq_components] at refused ⊢
    exact handle_disclosed findsById_components d.options d.settings r _ refused

end QueryDesk.Desk

namespace QueryDesk.Service

open QueryDesk.Generation

/-- A desk whose provider is about to fail. -/
def failingDesk (reason : String) : Desk where
  options := .default
  settings := .default
  backend := { waitingBackend with provider := .scripted [.error (.provider reason)] [] }
  engine := .scripted []

/-- The components of the desk, where no record can be read. -/
def brokenComponents (reason : String) : Components (Backend × Engine) :=
  { Desk.components with get := fun _ s => (.error (.io reason), s) }

/-- A request for a record whose id is not one. -/
def misnamedRequest : Request := ⟨.get, "/api/dynamic-queries/sales", [], []⟩

theorem failingDesk_alike (reason reason' : String) :
    (failingDesk reason).Alike (failingDesk reason') :=
  ⟨rfl, rfl, rfl, rfl, .cons (.inr ⟨trivial, trivial⟩) .nil, .nil⟩

theorem brokenComponents_alike (reason reason' : String) :
    (brokenComponents reason).Alike Eq (brokenComponents reason') where
  list := by rintro s _ rfl; exact ⟨.inl rfl, rfl⟩
  create name prompt := by rintro s _ rfl; exact ⟨.inl rfl, rfl⟩
  get id := by rintro s _ rfl; exact ⟨.inr ⟨_, _, rfl, rfl, trivial, trivial⟩, rfl⟩
  rename id name := by rintro s _ rfl; exact ⟨.inl rfl, rfl⟩
  complete id query responseId := by rintro s _ rfl; exact ⟨.inl rfl, rfl⟩
  ask request := by rintro s _ rfl; exact ⟨.inl rfl, rfl⟩
  submit statement := by rintro s _ rfl; exact ⟨.inl rfl, rfl⟩

theorem findsById_brokenComponents (reason : String) : (brokenComponents reason).FindsById := by
  intro id s q found
  cases found

/-- A refusal that is neither internal nor about the preview says what the requester knows. -/
theorem disclosed_of_status {options : Sql.Options} {r : Request} {response : Response}
    (h : Disclosed options r response ∨ IsShallowPreview options r response ∨
      response = r.sent Refusal.internal.response)
    (other : r.action? ≠ some .preview) (status : response.status < 500) :
    Disclosed options r response := by
  rcases h with disclosed | ⟨asks, -, -⟩ | internal
  · exact disclosed
  · exact absurd asks other
  · rw [internal, Request.sent_status] at status
    exact absurd status (Nat.lt_irrefl 500)

/-- What failed does not show, and what was wrong with a request is said to its requester. -/
theorem failingDesk_stays_internal :
    (((failingDesk "quota of tenant A").handle salesGeneration).1.status = 500 ∧
      ((failingDesk "quota of tenant A").handle salesGeneration).1 =
        ((failingDesk "quota of tenant B").handle salesGeneration).1) ∧
    ((brokenComponents "/srv/a").handle .default .default salesGeneration
        (waitingBackend, .scripted [])).1 =
      ((brokenComponents "/srv/b").handle .default .default salesGeneration
        (waitingBackend, .scripted [])).1 ∧
    Disclosed .default misnamedRequest ((brokenComponents "/srv/a").handle .default .default
      misnamedRequest (waitingBackend, .scripted [])).1 ∧
    Disclosed .default misnamedRequest
      ((failingDesk "quota of tenant A").handle misnamedRequest).1 := by
  obtain ⟨components, desks, complaints, refusals⟩ := Desk.failures_stay_internal
  have failed : ((failingDesk "quota of tenant A").handle salesGeneration).1.status = 500 := by
    decide +kernel
  have asks : misnamedRequest.action? = some (.fetch "sales") := by decide +kernel
  have other : misnamedRequest.action? ≠ some .preview := by
    rw [asks]
    decide
  have broken : ((brokenComponents "/srv/a").handle .default .default misnamedRequest
      (waitingBackend, .scripted [])).1.status = 400 := by decide +kernel
  have refused : ((failingDesk "quota of tenant A").handle misnamedRequest).1.status = 400 := by
    decide +kernel
  refine ⟨⟨failed, ?_⟩, ?_, ?_, ?_⟩
  · exact (desks _ _ (failingDesk_alike "quota of tenant A" "quota of tenant B")
      salesGeneration).1
  · exact (components _ _ Eq _ _ (brokenComponents_alike "/srv/a" "/srv/b") .default .default
      salesGeneration _ _ rfl).1
  · have said := complaints _ _ (findsById_brokenComponents "/srv/a") .default .default
      misnamedRequest (waitingBackend, .scripted []) (by rw [broken])
    exact disclosed_of_status said other (by rw [broken]; decide)
  · have said := refusals (failingDesk "quota of tenant A") misnamedRequest (by rw [refused])
    exact disclosed_of_status said other (by rw [refused]; decide)

/-- A desk that allows no nesting. -/
def shallowDesk : Desk := { newDesk [] [] with options := ⟨0, false⟩ }

/-- A request for the preview. -/
def previewRequest : Request := ⟨.get, "/api/dynamic-queries/sql", [], []⟩

theorem action?_previewRequest : previewRequest.action? = some .preview := by
  decide +kernel

/-- The preview shows an error that is not about the request. -/
theorem shallowDesk_not_disclosed :
    (shallowDesk.handle previewRequest).1.status = 400 ∧
      (shallowDesk.handle previewRequest).1.body =
        .text ("\x7b\"error\":\"Bad Request\"," ++
          "\"details\":\"derived tables nested deeper than 0 levels\"\x7d") ∧
      ¬ Disclosed shallowDesk.options previewRequest (shallowDesk.handle previewRequest).1 := by
  have answered : (shallowDesk.handle previewRequest).1 =
      previewRequest.sent previewRefusal.response := by
    rw [Desk.handle_of_action shallowDesk action?_previewRequest, Desk.act, Desk.preview]
    exact congrArg (fun result => previewRequest.sent (sqlResponse result)) (preview_shallow false)
  have status : (previewRequest.sent previewRefusal.response).status = 400 := rfl
  rw [answered]
  refine ⟨status, congrArg Body.text (by decide +kernel), ?_⟩
  rintro (unserved | ⟨refusal, complaint, same⟩)
  · have wrong : previewRequest.unserved.status = 405 := by decide +kernel
    rw [← unserved, status] at wrong
    cases wrong
  · have asked := action?_previewRequest
    cases complaint with
    | id asks names bad =>
      rw [asked, Option.some.injEq] at asks
      subst asks
      cases names
    | notFound =>
      have missing : (previewRequest.sent Refusal.notFound.response).status = 404 := rfl
      rw [← same, status] at missing
      cases missing
    | creation asks | name asks | spec asks | compilation asks | notGenerated asks =>
      rw [asked] at asks
      cases asks

end QueryDesk.Service
