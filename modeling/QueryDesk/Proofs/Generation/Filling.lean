import QueryDesk.Proofs.Generation.Lifecycle
import QueryDesk.Proofs.Store.Catalog

/-!
# What requests write is not blank

A request that names a record or gives it a prompt is `Filled` if the texts are more than white
space.  If all requests are, and the clock tells moments of the years 0 to 9999, then everything
that happens is clean (`turn_clean`), and in a clean history every record has a name and a prompt,
its SQL is not blank, and its times are those that its row is read back with
(`filled_of_mem_replay`).
-/

namespace QueryDesk.Generation

open QueryDesk.Completion QueryDesk.Record QueryDesk.Store QueryDesk.Text

/-! ## Records and happenings without blank texts -/

/-- A record whose texts are more than white space, apart from SQL that it does not have. -/
structure Filled (q : DynamicQuery) : Prop where
  name : isBlankText q.name = false
  prompt : isBlankText q.prompt = false
  query : ∀ sql, q.query = some sql → isBlankText sql = false

/-- A request whose texts are more than white space. -/
def Demand.Filled : Demand → Prop
  | .create name prompt => isBlankText name = false ∧ isBlankText prompt = false
  | .rename _ name => isBlankText name = false
  | _ => True

/-- What happens when a request without blank texts is served at a time that a row keeps. -/
def Happening.Clean : Happening → Prop
  | .created q => Generation.Filled q ∧ q.Kept
  | .renamed _ name now => isBlankText name = false ∧ now.Kept
  | .delivered .. => True
  | .stored _ _ _ sql now => isBlankText sql = false ∧ now.Kept

theorem Filled.renamed {q : DynamicQuery} (h : Filled q) {name : String}
    (filled : isBlankText name = false) (now : Timestamp) : Filled (q.renamed name now) :=
  ⟨filled, h.prompt, h.query⟩

theorem Filled.completed {q : DynamicQuery} (h : Filled q) {sql : String}
    (filled : isBlankText sql = false) (responseId : String) (now : Timestamp) :
    Filled (q.completed sql responseId now) where
  name := h.name
  prompt := h.prompt
  query := by
    intro sql' same
    rw [← Option.some.inj same]
    exact filled

/-- One clean happening. -/
theorem filled_act {qs : List DynamicQuery} (h : ∀ q ∈ qs, Filled q ∧ q.Kept) {x : Happening}
    (clean : x.Clean) : ∀ q ∈ x.act qs, Filled q ∧ q.Kept := by
  intro q member
  cases x with
  | created q' =>
    rcases List.mem_append.1 member with old | new
    · exact h q old
    · rw [List.mem_singleton.1 new]
      exact clean
  | renamed id name now =>
    rcases mem_mapId member with ⟨q', old, -, rfl⟩ | ⟨old, -⟩
    · obtain ⟨filled, kept⟩ := h q' old
      exact ⟨filled.renamed clean.1 now, kept.renamed clean.2 name⟩
    · exact h q old
  | delivered k id response => exact h q member
  | stored k id response sql now =>
    rcases mem_mapId member with ⟨q', old, -, rfl⟩ | ⟨old, -⟩
    · obtain ⟨filled, kept⟩ := h q' old
      exact ⟨filled.completed clean.1 response.id now, kept.completed clean.2 sql response.id⟩
    · exact h q old

/-- After a clean history no record has a blank text, and every row is read back as its record. -/
theorem filled_of_mem_replay {history : List Happening} (clean : ∀ x ∈ history, x.Clean) :
    ∀ q ∈ replay history, Filled q ∧ q.Kept := by
  induction history using List.reverseRecOn with
  | nil => exact List.forall_mem_nil _
  | append_singleton past x ih =>
    rw [List.forall_mem_append] at clean
    rw [replay_concat]
    exact filled_act (ih clean.1) (clean.2 x (List.mem_singleton_self x))

/-! ## Turns are clean -/

section Turn

variable {b : Backend}

/-- SQL is taken from an output only if it is more than white space. -/
theorem filled_of_parseOutput {output sql : String} (h : parseOutput output = .ok sql) :
    isBlankText sql = false := by
  unfold parseOutput at h
  split at h
  · cases h
  · split at h
    · cases h
    · rename_i filled
      cases h
      exact Bool.eq_false_iff.2 filled

theorem settled_clean (now : b.supply.takeTime.1.Kept) (k : Nat) (id : Uuid)
    (response : Response) : ∀ x ∈ settled k id response b, x.Clean := by
  intro x member
  unfold settled at member
  cases reads : parseOutput response.text with
  | error fault =>
    rw [reads] at member
    cases member
  | ok sql =>
    rw [reads] at member
    rw [List.mem_singleton.1 member]
    exact ⟨filled_of_parseOutput reads, now⟩

/-- A record that is created is the one that was asked for. -/
theorem create_eq_fresh {name prompt : String} {q : DynamicQuery}
    (h : (b.create name prompt).1 = .ok q) :
    q = .fresh b.supply.takeId.1 name prompt b.supply.takeTime.1 := by
  unfold Backend.create Store.create at h
  dsimp only at h
  split at h
  · cases h
  · cases h
    rfl

/-- A turn of a request without blank texts is clean. -/
theorem turn_clean (now : b.supply.takeTime.1.Kept) (settings : Settings) (k : Nat) {t : Task}
    (filled : t.demand.Filled) : ∀ x ∈ (t.turn settings k b).2.2, x.Clean := by
  rcases t with ⟨demand, stage⟩
  cases demand with
  | create name prompt =>
    cases stage with
    | waiting =>
      simp only [Task.turn]
      rcases made : b.create name prompt with ⟨result, b'⟩
      cases result with
      | error failure => exact List.forall_mem_nil _
      | ok q =>
        have fresh : q = .fresh b.supply.takeId.1 name prompt b.supply.takeTime.1 := by
          apply create_eq_fresh
          rw [made]
        intro x member
        rw [List.mem_singleton.1 member, fresh]
        refine ⟨⟨filled.1, filled.2, ?_⟩, .fresh now _ _ _⟩
        intro sql none
        cases none
    | _ => exact List.forall_mem_nil _
  | rename id name =>
    cases stage with
    | waiting =>
      intro x member
      rw [List.mem_singleton.1 member]
      exact ⟨filled, now⟩
    | _ => exact List.forall_mem_nil _
  | generate id =>
    cases stage with
    | waiting =>
      simp only [Task.turn]
      cases b.load id <;> exact List.forall_mem_nil _
    | asking request =>
      simp only [Task.turn]
      rcases b.ask request with ⟨answer, b'⟩
      cases answer with
      | error failure => exact List.forall_mem_nil _
      | ok response =>
        intro x member
        rw [List.mem_singleton.1 member]
        exact trivial
    | settling response => exact settled_clean now k id response
    | _ => exact List.forall_mem_nil _
  | stream id =>
    cases stage with
    | waiting =>
      simp only [Task.turn]
      cases b.stream settings id <;> exact List.forall_mem_nil _
    | relaying relay =>
      simp only [Task.turn]
      cases relay.response? with
      | none => exact List.forall_mem_nil _
      | some response =>
        rw [List.forall_mem_cons]
        exact ⟨trivial, settled_clean now k relay.id response⟩
    | _ => exact List.forall_mem_nil _

/-! ## Turns leave the clock -/

theorem settle_timeAt (id : Uuid) (response : Response) (b : Backend) :
    (b.settle id response).2.supply.timeAt = b.supply.timeAt := by
  unfold Backend.settle
  cases parseOutput response.text with
  | error fault => rfl
  | ok sql =>
    dsimp only
    split <;> rfl

theorem handleItem_timeAt (emitErrors : Bool) (id : Uuid) (item : Item) (b : Backend) :
    (handleItem emitErrors id item b).2.2.supply.timeAt = b.supply.timeAt := by
  rcases item with failure | ⟨type | response⟩
  · rfl
  · rfl
  · have settled := settle_timeAt id response { b with provider := b.provider.handOut }
    simp only [handleItem]
    rw [← settled]
    split <;> simp_all

theorem step_timeAt (r : Relay) (b : Backend) :
    (r.step b).2.2.supply.timeAt = b.supply.timeAt := by
  rcases r with ⟨id, request, emitErrors, phase⟩
  cases phase with
  | unopened => rfl
  | ended => rfl
  | connected =>
    simp only [Relay.step]
    split <;> rfl
  | reading items =>
    cases items with
    | nil => rfl
    | cons item rest =>
      have handled := handleItem_timeAt emitErrors id item b
      simp only [Relay.step]
      rw [← handled]
      split <;> simp_all

theorem turn_timeAt (settings : Settings) (k : Nat) (t : Task) (b : Backend) :
    (t.turn settings k b).2.1.supply.timeAt = b.supply.timeAt := by
  rcases t with ⟨demand, stage⟩
  cases demand with
  | create name prompt =>
    cases stage with
    | waiting =>
      have kept : (b.create name prompt).2.supply.timeAt = b.supply.timeAt := rfl
      simp only [Task.turn]
      rw [← kept]
      split <;> simp_all
    | _ => rfl
  | rename id name => cases stage <;> rfl
  | generate id =>
    cases stage with
    | waiting =>
      simp only [Task.turn]
      cases b.load id <;> rfl
    | asking request =>
      have kept : (b.ask request).2.supply.timeAt = b.supply.timeAt := by
        simp only [Backend.ask]
        split <;> rfl
      simp only [Task.turn]
      rw [← kept]
      split <;> simp_all
    | settling response => exact settle_timeAt id response b
    | _ => rfl
  | stream id =>
    cases stage with
    | waiting =>
      simp only [Task.turn]
      cases b.stream settings id <;> rfl
    | relaying relay => exact step_timeAt relay b
    | _ => rfl

end Turn

end QueryDesk.Generation
