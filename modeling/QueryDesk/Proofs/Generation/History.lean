import QueryDesk.Proofs.Generation.Traffic
import QueryDesk.Proofs.Store.Records
import Mathlib.Data.List.Induction
import Mathlib.Data.List.Nodup

/-!
# What the history says of a record

`replay` rebuilds the records from what happened.  A history is orderly if ids are new when records
are created and if a completion is handed to the store only after it was delivered, for the same
record and by the same request.  In an orderly history every record is accounted for
(`accounted_of_mem_replay`): where its prompt, its name and its SQL come from can be read off.
-/

namespace QueryDesk.Generation

open QueryDesk.Completion QueryDesk.Record QueryDesk.Store

/-! ## Reading a history -/

namespace Happening

/-- The creation of the record with an id. -/
def creation? (id : Uuid) : Happening → Option DynamicQuery
  | .created q => if q.id = id then some q else none
  | _ => none

/-- The name given to the record with an id. -/
def name? (id : Uuid) : Happening → Option String
  | .created q => if q.id = id then some q.name else none
  | .renamed id' name _ => if id' = id then some name else none
  | _ => none

/-- The completion handed to the store for the record with an id, and the request that did. -/
def completion? (id : Uuid) : Happening → Option (Nat × Response)
  | .stored k id' response _ _ => if id' = id then some (k, response) else none
  | _ => none

/-- What a happening does to the records. -/
def act (qs : List DynamicQuery) : Happening → List DynamicQuery
  | .created q => qs ++ [q]
  | .renamed id name now => DynamicQuery.mapId id (·.renamed name now) qs
  | .delivered .. => qs
  | .stored _ id response sql now => DynamicQuery.mapId id (·.completed sql response.id now) qs

end Happening

/-- The records after a history. -/
def replay (history : List Happening) : List DynamicQuery :=
  history.foldl Happening.act []

theorem replay_concat (past : List Happening) (x : Happening) :
    replay (past ++ [x]) = x.act (replay past) := by
  simp [replay]

/-- Histories as requests make them. -/
inductive Orderly : List Happening → Prop
  | nil : Orderly []
  | created {past : List Happening} (id : Uuid) (name prompt : String) (now : Timestamp) :
      Orderly past → (∀ q ∈ replay past, q.id ≠ id) →
      Orderly (past ++ [.created (.fresh id name prompt now)])
  | renamed {past : List Happening} (id : Uuid) (name : String) (now : Timestamp) :
      Orderly past → Orderly (past ++ [.renamed id name now])
  | delivered {past : List Happening} (k : Nat) (id : Uuid) (response : Response) :
      Orderly past → Orderly (past ++ [.delivered k id response])
  | stored {past : List Happening} {k : Nat} {id : Uuid} {response : Response} {sql : String}
      (now : Timestamp) : Orderly past → .delivered k id response ∈ past →
      parseOutput response.text = .ok sql → Orderly (past ++ [.stored k id response sql now])

/-- Where the parts of a record come from.  It was created once, with its prompt and its time of
    creation; its name is the one given last.  It is in progress as long as it has neither SQL nor
    response id, and a complete one has both from the completion that was handed to the store last
    for its id, which had been delivered to the same request for the same id. -/
structure Accounted (history : List Happening) (q : DynamicQuery) : Prop where
  created : ∃ q₀, history.filterMap (Happening.creation? q.id) = [q₀] ∧ q.prompt = q₀.prompt ∧
    q.createdAt = q₀.createdAt
  named : (history.filterMap (Happening.name? q.id)).getLast? = some q.name
  inProgress_iff_query : q.status = .inProgress ↔ q.query = none
  inProgress_iff_responseId : q.status = .inProgress ↔ q.responseId = none
  completed : q.status = .complete → ∃ k c now sql,
    (history.filterMap (Happening.completion? q.id)).getLast? = some (k, c) ∧
    [.delivered k q.id c, .stored k q.id c sql now].Sublist history ∧
    parseOutput c.text = .ok sql ∧ q.query = some sql ∧ q.responseId = some c.id

/-! ## Ids -/

/-- What a change keeps of a record stays what it is in all records. -/
theorem map_mapId {α : Type} {f : DynamicQuery → α} (id : Uuid)
    {change : DynamicQuery → DynamicQuery} (keeps : ∀ q, f (change q) = f q)
    (qs : List DynamicQuery) : (DynamicQuery.mapId id change qs).map f = qs.map f := by
  simp only [DynamicQuery.mapId, List.map_map]
  apply List.map_congr_left
  intro q _
  by_cases same : q.id = id <;> simp [same, keeps]

theorem mapId_ids (id : Uuid) {change : DynamicQuery → DynamicQuery}
    (keeps : ∀ q, (change q).id = q.id) (qs : List DynamicQuery) :
    (DynamicQuery.mapId id change qs).map (·.id) = qs.map (·.id) :=
  map_mapId id keeps qs

/-- Only a creation adds an id, and nothing takes one away. -/
theorem act_ids (qs : List DynamicQuery) (x : Happening) :
    (x.act qs).map (·.id) = qs.map (·.id) ∨
      ∃ q, x = .created q ∧ (x.act qs).map (·.id) = qs.map (·.id) ++ [q.id] := by
  cases x with
  | created q => exact .inr ⟨q, rfl, by simp [Happening.act]⟩
  | renamed id name now =>
    left
    apply mapId_ids
    intro q
    rfl
  | delivered k id response => exact .inl rfl
  | stored k id response sql now =>
    left
    apply mapId_ids
    intro q
    rfl

theorem mem_replay_of_created {history : List Happening} {q : DynamicQuery}
    (created : .created q ∈ history) : q.id ∈ (replay history).map (·.id) := by
  induction history using List.reverseRecOn with
  | nil => cases created
  | append_singleton past x ih =>
    rw [replay_concat]
    have old : q.id ∈ (replay past).map (·.id) → q.id ∈ (x.act (replay past)).map (·.id) := by
      intro member
      rcases act_ids (replay past) x with same | ⟨_, -, longer⟩
      · rw [same]
        exact member
      · rw [longer]
        exact List.mem_append_left _ member
    rcases List.mem_append.1 created with before | now
    · exact old (ih before)
    · rw [List.mem_singleton] at now
      subst now
      simp [Happening.act]

theorem nodup_ids {history : List Happening} (orderly : Orderly history) :
    ((replay history).map (·.id)).Nodup := by
  have same_ids : ∀ {past : List Happening} {x : Happening}, (∀ q, x ≠ .created q) →
      (replay (past ++ [x])).map (·.id) = (replay past).map (·.id) := by
    intro past x other
    rw [replay_concat]
    rcases act_ids (replay past) x with same | ⟨q, hx, -⟩
    · exact same
    · exact absurd hx (other q)
  induction orderly with
  | nil => exact List.nodup_nil
  | @created past id name prompt now _ new ih =>
    rw [replay_concat]
    simp only [Happening.act, List.map_append, List.map_cons, List.map_nil]
    rw [List.nodup_append]
    refine ⟨ih, by simp, ?_⟩
    intro a member b hb
    obtain ⟨q, hq, rfl⟩ := List.mem_map.1 member
    rw [List.mem_singleton.1 hb]
    exact new q hq
  | renamed id name now _ ih => rwa [same_ids (by simp)]
  | delivered k id response _ ih => rwa [same_ids (by simp)]
  | stored now _ _ _ ih => rwa [same_ids (by simp)]

/-! ## One more happening -/

/-- What stays of a record: its id, its prompt and its time of creation, and that it is
    complete. -/
structure Continues (q q' : DynamicQuery) : Prop where
  id : q'.id = q.id
  prompt : q'.prompt = q.prompt
  createdAt : q'.createdAt = q.createdAt
  complete : q.status = .complete → q'.status = .complete

theorem Continues.refl (q : DynamicQuery) : Continues q q := ⟨rfl, rfl, rfl, fun h => h⟩

theorem Continues.trans {q q' q'' : DynamicQuery} (h : Continues q q') (h' : Continues q' q'') :
    Continues q q'' :=
  ⟨h'.id.trans h.id, h'.prompt.trans h.prompt, h'.createdAt.trans h.createdAt,
    fun complete => h'.complete (h.complete complete)⟩

theorem continues_mapId {id : Uuid} {change : DynamicQuery → DynamicQuery}
    (keeps : ∀ q, Continues q (change q)) {qs : List DynamicQuery} {q : DynamicQuery}
    (member : q ∈ qs) : ∃ q' ∈ DynamicQuery.mapId id change qs, Continues q q' := by
  refine ⟨_, List.mem_map_of_mem member, ?_⟩
  by_cases same : q.id = id
  · rw [if_pos same]
    exact keeps q
  · rw [if_neg same]
    exact .refl q

theorem continues_act {qs : List DynamicQuery} {q : DynamicQuery} (member : q ∈ qs)
    (x : Happening) : ∃ q' ∈ x.act qs, Continues q q' := by
  cases x with
  | created q₀ => exact ⟨q, List.mem_append_left _ member, .refl q⟩
  | renamed id name now =>
    refine continues_mapId ?_ member
    intro q
    exact ⟨rfl, rfl, rfl, fun h => h⟩
  | delivered k id response => exact ⟨q, member, .refl q⟩
  | stored k id response sql now =>
    refine continues_mapId ?_ member
    intro q
    exact ⟨rfl, rfl, rfl, fun _ => rfl⟩

/-- Records stay, whatever happens. -/
theorem continues_of_mem_replay {past : List Happening} {q : DynamicQuery}
    (member : q ∈ replay past) (more : List Happening) :
    ∃ q' ∈ replay (past ++ more), Continues q q' := by
  induction more using List.reverseRecOn with
  | nil => exact ⟨q, by simpa using member, .refl q⟩
  | append_singleton more x ih =>
    obtain ⟨q', member', h⟩ := ih
    obtain ⟨q'', member'', h'⟩ := continues_act member' x
    refine ⟨q'', ?_, h.trans h'⟩
    rwa [← List.append_assoc, replay_concat]

/-- A happening that concerns other records leaves a record as it is accounted for. -/
theorem Accounted.concat_other {past : List Happening} {q : DynamicQuery} {x : Happening}
    (h : Accounted past q) (noCreation : x.creation? q.id = none) (noName : x.name? q.id = none)
    (noCompletion : x.completion? q.id = none) : Accounted (past ++ [x]) q where
  created := by simpa [noCreation] using h.created
  named := by simpa [noName] using h.named
  inProgress_iff_query := h.inProgress_iff_query
  inProgress_iff_responseId := h.inProgress_iff_responseId
  completed := by
    intro complete
    obtain ⟨k, c, now, sql, last, order, parts⟩ := h.completed complete
    refine ⟨k, c, now, sql, ?_, order.trans (List.sublist_append_left _ _), parts⟩
    simpa [noCompletion] using last

theorem accounted_fresh {past : List Happening} {id : Uuid}
    (new : ∀ q ∈ replay past, q.id ≠ id) (name prompt : String) (now : Timestamp) :
    Accounted (past ++ [.created (.fresh id name prompt now)]) (.fresh id name prompt now) where
  created := by
    have none_before : past.filterMap (Happening.creation? id) = [] := by
      rw [List.filterMap_eq_nil_iff]
      intro x member
      cases x with
      | created q =>
        obtain ⟨q', hq', hid⟩ := List.mem_map.1 (mem_replay_of_created member)
        have : q.id ≠ id := hid ▸ new q' hq'
        simp [Happening.creation?, this]
      | _ => rfl
    refine ⟨.fresh id name prompt now, ?_, rfl, rfl⟩
    simp [none_before, Happening.creation?, DynamicQuery.fresh]
  named := by simp [Happening.name?, DynamicQuery.fresh]
  inProgress_iff_query := by simp [DynamicQuery.fresh]
  inProgress_iff_responseId := by simp [DynamicQuery.fresh]
  completed := by simp [DynamicQuery.fresh]

theorem Accounted.concat_renamed {past : List Happening} {q : DynamicQuery} (h : Accounted past q)
    (name : String) (now : Timestamp) :
    Accounted (past ++ [.renamed q.id name now]) (q.renamed name now) where
  created := by
    simpa [List.filterMap_cons, Happening.creation?, DynamicQuery.renamed] using h.created
  named := by simp [Happening.name?, DynamicQuery.renamed]
  inProgress_iff_query := h.inProgress_iff_query
  inProgress_iff_responseId := h.inProgress_iff_responseId
  completed := by
    intro complete
    obtain ⟨k, c, at_, sql, last, order, parts⟩ := h.completed complete
    refine ⟨k, c, at_, sql, ?_, order.trans (List.sublist_append_left _ _), parts⟩
    simpa [Happening.completion?, DynamicQuery.renamed] using last

theorem Accounted.concat_stored {past : List Happening} {q : DynamicQuery} (h : Accounted past q)
    {k : Nat} {c : Response} {sql : String} (delivered : .delivered k q.id c ∈ past)
    (reads : parseOutput c.text = .ok sql) (now : Timestamp) :
    Accounted (past ++ [.stored k q.id c sql now]) (q.completed sql c.id now) where
  created := by
    simpa [List.filterMap_cons, Happening.creation?, DynamicQuery.completed] using h.created
  named := by simpa [Happening.name?, DynamicQuery.completed] using h.named
  inProgress_iff_query := by simp [DynamicQuery.completed]
  inProgress_iff_responseId := by simp [DynamicQuery.completed]
  completed := by
    intro _
    refine ⟨k, c, now, sql, ?_, ?_, reads, rfl, rfl⟩
    · simp [Happening.completion?, DynamicQuery.completed]
    · have before : [Happening.delivered k q.id c].Sublist past := by simpa using delivered
      exact before.append (List.Sublist.refl [Happening.stored k q.id c sql now])

theorem mem_mapId {id : Uuid} {change : DynamicQuery → DynamicQuery} {qs : List DynamicQuery}
    {q : DynamicQuery} (member : q ∈ DynamicQuery.mapId id change qs) :
    (∃ q' ∈ qs, q'.id = id ∧ q = change q') ∨ (q ∈ qs ∧ q.id ≠ id) := by
  obtain ⟨q', member', hq⟩ := List.mem_map.1 member
  by_cases same : q'.id = id
  · rw [if_pos same] at hq
    exact .inl ⟨q', member', same, hq.symm⟩
  · rw [if_neg same] at hq
    subst hq
    exact .inr ⟨member', same⟩

/-- In an orderly history every record is accounted for. -/
theorem accounted_of_mem_replay {history : List Happening} (orderly : Orderly history) :
    ∀ q ∈ replay history, Accounted history q := by
  induction orderly with
  | nil => simp [replay]
  | @created past id name prompt now _ new ih =>
    intro q member
    rw [replay_concat] at member
    rcases List.mem_append.1 member with old | fresh
    · have different : ¬ id = q.id := fun same => new q old same.symm
      exact (ih q old).concat_other (by simp [Happening.creation?, DynamicQuery.fresh, different])
        (by simp [Happening.name?, DynamicQuery.fresh, different]) rfl
    · rw [List.mem_singleton.1 fresh]
      exact accounted_fresh new name prompt now
  | @renamed past id name now _ ih =>
    intro q member
    rw [replay_concat] at member
    rcases mem_mapId member with ⟨q', member', rfl, rfl⟩ | ⟨old, different⟩
    · exact (ih q' member').concat_renamed name now
    · exact (ih q old).concat_other rfl (by simp [Happening.name?, Ne.symm different]) rfl
  | @delivered past k id response _ ih =>
    intro q member
    rw [replay_concat] at member
    exact (ih q member).concat_other rfl rfl rfl
  | @stored past k id response sql now _ delivered reads ih =>
    intro q member
    rw [replay_concat] at member
    rcases mem_mapId member with ⟨q', member', rfl, rfl⟩ | ⟨old, different⟩
    · exact (ih q' member').concat_stored delivered reads now
    · exact (ih q old).concat_other rfl rfl
        (by simp [Happening.completion?, Ne.symm different])

end QueryDesk.Generation
