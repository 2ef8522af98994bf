import Mathlib.Data.Set.Function
import QueryDesk.Proofs.Generation.History
import QueryDesk.Proofs.Record.Timestamp
import QueryDesk.Proofs.Store.Completion

/-!
# The store is a map of records

Beside the table of texts stands a catalog: a map from ids to records, which are kept as they are.
Both take new ids and the time from the same supply.  On a new store, any calls of the one answer
what they answer of the other, whatever texts they carry, and afterwards every id is read as what
the catalog has for it (`answers_of_catalog`).  So a row loses nothing of its record, and no row
that the store has written fails to be read.

The ids that the supply hands out must be new and its clock must tell moments of the years 0
to 9999.
-/

namespace QueryDesk.Store

open QueryDesk.Generation QueryDesk.Record

/-! ## Calls -/

/-- A call of a store of records. -/
inductive Call where
  | create (name prompt : String)
  | get (id : Uuid)
  | rename (id : Uuid) (name : String)
  | complete (id : Uuid) (query responseId : String)

/-- Whether a call takes a new id. -/
def Call.creates : Call → Bool
  | .create _ _ => true
  | _ => false

/-- The number of new ids that calls take. -/
def creations (calls : List Call) : Nat :=
  calls.countP Call.creates

/-- What a call answers: a record, none, or a failure. -/
abbrev Answer := Except Failure (Option DynamicQuery)

/-- The answers to some calls, and what is left after them. -/
def answers {σ : Type} (call : σ → Call → Answer × σ) (s : σ) : List Call → List Answer × σ
  | [] => ([], s)
  | c :: rest =>
    let (answer, s) := call s c
    let (others, s) := answers call s rest
    (answer :: others, s)

/-- A call of the store behind generations. -/
def tableCall (b : Backend) : Call → Answer × Backend
  | .create name prompt => ((b.create name prompt).1.map some, (b.create name prompt).2)
  | .get id => (b.store.get id, b)
  | .rename id name => ((b.rename id name).1.map some, (b.rename id name).2)
  | .complete id query responseId =>
    ((b.complete id query responseId).1.map some, (b.complete id query responseId).2)

/-! ## The catalog -/

/-- A map of records, and the ids and times to come. -/
structure Catalog where
  records : Uuid → Option DynamicQuery
  supply : Supply

namespace Catalog

/-- A catalog without records. -/
def empty (supply : Supply) : Catalog := ⟨fun _ => none, supply⟩

/-- The catalog with a record under its id. -/
def put (c : Catalog) (q : DynamicQuery) : Catalog :=
  { c with records := Function.update c.records q.id (some q) }

/-- Changes the record with an id, and answers it as it is then. -/
def change (c : Catalog) (id : Uuid) (f : DynamicQuery → DynamicQuery) : Answer × Catalog :=
  match c.records id with
  | none => (.error (.notFound id), c)
  | some q => (.ok (some (f q)), c.put (f q))

/-- A call of the catalog. -/
def call (c : Catalog) : Call → Answer × Catalog
  | .create name prompt =>
    let (id, supply) := c.supply.takeId
    let (now, supply) := supply.takeTime
    let q : DynamicQuery := ⟨id, name, prompt, none, none, .inProgress, now, now⟩
    (.ok (some q), { c with supply := supply }.put q)
  | .get id => (.ok (c.records id), c)
  | .rename id name =>
    let (now, supply) := c.supply.takeTime
    { c with supply := supply }.change id (·.renamed name now)
  | .complete id query responseId =>
    let (now, supply) := c.supply.takeTime
    { c with supply := supply }.change id (·.completed query responseId now)

end Catalog

end QueryDesk.Store

namespace QueryDesk.Record.DynamicQuery

open QueryDesk.Store

/-! ## Rows that lose nothing -/

/-- A record whose times are kept by their texts. -/
structure Kept (q : DynamicQuery) : Prop where
  createdAt : q.createdAt.Kept
  updatedAt : q.updatedAt.Kept

/-- A row is read back as its record. -/
theorem Kept.read {q : DynamicQuery} (h : q.Kept) : (Row.ofRecord q).read = .ok q := by
  have status : Status.parse? q.status.text = some q.status := by cases q.status <;> rfl
  unfold Row.read Row.ofRecord
  simp only [Outcome.bind_eq_ok, Row.orFail_eq_ok]
  exact ⟨_, rfl, _, Uuid.parse?_text q.id, _, status, _, h.createdAt, _, h.updatedAt, rfl⟩

theorem Kept.readRow {q : DynamicQuery} (h : q.Kept) :
    Store.readRow (Row.ofRecord q) = .ok q := by
  rw [Store.readRow, h.read]

theorem Kept.fresh {now : Timestamp} (kept : now.Kept) (id : Uuid) (name prompt : String) :
    (fresh id name prompt now).Kept :=
  ⟨kept, kept⟩

theorem Kept.renamed {q : DynamicQuery} (h : q.Kept) {now : Timestamp} (kept : now.Kept)
    (name : String) : (q.renamed name now).Kept :=
  ⟨h.createdAt, kept⟩

theorem Kept.completed {q : DynamicQuery} (h : q.Kept) {now : Timestamp} (kept : now.Kept)
    (query responseId : String) : (q.completed query responseId now).Kept :=
  ⟨h.createdAt, kept⟩

/-- Of the records with an id the first is found, changed if it is this id that is changed. -/
theorem find?_mapId (id id' : Uuid) {change : DynamicQuery → DynamicQuery}
    (keeps : ∀ q, (change q).id = q.id) (qs : List DynamicQuery) :
    (mapId id change qs).find? (·.id = id') =
      if id' = id then (qs.find? (·.id = id')).map change else qs.find? (·.id = id') := by
  induction qs with
  | nil => simp [mapId]
  | cons q qs ih =>
    simp only [mapId, List.map_cons, List.find?_cons] at ih ⊢
    by_cases here : q.id = id'
    · by_cases changed : id' = id
      · subst changed
        simp [here, keeps]
      · have other : q.id ≠ id := fun same => changed (here.symm.trans same)
        simp [here, changed]
    · have passed : (if q.id = id then change q else q).id ≠ id' := by
        split
        · rwa [keeps]
        · exact here
      simp only [here, passed, decide_false]
      exact ih

/-- A record with a new id at the end is found under it, and nothing else changes. -/
theorem find?_concat_new {qs : List DynamicQuery} {q : DynamicQuery}
    (unused : ∀ q' ∈ qs, q'.id ≠ q.id) (id : Uuid) :
    (qs ++ [q]).find? (·.id = id) =
      Function.update (fun id => qs.find? (·.id = id)) q.id (some q) id := by
  rw [List.find?_append]
  by_cases here : id = q.id
  · subst here
    have absent : qs.find? (·.id = q.id) = none := by simpa using unused
    rw [absent, Function.update_self]
    simp
  · have other : ¬ q.id = id := Ne.symm here
    rw [Function.update_of_ne here]
    simp [other]

end QueryDesk.Record.DynamicQuery

namespace QueryDesk.Store

open QueryDesk.Generation QueryDesk.Record

/-! ## Calls on a table of kept records -/

section Table

variable {s : Store} {qs : List DynamicQuery}

theorem get_of_holds (h : s.Holds qs) (kept : ∀ q ∈ qs, q.Kept) (id : Uuid) :
    s.get id = .ok (qs.find? (·.id = id)) := by
  rw [get, row?_of_holds h]
  cases found : qs.find? (·.id = id) with
  | none => rfl
  | some q =>
    have read := (kept q (List.mem_of_find?_eq_some found)).readRow
    simp only [Option.map_some, read]
    rfl

/-- An update answers the record as it is then. -/
theorem update_of_holds (h : s.Holds qs) (id : Uuid) {change : Row → Row}
    {change' : DynamicQuery → DynamicQuery}
    (agree : ∀ q, change (Row.ofRecord q) = Row.ofRecord (change' q))
    (keeps : ∀ q, (change' q).id = q.id) (kept : ∀ q ∈ qs, (change' q).Kept) :
    (s.update id change).1 =
      match qs.find? (·.id = id) with
      | none => .error (.notFound id)
      | some q => .ok (change' q) := by
  have changed := row?_of_holds (updateRows_holds h id agree) id
  rw [DynamicQuery.find?_mapId id id keeps, if_pos rfl] at changed
  rw [update, changed]
  cases found : qs.find? (·.id = id) with
  | none => rfl
  | some q => exact (kept q (List.mem_of_find?_eq_some found)).readRow

end Table

/-! ## The table and the catalog -/

/-- The catalog has what the table has rows for.  A new id is one that no record has. -/
structure Represents (b : Backend) (c : Catalog) : Prop where
  rows : ∃ qs : List DynamicQuery, b.store.Holds qs ∧ (qs.map (·.id)).Nodup ∧
    (∀ q ∈ qs, q.Kept) ∧ (∀ q ∈ qs, ∃ n < b.supply.ids, q.id = b.supply.idAt n) ∧
    ∀ id, c.records id = qs.find? (·.id = id)
  supply : c.supply = b.supply

theorem represents_empty {b : Backend} (new : b.store = Store.empty) :
    Represents b (Catalog.empty b.supply) where
  rows := ⟨[], by rw [new]; exact holds_empty, List.nodup_nil, by simp, by simp, fun _ => rfl⟩
  supply := rfl

/-- A record whose id no row has is added as the last row. -/
theorem create_of_unused {b : Backend} {qs : List DynamicQuery} (hold : b.store.Holds qs)
    (unused : ∀ q ∈ qs, q.id ≠ b.supply.takeId.1) (name prompt : String) :
    let q := DynamicQuery.fresh b.supply.takeId.1 name prompt b.supply.takeTime.1
    ∃ s', b.create name prompt =
        (.ok q, { b with store := s', supply := b.supply.takeId.2.takeTime.2 }) ∧
      s'.Holds (qs ++ [q]) := by
  rcases create_cases hold b.supply.takeId.1 b.supply.takeId.2.takeTime.1 name prompt with
    ⟨⟨q, member, same⟩, -⟩ | ⟨-, s', made, hold'⟩
  · exact absurd same (unused q member)
  · refine ⟨s', ?_, hold'⟩
    rw [Backend.create]
    dsimp only
    rw [made]
    rfl

/-- A new record is added to both. -/
theorem represents_create {b : Backend} {c : Catalog} (h : Represents b c)
    (new : ∀ n < b.supply.ids, b.supply.idAt n ≠ b.supply.idAt b.supply.ids)
    (clock : ∀ n, (b.supply.timeAt n).Civil) (name prompt : String) :
    (tableCall b (.create name prompt)).1 = (c.call (.create name prompt)).1 ∧
      Represents (tableCall b (.create name prompt)).2 (c.call (.create name prompt)).2 := by
  obtain ⟨⟨qs, hold, nodup, kept, taken, found⟩, supply⟩ := h
  have unused : ∀ q ∈ qs, q.id ≠ b.supply.takeId.1 := by
    intro q member same
    obtain ⟨n, before, hid⟩ := taken q member
    exact new n before (hid.symm.trans same)
  have keptNow : b.supply.takeTime.1.Kept := (clock b.supply.ticks).kept_truncated
  obtain ⟨s', result, hold'⟩ := create_of_unused hold unused name prompt
  rw [tableCall, result, Catalog.call, supply]
  refine ⟨rfl, ⟨_, hold', ?_, ?_, ?_, ?_⟩, rfl⟩
  · rw [List.map_append, List.map_singleton, List.nodup_append]
    refine ⟨nodup, List.nodup_singleton _, ?_⟩
    intro id member id' last
    obtain ⟨q, hq, rfl⟩ := List.mem_map.1 member
    rw [List.mem_singleton.1 last]
    exact unused q hq
  · rw [List.forall_mem_append]
    exact ⟨kept, List.forall_mem_singleton.2 (.fresh keptNow _ _ _)⟩
  · rw [List.forall_mem_append]
    refine ⟨?_, List.forall_mem_singleton.2 ⟨b.supply.ids, Nat.lt_succ_self _, rfl⟩⟩
    intro q old
    obtain ⟨n, before, hid⟩ := taken q old
    exact ⟨n, Nat.lt_succ_of_lt before, hid⟩
  · intro id
    rw [DynamicQuery.find?_concat_new unused]
    exact congrArg (fun records => Function.update records _ _ id) (funext found)

/-- A change of the rows with an id is a change of the record with it. -/
theorem represents_update {b : Backend} {c : Catalog} (h : Represents b c) (id : Uuid)
    {change : Row → Row} (change' : DynamicQuery → DynamicQuery) {supply : Supply}
    (agree : ∀ q, change (Row.ofRecord q) = Row.ofRecord (change' q))
    (keeps : ∀ q, (change' q).id = q.id) (kept' : ∀ q : DynamicQuery, q.Kept → (change' q).Kept)
    (ids : supply.ids = b.supply.ids) (idAt : supply.idAt = b.supply.idAt) :
    (b.store.update id change).1.map some = ({ c with supply := supply }.change id change').1 ∧
      Represents { b with store := (b.store.update id change).2, supply := supply }
        ({ c with supply := supply }.change id change').2 := by
  obtain ⟨⟨qs, hold, nodup, kept, taken, found⟩, -⟩ := h
  have answer := update_of_holds hold id agree keeps fun q member => kept' q (kept q member)
  have hold' : (b.store.update id change).2.Holds (DynamicQuery.mapId id change' qs) := by
    rw [update_snd]
    exact updateRows_holds hold id agree
  have nodup' : ((DynamicQuery.mapId id change' qs).map (·.id)).Nodup := by
    rwa [mapId_ids id keeps]
  have keptAll : ∀ q ∈ DynamicQuery.mapId id change' qs, q.Kept := by
    intro q member
    rcases mem_mapId member with ⟨q', member', -, rfl⟩ | ⟨old, -⟩
    · exact kept' q' (kept q' member')
    · exact kept q old
  have takenAll : ∀ q ∈ DynamicQuery.mapId id change' qs,
      ∃ n < supply.ids, q.id = supply.idAt n := by
    intro q member
    rw [ids, idAt]
    rcases mem_mapId member with ⟨q', member', -, rfl⟩ | ⟨old, -⟩
    · rw [keeps]
      exact taken q' member'
    · exact taken q old
  rw [answer, Catalog.change]
  dsimp only
  rw [found id]
  cases here : qs.find? (·.id = id) with
  | none =>
    refine ⟨rfl, ⟨_, hold', nodup', keptAll, takenAll, ?_⟩, rfl⟩
    intro id'
    rw [DynamicQuery.find?_mapId id id' keeps]
    by_cases same : id' = id
    · subst same
      simp [found, here]
    · simp [found, same]
  | some q =>
    have hid : q.id = id := by simpa using List.find?_some here
    refine ⟨rfl, ⟨_, hold', nodup', keptAll, takenAll, ?_⟩, rfl⟩
    intro id'
    rw [DynamicQuery.find?_mapId id id' keeps]
    by_cases same : id' = id
    · subst same
      simp [Catalog.put, keeps, hid, here]
    · simp [Catalog.put, keeps, hid, found, same]

/-- One call: the answers are equal, and the catalog still has what the table has. -/
theorem represents_call {b : Backend} {c : Catalog} (h : Represents b c) (x : Call)
    (new : x.creates = true → ∀ n < b.supply.ids, b.supply.idAt n ≠ b.supply.idAt b.supply.ids)
    (clock : ∀ n, (b.supply.timeAt n).Civil) :
    (tableCall b x).1 = (c.call x).1 ∧ Represents (tableCall b x).2 (c.call x).2 := by
  have keptNow : b.supply.takeTime.1.Kept := (clock b.supply.ticks).kept_truncated
  cases x with
  | create name prompt => exact represents_create h (new rfl) clock name prompt
  | get id =>
    refine ⟨?_, h⟩
    obtain ⟨⟨qs, hold, -, kept, -, found⟩, -⟩ := h
    rw [tableCall, Catalog.call, get_of_holds hold kept, found]
  | rename id name =>
    rw [Catalog.call, h.supply]
    exact represents_update h id (·.renamed name b.supply.takeTime.1) (fun _ => rfl) (fun _ => rfl)
      (fun _ kept => kept.renamed keptNow name) rfl rfl
  | complete id query responseId =>
    rw [Catalog.call, h.supply]
    exact represents_update h id (·.completed query responseId b.supply.takeTime.1) (fun _ => rfl)
      (fun _ => rfl) (fun _ kept => kept.completed keptNow query responseId) rfl rfl

/-- A call takes at most one id, and does not change what the supply holds. -/
theorem tableCall_supply (b : Backend) (x : Call) :
    (tableCall b x).2.supply.ids = b.supply.ids + creations [x] ∧
      (tableCall b x).2.supply.idAt = b.supply.idAt ∧
      (tableCall b x).2.supply.timeAt = b.supply.timeAt := by
  cases x with
  | create name prompt => exact ⟨rfl, rfl, rfl⟩
  | get id => exact ⟨rfl, rfl, rfl⟩
  | rename id name => exact ⟨rfl, rfl, rfl⟩
  | complete id query responseId => exact ⟨rfl, rfl, rfl⟩

/-- Any number of calls: the answers are equal, and the catalog still has what the table has. -/
theorem represents_answers {b : Backend} {c : Catalog} (h : Represents b c) (calls : List Call)
    (fresh : Set.InjOn b.supply.idAt (Set.Iio (b.supply.ids + creations calls)))
    (clock : ∀ n, (b.supply.timeAt n).Civil) :
    (answers tableCall b calls).1 = (answers Catalog.call c calls).1 ∧
      Represents (answers tableCall b calls).2 (answers Catalog.call c calls).2 := by
  induction calls generalizing b c with
  | nil => exact ⟨rfl, h⟩
  | cons x rest ih =>
    have count : creations (x :: rest) = creations [x] + creations rest := by
      rw [creations, creations, creations, ← List.countP_append, List.singleton_append]
    rw [count, ← Nat.add_assoc] at fresh
    have new : x.creates = true →
        ∀ n < b.supply.ids, b.supply.idAt n ≠ b.supply.idAt b.supply.ids := by
      intro creates n before same
      have taken : creations [x] = 1 := by rw [creations, List.countP_singleton, if_pos creates]
      have least : n < b.supply.ids + creations [x] + creations rest := by omega
      have last : b.supply.ids < b.supply.ids + creations [x] + creations rest := by omega
      exact Nat.ne_of_lt before (fresh least last same)
    obtain ⟨answer, h'⟩ := represents_call h x new clock
    obtain ⟨ids, idAt, timeAt⟩ := tableCall_supply b x
    rw [← ids, ← idAt] at fresh
    rw [← timeAt] at clock
    obtain ⟨others, left⟩ := ih h' fresh clock
    refine ⟨?_, left⟩
    simp only [answers]
    rw [answer, others]

/-- An answer that is no failure but that a record is not found. -/
def Plain (answer : Answer) : Prop :=
  (∃ found, answer = .ok found) ∨ ∃ id, answer = .error (.notFound id)

theorem plain_change (c : Catalog) (id : Uuid) (f : DynamicQuery → DynamicQuery) :
    Plain (c.change id f).1 := by
  unfold Catalog.change
  split
  · exact .inr ⟨id, rfl⟩
  · exact .inl ⟨_, rfl⟩

/-- The catalog fails only to find a record. -/
theorem plain_answers (c : Catalog) (calls : List Call) :
    ∀ answer ∈ (answers Catalog.call c calls).1, Plain answer := by
  induction calls generalizing c with
  | nil => exact List.forall_mem_nil _
  | cons x rest ih =>
    simp only [answers, List.forall_mem_cons]
    refine ⟨?_, ih _⟩
    cases x with
    | create name prompt => exact .inl ⟨_, rfl⟩
    | get id => exact .inl ⟨_, rfl⟩
    | rename id name => exact plain_change ⟨c.records, c.supply.takeTime.2⟩ id _
    | complete id query responseId => exact plain_change ⟨c.records, c.supply.takeTime.2⟩ id _

/-- The table of texts and the map of records cannot be told apart.  On a new store, and whatever
    is called, the answers are those of a catalog: records, none, or that a record is not found, and
    no other failure.  Afterwards every id is read as what the catalog has for it, and each row is
    the row of a record of the catalog, from which that record is read. -/
theorem answers_of_catalog {b : Backend} (new : b.store = Store.empty) (calls : List Call)
    (fresh : Set.InjOn b.supply.idAt (Set.Iio (b.supply.ids + creations calls)))
    (clock : ∀ n, (b.supply.timeAt n).Civil) :
    let table := answers tableCall b calls
    let catalog := answers Catalog.call (Catalog.empty b.supply) calls
    table.1 = catalog.1 ∧
      (∀ answer ∈ table.1, Plain answer) ∧
      (∀ id, table.2.store.get id = .ok (catalog.2.records id)) ∧
      ∀ row ∈ table.2.store.rows, ∃ q, row = Row.ofRecord q ∧ row.read = .ok q ∧
        catalog.2.records q.id = some q := by
  intro table catalog
  obtain ⟨same, ⟨qs, hold, nodup, kept, -, found⟩, -⟩ :=
    represents_answers (represents_empty new) calls fresh clock
  refine ⟨same, ?_, ?_, ?_⟩
  · have same : table.1 = catalog.1 := same
    rw [same]
    exact plain_answers _ calls
  · intro id
    rw [get_of_holds hold kept, found]
  · intro row member
    have rows : table.2.store.rows = qs.map Row.ofRecord := hold
    rw [rows] at member
    obtain ⟨q, hq, rfl⟩ := List.mem_map.1 member
    refine ⟨q, rfl, (kept q hq).read, ?_⟩
    rw [found, List.find?_eq_some_iff_append]
    obtain ⟨before, after, split⟩ := List.append_of_mem hq
    refine ⟨by simp, before, after, split, ?_⟩
    intro q' earlier
    rw [split, List.map_append, List.map_cons, List.nodup_append] at nodup
    have different := nodup.2.2 q'.id (List.mem_map_of_mem earlier) q.id (by simp)
    simpa using different

/-- A new store whose clock shows more than microseconds. -/
def preciseBackend : Backend where
  store := Store.empty
  provider := .scripted [] []
  supply := ⟨Uuid.ofNat, fun n => ⟨2024, 2, 29, 23, 59, n % 60, 123456789⟩, 0, 0⟩

/-- Calls with awkward texts, and one for an id that no record has. -/
def awkwardCalls : List Call :=
  [.create "Sales\n'2024'" "total\x00 sales", .create " " "", .complete (.ofNat 0) "SELECT ';'" "",
    .rename (.ofNat 7) "none", .rename (.ofNat 0) "", .get (.ofNat 0)]

/-- The last call reads the record that all others have left, its times in microseconds. -/
theorem awkwardCalls_of_catalog :
    Set.InjOn preciseBackend.supply.idAt
        (Set.Iio (preciseBackend.supply.ids + creations awkwardCalls)) ∧
      (∀ n, (preciseBackend.supply.timeAt n).Civil) ∧
      (answers tableCall preciseBackend awkwardCalls).1.getLast? =
        some (.ok (some ⟨.ofNat 0, "", "total\x00 sales", some "SELECT ';'", some "", .complete,
          ⟨2024, 2, 29, 23, 59, 0, 123456000⟩, ⟨2024, 2, 29, 23, 59, 4, 123456000⟩⟩)) := by
  have fresh : Set.InjOn preciseBackend.supply.idAt
      (Set.Iio (preciseBackend.supply.ids + creations awkwardCalls)) := by
    have different : ∀ m < 2, ∀ n < 2, Uuid.ofNat m = Uuid.ofNat n → m = n := by decide
    intro m least n last
    exact different m least n last
  have clock : ∀ n, (preciseBackend.supply.timeAt n).Civil := by
    intro n
    have second : n % 60 ≤ 60 := Nat.le_of_lt (Nat.mod_lt n (by decide))
    exact ⟨⟨(by decide : (0 : Int) ≤ 2024), (by decide : (2024 : Int) ≤ 9999)⟩,
      (rfl : isDate 2024 2 29 = true), (by decide : 23 < 24), (by decide : 59 < 60), second,
      (by decide : 123456789 < 1000000000)⟩
  obtain ⟨same, -⟩ := answers_of_catalog rfl awkwardCalls fresh clock
  refine ⟨fresh, clock, ?_⟩
  rw [same]
  decide

end QueryDesk.Store
