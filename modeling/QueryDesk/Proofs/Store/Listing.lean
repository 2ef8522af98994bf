import QueryDesk.Proofs.Record.Order
import QueryDesk.Proofs.Store.Catalog

/-!
# All records, newest first

The table is sorted by the texts of its times of creation.  These texts sort as the moments do, and
nothing but creating a record adds a row, takes one away or changes when a record was created.  So
whatever has been called on a new store, the list has every record that was created, once, as it is
read by its id, and from the latest to the earliest (`list_of_reached`).

The clock must tell moments of the years 0 to 9999; it may go backwards or stand still.
-/

namespace QueryDesk.Record

/-! ## Exact times -/

/-- A moment of a year with four digits, in whole microseconds: nothing of it is lost in a row. -/
structure Timestamp.Exact (t : Timestamp) : Prop where
  civil : t.Civil
  whole : t.WholeMicros

theorem Timestamp.Civil.exact_truncated {t : Timestamp} (h : t.Civil) : t.truncated.Exact :=
  ⟨h.truncated, t.truncated_truncated⟩

theorem Timestamp.Exact.kept {t : Timestamp} (h : t.Exact) : t.Kept := by
  have kept := h.civil.kept_truncated
  rwa [h.whole] at kept

namespace DynamicQuery

/-- A record with exact times. -/
structure Exact (q : DynamicQuery) : Prop where
  createdAt : q.createdAt.Exact
  updatedAt : q.updatedAt.Exact

theorem Exact.kept {q : DynamicQuery} (h : q.Exact) : q.Kept :=
  ⟨h.createdAt.kept, h.updatedAt.kept⟩

/-- What a record has from its creation on: its id, its prompt and its time of creation. -/
def origin (q : DynamicQuery) : Uuid × String × Timestamp :=
  (q.id, q.prompt, q.createdAt)

/-- With one record for an id, a record is the one found under its id. -/
theorem find?_id_of_mem {qs : List DynamicQuery} (nodup : (qs.map (·.id)).Nodup)
    {q : DynamicQuery} (member : q ∈ qs) : qs.find? (·.id = q.id) = some q := by
  induction qs with
  | nil => exact absurd member List.not_mem_nil
  | cons q' qs ih =>
    rw [List.map_cons, List.nodup_cons] at nodup
    rcases List.mem_cons.1 member with rfl | later
    · simp
    · have other : q'.id ≠ q.id := fun same => nodup.1 (same ▸ List.mem_map_of_mem later)
      rw [List.find?_cons_of_neg (by simpa using other)]
      exact ih nodup.2 later

/-! ## Sorting records -/

/-- Records by the texts of their times of creation, latest first. -/
def newestFirst (qs : List DynamicQuery) : List DynamicQuery :=
  qs.mergeSort fun a b => !decide (a.createdAt.microsText < b.createdAt.microsText)

theorem newestFirst_perm (qs : List DynamicQuery) : (newestFirst qs).Perm qs :=
  List.mergeSort_perm qs _

theorem newestFirst_pairwise_text (qs : List DynamicQuery) :
    (newestFirst qs).Pairwise fun a b => b.createdAt.microsText ≤ a.createdAt.microsText := by
  have sorted : (newestFirst qs).Pairwise fun a b =>
      (!decide (a.createdAt.microsText < b.createdAt.microsText)) = true := by
    refine List.pairwise_mergeSort ?_ ?_ qs
    · intro a b c hab hbc
      simp only [Bool.not_eq_true', decide_eq_false_iff_not, not_lt] at hab hbc ⊢
      exact le_trans hbc hab
    · intro a b
      simp only [Bool.or_eq_true, Bool.not_eq_true', decide_eq_false_iff_not, not_lt]
      exact le_total _ _
  refine sorted.imp fun {a b} ordered => ?_
  simpa only [Bool.not_eq_true', decide_eq_false_iff_not, not_lt] using ordered

/-- No record comes before one that was created later. -/
theorem newestFirst_pairwise {qs : List DynamicQuery} (times : ∀ q ∈ qs, q.Exact) :
    (newestFirst qs).Pairwise fun a b => ¬ a.createdAt.Earlier b.createdAt := by
  refine (newestFirst_pairwise_text qs).imp_of_mem ?_
  intro a b memberA memberB ordered earlier
  obtain ⟨civilA, wholeA⟩ := (times a ((newestFirst_perm qs).mem_iff.1 memberA)).createdAt
  obtain ⟨civilB, wholeB⟩ := (times b ((newestFirst_perm qs).mem_iff.1 memberB)).createdAt
  exact absurd ((Timestamp.microsText_lt_iff civilA civilB wholeA wholeB).2 earlier)
    (not_lt.2 ordered)

end DynamicQuery

end QueryDesk.Record

namespace QueryDesk.Store

open QueryDesk.Generation QueryDesk.Record

/-! ## The list of a table of records -/

theorem readAll_ofRecord {qs : List DynamicQuery} (kept : ∀ q ∈ qs, q.Kept) :
    readAll (qs.map Row.ofRecord) = .ok qs := by
  induction qs with
  | nil => rfl
  | cons q qs ih =>
    rw [List.forall_mem_cons] at kept
    rw [List.map_cons, readAll, kept.1.readRow, ih kept.2]
    rfl

theorem list_of_holds {s : Store} {qs : List DynamicQuery} (h : s.Holds qs)
    (kept : ∀ q ∈ qs, q.Kept) : s.list = .ok (DynamicQuery.newestFirst qs) := by
  have sorted : s.sortedRows = (DynamicQuery.newestFirst qs).map Row.ofRecord := by
    unfold Holds at h
    rw [sortedRows, h, DynamicQuery.newestFirst, List.map_mergeSort]
    intro a _ b _
    rfl
  rw [list, sorted, readAll_ofRecord]
  exact fun q member => kept q ((DynamicQuery.newestFirst_perm qs).mem_iff.1 member)

/-! ## Reaching a store -/

/-- The record that a call has added, if it has added one. -/
def Call.added : Call → Answer → List DynamicQuery
  | .create _ _, .ok (some q) => [q]
  | _, _ => []

theorem Call.added_of_not_creates {x : Call} (other : x.creates = false) (answer : Answer) :
    x.added answer = [] := by
  cases x with
  | create name prompt => cases other
  | get id => rfl
  | rename id name => rfl
  | complete id query responseId => rfl

/-- What is reached by calls and by opening the store again, and the records that were created on
    the way. -/
inductive Reached (b : Backend) : List DynamicQuery → Backend → Prop
  | start : Reached b [] b
  | call {created : List DynamicQuery} {b' : Backend} (x : Call) : Reached b created b' →
      Reached b (created ++ x.added (tableCall b' x).1) (tableCall b' x).2
  | reopened {created : List DynamicQuery} {b' : Backend} : Reached b created b' →
      Reached b created { b' with store := b'.store.open }

/-- A table with a row for every record that was created. -/
structure Covers (s : Store) (created qs : List DynamicQuery) : Prop where
  holds : s.Holds qs
  origins : qs.map DynamicQuery.origin = created.map DynamicQuery.origin
  nodup : (qs.map (·.id)).Nodup
  times : ∀ q ∈ qs, q.Exact

section Steps

variable {s : Store} {created qs : List DynamicQuery}

theorem covers_empty : Store.empty.Covers [] [] :=
  ⟨holds_empty, rfl, List.nodup_nil, List.forall_mem_nil _⟩

/-- Opening a store leaves its rows. -/
theorem covers_open (h : s.Covers created qs) : s.open.Covers created qs := by
  have rows : s.open.rows = s.rows := by
    unfold Store.open
    split <;> rfl
  exact ⟨rows.trans h.holds, h.origins, h.nodup, h.times⟩

/-- An update leaves what records have from their creation. -/
theorem covers_update (h : s.Covers created qs) (id : Uuid) {change : Row → Row}
    (change' : DynamicQuery → DynamicQuery)
    (agree : ∀ q, change (Row.ofRecord q) = Row.ofRecord (change' q))
    (keeps : ∀ q, (change' q).origin = q.origin) (times : ∀ q : DynamicQuery, q.Exact →
      (change' q).Exact) :
    (s.update id change).2.Covers created (DynamicQuery.mapId id change' qs) where
  holds := by
    rw [update_snd]
    exact updateRows_holds h.holds id agree
  origins := (map_mapId id keeps qs).trans h.origins
  nodup := by
    rw [mapId_ids id fun q => congrArg Prod.fst (keeps q)]
    exact h.nodup
  times := by
    intro q member
    rcases mem_mapId member with ⟨q', member', -, rfl⟩ | ⟨old, -⟩
    · exact times q' (h.times q' member')
    · exact h.times q old

/-- A new record comes last; if its id is taken nothing happens. -/
theorem covers_create (h : s.Covers created qs) (id : Uuid) {now : Timestamp} (sharp : now.Exact)
    (name prompt : String) :
    (s.create id now name prompt = (.error .duplicateId, s)) ∨
      ∃ s', s.create id now name prompt = (.ok (.fresh id name prompt now), s') ∧
        s'.Covers (created ++ [.fresh id name prompt now]) (qs ++ [.fresh id name prompt now]) := by
  rcases create_cases h.holds id now name prompt with ⟨-, refused⟩ | ⟨unused, s', made, holds⟩
  · exact .inl refused
  · refine .inr ⟨s', made, holds, ?_, ?_, ?_⟩
    · rw [List.map_append, List.map_append, h.origins]
    · rw [List.map_append, List.map_singleton]
      refine List.nodup_append.2 ⟨h.nodup, List.nodup_singleton _, ?_⟩
      intro id' member id'' last
      obtain ⟨q, hq, rfl⟩ := List.mem_map.1 member
      rw [List.mem_singleton.1 last]
      exact unused q hq
    · rw [List.forall_mem_append]
      exact ⟨h.times, List.forall_mem_singleton.2 ⟨sharp, sharp⟩⟩

end Steps

/-- One call: there is still a row for every record that was created. -/
theorem covers_call {b : Backend} {created qs : List DynamicQuery}
    (h : b.store.Covers created qs) (clock : ∀ n, (b.supply.timeAt n).Civil) (x : Call) :
    ∃ qs', (tableCall b x).2.store.Covers (created ++ x.added (tableCall b x).1) qs' := by
  have sharp : b.supply.takeTime.1.Exact := (clock b.supply.ticks).exact_truncated
  cases x with
  | create name prompt =>
    have sharp : b.supply.takeId.2.takeTime.1.Exact := sharp
    rw [tableCall, Backend.create]
    dsimp only
    rcases covers_create h b.supply.takeId.1 sharp name prompt with refused | ⟨s', made, covers⟩
    · rw [refused]
      exact ⟨qs, by rwa [← List.append_nil created] at h⟩
    · rw [made]
      exact ⟨_, covers⟩
  | get id =>
    rw [Call.added_of_not_creates rfl, List.append_nil]
    exact ⟨qs, h⟩
  | rename id name =>
    rw [Call.added_of_not_creates rfl, List.append_nil]
    exact ⟨_, covers_update h id (·.renamed name b.supply.takeTime.1) (fun _ => rfl)
      (fun _ => rfl) (fun _ old => ⟨old.createdAt, sharp⟩)⟩
  | complete id query responseId =>
    rw [Call.added_of_not_creates rfl, List.append_nil]
    exact ⟨_, covers_update h id (·.completed query responseId b.supply.takeTime.1)
      (fun _ => rfl) (fun _ => rfl) (fun _ old => ⟨old.createdAt, sharp⟩)⟩

/-- Whatever has been reached has a row for every record that was created. -/
theorem covers_of_reached {b b' : Backend} {created : List DynamicQuery}
    (new : b.store = Store.empty) (clock : ∀ n, (b.supply.timeAt n).Civil)
    (reached : Reached b created b') :
    b'.supply.timeAt = b.supply.timeAt ∧ ∃ qs, b'.store.Covers created qs := by
  induction reached with
  | start => exact ⟨rfl, [], by rw [new]; exact covers_empty⟩
  | @call created b' x _ ih =>
    obtain ⟨same, qs, covers⟩ := ih
    exact ⟨(tableCall_supply b' x).2.2.trans same, covers_call covers (by rwa [same]) x⟩
  | reopened _ ih =>
    obtain ⟨same, qs, covers⟩ := ih
    exact ⟨same, qs, covers_open covers⟩

/-- The list is complete and newest first.  Whatever has been called on a new store, the list has
    every record that was created, once and as it is read by its id, and none comes before one that
    was created later.  It can be sorted by the stored texts since these compare, octet by octet, as
    the moments do, and are read back as the moments. -/
theorem list_of_reached {b b' : Backend} {created : List DynamicQuery}
    (new : b.store = Store.empty) (clock : ∀ n, (b.supply.timeAt n).Civil)
    (reached : Reached b created b') :
    (∃ qs, b'.store.list = .ok qs ∧
      (qs.map DynamicQuery.origin).Perm (created.map DynamicQuery.origin) ∧
      (qs.map (·.id)).Nodup ∧
      (∀ q ∈ qs, b'.store.get q.id = .ok (some q)) ∧
      qs.Pairwise fun q q' => ¬ q.createdAt.Earlier q'.createdAt) ∧
    ∀ t : Timestamp, t.Exact → Timestamp.parseStrict? t.microsText = some t ∧
      ∀ t' : Timestamp, t'.Exact →
        (t.microsText < t'.microsText ↔ t.Earlier t') ∧
        (Text.Utf8.encode t.microsText < Text.Utf8.encode t'.microsText ↔ t.Earlier t') := by
  constructor
  · obtain ⟨-, qs, holds, origins, nodup, times⟩ := covers_of_reached new clock reached
    have kept : ∀ q ∈ qs, q.Kept := fun q member => (times q member).kept
    have perm := DynamicQuery.newestFirst_perm qs
    refine ⟨_, list_of_holds holds kept, ?_, ?_, ?_, DynamicQuery.newestFirst_pairwise times⟩
    · rw [← origins]
      exact perm.map _
    · exact (perm.map _).nodup_iff.2 nodup
    · intro q member
      rw [get_of_holds holds kept, DynamicQuery.find?_id_of_mem nodup (perm.mem_iff.1 member)]
  · intro t sharp
    refine ⟨sharp.kept, fun t' sharp' => ⟨?_, ?_⟩⟩
    · exact Timestamp.microsText_lt_iff sharp.civil sharp'.civil sharp.whole sharp'.whole
    · exact Timestamp.encode_microsText_lt_iff sharp.civil sharp'.civil sharp.whole sharp'.whole

/-- A new store whose clock goes to and fro, and shows more than microseconds. -/
def skewedBackend : Backend where
  store := Store.empty
  provider := .scripted [] []
  supply := ⟨Uuid.ofNat, fun n => ⟨2024, 2, 29, 23, 59, 30 * (n + 1) % 60, 123456789⟩, 0, 0⟩

theorem civil_skewedBackend (n : Nat) : (skewedBackend.supply.timeAt n).Civil := by
  have second : 30 * (n + 1) % 60 ≤ 60 := Nat.le_of_lt (Nat.mod_lt _ (by decide))
  exact ⟨⟨(by decide : (0 : Int) ≤ 2024), (by decide : (2024 : Int) ≤ 9999)⟩,
    (rfl : isDate 2024 2 29 = true), (by decide : 23 < 24), (by decide : 59 < 60), second,
    (by decide : 123456789 < 1000000000)⟩

/-- Two records of one moment, one of half a minute before it that was created between them, and
    a name given to the first. -/
theorem skewedBackend_list : ∃ created b' qs, Reached skewedBackend created b' ∧
    created.map DynamicQuery.origin =
      [(.ofNat 0, "total", ⟨2024, 2, 29, 23, 59, 30, 123456000⟩),
        (.ofNat 1, "", ⟨2024, 2, 29, 23, 59, 0, 123456000⟩),
        (.ofNat 2, "total", ⟨2024, 2, 29, 23, 59, 30, 123456000⟩)] ∧
    b'.store.list = .ok qs ∧
    (qs.map DynamicQuery.origin).Perm (created.map DynamicQuery.origin) ∧
    (∀ q ∈ qs, b'.store.get q.id = .ok (some q)) ∧
    qs.Pairwise fun q q' => ¬ q.createdAt.Earlier q'.createdAt := by
  have reached := (((Reached.start (b := skewedBackend)).call (.create "Sales" "total")).call
    (.create "" "")).call (.create "Sales" "total") |>.reopened |>.call (.rename (.ofNat 0) "New")
  obtain ⟨⟨qs, list, perm, -, read, sorted⟩, -⟩ := list_of_reached rfl civil_skewedBackend reached
  exact ⟨_, _, qs, reached, by decide, list, perm, read, sorted⟩

end QueryDesk.Store
