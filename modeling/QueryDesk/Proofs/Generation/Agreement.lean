import QueryDesk.Proofs.Generation.Delivery
import QueryDesk.Proofs.Generation.Lifecycle
import QueryDesk.Proofs.Record.Timestamp

/-!
# Waiting and streaming agree

A generation that waits for its response and one whose stream is read to the end do the same with a
response: they send the same request, they store it or not, and they leave tables that differ in
the time of the record's last change at most (`generate_agrees_streamed`).  In the stream the
response is the only terminal event; events that are not terminal stand around it, and the stream
may still fail behind it.

The two may run at different times.  A time decides whether a response counts as stored only by
being legible: a row is read back after it has been written, and texts of years with more than four
digits are not read back.
-/

namespace QueryDesk.Record

/-- Whether a moment's text is read back. -/
def Timestamp.Legible (t : Timestamp) : Prop :=
  (parseStrict? t.microsText).isSome = true

theorem Timestamp.Civil.legible {t : Timestamp} (h : t.Civil) : t.Legible := by
  rw [Legible, parseStrict?_microsText h]
  rfl

end QueryDesk.Record

namespace QueryDesk.Store

open QueryDesk.Record

/-! ## Tables at different times -/

/-- Rows that agree but for the last change of one record. -/
structure Row.Alike (id : Uuid) (row row' : Row) : Prop where
  columns : row' = { row with updatedAt := row'.updatedAt }
  others : row.hasId id = false → row' = row

/-- Tables that agree in every row and column but for the last change of one record. -/
structure Alike (id : Uuid) (s s' : Store) : Prop where
  rows : List.Forall₂ (Row.Alike id) s.rows s'.rows
  version : s'.version = s.version

theorem alike_refl (id : Uuid) (s : Store) : Alike id s s where
  rows := List.forall₂_same.2 fun _ _ => ⟨rfl, fun _ => rfl⟩
  version := rfl

/-- The time at which an outcome is stored shows in the record's last change only. -/
theorem alike_complete (s : Store) (id : Uuid) (now now' : Timestamp) (query responseId : String) :
    Alike id (s.complete id now query responseId).2 (s.complete id now' query responseId).2 := by
  unfold complete
  rw [update_snd, update_snd]
  generalize now.microsText = text
  generalize now'.microsText = text'
  refine ⟨?_, rfl⟩
  simp only [updateRows, List.forall₂_map_left_iff, List.forall₂_map_right_iff]
  apply List.forall₂_same.2
  intro row _
  by_cases here : row.hasId id = true
  · simp only [here, if_true]
    refine ⟨rfl, ?_⟩
    intro other
    have same : row.hasId id = false := other
    rw [here] at same
    cases same
  · simp only [here, Bool.false_eq_true, if_false]
    exact ⟨rfl, fun _ => rfl⟩

/-! ## What decides whether an outcome is stored -/

/-- A record that is read has a row whose creation time is read. -/
theorem row?_of_get {s : Store} {id : Uuid} {q : DynamicQuery} (found : s.get id = .ok (some q)) :
    q.id = id ∧ ∃ row, s.row? id = some row ∧ row.id = some id.text ∧
      Timestamp.parseStrict? row.createdAt = some q.createdAt := by
  unfold get at found
  cases known : s.row? id with
  | none =>
    rw [known] at found
    cases found
  | some row =>
    have matched := List.find?_some known
    have hid : row.id = some id.text := eq_of_beq matched
    rw [known] at found
    cases read : row.read with
    | error cause => simp [readRow, read, Except.map] at found
    | ok q' =>
      have same : q' = q := by simpa [readRow, read, Except.map] using found
      unfold Row.read at read
      simp only [Outcome.bind_eq_ok, Row.orFail_eq_ok] at read
      obtain ⟨text, here, id', parsed, status, -, createdAt, created, updatedAt, -, made⟩ := read
      rw [hid, Option.some.injEq] at here
      rw [← here, Uuid.parse?_text, Option.some.injEq] at parsed
      cases made
      subst same
      exact ⟨parsed.symm, row, rfl, hid, created⟩

/-- An outcome is stored for a readable record if the time is legible. -/
theorem isOk_complete {s : Store} {id : Uuid} {q : DynamicQuery}
    (found : s.get id = .ok (some q)) (now : Timestamp) (query responseId : String) :
    (s.complete id now query responseId).1.isOk = true ↔ now.Legible := by
  obtain ⟨-, row, known, hid, created⟩ := row?_of_get found
  rw [complete_fst, known, Timestamp.Legible]
  dsimp only
  rw [readRow, read_completed hid created]
  cases Timestamp.parseStrict? now.microsText with
  | none => simp [Except.isOk, Except.toBool]
  | some updatedAt => simp [Except.isOk, Except.toBool]

end QueryDesk.Store

namespace QueryDesk.Generation

open QueryDesk.Completion QueryDesk.EventStream QueryDesk.Record QueryDesk.Store

namespace Backend

/-- The present time. -/
def now (b : Backend) : Timestamp :=
  b.supply.takeTime.1

/-- A streamed generation that is read to its end: its frames, unless it cannot be started. -/
def streamed (b : Backend) (settings : Settings) (id : Uuid) :
    Except Failure (List Frame) × Backend :=
  match b.stream settings id with
  | .error failure => (.error failure, b)
  | .ok relay => (.ok ((relay.drain b).1.map Prod.fst), (relay.drain b).2)

theorem get_of_load {b : Backend} {id : Uuid} {q : DynamicQuery} (loaded : b.load id = .ok q) :
    b.store.get id = .ok (some q) := by
  unfold load at loaded
  split at loaded
  · cases loaded
  · cases loaded
  · rename_i found
    cases loaded
    exact found

theorem load_congr {b c : Backend} (store : c.store = b.store) (id : Uuid) :
    c.load id = b.load id := by
  rw [load, store, load]

/-- A response is settled if its output is accepted at a legible time. -/
theorem isOk_settle {b : Backend} {id : Uuid} {q : DynamicQuery} (loaded : b.load id = .ok q)
    (c : Response) :
    (b.settle id c).1.isOk = true ↔ (parseOutput c.text).isOk = true ∧ b.now.Legible := by
  unfold settle now
  cases parseOutput c.text with
  | error fault => simp [Except.isOk, Except.toBool]
  | ok sql =>
    have stored := isOk_complete (get_of_load loaded) b.supply.takeTime.1 sql c.id
    rw [← stored]
    dsimp only
    cases (b.store.complete id b.supply.takeTime.1 sql c.id).1 with
    | error cause => simp [Except.isOk, Except.toBool]
    | ok q' => simp [Except.isOk, Except.toBool]

/-- A relay says that a response is stored if its output is accepted at a legible time. -/
theorem isOk_verdict {b : Backend} {id : Uuid} {q : DynamicQuery} (loaded : b.load id = .ok q)
    (c : Response) :
    (b.verdict id c).isOk = true ↔ (parseOutput c.text).isOk = true ∧ b.now.Legible := by
  unfold verdict now
  cases parseOutput c.text with
  | error fault => simp [Except.isOk, Except.toBool]
  | ok sql =>
    have stored := isOk_complete (get_of_load loaded) b.supply.takeTime.1 sql c.id
    rw [← stored]
    dsimp only [complete]
    cases (b.store.complete id b.supply.takeTime.1 sql c.id).1 with
    | error cause => simp [Except.isOk, Except.toBool, Except.mapError]
    | ok q' => simp [Except.isOk, Except.toBool, Except.mapError]

end Backend

/-! ## Streams with one terminal event -/

/-- A stream with one terminal event behind events that are not terminal. -/
def streamAround (before : List String) (c : Response) (after : List Item) : List Item :=
  (before.map Event.progress).map .ok ++ .ok (.completed c) :: after

/-- Items without a terminal event. -/
def Quiet (items : List Item) : Prop :=
  ∀ item ∈ items, itemResponse? item = none

theorem quiet_progress (types : List String) : Quiet ((types.map Event.progress).map .ok) := by
  intro item member
  simp only [List.map_map, List.mem_map] at member
  obtain ⟨type, -, rfl⟩ := member
  rfl

theorem pulled_append_ok (events : List Event) (rest : List Item) :
    pulled (events.map .ok ++ rest) = events.map .ok ++ pulled rest := by
  induction events with
  | nil => rfl
  | cons event events ih =>
    rw [List.map_cons, List.cons_append, pulled_ok, ih]
    rfl

theorem pulled_sublist (items : List Item) : (pulled items).Sublist items := by
  induction items with
  | nil => exact List.Sublist.refl []
  | cons item rest ih =>
    cases item with
    | error failure => exact (List.nil_sublist rest).cons_cons _
    | ok event => exact ih.cons_cons _

theorem Quiet.pulled {items : List Item} (h : Quiet items) : Quiet (pulled items) :=
  fun item member => h item ((pulled_sublist items).subset member)

theorem Quiet.outcomes {items : List Item} (h : Quiet items) : items.filterMap outcome? = [] := by
  rw [List.filterMap_eq_nil_iff]
  intro item member
  have quiet := h item member
  rcases item with failure | ⟨type | response⟩
  · rfl
  · rfl
  · cases quiet

section Frames

variable {emitErrors : Bool} {id : Uuid}

/-- Only terminal events are stored. -/
theorem Quiet.storedOf {items : List Item} (h : Quiet items) (b : Backend) :
    storedOf id b items = [] := by
  induction items generalizing b with
  | nil => rfl
  | cons item rest ih =>
    rw [Quiet, List.forall_mem_cons] at h
    rw [Generation.storedOf, ih h.2, List.append_nil]
    rcases item with failure | ⟨type | response⟩
    · rfl
    · rfl
    · cases h.1

/-- A stream with one terminal event reports it if it is stored. -/
theorem completions_streamAround (b : Backend) (before : List String) (c : Response)
    {after : List Item} (quiet : Quiet after) :
    dataOf "response_completed" (transcript emitErrors id b (.ok (streamAround before c after))) =
      if (b.verdict id c).isOk then [c.text] else [] := by
  have same : (b.reading id ((before.map Event.progress).map .ok)).verdict id c =
      b.verdict id c := by
    rw [Backend.reading, (quiet_progress before).outcomes]
    rfl
  have items : itemsOf (.ok (streamAround before c after)) = streamAround before c after := rfl
  rw [dataOf_transcript_completed, items, streamAround, pulled_append_ok, pulled_ok,
    storedOf_append, (quiet_progress before).storedOf, storedOf, quiet.pulled.storedOf, stored?,
    same, List.nil_append, List.append_nil]
  cases (b.verdict id c).isOk <;> rfl

/-- Such a stream stores its terminal event if the output is accepted, and nothing else. -/
theorem store_streamAround (b : Backend) (before : List String) (c : Response)
    {after : List Item} (quiet : Quiet after) :
    (b.reading id (pulled (streamAround before c after))).store = (b.settle id c).2.store := by
  have outcomes : (pulled (streamAround before c after)).filterMap outcome? =
      (outcome? (.ok (.completed c))).toList := by
    rw [streamAround, pulled_append_ok, pulled_ok, List.filterMap_append,
      (quiet_progress before).outcomes, List.filterMap_cons, quiet.pulled.outcomes]
    cases outcome? (.ok (.completed c)) <;> rfl
  rw [settle_store, Backend.reading, outcomes, outcome?]
  dsimp only
  cases parseOutput c.text with
  | error fault => rfl
  | ok sql => rfl

end Frames

/-! ## Both ways -/

/-- A generation that gets a response sends the record's request and settles the response. -/
theorem generate_of_answer {b : Backend} (settings : Settings) {id : Uuid} {q : DynamicQuery}
    (loaded : b.load id = .ok q) {c : Response}
    (answer : b.provider.responses.head? = some (.ok c)) :
    ∃ b' : Backend, b'.store = b.store ∧ b'.supply = b.supply ∧
      b'.provider.requests = b.provider.requests ++ [requestFor settings q] ∧
      b.generate settings id = b'.settle id c := by
  obtain ⟨later, responses⟩ := List.head?_eq_some_iff.1 answer
  have asked : b.ask (requestFor settings q) =
      (.ok c, { b with provider := (b.provider.complete (requestFor settings q)).2 }) := by
    simp [Backend.ask, Provider.complete, responses]
  refine ⟨{ b with provider := (b.provider.complete (requestFor settings q)).2 }, rfl, rfl, ?_, ?_⟩
  · simp [Provider.complete, responses]
  · rw [Backend.generate, loaded]
    dsimp only
    rw [asked]

/-- Tables that are equal agree once a response has been settled in both. -/
theorem alike_settle {b b' : Backend} (store : b'.store = b.store) (id : Uuid) (c : Response) :
    Alike id (b.settle id c).2.store (b'.settle id c).2.store := by
  rw [settle_store, settle_store, store]
  cases parseOutput c.text with
  | error fault => exact alike_refl id b.store
  | ok sql => exact alike_complete b.store id _ _ sql c.id

/-- A rejected output leaves the table as it is. -/
theorem settle_rejected (b : Backend) (id : Uuid) {c : Response}
    (rejected : (parseOutput c.text).isOk = false) : (b.settle id c).2.store = b.store := by
  rw [settle_store]
  cases parsed : parseOutput c.text with
  | error fault => rfl
  | ok sql =>
    rw [parsed] at rejected
    cases rejected

/-- Settling a response asks nothing of the provider. -/
theorem settle_provider (b : Backend) (id : Uuid) (c : Response) :
    (b.settle id c).2.provider = b.provider := by
  unfold Backend.settle
  cases parseOutput c.text with
  | error fault => rfl
  | ok sql =>
    dsimp only
    split <;> rfl

/-- A streamed generation says the transcript of its script. -/
theorem streamed_of_script {b : Backend} (settings : Settings) {id : Uuid} {q : DynamicQuery}
    (loaded : b.load id = .ok q) {items : List Item}
    (script : b.provider.streams.head? = some (.ok items)) :
    let asked := b.asked (requestFor settings q)
    b.streamed settings id =
      (.ok (transcript settings.emitErrors id asked (.ok items)),
        asked.reading id (pulled items)) ∧
    asked.provider.requests = b.provider.requests ++ [requestFor settings q] := by
  intro asked
  obtain ⟨later, streams⟩ := List.head?_eq_some_iff.1 script
  obtain ⟨hid, -⟩ := row?_of_get (Backend.get_of_load loaded)
  have opened : (b.provider.openStream (requestFor settings q)).1 = .ok items := by
    simp [Provider.openStream, streams]
  have started : b.stream settings id =
      .ok ⟨id, requestFor settings q, settings.emitErrors, .unopened⟩ := by
    rw [Backend.stream, loaded, ← hid]
    rfl
  obtain ⟨frames, left, -⟩ :=
    drain_unopened ⟨id, requestFor settings q, settings.emitErrors, .unopened⟩ rfl b
  rw [Relay.script, opened] at frames left
  refine ⟨?_, ?_⟩
  · rw [Backend.streamed, started]
    dsimp only
    rw [frames, left]
    rfl
  · simp [asked, Backend.asked, Provider.openStream, streams]

/-- Without a readable record neither generation is started. -/
theorem generate_streamed_of_error {b b' : Backend} (store : b'.store = b.store)
    (settings : Settings) {id : Uuid} {failure : Failure} (loaded : b.load id = .error failure) :
    b.generate settings id = (.error failure, b) ∧
      b'.streamed settings id = (.error failure, b') := by
  have loaded' : b'.load id = .error failure := by rw [Backend.load_congr store, loaded]
  constructor
  · simp only [Backend.generate, loaded]
  · simp only [Backend.streamed, Backend.stream, loaded']
    rfl

/-- Waiting for a response and reading a stream around it to the end agree, from equal tables.
    Neither is started without a readable record.  Otherwise both send the same request, and the
    stream reports the response if and only if waiting for it succeeds, unless the time of one of
    them is not legible and that of the other is.  The tables that they leave agree but for the
    last change of the record, and a rejected output leaves them as they are. -/
theorem generate_agrees_streamed {b b' : Backend} (store : b'.store = b.store)
    (settings : Settings) (id : Uuid) {c : Response} {before : List String} {after : List Item}
    (answer : b.provider.responses.head? = some (.ok c))
    (script : b'.provider.streams.head? = some (.ok (streamAround before c after)))
    (quiet : Quiet after) :
    let waited := b.generate settings id
    let streamed := b'.streamed settings id
    (∀ failure, b.load id = .error failure →
      waited = (.error failure, b) ∧ streamed = (.error failure, b')) ∧
    (∀ q, b.load id = .ok q →
      waited.2.provider.requests = b.provider.requests ++ [requestFor settings q] ∧
      streamed.2.provider.requests = b'.provider.requests ++ [requestFor settings q] ∧
      ∃ frames, streamed.1 = .ok frames ∧
        ((b.now.Legible ↔ b'.now.Legible) →
          dataOf "response_completed" frames = if waited.1.isOk then [c.text] else [])) ∧
    Alike id waited.2.store streamed.2.store ∧
    ((parseOutput c.text).isOk = false →
      waited.2.store = b.store ∧ streamed.2.store = b.store) := by
  intro waited streamed
  cases loaded : b.load id with
  | error failure =>
    obtain ⟨waits, streams⟩ := generate_streamed_of_error store settings loaded
    have waits : waited = (.error failure, b) := waits
    have streams : streamed = (.error failure, b') := streams
    rw [waits, streams]
    dsimp only
    rw [store]
    refine ⟨?_, ?_, alike_refl id b.store, fun _ => ⟨rfl, rfl⟩⟩
    · intro failure' same
      cases same
      exact ⟨rfl, rfl⟩
    · intro q same
      cases same
  | ok q =>
    have loaded' : b'.load id = .ok q := by rw [Backend.load_congr store, loaded]
    obtain ⟨sent, sentStore, supply, requests, waits⟩ := generate_of_answer settings loaded answer
    obtain ⟨streams, requests'⟩ := streamed_of_script settings loaded' script
    -- Both settle the response in the same table, at their own times.
    have askedStore : (b'.asked (requestFor settings q)).store = b.store := store
    have sentLoad : sent.load id = .ok q := by rw [Backend.load_congr sentStore, loaded]
    have askedLoad : (b'.asked (requestFor settings q)).load id = .ok q := by
      rw [Backend.load_congr askedStore, loaded]
    have sentNow : sent.now = b.now := by rw [Backend.now, supply, Backend.now]
    have waitedStore : waited.2.store = (sent.settle id c).2.store := by
      simp only [waited, waits]
    have streamedStore : streamed.2.store =
        ((b'.asked (requestFor settings q)).settle id c).2.store := by
      simp only [streamed, streams]
      exact store_streamAround _ before c quiet
    refine ⟨?_, ?_, ?_, ?_⟩
    · intro failure same
      cases same
    · intro q' same
      cases same
      refine ⟨?_, ?_, _, congrArg Prod.fst streams, ?_⟩
      · simp only [waited, waits, settle_provider, requests]
      · simp only [streamed, streams]
        exact requests'
      · intro times
        have agree : ((b'.asked (requestFor settings q)).verdict id c).isOk = waited.1.isOk := by
          rw [Bool.eq_iff_iff, Backend.isOk_verdict askedLoad]
          simp only [waited, waits, Backend.isOk_settle sentLoad, sentNow]
          rw [times]
          rfl
        rw [completions_streamAround _ before c quiet, agree]
    · rw [waitedStore, streamedStore]
      exact alike_settle (askedStore.trans sentStore.symm) id c
    · intro rejected
      rw [waitedStore, streamedStore, settle_rejected sent id rejected,
        settle_rejected _ id rejected]
      exact ⟨sentStore, askedStore⟩

/-- A response with an output that is accepted. -/
def salesResponse : Response := ⟨"resp_1", twoLineOutput⟩

/-- What follows the response: an event, and the failure of the stream. -/
def salesTail : List Item := [.ok (.progress "response.audit"), .error .transport]

/-- A provider that answers with the response. -/
def waitingBackend : Backend where
  store := ⟨[.ofRecord salesRecord], none⟩
  provider := .scripted [.ok salesResponse] []
  supply := .counting 2 earlyTime

/-- A provider that streams the response, a day later. -/
def streamingBackend : Backend where
  store := ⟨[.ofRecord salesRecord], none⟩
  provider := .scripted [] [.ok (streamAround ["response.created"] salesResponse salesTail)]
  supply := .counting 2 earlyTime.dayAfter

theorem civil_earlyTime : earlyTime.Civil :=
  ⟨by decide, by decide, by decide, by decide, by decide, by decide⟩

theorem civil_dayAfter_earlyTime : earlyTime.dayAfter.Civil :=
  ⟨by decide, by decide, by decide, by decide, by decide, by decide⟩

/-- The response is stored both ways. -/
theorem salesResponse_agrees :
    Quiet salesTail ∧ (waitingBackend.generate .default salesRecord.id).1.isOk = true ∧
      (∃ frames, (streamingBackend.streamed .default salesRecord.id).1 = .ok frames ∧
        dataOf "response_completed" frames = [twoLineOutput]) ∧
      Alike salesRecord.id (waitingBackend.generate .default salesRecord.id).2.store
        (streamingBackend.streamed .default salesRecord.id).2.store := by
  have quiet : Quiet salesTail := by
    intro item member
    simp only [salesTail, List.mem_cons, List.not_mem_nil, or_false] at member
    rcases member with rfl | rfl <;> rfl
  obtain ⟨q, loaded⟩ : ∃ q, waitingBackend.load salesRecord.id = .ok q := by
    have read : (waitingBackend.load salesRecord.id).isOk = true := by decide +kernel
    cases loaded : waitingBackend.load salesRecord.id with
    | error failure =>
      rw [loaded] at read
      cases read
    | ok q => exact ⟨q, rfl⟩
  have stored : (waitingBackend.generate .default salesRecord.id).1.isOk = true := by
    decide +kernel
  have legible : waitingBackend.now.Legible := civil_earlyTime.legible
  have legible' : streamingBackend.now.Legible := civil_dayAfter_earlyTime.legible
  have store : streamingBackend.store = waitingBackend.store := rfl
  have answer : waitingBackend.provider.responses.head? = some (.ok salesResponse) := rfl
  have script : streamingBackend.provider.streams.head? =
      some (.ok (streamAround ["response.created"] salesResponse salesTail)) := rfl
  obtain ⟨-, streams, alike, -⟩ :=
    generate_agrees_streamed store .default salesRecord.id answer script quiet
  obtain ⟨-, -, frames, said, reported⟩ := streams q loaded
  have completions := reported (iff_of_true legible legible')
  rw [stored] at completions
  exact ⟨quiet, stored, ⟨frames, said, completions⟩, alike⟩

end QueryDesk.Generation
