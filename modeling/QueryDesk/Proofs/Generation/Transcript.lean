import QueryDesk.Generation.Orchestrator
import QueryDesk.Proofs.Json.Writer
import QueryDesk.Proofs.Store.Completion

/-!
# What a relay says

A script is what the provider answers to the request of a relay: a failure, or the items of a
stream.  `transcript` is the list of frames that go with a script, said without the relay and with
the names and the data of the frames written out: one walk over the events up to the first failure,
in which a terminal event is answered by the store as the events before it have left it.  A relay
that is taken to its end says exactly that, pulls no item behind the first failure and leaves a
backend that does not depend on whether failures are reported (`drain_eq_transcript`).
-/

namespace QueryDesk.Generation

open QueryDesk.Completion QueryDesk.EventStream QueryDesk.Record QueryDesk.Store

/-! ## Scripts -/

/-- What a provider answers to a request for a stream. -/
abbrev Script := Except Completion.Failure (List Item)

/-- The events of a stream before its first failure. -/
def eventsOf (items : List Item) : List Event :=
  (items.takeWhile Except.isOk).filterMap Except.toOption

/-- The first failure in a stream. -/
def failure? (items : List Item) : Option Completion.Failure :=
  items.findSome? fun
    | .error failure => some failure
    | .ok _ => none

/-- What is pulled of a stream: its events before the first failure, and that failure. -/
def pulled (items : List Item) : List Item :=
  (eventsOf items).map .ok ++ (failure? items).toList.map .error

/-- The items of a stream; a stream that could not be opened has none. -/
def itemsOf (script : Script) : List Item :=
  script.toOption.getD []

theorem pulled_ok (event : Event) (rest : List Item) :
    pulled (.ok event :: rest) = .ok event :: pulled rest := rfl

theorem pulled_error (failure : Completion.Failure) (rest : List Item) :
    pulled (.error failure :: rest) = [.error failure] := rfl

/-! ## Storing -/

/-- What an item asks of the store: the SQL and the response id of a terminal event whose output is
    accepted. -/
def outcome? : Item → Option (String × String)
  | .ok (.completed response) =>
    match parseOutput response.text with
    | .ok sql => some (sql, response.id)
    | .error _ => none
  | _ => none

namespace Backend

/-- The backend once outcomes have been stored for a record, one after another. -/
def storing (b : Backend) (id : Uuid) (outcomes : List (String × String)) : Backend :=
  outcomes.foldl (fun b outcome => (b.complete id outcome.1 outcome.2).2) b

/-- The backend once items have been pulled and handled: they are counted, and what they ask of the
    store is done. -/
def reading (b : Backend) (id : Uuid) (items : List Item) : Backend :=
  { b.storing id (items.filterMap outcome?) with
    provider := { b.provider with handedOut := b.provider.handedOut + items.length } }

/-- Whether a response is stored, or what is said of the failure. -/
def verdict (b : Backend) (id : Uuid) (response : Response) : Except String DynamicQuery :=
  match parseOutput response.text with
  | .error fault => .error (Failure.invalidOutput fault).message
  | .ok sql => (b.complete id sql response.id).1.mapError Store.Failure.message

/-- The backend once the provider has answered a request for a stream. -/
def asked (b : Backend) (request : Request) : Backend :=
  { b with provider := (b.provider.openStream request).2 }

theorem storing_with_provider (b : Backend) (provider : Provider) (id : Uuid)
    (outcomes : List (String × String)) :
    { b with provider := provider }.storing id outcomes =
      { b.storing id outcomes with provider := provider } := by
  induction outcomes generalizing b with
  | nil => rfl
  | cons outcome rest ih => exact ih (b.complete id outcome.1 outcome.2).2

theorem storing_append (b : Backend) (id : Uuid) (outcomes more : List (String × String)) :
    b.storing id (outcomes ++ more) = (b.storing id outcomes).storing id more :=
  List.foldl_append

theorem reading_append (b : Backend) (id : Uuid) (items more : List Item) :
    b.reading id (items ++ more) = (b.reading id items).reading id more := by
  simp only [reading, List.filterMap_append, storing_append, storing_with_provider,
    List.length_append, Nat.add_assoc]

theorem reading_cons (b : Backend) (id : Uuid) (item : Item) (rest : List Item) :
    b.reading id (item :: rest) = (b.reading id [item]).reading id rest :=
  reading_append b id [item] rest

theorem reading_handedOut (b : Backend) (id : Uuid) (items : List Item) :
    (b.reading id items).provider.handedOut = b.provider.handedOut + items.length := rfl

end Backend

/-! ## Frames -/

/-- The data of the frame of a type: the type as a JSON string. -/
def typeData (type : String) : String :=
  (Json.Value.string type).render

/-- The data of the frame of a failure: a JSON object with the text alone. -/
def faultData (message : String) : String :=
  (Json.Value.object [("message", .string message)]).render

/-- The frame that reports a failure, if failures are reported. -/
def report? (emitErrors : Bool) (message : String) : Option Frame :=
  if emitErrors then some (.event "error" (faultData message)) else none

/-- The frame of an item that is handled at a backend, if it has one. -/
def itemFrame? (emitErrors : Bool) (id : Uuid) (b : Backend) : Item → Option Frame
  | .error failure => report? emitErrors failure.message
  | .ok (.progress type) => some (.event "current_type" (typeData type))
  | .ok (.completed response) =>
    match b.verdict id response with
    | .ok _ => some (.event "response_completed" response.text)
    | .error message => report? emitErrors message

/-- The frames of items that are handled one after another. -/
def framesOf (emitErrors : Bool) (id : Uuid) : Backend → List Item → List Frame
  | _, [] => []
  | b, item :: rest =>
    (itemFrame? emitErrors id b item).toList ++ framesOf emitErrors id (b.reading id [item]) rest

/-- The last frame: `done` unless there was a failure. -/
def closing (emitErrors : Bool) : Option Completion.Failure → List Frame
  | none => [.event "done" ""]
  | some failure => (report? emitErrors failure.message).toList

/-- The frames behind the comment, for a stream. -/
def streamFrames (emitErrors : Bool) (id : Uuid) (b : Backend) (items : List Item) : List Frame :=
  framesOf emitErrors id b ((eventsOf items).map .ok) ++ closing emitErrors (failure? items)

/-- All frames that go with a script, for a backend whose provider has answered with it. -/
def transcript (emitErrors : Bool) (id : Uuid) (b : Backend) : Script → List Frame
  | .error failure => .comment "connected" :: closing emitErrors (some failure)
  | .ok items => .comment "connected" :: streamFrames emitErrors id b items

/-- What a relay makes of a failure. -/
theorem errorFrame?_eq (emitErrors : Bool) (message : String) :
    errorFrame? emitErrors message = report? emitErrors message := rfl

/-- The data of a type's frame is a JSON text of a string. -/
theorem isText_typeData (type : String) : Json.IsText (typeData type) (.string (some type)) :=
  Json.Value.isText_render (.string type) rfl

/-- The data of a failure's frame is a JSON text of an object with one member. -/
theorem isText_faultData (message : String) :
    Json.IsText (faultData message)
      (.object [(some "message", .string (some message))] true) :=
  Json.Value.isText_render (.object [("message", .string message)]) rfl

theorem framesOf_append (emitErrors : Bool) (id : Uuid) (b : Backend) (items more : List Item) :
    framesOf emitErrors id b (items ++ more) =
      framesOf emitErrors id b items ++ framesOf emitErrors id (b.reading id items) more := by
  induction items generalizing b with
  | nil => rfl
  | cons item rest ih =>
    rw [List.cons_append, framesOf, framesOf, ih, List.append_assoc,
      Backend.reading_cons b id item rest]

theorem streamFrames_ok (emitErrors : Bool) (id : Uuid) (b : Backend) (event : Event)
    (rest : List Item) :
    streamFrames emitErrors id b (.ok event :: rest) =
      (itemFrame? emitErrors id b (.ok event)).toList ++
        streamFrames emitErrors id (b.reading id [.ok event]) rest := by
  simp only [streamFrames, ← List.append_assoc]
  rfl

/-! ## Relays -/

/-- What the provider answers to the request of a relay. -/
def Relay.script (r : Relay) (b : Backend) : Script :=
  (b.provider.openStream r.request).1

theorem Relay.script_phase (r : Relay) (phase : Phase) :
    Relay.script { r with phase := phase } = r.script := rfl

/-- Handling an item makes its frame and does what it asks of the store; reading goes on unless the
    item is a failure. -/
theorem handleItem_eq (emitErrors : Bool) (id : Uuid) (item : Item) (b : Backend) :
    handleItem emitErrors id item b =
      (itemFrame? emitErrors id b item, item.isOk, b.reading id [item]) := by
  rcases item with failure | ⟨type | response⟩
  · rfl
  · rfl
  · unfold handleItem Backend.settle itemFrame? Backend.verdict Backend.reading Backend.storing
    simp only [List.filterMap_cons, List.filterMap_nil, outcome?]
    cases parseOutput response.text with
    | error fault => rfl
    | ok sql =>
      simp only [Backend.complete, List.foldl_cons, List.foldl_nil]
      cases (b.store.complete id b.supply.takeTime.1 sql response.id).1 <;> rfl

theorem map_fst_pair {α β : Type} (xs : List α) (y : β) :
    (xs.map (·, y)).map Prod.fst = xs := by
  rw [List.map_map]
  exact List.map_id _

section Taking

variable (r : Relay) (b : Backend) (k : Nat)

/-- The relay as it is while it reads a stream. -/
def Relay.over (items : List Item) : Relay :=
  { r with phase := .reading items }

theorem take_ended (ended : r.phase = .ended) : r.take k b = ([], r, b) := by
  cases k with
  | zero => rfl
  | succ k => simp only [Relay.take, Relay.next, ended]

/-- Behind the last item stands `done`. -/
theorem take_over_nil :
    (r.over []).take (k + 1) b =
      ([(.event "done" "", b.provider.handedOut)], { r with phase := .ended }, b) := by
  simp only [Relay.over, Relay.take, Relay.next, readItems, doneFrame]
  rw [take_ended _ _ _ rfl]

/-- A failure is the last item that is pulled. -/
theorem take_over_error (failure : Completion.Failure) (rest : List Item) :
    (r.over (.error failure :: rest)).take (k + 1) b =
      ((report? r.emitErrors failure.message).toList.map (·, b.provider.handedOut + 1),
        { r with phase := .ended }, b.reading r.id [.error failure]) := by
  simp only [Relay.over, Relay.take, Relay.next, readItems, handleItem_eq, Except.isOk,
    Except.toBool, itemFrame?]
  cases report? r.emitErrors failure.message with
  | none => rfl
  | some frame =>
    dsimp only
    rw [take_ended _ _ _ rfl]
    rfl

/-- An event without a frame is passed over, for as long as a frame is asked for. -/
theorem take_over_silent {event : Event} (rest : List Item)
    (silent : itemFrame? r.emitErrors r.id b (.ok event) = none) :
    (r.over (.ok event :: rest)).take (k + 1) b =
      (r.over rest).take (k + 1) (b.reading r.id [.ok event]) := by
  simp only [Relay.over, Relay.take, Relay.next, readItems, handleItem_eq, silent, Except.isOk,
    Except.toBool]

/-- An event with a frame is the last one that is pulled for it. -/
theorem take_over_shown {event : Event} (rest : List Item) {frame : Frame}
    (shown : itemFrame? r.emitErrors r.id b (.ok event) = some frame) :
    (r.over (.ok event :: rest)).take (k + 1) b =
      ((frame, b.provider.handedOut + 1) ::
          ((r.over rest).take k (b.reading r.id [.ok event])).1,
        ((r.over rest).take k (b.reading r.id [.ok event])).2) := by
  simp only [Relay.over, Relay.take, Relay.next, readItems, handleItem_eq, shown, Except.isOk,
    Except.toBool]
  rfl

end Taking

/-- A relay from which enough frames are taken says all that goes with the stream. -/
theorem take_over_all (r : Relay) {items : List Item} {k : Nat} (enough : items.length < k)
    (b : Backend) :
    ((r.over items).take k b).1.map Prod.fst = streamFrames r.emitErrors r.id b items ∧
      ((r.over items).take k b).2 =
        ({ r with phase := .ended }, b.reading r.id (pulled items)) := by
  induction items generalizing k b with
  | nil =>
    obtain ⟨k, rfl⟩ := Nat.exists_eq_add_of_lt enough
    rw [take_over_nil]
    exact ⟨rfl, rfl⟩
  | cons item rest ih =>
    obtain ⟨k, rfl⟩ := Nat.exists_eq_add_one_of_ne_zero (Nat.ne_zero_of_lt enough)
    rw [List.length_cons] at enough
    cases item with
    | error failure =>
      rw [take_over_error]
      exact ⟨map_fst_pair _ _, rfl⟩
    | ok event =>
      rw [streamFrames_ok, pulled_ok, Backend.reading_cons b r.id (.ok event) (pulled rest)]
      cases made : itemFrame? r.emitErrors r.id b (.ok event) with
      | none =>
        have still : rest.length < k + 1 := by omega
        rw [take_over_silent r b k rest made]
        exact ih still _
      | some frame =>
        have still : rest.length < k := by omega
        obtain ⟨frames, after⟩ := ih still (b.reading r.id [.ok event])
        rw [take_over_shown r b k rest made]
        refine ⟨?_, after⟩
        rw [List.map_cons, frames]
        rfl

/-- A connected relay opens the stream when its next frame is asked for. -/
theorem take_connected (r : Relay) (connected : r.phase = .connected) (b : Backend) (k : Nat) :
    r.take (k + 1) b =
      match r.script b with
      | .error failure =>
        ((report? r.emitErrors failure.message).toList.map
            (·, (b.asked r.request).provider.handedOut),
          { r with phase := .ended }, b.asked r.request)
      | .ok items => (r.over items).take (k + 1) (b.asked r.request) := by
  simp only [Relay.take, Relay.next, connected, errorFrame?_eq]
  unfold Relay.script Backend.asked
  rcases b.provider.openStream r.request with ⟨failure | items, provider⟩
  · dsimp only
    cases report? r.emitErrors failure.message with
    | none => rfl
    | some frame =>
      dsimp only
      rw [take_ended _ _ _ rfl]
      rfl
  · rfl

/-- An unopened relay says that it is connected, and has done nothing yet. -/
theorem take_unopened (r : Relay) (unopened : r.phase = .unopened) (b : Backend) (k : Nat) :
    r.take (k + 1) b =
      ((.comment "connected", b.provider.handedOut) :: ({ r with phase := .connected }.take k b).1,
        ({ r with phase := .connected }.take k b).2) := by
  simp only [Relay.take, Relay.next, unopened, connectedFrame]

/-- A relay that is taken to its end says the transcript, has pulled the stream up to its first
    failure, and is ended. -/
theorem drain_unopened (r : Relay) (unopened : r.phase = .unopened) (b : Backend) :
    let script := r.script b
    (r.drain b).1.map Prod.fst = transcript r.emitErrors r.id (b.asked r.request) script ∧
      (r.drain b).2 = (b.asked r.request).reading r.id (pulled (itemsOf script)) ∧
      (r.take (r.bound b) b).2.1.phase = .ended := by
  dsimp only
  have connected := take_connected { r with phase := .connected } rfl b
  have bound : r.bound b =
      match r.script b with
      | .ok items => items.length + 1 + 1
      | .error _ => 0 + 1 + 1 := by
    unfold Relay.bound Relay.script Provider.openStream
    rw [unopened]
    rcases b.provider.streams with _ | ⟨failure | items, later⟩ <;> rfl
  unfold Relay.drain
  rw [Relay.script_phase] at connected
  cases answer : r.script b with
  | error failure =>
    rw [answer] at bound connected
    dsimp only at bound connected ⊢
    rw [bound, take_unopened r unopened, connected, List.map_cons, map_fst_pair]
    exact ⟨rfl, rfl, rfl⟩
  | ok items =>
    rw [answer] at bound connected
    dsimp only at bound connected ⊢
    obtain ⟨frames, after⟩ :=
      take_over_all { r with phase := .connected } (Nat.lt_succ_self items.length)
        (b.asked r.request)
    rw [bound, take_unopened r unopened, connected, List.map_cons, frames, after]
    exact ⟨rfl, rfl, rfl⟩

/-! ## With and without reports -/

/-- Whether a frame reports a failure. -/
def isReport : Frame → Bool
  | .comment _ => false
  | .event name _ => name == "error"

theorem filter_itemFrame? (id : Uuid) (b : Backend) (item : Item) :
    (itemFrame? true id b item).toList.filter (!isReport ·) =
      (itemFrame? false id b item).toList := by
  rcases item with failure | ⟨type | response⟩
  · rfl
  · rfl
  · simp only [itemFrame?]
    cases b.verdict id response <;> rfl

theorem filter_framesOf (id : Uuid) (b : Backend) (items : List Item) :
    (framesOf true id b items).filter (!isReport ·) = framesOf false id b items := by
  induction items generalizing b with
  | nil => rfl
  | cons item rest ih => rw [framesOf, List.filter_append, filter_itemFrame?, ih, framesOf]

/-- Leaving the reports of failures out of a transcript makes it the one without them. -/
theorem filter_transcript (id : Uuid) (b : Backend) (script : Script) :
    (transcript true id b script).filter (!isReport ·) = transcript false id b script := by
  have closed (failed : Option Completion.Failure) :
      (closing true failed).filter (!isReport ·) = closing false failed := by
    cases failed <;> rfl
  cases script with
  | error failure => exact congrArg (.comment "connected" :: ·) (closed (some failure))
  | ok items =>
    have behind : (streamFrames true id b items).filter (!isReport ·) =
        streamFrames false id b items := by
      rw [streamFrames, List.filter_append, filter_framesOf, closed, streamFrames]
    exact congrArg (.comment "connected" :: ·) behind

/-! ## Every pattern of success and failure -/

/-- A moment whose text is read back. -/
def earlyTime : Timestamp := ⟨2000, 1, 1, 0, 0, 0, 0⟩

/-- A moment whose text is not read back: its year has five digits. -/
def lateTime : Timestamp := ⟨10000, 1, 1, 0, 0, 0, 0⟩

theorem parseStrict?_earlyTime : Timestamp.parseStrict? earlyTime.microsText = some earlyTime := by
  decide +kernel

theorem parseStrict?_lateTime : Timestamp.parseStrict? lateTime.microsText = none := by
  decide +kernel

/-- A store that has a readable record, and a clock that follows a pattern. -/
structure Patterned (id : Uuid) (pattern : Nat → Bool) (b : Backend) (calls : Nat) : Prop where
  row : ∃ row : Row, b.store.row? id = some row ∧ row.id = some id.text ∧
    row.createdAt = earlyTime.microsText
  ticks : b.supply.ticks = calls
  times : ∀ n, b.supply.timeAt n = if pattern n then earlyTime else lateTime

/-- The next call succeeds if the pattern says so, and the pattern goes on. -/
theorem complete_patterned {id : Uuid} {pattern : Nat → Bool} {b : Backend} {calls : Nat}
    (h : Patterned id pattern b calls) (sql responseId : String) :
    (b.complete id sql responseId).1.isOk = pattern calls ∧
      Patterned id pattern (b.complete id sql responseId).2 (calls + 1) := by
  obtain ⟨⟨row, found, hid, created⟩, ticks, times⟩ := h
  have now : b.supply.takeTime.1 = if pattern calls then earlyTime else lateTime := by
    rw [← ticks, Supply.takeTime, times b.supply.ticks]
    split <;> rfl
  have kept := row?_complete b.store id b.supply.takeTime.1 sql responseId
  rw [found] at kept
  refine ⟨?_, ⟨_, kept, hid, created⟩, congrArg (· + 1) ticks, times⟩
  have readable : Timestamp.parseStrict? row.createdAt = some earlyTime := by
    rw [created]
    exact parseStrict?_earlyTime
  have answer : (b.complete id sql responseId).1 =
      readRow (row.completed sql responseId b.supply.takeTime.1) := by
    have said := complete_fst b.store id b.supply.takeTime.1 sql responseId
    rw [found] at said
    exact said
  -- The row is read back with the time that was just written, which decides the answer.
  rw [answer, readRow, read_completed hid readable, now]
  cases pattern calls with
  | true =>
    rw [if_pos rfl, parseStrict?_earlyTime]
    rfl
  | false =>
    rw [if_neg Bool.false_ne_true, parseStrict?_lateTime]
    rfl

theorem storing_patterned {id : Uuid} {pattern : Nat → Bool} {b : Backend} {calls : Nat}
    (h : Patterned id pattern b calls) (outcomes : List (String × String)) :
    Patterned id pattern (b.storing id outcomes) (calls + outcomes.length) := by
  induction outcomes generalizing b calls with
  | nil => exact h
  | cons outcome rest ih =>
    have next := ih (complete_patterned h outcome.1 outcome.2).2
    rw [Nat.add_assoc, Nat.add_comm 1] at next
    exact next

/-- Calls of the store succeed and fail in every pattern, whatever the script. -/
theorem exists_patterned (id : Uuid) (script : Script) (pattern : Nat → Bool) :
    ∃ b : Backend, (∀ request, (b.provider.openStream request).1 = script) ∧
      ∀ outcomes sql responseId,
        ((b.storing id outcomes).complete id sql responseId).1.isOk = pattern outcomes.length := by
  let row := Row.ofRecord (.fresh id "" "" earlyTime)
  let clock (n : Nat) : Timestamp := if pattern n then earlyTime else lateTime
  let b : Backend := ⟨⟨[row], none⟩, .scripted [] [script], ⟨fun _ => id, clock, 0, 0⟩⟩
  have found : b.store.row? id = some row := by
    have here : row.hasId id = true := by rw [Row.hasId_ofRecord]; exact decide_eq_true rfl
    simp [b, row?, here]
  have start : Patterned id pattern b 0 := ⟨⟨row, found, rfl, rfl⟩, rfl, fun _ => rfl⟩
  refine ⟨b, fun _ => rfl, ?_⟩
  intro outcomes sql responseId
  have reached := storing_patterned start outcomes
  rw [Nat.zero_add] at reached
  exact (complete_patterned reached sql responseId).1

/-! ## The whole run -/

/-- A relay that is taken to its end says the transcript of what the provider answered, and leaves
    the backend that has pulled and handled the stream up to its first failure.  Reports of
    failures are the only difference that `emitErrors` makes.  The data of a type's frame is a JSON
    text of the type, that of a report one of an object that holds the text of the failure.  Every
    script meets a store whose calls succeed and fail in any given pattern. -/
theorem drain_eq_transcript (id : Uuid) (request : Request) :
    (∀ b : Backend,
      let script := (b.provider.openStream request).1
      let relay (emitErrors : Bool) : Relay := ⟨id, request, emitErrors, .unopened⟩
      let said (emitErrors : Bool) := ((relay emitErrors).drain b).1.map Prod.fst
      (∀ emitErrors,
        said emitErrors = transcript emitErrors id (b.asked request) script ∧
        ((relay emitErrors).drain b).2 =
          (b.asked request).reading id (pulled (itemsOf script)) ∧
        ((relay emitErrors).take ((relay emitErrors).bound b) b).2.1.phase = .ended) ∧
      (said true).filter (!isReport ·) = said false ∧
      ((relay true).drain b).2 = ((relay false).drain b).2) ∧
    (∀ type, Json.IsText (typeData type) (.string (some type))) ∧
    (∀ message, Json.IsText (faultData message)
      (.object [(some "message", .string (some message))] true)) ∧
    ∀ (script : Script) (pattern : Nat → Bool),
      ∃ b : Backend, (b.provider.openStream request).1 = script ∧
        ∀ outcomes sql responseId,
          ((b.storing id outcomes).complete id sql responseId).1.isOk =
            pattern outcomes.length := by
  refine ⟨?_, isText_typeData, isText_faultData, ?_⟩
  · intro b script relay said
    have run (emitErrors : Bool) := drain_unopened (relay emitErrors) rfl b
    have frames (emitErrors : Bool) :
        said emitErrors = transcript emitErrors id (b.asked request) script :=
      (run emitErrors).1
    refine ⟨run, ?_, (run true).2.1.trans (run false).2.1.symm⟩
    rw [frames, frames, filter_transcript]
  · intro script pattern
    obtain ⟨b, answered, calls⟩ := exists_patterned id script pattern
    exact ⟨b, answered request, calls⟩

end QueryDesk.Generation
