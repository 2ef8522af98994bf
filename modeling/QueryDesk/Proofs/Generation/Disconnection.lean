import QueryDesk.Proofs.Generation.Transcript

/-!
# Leaving a relay early

A client may take some frames of a relay and leave.  The relay has then pulled the shortest prefix
of the stream that gives those frames, and has done what the items of that prefix ask of the store,
and nothing else (`take_shortest_prefix`).  So a response that was reported is stored, and one that
was not asked for has left no trace.
-/

namespace QueryDesk.Generation

open QueryDesk.Completion QueryDesk.EventStream QueryDesk.Record QueryDesk.Store

/-! ## Prefixes of a stream -/

/-- The frames of the first items of a stream, with `done` if these are all and none is a
    failure. -/
def prefixFrames (emitErrors : Bool) (id : Uuid) (b : Backend) (items : List Item) (n : Nat) :
    List Frame :=
  framesOf emitErrors id b ((pulled items).take n) ++
    if n = items.length ∧ failure? items = none then [.event "done" ""] else []

/-- What can be pulled of the stream of a relay. -/
def Relay.live (r : Relay) (b : Backend) : List Item :=
  pulled (itemsOf (r.script b))

/-- The frames of a relay once a number of items have been pulled. -/
def Relay.heard (r : Relay) (b : Backend) (n : Nat) : List Frame :=
  match r.script b with
  | .error failure => .comment "connected" :: closing r.emitErrors (some failure)
  | .ok items => .comment "connected" :: prefixFrames r.emitErrors r.id (b.asked r.request) items n

section PrefixFrames

variable (emitErrors : Bool) (id : Uuid) (b : Backend)

theorem prefixFrames_zero (item : Item) (rest : List Item) :
    prefixFrames emitErrors id b (item :: rest) 0 = [] := by
  simp [prefixFrames, framesOf]

theorem prefixFrames_error (failure : Completion.Failure) (rest : List Item) :
    prefixFrames emitErrors id b (.error failure :: rest) 1 =
      (report? emitErrors failure.message).toList := by
  simp [prefixFrames, pulled_error, framesOf, itemFrame?, failure?]

theorem prefixFrames_event (event : Event) (rest : List Item) (n : Nat) :
    prefixFrames emitErrors id b (.ok event :: rest) (n + 1) =
      (itemFrame? emitErrors id b (.ok event)).toList ++
        prefixFrames emitErrors id (b.reading id [.ok event]) rest n := by
  simp [prefixFrames, pulled_ok, framesOf, failure?]

end PrefixFrames

/-- A prefix that has a number of frames while no shorter one does. -/
def Shortest (frames : Nat → List Frame) (k n : Nat) : Prop :=
  k ≤ (frames n).length ∧ ∀ m < n, (frames m).length < k

namespace Shortest

variable {f g : Nat → List Frame} {k n : Nat}

theorem of_le (enough : k ≤ (f 0).length) : Shortest f k 0 :=
  ⟨enough, fun _ shorter => absurd shorter (Nat.not_lt_zero _)⟩

/-- One item more in front. -/
theorem succ (h : Shortest f k n) {shown : List Frame} (empty : g 0 = [])
    (next : ∀ m, g (m + 1) = shown ++ f m) (asked : 0 < shown.length + k) :
    Shortest g (shown.length + k) (n + 1) := by
  refine ⟨?_, ?_⟩
  · rw [next, List.length_append]
    exact Nat.add_le_add_left h.1 _
  · intro m shorter
    cases m with
    | zero => rw [empty]; exact asked
    | succ m =>
      rw [next, List.length_append]
      exact Nat.add_lt_add_left (h.2 m (Nat.lt_of_succ_lt_succ shorter)) _

/-- One frame more in front. -/
theorem cons (h : Shortest f k n) (frame : Frame) :
    Shortest (fun m => frame :: f m) (k + 1) n :=
  ⟨Nat.succ_le_succ h.1, fun m shorter => Nat.succ_lt_succ (h.2 m shorter)⟩

end Shortest

/-! ## Reading -/

/-- A relay that reads has given a number of frames and stopped behind a prefix of its items: the
    frames are those of the prefix, no shorter one has so many, and the prefix is what has been
    handled. -/
structure StopsAt (r : Relay) (items : List Item) (b : Backend) (k n : Nat) : Prop where
  within : n ≤ (pulled items).length
  shortest : Shortest (prefixFrames r.emitErrors r.id b items) k n
  frames : ((r.over items).take k b).1.map Prod.fst =
    (prefixFrames r.emitErrors r.id b items n).take k
  backend : ((r.over items).take k b).2.2 = b.reading r.id ((pulled items).take n)

section Reading

variable (r : Relay) (b : Backend)

theorem stopsAt_zero (items : List Item) : StopsAt r items b 0 0 where
  within := Nat.zero_le _
  shortest := .of_le (Nat.zero_le _)
  frames := rfl
  backend := rfl

theorem stopsAt_nil : StopsAt r [] b 1 0 where
  within := Nat.zero_le _
  shortest := .of_le (Nat.le_refl _)
  frames := by rw [take_over_nil]; rfl
  backend := by rw [take_over_nil]; rfl

theorem stopsAt_error (failure : Completion.Failure) (rest : List Item)
    (reported : r.emitErrors = true) : StopsAt r (.error failure :: rest) b 1 1 where
  within := Nat.le_refl _
  shortest := by
    refine ⟨?_, ?_⟩
    · rw [prefixFrames_error, reported]
      exact Nat.le_refl _
    · intro m shorter
      rw [Nat.lt_one_iff.mp shorter, prefixFrames_zero]
      exact Nat.one_pos
  frames := by
    rw [take_over_error, prefixFrames_error, map_fst_pair, reported]
    rfl
  backend := by rw [take_over_error, pulled_error]; rfl

variable {event : Event} {rest : List Item} {k n : Nat}

theorem stopsAt_silent (silent : itemFrame? r.emitErrors r.id b (.ok event) = none)
    (h : StopsAt r rest (b.reading r.id [.ok event]) (k + 1) n) :
    StopsAt r (.ok event :: rest) b (k + 1) (n + 1) where
  within := Nat.succ_le_succ h.within
  shortest := by
    have longer := h.shortest.succ (prefixFrames_zero r.emitErrors r.id b (.ok event) rest)
      (prefixFrames_event r.emitErrors r.id b event rest) (Nat.add_pos_right _ k.succ_pos)
    rw [silent] at longer
    simpa using longer
  frames := by
    rw [take_over_silent r b k rest silent, h.frames, prefixFrames_event, silent]
    rfl
  backend := by
    rw [take_over_silent r b k rest silent, h.backend, pulled_ok, List.take_succ_cons,
      ← Backend.reading_cons]

theorem stopsAt_shown {frame : Frame}
    (shown : itemFrame? r.emitErrors r.id b (.ok event) = some frame)
    (h : StopsAt r rest (b.reading r.id [.ok event]) k n) :
    StopsAt r (.ok event :: rest) b (k + 1) (n + 1) where
  within := Nat.succ_le_succ h.within
  shortest := by
    have next (m : Nat) : prefixFrames r.emitErrors r.id b (.ok event :: rest) (m + 1) =
        [frame] ++ prefixFrames r.emitErrors r.id (b.reading r.id [.ok event]) rest m := by
      rw [prefixFrames_event, shown]
      rfl
    have longer := h.shortest.succ (prefixFrames_zero r.emitErrors r.id b (.ok event) rest) next
      (Nat.add_pos_left Nat.one_pos k)
    rwa [List.length_singleton, Nat.add_comm] at longer
  frames := by
    rw [take_over_shown r b k rest shown, List.map_cons, h.frames, prefixFrames_event, shown]
    rfl
  backend := by
    rw [take_over_shown r b k rest shown, h.backend, pulled_ok, List.take_succ_cons,
      ← Backend.reading_cons]

end Reading

/-- A relay that gives the frames it is asked for stops behind the shortest prefix that has
    them. -/
theorem exists_stopsAt (r : Relay) {items : List Item} {k : Nat} {b : Backend}
    (taken : ((r.over items).take k b).1.length = k) : ∃ n, StopsAt r items b k n := by
  induction items generalizing k b with
  | nil =>
    cases k with
    | zero => exact ⟨0, stopsAt_zero r b []⟩
    | succ k =>
      rw [take_over_nil] at taken
      obtain rfl : 0 = k := Nat.succ.inj taken
      exact ⟨0, stopsAt_nil r b⟩
  | cons item rest ih =>
    cases k with
    | zero => exact ⟨0, stopsAt_zero r b _⟩
    | succ k =>
      cases item with
      | error failure =>
        rw [take_over_error] at taken
        cases reported : r.emitErrors with
        | false =>
          rw [reported] at taken
          cases taken
        | true =>
          rw [reported] at taken
          obtain rfl : 0 = k := Nat.succ.inj taken
          exact ⟨1, stopsAt_error r b failure rest reported⟩
      | ok event =>
        cases made : itemFrame? r.emitErrors r.id b (.ok event) with
        | none =>
          rw [take_over_silent r b k rest made] at taken
          obtain ⟨n, h⟩ := ih taken
          exact ⟨n + 1, stopsAt_silent r b made h⟩
        | some frame =>
          rw [take_over_shown r b k rest made] at taken
          obtain ⟨n, h⟩ := ih (Nat.succ.inj taken)
          exact ⟨n + 1, stopsAt_shown r b made h⟩

/-! ## What was reported -/

/-- The record with an id holds the SQL of a response and its id, and is complete. -/
def Recorded (s : Store) (id : Uuid) (response : Response) : Prop :=
  ∃ sql q, parseOutput response.text = .ok sql ∧ s.get id = .ok (some q) ∧
    q.query = some sql ∧ q.responseId = some response.id ∧ q.status = .complete

/-- A response that is stored is recorded. -/
theorem recorded_of_verdict {b : Backend} {id : Uuid} {response : Response} {q : DynamicQuery}
    (h : b.verdict id response = .ok q) :
    Recorded (b.reading id [.ok (.completed response)]).store id response := by
  unfold Backend.verdict at h
  cases accepted : parseOutput response.text with
  | error fault =>
    rw [accepted] at h
    cases h
  | ok sql =>
    rw [accepted] at h
    have stored : (b.complete id sql response.id).1 = .ok q := by
      cases answer : (b.complete id sql response.id).1 with
      | error cause => simp [answer, Except.mapError] at h
      | ok q' => simpa [answer, Except.mapError] using h
    have kept : (b.reading id [.ok (.completed response)]).store =
        (b.complete id sql response.id).2.store := by
      simp [Backend.reading, Backend.storing, outcome?, accepted]
    obtain ⟨found, outcome⟩ := get_complete stored
    rw [Recorded, kept]
    exact ⟨sql, q, accepted, found, outcome⟩

/-- Only an item whose response is recorded makes a frame that reports it. -/
theorem recorded_of_itemFrame? {emitErrors : Bool} {id : Uuid} {b : Backend} {item : Item}
    {output : String}
    (made : itemFrame? emitErrors id b item = some (.event "response_completed" output)) :
    ∃ response, item = .ok (.completed response) ∧ response.text = output ∧
      Recorded (b.reading id [item]).store id response := by
  have noReport (message : String) :
      report? emitErrors message ≠ some (.event "response_completed" output) := by
    cases emitErrors <;> simp [report?]
  rcases item with failure | ⟨type | response⟩
  · exact absurd made (noReport _)
  · simp [itemFrame?] at made
  · unfold itemFrame? at made
    dsimp only at made
    cases verdict : b.verdict id response with
    | error message =>
      rw [verdict] at made
      exact absurd made (noReport message)
    | ok q =>
      rw [verdict] at made
      have text : response.text = output := by simpa using made
      exact ⟨response, rfl, text, recorded_of_verdict verdict⟩

/-- What is taken last stands behind everything that is too short. -/
theorem mem_of_getLast?_take {α : Type} {front back : List α} {k : Nat} {last : α}
    (short : front.length < k) (enough : k ≤ (front ++ back).length)
    (h : ((front ++ back).take k).getLast? = some last) : last ∈ back := by
  rw [List.length_append] at enough
  have reaches : back.take (k - front.length) ≠ [] := by
    apply List.ne_nil_of_length_pos
    rw [List.length_take]
    omega
  rw [List.take_append, List.take_of_length_le (Nat.le_of_lt short),
    List.getLast?_append_of_ne_nil _ reaches] at h
  exact List.mem_of_mem_take (List.mem_of_getLast? h)

/-- If the last frame reports a response, this is the last item that was pulled, and it has been
    recorded. -/
theorem StopsAt.reported {r : Relay} {items : List Item} {b : Backend} {k n : Nat}
    (h : StopsAt r items b k n) {output : String}
    (last : (((r.over items).take k b).1.map Prod.fst).getLast? =
      some (.event "response_completed" output)) :
    ∃ m response, n = m + 1 ∧ (pulled items)[m]? = some (.ok (.completed response)) ∧
      response.text = output ∧ Recorded ((r.over items).take k b).2.2.store r.id response := by
  rw [h.frames] at last
  have within := h.within
  obtain ⟨enough, shortest⟩ := h.shortest
  rw [h.backend]
  have notDone (P : Prop) [Decidable P] :
      Frame.event "response_completed" output ∉ (if P then [.event "done" ""] else []) := by
    split <;> simp
  cases n with
  | zero =>
    have inside := List.mem_of_mem_take (List.mem_of_getLast? last)
    exact absurd inside (notDone _)
  | succ m =>
    have item : (pulled items).take (m + 1) = (pulled items).take m ++ [(pulled items)[m]] :=
      List.take_succ_eq_append_getElem within
    -- Without item `m` there are too few frames, so the last one is made by it or is `done`.
    have short := shortest m m.lt_succ_self
    rw [prefixFrames, item, framesOf_append, List.append_assoc] at last enough
    rw [prefixFrames, List.length_append] at short
    have inside := mem_of_getLast?_take (Nat.lt_of_le_of_lt (Nat.le_add_right _ _) short)
      enough last
    rw [framesOf, framesOf, List.append_nil, List.mem_append, Option.mem_toList] at inside
    have made := inside.resolve_right (notDone _)
    obtain ⟨response, is, text, recorded⟩ := recorded_of_itemFrame? made
    refine ⟨m, response, rfl, ?_, text, ?_⟩
    · rw [List.getElem?_eq_getElem within, is]
    · rwa [item, Backend.reading_append]

/-! ## The whole relay -/

namespace Backend

theorem asked_handedOut (b : Backend) (request : Request) :
    (b.asked request).provider.handedOut = b.provider.handedOut := by
  unfold asked Provider.openStream
  cases b.provider.streams <;> rfl

/-- Storing does not depend on the provider. -/
theorem storing_congr {b c : Backend} (store : c.store = b.store) (supply : c.supply = b.supply)
    (id : Uuid) (outcomes : List (String × String)) :
    (c.storing id outcomes).store = (b.storing id outcomes).store ∧
      (c.storing id outcomes).supply = (b.storing id outcomes).supply := by
  induction outcomes generalizing b c with
  | nil => exact ⟨store, supply⟩
  | cons outcome rest ih =>
    apply ih <;> simp only [complete, store, supply]

end Backend

theorem Relay.heard_head (r : Relay) (b : Backend) (n : Nat) :
    ∃ rest, r.heard b n = .comment "connected" :: rest := by
  unfold heard
  cases r.script b <;> exact ⟨_, rfl⟩

/-- A relay has given a number of frames and was left behind a prefix of what can be pulled: the
    frames are those of the prefix, no shorter one has so many, and the prefix has been handed out
    and stored from.  If the last frame reports a response, that one is recorded. -/
structure LeavesAt (r : Relay) (b : Backend) (k n : Nat) : Prop where
  within : n ≤ (r.live b).length
  shortest : Shortest (r.heard b) k n
  idle : k ≤ 1 → n = 0 ∧ (r.take k b).2.2 = b
  frames : (r.take k b).1.map Prod.fst = (r.heard b n).take k
  handedOut : (r.take k b).2.2.provider.handedOut = b.provider.handedOut + n
  store : (r.take k b).2.2.store =
    (b.storing r.id (((r.live b).take n).filterMap outcome?)).store
  supply : (r.take k b).2.2.supply =
    (b.storing r.id (((r.live b).take n).filterMap outcome?)).supply
  reported : ∀ output,
    ((r.take k b).1.map Prod.fst).getLast? = some (.event "response_completed" output) →
      ∃ m response, n = m + 1 ∧ (r.live b)[m]? = some (.ok (.completed response)) ∧
        response.text = output ∧ Recorded (r.take k b).2.2.store r.id response

namespace LeavesAt

variable {r : Relay} {b : Backend}

theorem zero : LeavesAt r b 0 0 where
  within := Nat.zero_le _
  shortest := .of_le (Nat.zero_le _)
  idle _ := ⟨rfl, rfl⟩
  frames := rfl
  handedOut := rfl
  store := rfl
  supply := rfl
  reported _ last := by cases last

/-- The comment alone does not open the stream. -/
theorem one (unopened : r.phase = .unopened) : LeavesAt r b 1 0 := by
  have taken : r.take 1 b =
      ([(.comment "connected", b.provider.handedOut)], { r with phase := .connected }, b) :=
    take_unopened r unopened b 0
  have left : (r.take 1 b).2.2 = b := by rw [taken]
  obtain ⟨rest, heard⟩ := r.heard_head b 0
  exact {
    within := Nat.zero_le _
    shortest := .of_le (by rw [heard]; exact Nat.succ_le_succ (Nat.zero_le _))
    idle := fun _ => ⟨rfl, left⟩
    frames := by rw [taken, heard]; rfl
    handedOut := by rw [left]; rfl
    store := by rw [left]; rfl
    supply := by rw [left]; rfl
    reported := by
      intro output last
      rw [taken] at last
      cases last }

/-- A stream that cannot be opened has no items, and one report. -/
theorem failed (unopened : r.phase = .unopened) {failure : Completion.Failure}
    (answer : r.script b = .error failure) (reported : r.emitErrors = true) :
    LeavesAt r b 2 0 := by
  have taken : r.take 2 b =
      ([(.comment "connected", b.provider.handedOut),
        (.event "error" (faultData failure.message), (b.asked r.request).provider.handedOut)],
        { r with phase := .ended }, b.asked r.request) := by
    rw [take_unopened r unopened, take_connected _ rfl]
    dsimp only [Relay.script_phase]
    rw [answer, reported]
    rfl
  have left : (r.take 2 b).2.2 = b.asked r.request := by rw [taken]
  have heard :
      r.heard b 0 = [.comment "connected", .event "error" (faultData failure.message)] := by
    rw [Relay.heard, answer, reported]
    rfl
  exact {
    within := Nat.zero_le _
    shortest := .of_le (by rw [heard]; exact Nat.le_refl _)
    idle := fun few => absurd few (by decide)
    frames := by rw [taken, heard]; rfl
    handedOut := by rw [left]; exact Backend.asked_handedOut b r.request
    store := by rw [left]; rfl
    supply := by rw [left]; rfl
    reported := by
      intro output last
      rw [taken] at last
      simp at last }

/-- Behind the comment stand the frames that are taken while reading. -/
theorem reading (unopened : r.phase = .unopened) {items : List Item}
    (answer : r.script b = .ok items) {k n : Nat}
    (h : StopsAt { r with phase := .connected } items (b.asked r.request) (k + 1) n) :
    LeavesAt r b (k + 2) n := by
  have taken : r.take (k + 2) b =
      ((.comment "connected", b.provider.handedOut) ::
          ((r.over items).take (k + 1) (b.asked r.request)).1,
        ((r.over items).take (k + 1) (b.asked r.request)).2) := by
    rw [take_unopened r unopened, take_connected _ rfl]
    dsimp only [Relay.script_phase]
    rw [answer]
    rfl
  have live : r.live b = pulled items := by
    rw [Relay.live, answer]
    rfl
  have heard : r.heard b = fun m =>
      .comment "connected" :: prefixFrames r.emitErrors r.id (b.asked r.request) items m := by
    unfold Relay.heard
    rw [answer]
  have within : n ≤ (r.live b).length := by
    rw [live]
    exact h.within
  have left : (r.take (k + 2) b).2.2 =
      (b.asked r.request).reading r.id ((r.live b).take n) := by
    rw [taken, live]
    exact h.backend
  have stored := Backend.storing_congr (b := b) (c := b.asked r.request) rfl rfl r.id
    (((r.live b).take n).filterMap outcome?)
  exact {
    within := within
    shortest := by
      rw [heard]
      exact h.shortest.cons (.comment "connected")
    idle := fun few => absurd few (by omega)
    frames := by
      rw [taken, heard, List.map_cons, List.take_succ_cons]
      exact congrArg (.comment "connected" :: ·) h.frames
    handedOut := by
      rw [left, Backend.reading_handedOut, Backend.asked_handedOut,
        List.length_take_of_le within]
    store := by
      rw [left]
      exact stored.1
    supply := by
      rw [left]
      exact stored.2
    reported := by
      intro output last
      rw [live, taken]
      rw [taken, List.map_cons, List.getLast?_cons, Option.some.injEq] at last
      cases behind :
          (((r.over items).take (k + 1) (b.asked r.request)).1.map Prod.fst).getLast? with
      | none =>
        rw [behind] at last
        cases last
      | some frame =>
        rw [behind, Option.getD_some] at last
        rw [last] at behind
        exact h.reported behind }

/-- The store a later item would find is the one that was left, once the items between have been
    stored from. -/
theorem later {k n j : Nat} (h : LeavesAt r b k n) (behind : n ≤ j) :
    (b.storing r.id (((r.live b).take j).filterMap outcome?)).store =
      ((r.take k b).2.2.storing r.id
        ((((r.live b).take j).drop n).filterMap outcome?)).store := by
  have split := List.take_append_drop n ((r.live b).take j)
  rw [List.take_take, Nat.min_eq_left behind] at split
  calc (b.storing r.id (((r.live b).take j).filterMap outcome?)).store
      = ((b.storing r.id (((r.live b).take n).filterMap outcome?)).storing r.id
          ((((r.live b).take j).drop n).filterMap outcome?)).store := by
        rw [← Backend.storing_append, ← List.filterMap_append, split]
    _ = _ := (Backend.storing_congr h.store h.supply r.id _).1.symm

end LeavesAt

/-- A relay that gives the frames it is asked for is left behind the shortest prefix that has
    them. -/
theorem exists_leavesAt {r : Relay} (unopened : r.phase = .unopened) {b : Backend} {k : Nat}
    (taken : (r.take k b).1.length = k) : ∃ n, LeavesAt r b k n := by
  match k with
  | 0 => exact ⟨0, .zero⟩
  | 1 => exact ⟨0, .one unopened⟩
  | k + 2 =>
    -- Only the second frame opens the stream.
    rw [take_unopened r unopened, take_connected _ rfl] at taken
    have rest := Nat.succ.inj taken
    dsimp only [Relay.script_phase] at rest
    cases answer : r.script b with
    | error failure =>
      rw [answer] at rest
      cases reported : r.emitErrors with
      | false =>
        rw [reported] at rest
        cases rest
      | true =>
        rw [reported] at rest
        obtain rfl : 0 = k := Nat.succ.inj rest
        exact ⟨0, .failed unopened answer reported⟩
    | ok items =>
      rw [answer] at rest
      obtain ⟨n, h⟩ := exists_stopsAt _ rest
      exact ⟨n, .reading unopened answer h⟩

/-- A client that takes a number of frames and leaves has had the shortest prefix pulled that gives
    them, and none for the comment.  The store has been asked to complete the record for the
    accepted terminal events of that prefix, in order.  If the last frame reports a response, the
    record holds it.  A later item is one that the store has not been asked about: what it would
    find is what was left, and the outcomes that would have come before it. -/
theorem take_shortest_prefix (id : Uuid) (request : Request) (emitErrors : Bool) (b : Backend)
    (k : Nat)
    (taken : ((Relay.mk id request emitErrors .unopened).take k b).1.length = k) :
    let relay : Relay := ⟨id, request, emitErrors, .unopened⟩
    let frames := (relay.take k b).1.map Prod.fst
    let left := (relay.take k b).2.2
    ∃ n ≤ (relay.live b).length,
      Shortest (relay.heard b) k n ∧ (k ≤ 1 → n = 0 ∧ left = b) ∧
      frames = (relay.heard b n).take k ∧
      left.provider.handedOut = b.provider.handedOut + n ∧
      left.store = (b.storing id (((relay.live b).take n).filterMap outcome?)).store ∧
      (∀ output, frames.getLast? = some (.event "response_completed" output) →
        ∃ m response, n = m + 1 ∧ (relay.live b)[m]? = some (.ok (.completed response)) ∧
          response.text = output ∧ Recorded left.store id response) ∧
      ∀ j, n ≤ j →
        (b.storing id (((relay.live b).take j).filterMap outcome?)).store =
          (left.storing id ((((relay.live b).take j).drop n).filterMap outcome?)).store := by
  intro relay frames left
  obtain ⟨n, h⟩ := exists_leavesAt (r := relay) rfl taken
  exact ⟨n, h.within, h.shortest, h.idle, h.frames, h.handedOut, h.store, h.reported,
    fun j => h.later⟩

/-- The output of a response. -/
def salesOutput : String := "\x7b\"sql_query\": \"SELECT sum(price) FROM sales\"\x7d"

/-- A store with a record, and a stream with a response between two other events. -/
def salesBackend : Backend where
  store := ⟨[Row.ofRecord (.fresh (.ofNat 1) "Sales" "total sales" earlyTime)], none⟩
  provider := .scripted [] [.ok [.ok (.progress "response.created"),
    .ok (.completed ⟨"resp_1", salesOutput⟩), .ok (.progress "response.audit")]]
  supply := .counting 2 earlyTime

/-- A request for a stream. -/
def salesRequest : Request :=
  ⟨"gpt-5-mini", instructions, "total sales", outputSchema, [], none⟩

/-- What a client that takes three frames and leaves has been given and has left. -/
def salesVisit : List (Frame × Nat) × Relay × Backend :=
  (Relay.mk (.ofNat 1) salesRequest false .unopened).take 3 salesBackend

/-- The client has had two items pulled, and the response that was reported is in the store. -/
theorem salesVisit_recorded :
    salesVisit.1.length = 3 ∧ salesVisit.2.2.provider.handedOut = 2 ∧
      ∃ response : Response, response.text = salesOutput ∧
        Recorded salesVisit.2.2.store (.ofNat 1) response := by
  have taken : salesVisit.1.length = 3 := by decide +kernel
  have handedOut : salesVisit.2.2.provider.handedOut = 2 := by decide +kernel
  have last : (salesVisit.1.map Prod.fst).getLast? =
      some (.event "response_completed" salesOutput) := by
    decide +kernel
  obtain ⟨n, -, -, -, -, -, -, reported, -⟩ :=
    take_shortest_prefix (.ofNat 1) salesRequest false salesBackend 3 taken
  obtain ⟨m, response, -, -, text, recorded⟩ := reported salesOutput last
  refine ⟨taken, handedOut, response, text, ?_⟩
  unfold salesVisit
  exact recorded

end QueryDesk.Generation
