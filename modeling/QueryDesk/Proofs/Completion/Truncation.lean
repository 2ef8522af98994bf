import QueryDesk.Proofs.Completion.Transmission
import QueryDesk.Proofs.EventStream.Truncation
import QueryDesk.Proofs.Generation.Delivery
import QueryDesk.Proofs.Json.Truncation

/-!
# Bodies that are cut off

A client that gets a part of a body gets a part of its events, from the front, and then perhaps a
failure (`events_of_truncated_body`).  What is left behind the last whole block gives no event, or
that of the block: its data is a stump of an object's text, which is read as that object or not at
all.  A relay of such a stream asks the store for no more than one of the whole stream.
-/

namespace QueryDesk.Completion.Responses

open QueryDesk.EventStream QueryDesk.Generation QueryDesk.Json QueryDesk.Text
open QueryDesk.EventStream.Decoder

/-! ## Frames of objects that are cut off -/

/-- A block whose data is an object with a type. -/
def Typed (b : Block) : Prop :=
  ∃ members type, Value.parse b.data = .ok (.object members) ∧
    members.lookup "type" = some (.string type)

/-- The name of a frame does not matter for a payload with a type. -/
theorem payloadEvent_of_type {members : List (String × Value)} {type : String}
    (typed : members.lookup "type" = some (.string type)) (name name' : String) :
    payloadEvent name (.object members) = payloadEvent name' (.object members) := by
  simp [payloadEvent, Value.member?, typed, Value.text?]

/-- Data that is neither empty nor the end mark is read as a payload. -/
theorem frameEvent_of_parse {data : String} {payload : Value} (filled : data ≠ "")
    (unmarked : data ≠ "[DONE]") (read : Value.parse data = .ok payload) (name : String) :
    frameEvent (.event name data) = (payloadEvent name payload).map some := by
  simp [frameEvent, filled, unmarked, read]

/-- A frame with a stump of a block's data fails, has no event, or has that of the block. -/
theorem frameEvent_of_stump {b : Block} (typed : Typed b) {part : String}
    (cut : Stump b.data.toList part.toList) (name : String) :
    (∃ failure, frameEvent (.event name part) = .error failure) ∨
      frameEvent (.event name part) = .ok none ∨
      ∃ frame, b.frame? = some frame ∧ frameEvent (.event name part) = frameEvent frame := by
  obtain ⟨members, type, read, known⟩ := typed
  have filled : b.data ≠ "" := by
    intro empty
    rw [empty] at read
    cases read
  have unmarked : b.data ≠ "[DONE]" := by
    intro mark
    rw [mark] at read
    cases read
  have frame : b.frame? = some (.event (b.name?.getD "message") b.data) := by
    have values : b.values ≠ [] := by
      intro none_there
      exact filled (by rw [Block.data, none_there]; rfl)
    simp [Block.frame?, values]
  by_cases skipped : part = "" ∨ part = "[DONE]"
  · right
    left
    rcases skipped with rfl | rfl <;> rfl
  · rw [not_or] at skipped
    cases read' : Value.parse part with
    | error fault =>
      left
      simp [frameEvent, skipped, read']
    | ok payload =>
      have same := parse_stump cut read read'
      subst same
      right
      right
      refine ⟨_, frame, ?_⟩
      rw [frameEvent_of_parse skipped.1 skipped.2 read',
        frameEvent_of_parse filled unmarked read, payloadEvent_of_type known]

/-! ## Items of bodies -/

/-- Items end with their first failure. -/
theorem pulled_frameItems (frames : List Frame) {after : List Item} (ended : pulled after = after) :
    pulled (frameItems frames after) = frameItems frames after := by
  induction frames with
  | nil => exact ended
  | cons frame rest ih =>
    rw [frameItems]
    split
    · rfl
    · exact ih
    · rw [pulled_ok, ih]

theorem pulled_bodyItems (chunks : List Bytes) (complete : Bool) :
    pulled (bodyItems chunks complete) = bodyItems chunks complete := by
  unfold bodyItems
  dsimp only
  split
  · exact pulled_frameItems _ rfl
  · exact pulled_frameItems _ rfl

/-- The events of such items are those before the failure. -/
theorem filterMap_toOption_eq {items : List Item} (ended : pulled items = items) :
    items.filterMap Except.toOption = eventsOf items := by
  have all : (pulled items).filterMap Except.toOption = eventsOf items := by
    rw [pulled, List.filterMap_append, List.filterMap_map, List.filterMap_map]
    have events : (eventsOf items).filterMap (Except.toOption ∘ Except.ok (ε := Failure)) =
        eventsOf items := List.filterMap_some
    have failures : (failure? items).toList.filterMap
        (Except.toOption ∘ Except.error (α := Event)) = [] := by
      cases failure? items <;> rfl
    rw [events, failures, List.append_nil]
  rwa [ended] at all

/-- More frames behind some make more events behind theirs. -/
theorem eventsOf_frameItems_append (frames more : List Frame) (after : List Item) :
    eventsOf (frameItems frames []) <+: eventsOf (frameItems (frames ++ more) after) := by
  induction frames with
  | nil => exact List.nil_prefix
  | cons frame rest ih =>
    rw [List.cons_append, frameItems, frameItems]
    split
    · exact List.prefix_rfl
    · exact ih
    · exact List.cons_prefix_cons.2 ⟨rfl, ih⟩

/-- A failure behind some frames adds no event to theirs. -/
theorem eventsOf_frameItems_error (frames : List Frame) (failure : Failure) :
    eventsOf (frameItems frames [.error failure]) = eventsOf (frameItems frames []) := by
  induction frames with
  | nil => rfl
  | cons frame rest ih =>
    rw [frameItems, frameItems]
    split
    · rfl
    · exact ih
    · exact congrArg (_ :: ·) ih

/-- Nor does a last frame that fails or has no event. -/
theorem eventsOf_frameItems_concat (frames : List Frame) {frame : Frame}
    (silent : (∃ failure, frameEvent frame = .error failure) ∨ frameEvent frame = .ok none) :
    eventsOf (frameItems (frames ++ [frame]) []) = eventsOf (frameItems frames []) := by
  induction frames with
  | nil =>
    rcases silent with ⟨failure, fails⟩ | none_there
    · simp only [List.nil_append, frameItems, fails]
      rfl
    · simp only [List.nil_append, frameItems, none_there]
  | cons first rest ih =>
    rw [List.cons_append, frameItems, frameItems]
    split
    · rfl
    · exact ih
    · exact congrArg (_ :: ·) ih

/-- Frames count by their events. -/
theorem frameItems_concat_congr (frames : List Frame) {frame frame' : Frame}
    (same : frameEvent frame = frameEvent frame') (after : List Item) :
    frameItems (frames ++ [frame]) after = frameItems (frames ++ [frame']) after := by
  induction frames with
  | nil => simp only [List.nil_append, frameItems, same]
  | cons first rest ih => simp only [List.cons_append, frameItems, ih]

/-- The items of a whole body of blocks. -/
theorem bodyItems_blocks {blocks : List Block} {whole : List Bytes}
    (all : whole.flatten = blocks.flatMap Block.octets) :
    bodyItems whole true = frameItems (blocks.filterMap Block.frame?) [] := by
  have finish : new.finish.2 = none := rfl
  simp only [bodyItems, pushAll_new, all, push_blocks, finish, if_true,
    Option.toList_none, List.append_nil]

/-- The events of a body that is cut off are the first ones of the whole body. -/
theorem eventsOf_bodyItems_cut {blocks : List Block} (typed : ∀ b ∈ blocks, Typed b)
    {chunks whole : List Bytes} (cut : chunks.flatten <+: blocks.flatMap Block.octets)
    (all : whole.flatten = blocks.flatMap Block.octets) (complete : Bool) :
    eventsOf (bodyItems chunks complete) <+: eventsOf (bodyItems whole true) := by
  obtain ⟨front, back, d, rfl, pushed, finishes⟩ := exists_push_cut cut
  have pushedAll : new.pushAll chunks = (d, front.filterMap Block.frame?) := by
    rw [pushAll_new, pushed]
  rw [bodyItems_blocks all, List.filterMap_append]
  have whole_blocks := eventsOf_frameItems_append (front.filterMap Block.frame?)
    (back.filterMap Block.frame?) []
  cases complete with
  | false =>
    have items : bodyItems chunks false =
        frameItems (front.filterMap Block.frame?) [.error .transport] := by
      simp only [bodyItems, pushedAll, Bool.false_eq_true, if_false]
    rw [items, eventsOf_frameItems_error]
    exact whole_blocks
  | true =>
    have items : bodyItems chunks true =
        frameItems (front.filterMap Block.frame? ++ d.finish.2.toList) [] := by
      simp only [bodyItems, pushedAll, if_true]
    rw [items]
    cases made : d.finish.2 with
    | none =>
      rw [Option.toList_none, List.append_nil]
      exact whole_blocks
    | some frame =>
      obtain ⟨b, rest, name, part, rfl, rfl, stump⟩ := finishes frame made
      have here : Typed b := typed b (by simp)
      rw [Option.toList_some]
      rcases frameEvent_of_stump here stump name with fails | none_there | ⟨frame, stands, same⟩
      · rw [eventsOf_frameItems_concat _ (.inl fails)]
        exact whole_blocks
      · rw [eventsOf_frameItems_concat _ (.inr none_there)]
        exact whole_blocks
      · have split : front.filterMap Block.frame? ++ (b :: rest).filterMap Block.frame? =
            (front.filterMap Block.frame? ++ [frame]) ++ rest.filterMap Block.frame? := by
          rw [List.filterMap_cons_some stands, List.append_assoc]
          rfl
        rw [split, frameItems_concat_congr _ same]
        exact eventsOf_frameItems_append _ _ _

/-! ## A relay of a body that is cut off -/

/-- A failure is not stored. -/
theorem storedOf_pulled (b : Backend) (id : Record.Uuid) (items : List Item) :
    storedOf id b (pulled items) = storedOf id b ((eventsOf items).map .ok) := by
  rw [pulled, storedOf_append]
  cases failure? items with
  | none => exact List.append_nil _
  | some failure => exact List.append_nil _

/-- A failure asks nothing of the store. -/
theorem outcomes_pulled (items : List Item) :
    (pulled items).filterMap outcome? = ((eventsOf items).map Except.ok).filterMap outcome? := by
  rw [pulled, List.filterMap_append]
  cases failure? items with
  | none => exact List.append_nil _
  | some failure => exact List.append_nil _

/-- A relay of a stream reports the responses that are stored, and leaves the store that has been
    asked to store the outcomes. -/
theorem drain_scripting (b : Backend) (id : Record.Uuid) (request : Request) (emitErrors : Bool)
    (items : List Item) :
    let run := (Relay.mk id request emitErrors .unopened).drain (scripting b (.ok items))
    dataOf "response_completed" (run.1.map Prod.fst) =
        (storedOf id b (pulled items)).map (·.text) ∧
      run.2.store = (b.storing id ((pulled items).filterMap outcome?)).store := by
  intro run
  let provider := ((scripting b (.ok items)).provider.openStream request).2
  have asked : (scripting b (.ok items)).asked request = { b with provider := provider } := rfl
  have script : itemsOf (.ok items) = items := rfl
  obtain ⟨frames, left, -⟩ := drain_unopened ⟨id, request, emitErrors, .unopened⟩ rfl
    (scripting b (.ok items))
  rw [Relay.script, openStream_scripting, asked, script] at left
  rw [Relay.script, openStream_scripting, asked] at frames
  constructor
  · rw [frames, dataOf_transcript_completed, script, storedOf_with_provider]
  · rw [left, Backend.reading, Backend.storing_with_provider]

/-- A client that gets a part of a body, in any chunks, gets the first events of the whole body:
    none is made up, wherever the body is cut off and whether or not it then counts as complete.
    A relay of the part stores the first responses of those that a relay of the whole body stores,
    and reports them. -/
theorem events_of_truncated_body {blocks : List Block} (typed : ∀ b ∈ blocks, Typed b)
    {chunks whole : List Bytes} (cut : chunks.flatten <+: blocks.flatMap Block.octets)
    (all : whole.flatten = blocks.flatMap Block.octets) (complete : Bool) :
    let items := bodyItems chunks complete
    let allItems := bodyItems whole true
    items.filterMap Except.toOption <+: allItems.filterMap Except.toOption ∧
      ∀ (b : Backend) (id : Record.Uuid) (request : Request) (emitErrors : Bool),
        let run (items : List Item) :=
          (Relay.mk id request emitErrors .unopened).drain (scripting b (.ok items))
        storedOf id b items <+: storedOf id b allItems ∧
          items.filterMap outcome? <+: allItems.filterMap outcome? ∧
          ∀ given ∈ [items, allItems],
            dataOf "response_completed" ((run given).1.map Prod.fst) =
                (storedOf id b given).map (·.text) ∧
              (run given).2.store = (b.storing id (given.filterMap outcome?)).store := by
  intro items allItems
  have ended : pulled items = items := pulled_bodyItems chunks complete
  have allEnded : pulled allItems = allItems := pulled_bodyItems whole true
  obtain ⟨more, events⟩ : eventsOf items <+: eventsOf allItems :=
    eventsOf_bodyItems_cut typed cut all complete
  refine ⟨?_, ?_⟩
  · rw [filterMap_toOption_eq ended, filterMap_toOption_eq allEnded]
    exact ⟨more, events⟩
  intro b id request emitErrors run
  refine ⟨?_, ?_, ?_⟩
  · rw [← ended, ← allEnded, storedOf_pulled, storedOf_pulled, ← events, List.map_append,
      storedOf_append]
    exact List.prefix_append _ _
  · rw [← ended, ← allEnded, outcomes_pulled, outcomes_pulled, ← events, List.map_append,
      List.filterMap_append]
    exact List.prefix_append _ _
  · intro given member
    have whole_given : pulled given = given := by
      simp only [List.mem_cons, List.not_mem_nil, or_false] at member
      rcases member with rfl | rfl
      · exact ended
      · exact allEnded
    have said := drain_scripting b id request emitErrors given
    rw [whole_given] at said
    exact said

theorem typed_payloadBlock {event : Event} (ordinary : Ordinary event) (ending : LineEnd) :
    Typed (payloadBlock (payloadOf event) ending) := by
  have values := values_payloadBlock (carries_payloadOf ordinary) ending
  have data : (payloadBlock (payloadOf event) ending).data = (payloadOf event).render := by
    simp [Block.data, values]
  rw [Typed, data, parse_payloadOf]
  cases event with
  | progress type => exact ⟨_, _, rfl, rfl⟩
  | completed c => exact ⟨_, _, rfl, rfl⟩

/-- A body of two events. -/
def menuBlocks : List Block :=
  eventBlocks [.progress "response.created", .completed ⟨"café_1", "Espresso"⟩] .returnFeed

/-- What arrives when the body is cut off inside a letter of the answer's name. -/
def menuPart : Bytes :=
  (menuBlocks.flatMap Block.octets).take 92

/-- The first event is read, and the second one is not. -/
theorem menuPart_events :
    (∀ b ∈ menuBlocks, Typed b) ∧
      [menuPart].flatten <+: menuBlocks.flatMap Block.octets ∧
      (bodyItems [menuPart] true).filterMap Except.toOption = [.progress "response.created"] ∧
      (bodyItems [menuPart] true).filterMap Except.toOption <+:
        (bodyItems [menuBlocks.flatMap Block.octets] true).filterMap Except.toOption := by
  have typed : ∀ b ∈ menuBlocks, Typed b := by
    have created : Ordinary (.progress "response.created") := ⟨by decide, by decide⟩
    have completed : Ordinary (.completed ⟨"café_1", "Espresso"⟩) := trivial
    simp only [menuBlocks, eventBlocks, List.map_cons, List.map_nil, List.forall_mem_cons]
    refine ⟨typed_payloadBlock created _, typed_payloadBlock completed _, ?_⟩
    exact List.forall_mem_nil _
  have cut : [menuPart].flatten <+: menuBlocks.flatMap Block.octets := by
    rw [List.flatten_singleton]
    exact List.take_prefix _ _
  have events :
      (bodyItems [menuPart] true).filterMap Except.toOption = [.progress "response.created"] := by
    decide +kernel
  exact ⟨typed, cut, events,
    (events_of_truncated_body typed cut (List.flatten_singleton) true).1⟩

end QueryDesk.Completion.Responses
