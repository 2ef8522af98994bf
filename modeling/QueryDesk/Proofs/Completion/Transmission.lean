import QueryDesk.Completion.Responses
import QueryDesk.Generation.Instructions
import QueryDesk.Proofs.EventStream.Body
import QueryDesk.Proofs.Generation.Transcript
import QueryDesk.Proofs.Json.ReadBack

/-!
# A body stands for its events

A body transmits events when its blocks carry them in order: the data of a block is the compact
text of a payload of the event's type, and the payload of a terminal event holds the response.
Blocks without data and end marks may stand between them, and comments anywhere.

Whoever reads such a body, in whatever chunks it comes, gets the events and nothing else, and a
relay that reads it does what one does that is given the events (`transmission_relayed`).  Every
list of events has such a body (`exists_transmission`).
-/

namespace QueryDesk.Completion.Responses

open QueryDesk.EventStream QueryDesk.Generation QueryDesk.Http QueryDesk.Json QueryDesk.Text
open QueryDesk.EventStream.Decoder

/-! ## What payloads carry -/

/-- What a part of a message says; only its output texts say something. -/
inductive PartSays : Value → String → Prop
  | spoken {part : Value} {text : String}
      (typed : part.member? "type" = some (.string "output_text"))
      (said : part.member? "text" = some (.string text)) : PartSays part text
  | silent {part : Value} (typed : part.member? "type" ≠ some (.string "output_text")) :
      PartSays part ""

/-- What an output item says; only messages say something. -/
inductive ItemSays : Value → String → Prop
  | spoken {item : Value} {parts : List Value} {texts : List String}
      (typed : item.member? "type" = some (.string "message"))
      (content : item.member? "content" = some (.array parts))
      (said : List.Forall₂ PartSays parts texts) : ItemSays item (String.join texts)
  | silent {item : Value} (typed : item.member? "type" ≠ some (.string "message")) :
      ItemSays item ""

/-- A value that holds a response: its id, no error, and items that say its text. -/
structure Holds (value : Value) (c : Response) : Prop where
  id : value.member? "id" = some (.string c.id)
  sound : value.member? "error" = none ∨ value.member? "error" = some .null
  output : ∃ items texts, value.member? "output" = some (.array items) ∧
    List.Forall₂ ItemSays items texts ∧ String.join texts = c.text

/-- A payload of an event: it has the event's type, and holds the response of a terminal one. -/
inductive Carries (payload : Value) : Event → Prop
  | progress {type : String} (typed : payload.member? "type" = some (.string type))
      (running : type ≠ completedType) (sound : type ≠ "error") : Carries payload (.progress type)
  | completed {c : Response} {value : Value}
      (typed : payload.member? "type" = some (.string completedType))
      (response : payload.member? "response" = some value) (holds : Holds value c) :
      Carries payload (.completed c)

theorem hasType_iff {type : String} {v : Value} :
    hasType type v = true ↔ v.member? "type" = some (.string type) := by
  unfold hasType
  rw [beq_iff_eq]
  cases v.member? "type" with
  | none => simp
  | some found => cases found <;> simp [Value.text?]

theorem PartSays.partText {part : Value} {text : String} (h : PartSays part text) :
    partText part = text := by
  unfold Responses.partText
  cases h with
  | spoken typed said => simp [hasType_iff.2 typed, said, Value.text?]
  | silent typed =>
    rw [if_neg]
    rw [hasType_iff]
    exact typed

theorem ItemSays.itemText {item : Value} {text : String} (h : ItemSays item text) :
    itemText item = text := by
  unfold Responses.itemText
  cases h with
  | @spoken parts texts typed content said =>
    have spoken : parts.map Responses.partText = texts := by
      rw [← List.forall₂_eq_eq_eq, List.forall₂_map_left_iff]
      exact said.imp fun _ _ part => part.partText
    simp [hasType_iff.2 typed, listMember, content, Value.items?, spoken]
  | silent typed =>
    rw [if_neg]
    rw [hasType_iff]
    exact typed

theorem Holds.outputText {value : Value} {c : Response} (h : Holds value c) :
    outputText value = c.text := by
  obtain ⟨items, texts, output, said, whole⟩ := h.output
  have spoken : items.map Responses.itemText = texts := by
    rw [← List.forall₂_eq_eq_eq, List.forall₂_map_left_iff]
    exact said.imp fun _ _ item => item.itemText
  simp [Responses.outputText, listMember, output, Value.items?, spoken, whole]

theorem Holds.responseOf {value : Value} {c : Response} (h : Holds value c) :
    responseOf value = .ok c := by
  have sound : error? value = none := by
    rcases h.sound with absent | null
    · simp [error?, absent]
    · simp [error?, null]
  simp [Responses.responseOf, sound, h.id, Value.text?, h.outputText]

/-- A payload is read as its event, whatever the name of the frame. -/
theorem Carries.payloadEvent {payload : Value} {event : Event} (h : Carries payload event)
    (name : String) : payloadEvent name payload = .ok event := by
  unfold Responses.payloadEvent
  cases h with
  | progress typed running sound => simp [typed, Value.text?, running, sound]
  | completed typed response holds =>
    simp [typed, Value.text?, response, holds.responseOf, Except.map]

/-- A payload is an object, so its text is neither empty nor the end mark. -/
theorem Carries.render {payload : Value} {event : Event} (h : Carries payload event) :
    ∃ rest, payload.render.toList = '\x7b' :: rest := by
  have typed : ∃ v, payload.member? "type" = some v := by
    cases h with
    | progress typed _ _ => exact ⟨_, typed⟩
    | completed typed _ _ => exact ⟨_, typed⟩
  obtain ⟨v, typed⟩ := typed
  unfold Value.member? at typed
  split at typed
  · rename_i members
    exact ⟨_, by rw [Value.render, String.toList_ofList, Value.chars]⟩
  · cases typed

/-! ## What bodies transmit -/

/-- A block that stands for no event: it has no data, or the end mark. -/
def Silent (b : Block) : Prop :=
  b.data = "" ∨ b.data = "[DONE]"

/-- Blocks that transmit events: some are silent, and each other one has one line of data, the
    compact text of a payload of the next event, which is read back. -/
inductive Transmits : List Block → List Event → Prop
  | nil : Transmits [] []
  | silent {b : Block} {blocks : List Block} {events : List Event} (silent : Silent b)
      (rest : Transmits blocks events) : Transmits (b :: blocks) events
  | cons {b : Block} {blocks : List Block} {payload : Value} {event : Event} {events : List Event}
      (carries : Carries payload event) (readable : Value.parse payload.render = .ok payload)
      (written : b.values = [payload.render]) (rest : Transmits blocks events) :
      Transmits (b :: blocks) (event :: events)

/-- A body that transmits events: blocks, and comments behind the last one. -/
structure Transmission (events : List Event) where
  blocks : List Block
  comments : List (LineText × LineEnd)
  transmits : Transmits blocks events

namespace Transmission

/-- The comments behind the last block. -/
def commentLines {events : List Event} (t : Transmission events) : List Line :=
  t.comments.map fun (text, ending) => ⟨(Field.comment text).text, ending⟩

/-- The octets of a body. -/
def octets {events : List Event} (t : Transmission events) : Bytes :=
  t.blocks.flatMap Block.octets ++ t.commentLines.flatMap Line.octets

end Transmission

/-- The frame of a silent block is passed over. -/
theorem frameEvent_of_silent {b : Block} (silent : Silent b) {frame : Frame}
    (stands : b.frame? = some frame) : frameEvent frame = .ok none := by
  unfold Block.frame? at stands
  split at stands
  · cases stands
  · cases stands
    rcases silent with empty | mark
    · simp [frameEvent, empty]
    · simp [frameEvent, mark]

/-- A block with a payload is read as the event that the payload carries. -/
theorem exists_frame_of_carries {b : Block} {payload : Value} {event : Event}
    (carries : Carries payload event) (readable : Value.parse payload.render = .ok payload)
    (written : b.values = [payload.render]) :
    ∃ frame, b.frame? = some frame ∧ frameEvent frame = .ok (some event) := by
  obtain ⟨rest, text⟩ := carries.render
  have filled : payload.render ≠ "" := by
    intro empty
    rw [empty] at text
    cases text
  have unmarked : payload.render ≠ "[DONE]" := by
    intro mark
    rw [mark] at text
    cases text
  have data : b.data = payload.render := by simp [Block.data, written]
  refine ⟨.event (b.name?.getD "message") payload.render, ?_, ?_⟩
  · simp [Block.frame?, written, data]
  · simp [frameEvent, filled, unmarked, readable, carries.payloadEvent, Except.map]

/-- The frames of blocks that transmit events are read as these events. -/
theorem frameItems_of_transmits {blocks : List Block} {events : List Event}
    (h : Transmits blocks events) :
    frameItems (blocks.filterMap Block.frame?) [] = events.map .ok := by
  induction h with
  | nil => rfl
  | @silent b blocks events silent _ ih =>
    cases stands : b.frame? with
    | none => rw [List.filterMap_cons_none stands, ih]
    | some frame =>
      rw [List.filterMap_cons_some stands, frameItems, frameEvent_of_silent silent stands]
      exact ih
  | cons carries readable written _ ih =>
    obtain ⟨frame, stands, read⟩ := exists_frame_of_carries carries readable written
    rw [List.filterMap_cons_some stands, frameItems, read]
    dsimp only
    rw [ih, List.map_cons]

/-- Comments leave a new decoder as it is. -/
theorem push_comments (comments : List (LineText × LineEnd)) :
    new.push ((comments.map fun (text, ending) =>
      (⟨(Field.comment text).text, ending⟩ : Line)).flatMap Line.octets) = (new, []) := by
  have texts : (comments.map fun (text, ending) =>
      (⟨(Field.comment text).text, ending⟩ : Line)).map (·.text.chars) =
        (comments.map (Field.comment ·.1)).map Field.chars := by
    rw [List.map_map, List.map_map]
    rfl
  have names : (comments.map (Field.comment ·.1)).filterMap Field.name? = [] := by
    simp [Field.name?]
  have data : (comments.map (Field.comment ·.1)).filterMap Field.datum? = [] := by
    simp [Field.datum?]
  rw [push_flatMap_octets rfl, texts, readLines_fields, names, data]
  rfl

/-- A body is read as the events that it transmits, in whatever chunks it comes. -/
theorem bodyItems_of_transmission {events : List Event} (t : Transmission events)
    {chunks : List Bytes} (cut : chunks.flatten = t.octets) :
    bodyItems chunks true = events.map .ok := by
  have read : new.pushAll chunks = (new, t.blocks.filterMap Block.frame?) := by
    rw [pushAll_new, cut, Transmission.octets, push_append, push_blocks]
    dsimp only
    rw [Transmission.commentLines, push_comments, List.append_nil]
  have finish : new.finish.2 = none := rfl
  simp only [bodyItems, read, finish, if_true, Option.toList_none, List.append_nil]
  exact frameItems_of_transmits t.transmits

/-! ## Every list of events is transmitted -/

/-- A response as its provider writes it, with one part of text in one message. -/
def responseValue (c : Response) : Value :=
  .object [("id", .string c.id), ("output", .array [.object [("type", .string "message"),
    ("content", .array [.object [("type", .string "output_text"), ("text", .string c.text)]])]])]

/-- A payload of an event. -/
def payloadOf : Event → Value
  | .progress type => .object [("type", .string type)]
  | .completed c => .object [("type", .string completedType), ("response", responseValue c)]

/-- An event whose type is read as its own. -/
def Ordinary : Event → Prop
  | .progress type => type ≠ completedType ∧ type ≠ "error"
  | .completed _ => True

theorem holds_responseValue (c : Response) : Holds (responseValue c) c where
  id := rfl
  sound := .inl rfl
  output := by
    refine ⟨_, [String.join [c.text]], rfl, ?_, by simp [String.join]⟩
    refine .cons (.spoken rfl rfl ?_) .nil
    exact .cons (.spoken rfl rfl) .nil

theorem carries_payloadOf {event : Event} (ordinary : Ordinary event) :
    Carries (payloadOf event) event := by
  cases event with
  | progress type => exact .progress rfl ordinary.1 ordinary.2
  | completed c => exact .completed rfl rfl (holds_responseValue c)

theorem parse_payloadOf (event : Event) :
    Value.parse (payloadOf event).render = .ok (payloadOf event) := by
  cases event with
  | progress type => exact Value.parse_render rfl rfl (show 1 ≤ maxNesting by decide)
  | completed c => exact Value.parse_render rfl rfl (show 6 ≤ maxNesting by decide)

/-- The text of a payload on one line. -/
def payloadText (payload : Value) : LineText where
  chars := payload.chars
  inline := by
    intro c member
    have printed : 0x20 ≤ c.toNat := payload.printed_of_mem_chars member
    constructor
    · rintro rfl
      exact absurd printed (by decide)
    · rintro rfl
      exact absurd printed (by decide)

/-- A block with a payload as its data. -/
def payloadBlock (payload : Value) (ending : LineEnd) : Block :=
  ⟨[(.data (payloadText payload), ending)], ending⟩

theorem values_payloadBlock {payload : Value} {event : Event} (carries : Carries payload event)
    (ending : LineEnd) : (payloadBlock payload ending).values = [payload.render] := by
  obtain ⟨rest, text⟩ := carries.render
  rw [Value.render, String.toList_ofList] at text
  have plain : unspaced payload.chars = payload.chars := by
    rw [text]
    rfl
  simp [Block.values, payloadBlock, Field.datum?, payloadText, plain, Value.render]

/-- The blocks of events, each with its payload. -/
def eventBlocks (events : List Event) (ending : LineEnd) : List Block :=
  events.map fun event => payloadBlock (payloadOf event) ending

theorem transmits_eventBlocks {events : List Event} (ordinary : ∀ event ∈ events, Ordinary event)
    (ending : LineEnd) : Transmits (eventBlocks events ending) events := by
  induction events with
  | nil => exact .nil
  | cons event rest ih =>
    rw [List.forall_mem_cons] at ordinary
    have carries := carries_payloadOf ordinary.1
    exact .cons carries (parse_payloadOf event) (values_payloadBlock carries ending)
      (ih ordinary.2)

/-- Events have a body that transmits them if their types are read as their own, and only then. -/
theorem exists_transmission {events : List Event} :
    Nonempty (Transmission events) ↔ ∀ event ∈ events, Ordinary event := by
  constructor
  · rintro ⟨t⟩
    obtain ⟨blocks, -, transmits⟩ := t
    induction transmits with
    | nil => exact List.forall_mem_nil _
    | silent _ _ ih => exact ih
    | cons carries _ _ _ ih =>
      refine List.forall_mem_cons.2 ⟨?_, ih⟩
      cases carries with
      | progress _ running sound => exact ⟨running, sound⟩
      | completed _ _ _ => trivial
  · intro ordinary
    exact ⟨⟨eventBlocks events .feed, [], transmits_eventBlocks ordinary .feed⟩⟩

/-! ## A relay that reads a body -/

/-- A backend whose provider answers the next request for a stream with a script. -/
def scripting (b : Backend) (script : Script) : Backend :=
  { b with provider := { b.provider with streams := script :: b.provider.streams } }

theorem openStream_scripting (b : Backend) (script : Script) (request : Request) :
    ((scripting b script).provider.openStream request).1 = script := rfl

theorem failure?_map_ok (events : List Event) : failure? (events.map .ok) = none := by
  induction events with
  | nil => rfl
  | cons event rest ih => exact ih

/-- A client opens a stream of the items of the body that it is sent. -/
theorem openStream_of_send {client : Client} {link : Link} {request : Request} {answer : Answer}
    (sent : (client.send link (requestBody request true)).1 = .ok answer) :
    (client.openStream link request).1 =
      .ok (bodyItems answer.delivered.1 answer.delivered.2) := by
  unfold Client.openStream
  rcases reply : client.send link (requestBody request true) with ⟨_ | answer', link'⟩
  · rw [reply] at sent
    cases sent
  · rw [reply] at sent
    cases sent
    rfl

/-- A relay of events without a failure ends with `done`. -/
theorem getLast?_drain_map_ok (b : Backend) (id : Record.Uuid) (request : Request)
    (emitErrors : Bool) (events : List Event) :
    (((Relay.mk id request emitErrors .unopened).drain
      (scripting b (.ok (events.map .ok)))).1.map Prod.fst).getLast? = some (.event "done" "") := by
  obtain ⟨frames, -⟩ := drain_unopened ⟨id, request, emitErrors, .unopened⟩ rfl
    (scripting b (.ok (events.map .ok)))
  rw [frames, Relay.script, openStream_scripting, transcript, streamFrames, failure?_map_ok,
    closing, ← List.cons_append, List.getLast?_concat]

/-- A body that transmits events is read as exactly these events, in whatever chunks it comes.  A
    client that gets it in the answer to a request opens a stream of these events, and a relay of
    that stream says what one does that is given the events, up to `done`, and leaves the same
    store. -/
theorem transmission_relayed {events : List Event} (t : Transmission events) {chunks : List Bytes}
    (cut : chunks.flatten = t.octets) :
    bodyItems chunks true = events.map .ok ∧
      ∀ (client : Client) (link : Link) (request : Request) (answer : Answer),
        (client.send link (requestBody request true)).1 = .ok answer →
        answer.delivered = (chunks, true) →
        let script := (client.openStream link request).1
        script = .ok (events.map .ok) ∧
          ∀ (b : Backend) (id : Record.Uuid) (emitErrors : Bool),
            let relay : Relay := ⟨id, request, emitErrors, .unopened⟩
            let read := relay.drain (scripting b script)
            let given := relay.drain (scripting b (.ok (events.map .ok)))
            read.1 = given.1 ∧ (read.1.map Prod.fst).getLast? = some (.event "done" "") ∧
              read.2.store = given.2.store := by
  have items := bodyItems_of_transmission t cut
  refine ⟨items, ?_⟩
  intro client link request answer sent delivered script
  have opened : script = .ok (events.map .ok) := by
    rw [← items]
    simp only [script, openStream_of_send sent, delivered]
  refine ⟨opened, ?_⟩
  intro b id emitErrors relay read given
  have same : read = given := by simp only [read, given, opened]
  rw [same]
  exact ⟨rfl, getLast?_drain_map_ok b id request emitErrors events, rfl⟩

/-- A text that is written on one line. -/
def lineOf (text : String) (plain : text.toList.all (!isLineEnd ·) = true) : LineText :=
  ⟨text.toList, fun _ => inline_of_all plain⟩

/-- A terminal event behind another one. -/
def chatEvents : List Event :=
  [.progress "response.created", .completed ⟨"resp_1", "SELECT\n1"⟩]

/-- A body of these events with comments, a frame of empty data and an end mark. -/
def chatBody : Transmission chatEvents where
  blocks := [⟨[(.comment (lineOf " open" (by decide)), .feed)], .returnFeed⟩,
    payloadBlock (payloadOf (.progress "response.created")) .returnFeed,
    ⟨[(.data (lineOf "" (by decide)), .feed)], .feed⟩,
    payloadBlock (payloadOf (.completed ⟨"resp_1", "SELECT\n1"⟩)) .feed,
    ⟨[(.data (lineOf " [DONE]" (by decide)), .feed)], .feed⟩]
  comments := [(lineOf " closed" (by decide), .returnFeed)]
  transmits := by
    have first :
        Carries (payloadOf (.progress "response.created")) (.progress "response.created") :=
      carries_payloadOf ⟨by decide, by decide⟩
    have last : Carries (payloadOf (.completed ⟨"resp_1", "SELECT\n1"⟩))
        (.completed ⟨"resp_1", "SELECT\n1"⟩) := carries_payloadOf trivial
    refine .silent (.inl (by decide)) ?_
    refine .cons first (parse_payloadOf _) (values_payloadBlock first _) ?_
    refine .silent (.inl (by decide)) ?_
    refine .cons last (parse_payloadOf _) (values_payloadBlock last _) ?_
    exact .silent (.inr (by decide)) .nil

/-- The body's octets, each in a chunk of its own. -/
def chatAnswer : Answer :=
  ⟨200, chatBody.octets.map ([·]), true⟩

/-- A request for a stream. -/
def chatRequest : Request :=
  ⟨"gpt-5-mini", instructions, "total sales", outputSchema, [], none⟩

/-- A client that is given the octets one by one opens a stream of the two events. -/
theorem chatAnswer_relayed :
    chatAnswer.chunks.flatten = chatBody.octets ∧
      bodyItems chatAnswer.chunks true = [.ok (.progress "response.created"),
        .ok (.completed ⟨"resp_1", "SELECT\n1"⟩)] ∧
      ((Client.mk "http://localhost:6174/v1" "key").openStream
        (Link.to "localhost:6174" [.answer chatAnswer]) chatRequest).1 =
          .ok [.ok (.progress "response.created"), .ok (.completed ⟨"resp_1", "SELECT\n1"⟩)] := by
  have cut : chatAnswer.chunks.flatten = chatBody.octets := by
    rw [chatAnswer, ← List.flatMap_def]
    exact List.flatMap_singleton' _
  have sent : ((Client.mk "http://localhost:6174/v1" "key").send
      (Link.to "localhost:6174" [.answer chatAnswer]) (requestBody chatRequest true)).1 =
        .ok chatAnswer := rfl
  have delivered : chatAnswer.delivered = (chatAnswer.chunks, true) := rfl
  obtain ⟨items, opens⟩ := transmission_relayed chatBody cut
  exact ⟨cut, items, (opens _ _ chatRequest chatAnswer sent delivered).1⟩

end QueryDesk.Completion.Responses
