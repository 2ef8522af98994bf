import QueryDesk.Proofs.EventStream.RoundTrip
import QueryDesk.Proofs.Generation.Transcript
import QueryDesk.Proofs.Json.ReadBack
import QueryDesk.Service.Desk

/-!
# What a client reads

The frames of a relay can always be written out, since their names are fixed.  Types and failure
texts come from outside and may hold anything; they are written as JSON, which has no line ends.
Only an output is written as it is, so a client reads the frames as they were relayed when no
output has a carriage return (`deliver_read_back`).  From the data of the frames it reads the types
of the events and the texts of the failures.
-/

namespace QueryDesk.Generation

open QueryDesk.Completion QueryDesk.EventStream QueryDesk.Json QueryDesk.Record QueryDesk.Store
open QueryDesk.Text QueryDesk.EventStream.Decoder

/-! ## What goes into frames -/

/-- The types of the events that are not terminal. -/
def typesOf (events : List Event) : List String :=
  events.filterMap fun
    | .progress type => some type
    | .completed _ => none

/-- The outputs of the terminal events. -/
def outputsOf (events : List Event) : List String :=
  events.filterMap fun
    | .progress _ => none
    | .completed response => some response.text

/-- The response of an item, if it is stored at a backend. -/
def stored? (id : Uuid) (b : Backend) : Item → Option Response
  | .ok (.completed response) => if (b.verdict id response).isOk then some response else none
  | _ => none

/-- The responses that are stored of items that are handled one after another. -/
def storedOf (id : Uuid) : Backend → List Item → List Response
  | _, [] => []
  | b, item :: rest => (stored? id b item).toList ++ storedOf id (b.reading id [item]) rest

/-- The text of an item's failure, if it fails at a backend. -/
def itemFault? (id : Uuid) (b : Backend) : Item → Option String
  | .error failure => some failure.message
  | .ok (.progress _) => none
  | .ok (.completed response) =>
    match b.verdict id response with
    | .ok _ => none
    | .error message => some message

/-- The texts of the failures of items that are handled one after another. -/
def faultsOf (id : Uuid) : Backend → List Item → List String
  | _, [] => []
  | b, item :: rest => (itemFault? id b item).toList ++ faultsOf id (b.reading id [item]) rest

/-- The texts of all failures that go with a script. -/
def scriptFaults (id : Uuid) (b : Backend) : Script → List String
  | .error failure => [failure.message]
  | .ok items => faultsOf id b (pulled items)

/-- The data of the events of one name. -/
def dataOf (name : String) (frames : List Frame) : List String :=
  frames.filterMap fun
    | .comment _ => none
    | .event name' data => if name' = name then some data else none

/-- Whether a frame is an event. -/
def isEvent : Frame → Bool
  | .comment _ => false
  | .event _ _ => true

/-! ## Frames by name -/

theorem dataOf_append (name : String) (frames more : List Frame) :
    dataOf name (frames ++ more) = dataOf name frames ++ dataOf name more :=
  List.filterMap_append

theorem dataOf_report? (name : String) (emitErrors : Bool) (message : String) :
    dataOf name (report? emitErrors message).toList =
      if emitErrors = true ∧ name = "error" then [faultData message] else [] := by
  cases emitErrors with
  | false => simp [report?, dataOf]
  | true =>
    by_cases named : name = "error"
    · simp [report?, dataOf, named]
    · simp [report?, dataOf, named, Ne.symm named]

/-- Failures make frames of their own name only. -/
theorem dataOf_report?_other {name : String} (other : name ≠ "error") (emitErrors : Bool)
    (message : String) : dataOf name (report? emitErrors message).toList = [] := by
  rw [dataOf_report?, if_neg]
  exact fun same => other same.2

section Streams

variable (emitErrors : Bool) (id : Uuid) (b : Backend)

/-- Only events that are not terminal make frames of types. -/
theorem dataOf_itemFrame?_type (event : Event) :
    dataOf "current_type" (itemFrame? emitErrors id b (.ok event)).toList =
      (typesOf [event]).map typeData := by
  cases event with
  | progress type => rfl
  | completed response =>
    simp only [itemFrame?]
    cases b.verdict id response with
    | ok q => rfl
    | error message => exact dataOf_report?_other (by decide) emitErrors message

/-- Every item that fails makes a frame of its failure, if these are wanted. -/
theorem dataOf_itemFrame?_error (item : Item) :
    dataOf "error" (itemFrame? emitErrors id b item).toList =
      if emitErrors then (itemFault? id b item).toList.map faultData else [] := by
  rcases item with failure | ⟨type | response⟩
  · simp [itemFrame?, itemFault?, dataOf_report?]
  · simp [itemFrame?, itemFault?, dataOf]
  · simp only [itemFrame?, itemFault?]
    cases b.verdict id response with
    | ok q => simp [dataOf]
    | error message => simp [dataOf_report?]

/-- Every item that is stored makes a frame of its output. -/
theorem dataOf_itemFrame?_completed (item : Item) :
    dataOf "response_completed" (itemFrame? emitErrors id b item).toList =
      ((stored? id b item).map (·.text)).toList := by
  have other (message : String) :
      dataOf "response_completed" (report? emitErrors message).toList = [] :=
    dataOf_report?_other (by decide) emitErrors message
  rcases item with failure | ⟨type | response⟩
  · exact other failure.message
  · rfl
  · simp only [itemFrame?, stored?]
    cases b.verdict id response with
    | ok q => rfl
    | error message => exact other message

theorem dataOf_framesOf_type (events : List Event) :
    dataOf "current_type" (framesOf emitErrors id b (events.map .ok)) =
      (typesOf events).map typeData := by
  induction events generalizing b with
  | nil => rfl
  | cons event rest ih =>
    have split : typesOf (event :: rest) = typesOf [event] ++ typesOf rest :=
      List.filterMap_append (l := [event])
    rw [List.map_cons, framesOf, dataOf_append, ih, dataOf_itemFrame?_type, split, List.map_append]

theorem dataOf_framesOf_completed (items : List Item) :
    dataOf "response_completed" (framesOf emitErrors id b items) =
      (storedOf id b items).map (·.text) := by
  induction items generalizing b with
  | nil => rfl
  | cons item rest ih =>
    rw [framesOf, dataOf_append, ih, dataOf_itemFrame?_completed, storedOf, List.map_append,
      Option.toList_map]

theorem dataOf_framesOf_error (items : List Item) :
    dataOf "error" (framesOf emitErrors id b items) =
      if emitErrors then (faultsOf id b items).map faultData else [] := by
  induction items generalizing b with
  | nil => simp [framesOf, faultsOf, dataOf]
  | cons item rest ih =>
    rw [framesOf, dataOf_append, ih, dataOf_itemFrame?_error, faultsOf]
    cases emitErrors <;> simp

/-- Apart from `done`, the frames of a stream are those of what is pulled of it. -/
theorem dataOf_streamFrames {name : String} (other : name ≠ "done") (items : List Item) :
    dataOf name (streamFrames emitErrors id b items) =
      dataOf name (framesOf emitErrors id b (pulled items)) := by
  rw [streamFrames, pulled, framesOf_append, dataOf_append, dataOf_append]
  congr 1
  cases failure? items with
  | none => simp [closing, framesOf, dataOf, Ne.symm other]
  | some failure => simp [closing, framesOf, itemFrame?]

/-- The frames of types go with the events that are not terminal, in order. -/
theorem dataOf_transcript_type (script : Script) :
    dataOf "current_type" (transcript emitErrors id b script) =
      (typesOf (eventsOf (itemsOf script))).map typeData := by
  have front (frames : List Frame) : dataOf "current_type" (.comment "connected" :: frames) =
      dataOf "current_type" frames := rfl
  cases script with
  | error failure =>
    rw [transcript, front, closing, dataOf_report?_other (by decide)]
    rfl
  | ok items =>
    rw [transcript, front, dataOf_streamFrames _ _ _ (by decide), pulled, framesOf_append,
      dataOf_append, dataOf_framesOf_type]
    cases failure? items with
    | none => simp [framesOf, itemsOf, dataOf, Except.toOption]
    | some failure => simp [framesOf, itemFrame?, itemsOf, dataOf_report?, Except.toOption]

/-- The frames of stored responses go with these, in order. -/
theorem dataOf_transcript_completed (script : Script) :
    dataOf "response_completed" (transcript emitErrors id b script) =
      (storedOf id b (pulled (itemsOf script))).map (·.text) := by
  have front (frames : List Frame) : dataOf "response_completed" (.comment "connected" :: frames) =
      dataOf "response_completed" frames := rfl
  cases script with
  | error failure =>
    rw [transcript, front, closing, dataOf_report?_other (by decide)]
    rfl
  | ok items =>
    rw [transcript, front, dataOf_streamFrames _ _ _ (by decide), dataOf_framesOf_completed]
    rfl

/-- The frames of failures go with the failures, in order. -/
theorem dataOf_transcript_error (script : Script) :
    dataOf "error" (transcript emitErrors id b script) =
      if emitErrors then (scriptFaults id b script).map faultData else [] := by
  have front (frames : List Frame) : dataOf "error" (.comment "connected" :: frames) =
      dataOf "error" frames := rfl
  cases script with
  | error failure => simp [transcript, front, closing, dataOf_report?, scriptFaults]
  | ok items =>
    rw [transcript, front, dataOf_streamFrames _ _ _ (by decide), dataOf_framesOf_error,
      scriptFaults]

theorem storedOf_append (items more : List Item) :
    storedOf id b (items ++ more) =
      storedOf id b items ++ storedOf id (b.reading id items) more := by
  induction items generalizing b with
  | nil => rfl
  | cons item rest ih =>
    rw [List.cons_append, storedOf, storedOf, ih, List.append_assoc,
      Backend.reading_cons b id item rest]

/-- What is stored does not depend on the provider. -/
theorem storedOf_with_provider (provider : Provider) (items : List Item) :
    storedOf id { b with provider := provider } items = storedOf id b items := by
  induction items generalizing b provider with
  | nil => rfl
  | cons item rest ih =>
    have first : stored? id { b with provider := provider } item = stored? id b item := rfl
    rw [storedOf, storedOf, first, Backend.reading, Backend.storing_with_provider, Backend.reading]
    congr 1
    exact (ih (b.storing id ([item].filterMap outcome?)) _).trans (ih _ _).symm

end Streams

/-- The data of a type's frame is read as the type. -/
theorem parse_typeData (type : String) : Value.parse (typeData type) = .ok (.string type) :=
  Value.parse_render rfl rfl (Nat.zero_le _)

/-- The data of a failure's frame is read as an object that holds the text alone. -/
theorem parse_faultData (message : String) :
    Value.parse (faultData message) = .ok (.object [("message", .string message)]) :=
  Value.parse_render rfl rfl (show 1 ≤ maxNesting by decide)

theorem map_parse_typeData (types : List String) :
    (types.map typeData).map Value.parse = types.map fun type => .ok (.string type) := by
  induction types with
  | nil => rfl
  | cons type rest ih => simp only [List.map_cons, parse_typeData, ih]

theorem map_parse_faultData (messages : List String) :
    (messages.map faultData).map Value.parse =
      messages.map fun message => .ok (.object [("message", .string message)]) := by
  induction messages with
  | nil => rfl
  | cons message rest ih => simp only [List.map_cons, parse_faultData, ih]

/-! ## Frames on the wire -/

/-- The frames that a relay may say of some events. -/
inductive Said (events : List Event) : Frame → Prop
  | connected : Said events (.comment "connected")
  | typed (type : String) : Said events (.event "current_type" (typeData type))
  | completed {response : Response} (member : .completed response ∈ events) :
      Said events (.event "response_completed" response.text)
  | failed (message : String) : Said events (.event "error" (faultData message))
  | done : Said events (.event "done" "")

theorem said_of_mem_report? {events : List Event} {emitErrors : Bool} {message : String}
    {frame : Frame} (member : frame ∈ (report? emitErrors message).toList) :
    Said events frame := by
  cases emitErrors with
  | false => cases member
  | true =>
    have same : frame = .event "error" (faultData message) := by simpa [report?] using member
    rw [same]
    exact .failed message

theorem said_of_mem_framesOf {events sent : List Event} {emitErrors : Bool} {id : Uuid}
    {b : Backend}
    (known : ∀ event ∈ sent, event ∈ events) {frame : Frame}
    (member : frame ∈ framesOf emitErrors id b (sent.map .ok)) : Said events frame := by
  induction sent generalizing b with
  | nil => cases member
  | cons event rest ih =>
    rw [List.forall_mem_cons] at known
    rw [List.map_cons, framesOf, List.mem_append] at member
    rcases member with here | later
    · cases event with
      | progress type =>
        have same : frame = .event "current_type" (typeData type) := by
          simpa [itemFrame?] using here
        rw [same]
        exact .typed type
      | completed response =>
        simp only [itemFrame?] at here
        cases verdict : b.verdict id response with
        | ok q =>
          rw [verdict] at here
          have same : frame = .event "response_completed" response.text := by simpa using here
          rw [same]
          exact .completed known.1
        | error message =>
          rw [verdict] at here
          exact said_of_mem_report? here
    · exact ih known.2 later

theorem said_of_mem_transcript {emitErrors : Bool} {id : Uuid} {b : Backend} {script : Script}
    {frame : Frame} (member : frame ∈ transcript emitErrors id b script) :
    Said (eventsOf (itemsOf script)) frame := by
  have closed {failed : Option Completion.Failure}
      (inside : frame ∈ closing emitErrors failed) : Said (eventsOf (itemsOf script)) frame := by
    cases failed with
    | none =>
      rw [List.mem_singleton.1 inside]
      exact .done
    | some failure => exact said_of_mem_report? inside
  cases script with
  | error failure =>
    rcases List.mem_cons.1 member with rfl | last
    · exact .connected
    · exact closed last
  | ok items =>
    rcases List.mem_cons.1 member with rfl | behind
    · exact .connected
    · rcases List.mem_append.1 behind with inside | last
      · exact said_of_mem_framesOf (fun event known => known) inside
      · exact closed last

/-- Frames that can be written one by one can be written together. -/
theorem exists_wireAll? {frames : List Frame}
    (writable : ∀ f ∈ frames, ∃ text, f.wire? = some text) :
    ∃ text, wireAll? frames = some text := by
  have all : ∃ texts, frames.mapM Frame.wire? = some texts := by
    induction frames with
    | nil => exact ⟨[], rfl⟩
    | cons f rest ih =>
      rw [List.forall_mem_cons] at writable
      obtain ⟨text, here⟩ := writable.1
      obtain ⟨texts, others⟩ := ih writable.2
      exact ⟨text :: texts, by rw [List.mapM_cons, here, others]; rfl⟩
  obtain ⟨texts, written⟩ := all
  exact ⟨texts.flatten, by rw [wireAll?, written, Option.map_some]⟩

theorem exists_wire?_of_said {events : List Event} {frame : Frame} (said : Said events frame) :
    ∃ text, frame.wire? = some text := by
  cases said with
  | connected => exact ⟨_, rfl⟩
  | typed type => exact ⟨_, rfl⟩
  | completed member => exact ⟨_, rfl⟩
  | failed message => exact ⟨_, rfl⟩
  | done => exact ⟨_, rfl⟩

/-- The text of a value has no carriage return. -/
theorem not_mem_render (v : Value) : '\r' ∉ v.render.toList := by
  intro member
  rw [Value.render, String.toList_ofList] at member
  exact absurd (Value.printed_of_mem_chars v member) (by decide)

/-- An event is read back as it is if its name can be written and its data has no carriage
    return. -/
structure Unreturned (f : Frame) : Prop where
  transmissible : f.Transmissible
  received : f.received? = if isEvent f then some f else none

theorem unreturned_event {name data : String} (named : name.toList.all (!isLineEnd ·) = true)
    (plain : '\r' ∉ data.toList) : Unreturned (.event name data) where
  transmissible := by
    refine ⟨fun c inside => inline_of_all named inside, ?_⟩
    intro i here
    exact absurd (List.mem_of_getElem? here) plain
  received := by
    have kept : readBack data.toList = data.toList := by
      rw [readBack, List.filter_eq_self]
      intro c inside
      rw [bne_iff_ne]
      rintro rfl
      exact plain inside
    simp [Frame.received?, kept, isEvent]

theorem unreturned_of_said {events : List Event}
    (plain : ∀ output ∈ outputsOf events, '\r' ∉ output.toList) {frame : Frame}
    (said : Said events frame) : Unreturned frame := by
  cases said with
  | connected => exact ⟨trivial, rfl⟩
  | typed type => exact unreturned_event (by decide) (not_mem_render _)
  | @completed response member =>
    have output : response.text ∈ outputsOf events :=
      List.mem_filterMap.2 ⟨.completed response, member, rfl⟩
    exact unreturned_event (by decide) (plain _ output)
  | failed message => exact unreturned_event (by decide) (not_mem_render _)
  | done => exact unreturned_event (by decide) (by decide)

theorem filterMap_received? {frames : List Frame} (unreturned : ∀ f ∈ frames, Unreturned f) :
    frames.filterMap Frame.received? = frames.filter isEvent := by
  rw [← List.filterMap_eq_filter]
  apply List.filterMap_congr
  intro f member
  rw [(unreturned f member).received]
  rfl

/-! ## The body of a response -/

/-- The body of a streamed response, read to its end.  It can be written whatever the provider
    answers.  If no output has a carriage return, a client that gets it in any chunks reads the
    events that were relayed, in order and with the same data.  Their data holds the type of each
    event that is not terminal and, if failures are reported, the text of each failure. -/
theorem deliver_read_back (d : Desk) (id : Uuid) (request : Request) (emitErrors : Bool) :
    let relay : Relay := ⟨id, request, emitErrors, .unopened⟩
    let script := (d.backend.provider.openStream request).1
    let events := eventsOf (itemsOf script)
    let frames := (relay.drain d.backend).1.map Prod.fst
    (∃ text, wireAll? frames = some text ∧
      (d.deliver (.frames relay)).1 = String.ofList text ∧
      ((∀ output ∈ outputsOf events, '\r' ∉ output.toList) →
        ∀ chunks, chunks.flatten = Utf8.encodeChars text →
          new.pushAll chunks = (new, frames.filter isEvent) ∧
          (new.pushAll chunks).1.finish = (new, none))) ∧
    (dataOf "current_type" frames).map Value.parse =
      (typesOf events).map (fun type => .ok (.string type)) ∧
    (dataOf "error" frames).map Value.parse =
      if emitErrors then
        (scriptFaults id (d.backend.asked request) script).map
          fun message => .ok (.object [("message", .string message)])
      else [] := by
  intro relay script events frames
  have frames_eq : frames = transcript emitErrors id (d.backend.asked request) script :=
    (drain_unopened relay rfl d.backend).1
  have said : ∀ f ∈ frames, Said events f := by
    intro f member
    rw [frames_eq] at member
    exact said_of_mem_transcript member
  refine ⟨?_, ?_, ?_⟩
  · obtain ⟨text, written⟩ := exists_wireAll? fun f member => exists_wire?_of_said (said f member)
    have body : (d.deliver (.frames relay)).1 = String.ofList ((wireAll? frames).getD []) := by
      simp only [Desk.deliver]
      rfl
    refine ⟨text, written, ?_, ?_⟩
    · rw [body, written, Option.getD_some]
    · intro plain chunks cut
      have unreturned : ∀ f ∈ frames, Unreturned f :=
        fun f member => unreturned_of_said plain (said f member)
      obtain ⟨text', written', read⟩ :=
        pushAll_wireAll fun f member => (unreturned f member).transmissible
      rw [written, Option.some.injEq] at written'
      subst written'
      rw [← filterMap_received? unreturned]
      exact read chunks cut
  · rw [frames_eq, dataOf_transcript_type, map_parse_typeData]
  · rw [frames_eq, dataOf_transcript_error]
    cases emitErrors with
    | false => rfl
    | true => rw [if_pos rfl, if_pos rfl, map_parse_faultData]

/-- An output on two lines. -/
def twoLineOutput : String := "\x7b\"sql_query\":\n\"SELECT 1\"\x7d"

/-- A record to generate SQL for. -/
def salesRecord : DynamicQuery := .fresh (.ofNat 1) "Sales" "total sales" earlyTime

/-- A desk with the record, and a provider that answers with line ends and quotes. -/
def awkwardDesk : Desk where
  options := .default
  settings := .default
  backend := {
    store := ⟨[.ofRecord salesRecord], none⟩
    provider := .scripted [] [.ok [.ok (.progress "a\r\n\r\ndata: \"b\""),
      .ok (.completed ⟨"resp_1", twoLineOutput⟩), .error (.provider "c\r\nd")]]
    supply := .counting 2 earlyTime }
  engine := .scripted []

/-- A relay for the record that reports failures. -/
def awkwardRelay : Relay :=
  ⟨salesRecord.id, requestFor .default salesRecord, true, .unopened⟩

/-- The type and the failure stay in their frames. -/
theorem awkwardDesk_read_back :
    (∀ output ∈ [twoLineOutput], '\r' ∉ output.toList) ∧
      ∃ text, (awkwardDesk.deliver (.frames awkwardRelay)).1 = String.ofList text ∧
        ∀ chunks, chunks.flatten = Utf8.encodeChars text →
          new.pushAll chunks =
            (new, [.event "current_type" "\"a\\r\\n\\r\\ndata: \\\"b\\\"\"",
              .event "response_completed" twoLineOutput,
              .event "error"
                "\x7b\"message\":\"completion service error: c\\r\\nd\"\x7d"]) := by
  have plain : ∀ output ∈ [twoLineOutput], '\r' ∉ output.toList := by decide
  have events :
      ((awkwardRelay.drain awkwardDesk.backend).1.map Prod.fst).filter isEvent =
        [.event "current_type" "\"a\\r\\n\\r\\ndata: \\\"b\\\"\"",
          .event "response_completed" twoLineOutput,
          .event "error" "\x7b\"message\":\"completion service error: c\\r\\nd\"\x7d"] := by
    decide +kernel
  obtain ⟨⟨text, -, body, read⟩, -⟩ :=
    deliver_read_back awkwardDesk salesRecord.id (requestFor .default salesRecord) true
  refine ⟨plain, text, body, ?_⟩
  intro chunks cut
  rw [← events]
  exact (read plain chunks cut).1

end QueryDesk.Generation
