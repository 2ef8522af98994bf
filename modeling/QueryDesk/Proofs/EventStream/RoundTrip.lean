import QueryDesk.Proofs.EventStream.Chunks
import QueryDesk.Proofs.Text.Utf8

/-!
# Frames are read back from the wire

The text of a frame is a list of lines (`Frame.lines`), the last of them blank, and a new decoder
that reads them is a new decoder again (`readLines_frame`).  So nothing is left over from one frame
to the next, and the text of a list of frames is read back as its events, however its octets are
cut into chunks (`pushAll_wireAll`).
-/

namespace QueryDesk.EventStream

open QueryDesk.Text Decoder

/-! ## Frames as lines -/

/-- The text of some lines. -/
def linesText (lines : List (List Char)) : List Char :=
  lines.flatMap (· ++ ['\n'])

/-- A character that is no line end. -/
def Inline (c : Char) : Prop :=
  c ≠ '\r' ∧ c ≠ '\n'

/-- Data as it is read back: its carriage returns are gone. -/
def readBack (data : List Char) : List Char :=
  data.filter (· != '\r')

/-- The values of the data lines of an event; empty data has none. -/
def dataValues (data : List Char) : List (List Char) :=
  if readBack data = [] then [] else (readBack data).splitOn '\n'

/-- The lines of a frame. -/
def Frame.lines : Frame → List (List Char)
  | .comment text =>
    [": ".toList ++ text.toList.map (fun c => if isLineEnd c then ' ' else c), []]
  | .event name data =>
    ("event: ".toList ++ name.toList) ::
      ((dataValues data.toList).map ("data: ".toList ++ ·) ++ [[]])

/-- The frame that is read back: comments are dropped, and a line of data ends in a line feed. -/
def Frame.received? : Frame → Option Frame
  | .comment _ => none
  | .event name data => some (.event name (String.ofList (readBack data.toList)))

/-- The name of an event has no line end, and every carriage return in its data stands right
    before a line feed. -/
def Frame.Transmissible : Frame → Prop
  | .comment _ => True
  | .event name data =>
    (∀ c ∈ name.toList, Inline c) ∧
      ∀ i, data.toList[i]? = some '\r' → data.toList[i + 1]? = some '\n'

theorem isLineEnd_eq_false {c : Char} : isLineEnd c = false ↔ Inline c := by
  simp [isLineEnd, Inline]

theorem inline_of_all {text : String} (plain : text.toList.all (!isLineEnd ·) = true) {c : Char}
    (inside : c ∈ text.toList) : Inline c := by
  have visible := List.all_eq_true.1 plain c inside
  rw [Bool.not_eq_true'] at visible
  exact isLineEnd_eq_false.1 visible

theorem linesText_cons (line : List Char) (lines : List (List Char)) :
    linesText (line :: lines) = line ++ '\n' :: linesText lines := by
  simp [linesText]

theorem linesText_append (lines lines' : List (List Char)) :
    linesText (lines ++ lines') = linesText lines ++ linesText lines' :=
  List.flatMap_append

/-! ## Data -/

/-- Where every carriage return stands before a line feed, joining the two drops it. -/
theorem joinLineEnds_eq_readBack {data : List Char}
    (joined : ∀ i : Nat, data[i]? = some '\r' → data[i + 1]? = some '\n') :
    joinLineEnds data = readBack data := by
  fun_induction joinLineEnds data with
  | case1 rest ih =>
    have rest_joined : ∀ i : Nat, rest[i]? = some '\r' → rest[i + 1]? = some '\n' := by
      intro i here
      exact joined (i + 2) here
    rw [ih rest_joined]
    rfl
  | case2 c rest lone ih =>
    have rest_joined : ∀ i : Nat, rest[i]? = some '\r' → rest[i + 1]? = some '\n' := by
      intro i here
      exact joined (i + 1) here
    have other : c ≠ '\r' := by
      rintro rfl
      have next : rest[0]? = some '\n' := joined 0 rfl
      obtain ⟨rest', rfl⟩ : ∃ rest', rest = '\n' :: rest' := by
        cases rest with
        | nil => cases next
        | cons c' rest' =>
          cases next
          exact ⟨rest', rfl⟩
      exact lone rest' rfl rfl
    rw [ih rest_joined]
    simp [readBack, other]
  | case3 => rfl

/-- Data without carriage returns is written as its lines. -/
theorem dataLines_eq {cs : List Char} (feeds : '\r' ∉ cs) {first : List Char}
    {others : List (List Char)} (cut : cs.splitOn '\n' = first :: others) :
    dataLines cs ++ ['\n'] = first ++ '\n' :: linesText (others.map ("data: ".toList ++ ·)) := by
  induction cs generalizing first others with
  | nil =>
    cases cut
    rfl
  | cons c cs ih =>
    rw [List.mem_cons, not_or] at feeds
    obtain ⟨first', others', cut'⟩ := List.exists_cons_of_ne_nil (List.splitOn_ne_nil '\n' cs)
    have tail := ih feeds.2 cut'
    rw [List.splitOn_cons_eq_if_modifyHead, cut'] at cut
    by_cases feed : c = '\n'
    · subst feed
      simp only [BEq.rfl, if_true] at cut
      cases cut
      have ends : isLineEnd '\n' = true := rfl
      rw [dataLines, if_pos ends, List.map_cons, linesText_cons]
      simp only [List.cons_append, List.append_assoc, List.nil_append, tail]
    · have inside : isLineEnd c = false := isLineEnd_eq_false.2 ⟨Ne.symm feeds.1, feed⟩
      have beq_false : (c == '\n') = false := beq_eq_false_iff_ne.2 feed
      simp only [beq_false, Bool.false_eq_true, if_false, List.modifyHead_cons] at cut
      cases cut
      rw [dataLines, inside, if_neg (by simp), List.cons_append, tail]
      rfl

/-- The data lines of an event hold its values. -/
theorem dataField_eq {data : List Char}
    (joined : ∀ i : Nat, data[i]? = some '\r' → data[i + 1]? = some '\n') :
    dataField data = linesText ((dataValues data).map ("data: ".toList ++ ·)) := by
  have feeds : '\r' ∉ readBack data := by simp [readBack]
  unfold dataField dataValues
  rw [joinLineEnds_eq_readBack joined]
  generalize readBack data = cs at feeds
  cases cs with
  | nil => rfl
  | cons c cs =>
    obtain ⟨first, others, cut⟩ :=
      List.exists_cons_of_ne_nil (List.splitOn_ne_nil '\n' (c :: cs))
    have written := dataLines_eq feeds cut
    rw [if_neg (List.cons_ne_nil c cs), cut, List.map_cons, linesText_cons]
    simp only [List.append_assoc]
    rw [written]

theorem mem_of_mem_splitOn {cs value : List Char} (member : value ∈ cs.splitOn '\n') {c : Char}
    (inside : c ∈ value) : c ∈ cs ∧ c ≠ '\n' := by
  induction cs generalizing value c with
  | nil =>
    rw [List.splitOn_nil, List.mem_singleton] at member
    rw [member] at inside
    cases inside
  | cons x cs ih =>
    obtain ⟨first, others, cut⟩ := List.exists_cons_of_ne_nil (List.splitOn_ne_nil '\n' cs)
    rw [List.splitOn_cons_eq_if_modifyHead] at member
    rw [cut] at ih member
    by_cases feed : x = '\n'
    · subst feed
      simp only [BEq.rfl, if_true] at member
      rcases List.mem_cons.1 member with rfl | later
      · cases inside
      · obtain ⟨known, other⟩ := ih later inside
        exact ⟨List.mem_cons_of_mem _ known, other⟩
    · have beq_false : (x == '\n') = false := beq_eq_false_iff_ne.2 feed
      simp only [beq_false, Bool.false_eq_true, if_false, List.modifyHead_cons] at member
      rcases List.mem_cons.1 member with rfl | later
      · rcases List.mem_cons.1 inside with rfl | behind
        · exact ⟨List.mem_cons_self, feed⟩
        · obtain ⟨known, other⟩ := ih List.mem_cons_self behind
          exact ⟨List.mem_cons_of_mem _ known, other⟩
      · obtain ⟨known, other⟩ := ih (List.mem_cons_of_mem _ later) inside
        exact ⟨List.mem_cons_of_mem _ known, other⟩

theorem inline_of_mem_dataValues {data value : List Char} (member : value ∈ dataValues data)
    {c : Char} (inside : c ∈ value) : Inline c := by
  unfold dataValues at member
  split at member
  · cases member
  · obtain ⟨known, feed⟩ := mem_of_mem_splitOn member inside
    refine ⟨?_, feed⟩
    simpa using (List.mem_filter.1 known).2

/-- The values of an event's data lines, joined again. -/
theorem intercalate_dataValues (data : List Char) :
    "\n".intercalate ((dataValues data).map String.ofList) = String.ofList (readBack data) := by
  rw [← String.toList_inj, String.toList_ofList, String.toList_intercalate, List.map_map]
  have same : (String.toList ∘ String.ofList : List Char → List Char) = id :=
    funext fun _ => String.toList_ofList
  rw [same, List.map_id, dataValues]
  split
  · rename_i empty
    rw [empty]
    rfl
  · exact List.intercalate_splitOn '\n'

/-! ## The text of frames -/

theorem wire?_eq {f : Frame} (transmissible : f.Transmissible) :
    f.wire? = some (linesText f.lines) := by
  cases f with
  | comment text => simp [Frame.wire?, Frame.lines, linesText]
  | event name data =>
    obtain ⟨named, joined⟩ := transmissible
    have writable : name.toList.any isLineEnd = false := by
      rw [List.any_eq_false]
      intro c inside
      rw [isLineEnd_eq_false.2 (named c inside)]
      exact Bool.false_ne_true
    simp only [Frame.wire?, writable, Bool.false_eq_true, if_false, dataField_eq joined,
      Frame.lines, linesText_cons, linesText_append, List.append_assoc]
    rfl

/-- The text of a list of frames is that of all their lines. -/
theorem wireAll?_eq {frames : List Frame} (transmissible : ∀ f ∈ frames, f.Transmissible) :
    wireAll? frames = some (linesText (frames.flatMap Frame.lines)) := by
  have all : frames.mapM Frame.wire? = some (frames.map fun f => linesText f.lines) := by
    induction frames with
    | nil => rfl
    | cons f frames ih =>
      rw [List.forall_mem_cons] at transmissible
      rw [List.mapM_cons, wire?_eq transmissible.1, ih transmissible.2]
      rfl
  rw [wireAll?, all, linesText, List.flatMap_assoc, Option.map_some]
  rfl

theorem inline_of_mem_lines {f : Frame} (transmissible : f.Transmissible) {line : List Char}
    (member : line ∈ f.lines) {c : Char} (inside : c ∈ line) : Inline c := by
  cases f with
  | comment text =>
    simp only [Frame.lines, List.mem_cons, List.not_mem_nil, or_false] at member
    rcases member with rfl | rfl
    · rcases List.mem_append.1 inside with mark | shown
      · exact inline_of_all (by decide) mark
      · obtain ⟨c', -, rfl⟩ := List.mem_map.1 shown
        split
        · exact ⟨by decide, by decide⟩
        · rename_i visible
          exact isLineEnd_eq_false.1 (Bool.not_eq_true _ ▸ visible)
    · cases inside
  | event name data =>
    simp only [Frame.lines, List.mem_cons, List.mem_append, List.mem_map, List.not_mem_nil,
      or_false] at member
    rcases member with rfl | ⟨value, known, rfl⟩ | rfl
    · rcases List.mem_append.1 inside with mark | named
      · exact inline_of_all (by decide) mark
      · exact transmissible.1 c named
    · rcases List.mem_append.1 inside with mark | shown
      · exact inline_of_all (by decide) mark
      · exact inline_of_mem_dataValues known shown
    · cases inside

/-! ## Reading lines -/

/-- Reads complete lines in order. -/
def Decoder.readLines (d : Decoder) : List (List Char) → Decoder × List Frame
  | [] => (d, [])
  | line :: rest =>
    let read := d.readLine line
    let others := readLines read.1 rest
    (others.1, read.2.toList ++ others.2)

theorem readLines_append (d : Decoder) (lines more : List (List Char)) :
    d.readLines (lines ++ more) =
      (((d.readLines lines).1.readLines more).1,
        (d.readLines lines).2 ++ ((d.readLines lines).1.readLines more).2) := by
  induction lines generalizing d with
  | nil => rfl
  | cons line rest ih => simp only [List.cons_append, readLines, ih, List.append_assoc]

/-- The text of a line is read from its octets. -/
theorem lineText_encodeChars {line : List Char} (inline : ∀ c ∈ line, Inline c) :
    lineText (Utf8.encodeChars line) = line := by
  have kept : (Utf8.encodeChars line).getLast? ≠ some carriageReturn := by
    intro last
    have octet : UInt8.ofNat '\r'.toNat ∈ Utf8.encodeChars line := List.mem_of_getLast? last
    exact (inline '\r' (Utf8.mem_of_mem_encodeChars (by decide) octet)).1 rfl
  unfold lineText
  dsimp only
  rw [if_neg kept, Utf8.lossy_encodeChars, String.toList_ofList]

/-- A chunk that ends in its only line feed, when nothing waits in the buffer. -/
theorem push_feed {d : Decoder} (idle : d.buffer = []) {octets : Bytes}
    (unfed : lineFeed ∉ octets) :
    d.push (octets ++ [lineFeed]) =
      ((d.readLine (lineText octets)).1, (d.readLine (lineText octets)).2.toList) := by
  have first : (octets ++ [lineFeed]).idxOf? lineFeed = some octets.length := by
    rw [List.idxOf?_eq_some_iff]
    refine ⟨by simp, by simp, ?_⟩
    intro j before here
    rw [List.getElem_append_left before] at here
    exact unfed (here ▸ List.getElem_mem before)
  have same : { d with buffer := [] } = d := by rw [← idle]
  have drained : (d.readLine (lineText octets)).1.Drained := by
    rw [Drained, readLine_buffer, idle]
    exact List.not_mem_nil
  have rest : (octets ++ [lineFeed]).drop (octets.length + 1) = [] :=
    List.drop_eq_nil_of_le (by simp)
  rw [push, idle, List.nil_append, drain_of_idxOf? first]
  simp only [rest, List.take_left]
  rw [same, drain_of_drained drained, List.append_nil]

/-- No octet of a text without line ends is a line feed. -/
theorem unfed_encodeChars {line : List Char} (inline : ∀ c ∈ line, Inline c) :
    lineFeed ∉ Utf8.encodeChars line := by
  intro octet
  have member : '\n' ∈ line := Utf8.mem_of_mem_encodeChars (by decide) octet
  exact (inline '\n' member).2 rfl

/-- A chunk that is one line, when nothing waits in the buffer. -/
theorem push_line {d : Decoder} (idle : d.buffer = []) {line : List Char}
    (inline : ∀ c ∈ line, Inline c) :
    d.push (Utf8.encodeChars (line ++ ['\n'])) =
      ((d.readLine line).1, (d.readLine line).2.toList) := by
  have feed : Utf8.encodeChars ['\n'] = [lineFeed] := rfl
  rw [Utf8.encodeChars_append, feed, push_feed idle (unfed_encodeChars inline),
    lineText_encodeChars inline]

/-- Complete lines are read one after another, and nothing of them stays in the buffer. -/
theorem push_lines {d : Decoder} (idle : d.buffer = []) {lines : List (List Char)}
    (inline : ∀ line ∈ lines, ∀ c ∈ line, Inline c) :
    d.push (Utf8.encodeChars (linesText lines)) = d.readLines lines := by
  induction lines generalizing d with
  | nil =>
    have drained : d.Drained := by
      rw [Drained, idle]
      exact List.not_mem_nil
    have same : { d with buffer := [] } = d := by rw [← idle]
    rw [push, idle]
    exact same.symm ▸ drain_of_drained drained
  | cons line rest ih =>
    rw [List.forall_mem_cons] at inline
    have idle' : (d.readLine line).1.buffer = [] := by rw [readLine_buffer, idle]
    have text : linesText (line :: rest) = (line ++ ['\n']) ++ linesText rest := by
      simp [linesText_cons]
    rw [text, Utf8.encodeChars_append, push_append, push_line idle inline.1]
    simp only [readLines, ih idle' inline.2]

/-! ## The lines of a frame -/

/-- A data line is read as its value, and a leading space of the value is kept. -/
theorem readLine_data (d : Decoder) (value : List Char) :
    d.readLine ("data: ".toList ++ value) =
      ({ d with data := d.data ++ [String.ofList value] }, none) := rfl

theorem readLine_event (d : Decoder) (name : List Char) :
    d.readLine ("event: ".toList ++ name) = ({ d with name := some (String.ofList name) }, none) :=
  rfl

/-- A blank line ends an event that has a name. -/
theorem readLine_blank (buffer : Bytes) (name : String) (values : List String) :
    { buffer := buffer, name := some name, data := values : Decoder }.readLine [] =
      (⟨buffer, none, []⟩, some (.event name ("\n".intercalate values))) :=
  rfl

theorem readLines_data (d : Decoder) (values : List (List Char)) :
    d.readLines (values.map ("data: ".toList ++ ·)) =
      ({ d with data := d.data ++ values.map String.ofList }, []) := by
  induction values generalizing d with
  | nil => simp [readLines]
  | cons value rest ih =>
    simp only [List.map_cons, readLines, readLine_data, ih]
    simp

/-- A new decoder that reads a frame is a new decoder again. -/
theorem readLines_frame (f : Frame) : new.readLines f.lines = (new, f.received?.toList) := by
  cases f with
  | comment text => rfl
  | event name data =>
    simp only [Frame.lines, readLines, readLine_event, readLines_append, readLines_data]
    rw [readLine_blank]
    simp only [new, List.nil_append, intercalate_dataValues, String.ofList_toList]
    rfl

theorem readLines_frames (frames : List Frame) :
    new.readLines (frames.flatMap Frame.lines) = (new, frames.filterMap Frame.received?) := by
  induction frames with
  | nil => rfl
  | cons f frames ih =>
    rw [List.flatMap_cons, readLines_append, readLines_frame, ih]
    cases read : f.received? <;> simp [read]

/-- Frames are read back.  If they can be written at all, with every carriage return of their data
    before a line feed, a new decoder reads from their text, in any chunks, the events in order:
    the data with its lines ended by line feeds alone, and no comments.  Nothing is left to finish,
    and the decoder is a new one. -/
theorem pushAll_wireAll {frames : List Frame} (transmissible : ∀ f ∈ frames, f.Transmissible) :
    ∃ text, wireAll? frames = some text ∧ ∀ chunks, chunks.flatten = Utf8.encodeChars text →
      new.pushAll chunks = (new, frames.filterMap Frame.received?) ∧
      (new.pushAll chunks).1.finish = (new, none) := by
  refine ⟨_, wireAll?_eq transmissible, ?_⟩
  intro chunks cut
  have drained : new.Drained := List.not_mem_nil
  have inline : ∀ line ∈ frames.flatMap Frame.lines, ∀ c ∈ line, Inline c := by
    intro line member c inside
    obtain ⟨f, known, here⟩ := List.mem_flatMap.1 member
    exact inline_of_mem_lines (transmissible f known) here inside
  have read : new.pushAll chunks = (new, frames.filterMap Frame.received?) := by
    rw [pushAll_eq_push drained, cut, push_lines rfl inline, readLines_frames]
  refine ⟨read, ?_⟩
  rw [read]
  rfl

/-- Frames with line ends where they may stand, and an event without a name or data. -/
def awkwardFrames : List Frame :=
  [.comment "two\r\nlines", .event "" "", .event " :é" " a\r\n\r\n:b\n"]

theorem transmissible_awkwardFrames : ∀ f ∈ awkwardFrames, f.Transmissible := by
  have joined : ∀ i : Nat, " a\r\n\r\n:b\n".toList[i]? = some '\r' →
      " a\r\n\r\n:b\n".toList[i + 1]? = some '\n' := by
    intro i here
    obtain ⟨inside, -⟩ := List.getElem?_eq_some_iff.1 here
    have small : i < 9 := inside
    interval_cases i <;> revert here <;> decide
  simp only [awkwardFrames, List.forall_mem_cons]
  refine ⟨trivial, ⟨?_, ?_⟩, ⟨?_, joined⟩, List.forall_mem_nil _⟩
  · intro c inside
    cases inside
  · intro i here
    cases here
  · intro c inside
    exact inline_of_all (by decide) inside

theorem awkwardFrames_pushAll :
    (∀ f ∈ awkwardFrames, f.Transmissible) ∧
      ∃ text, wireAll? awkwardFrames = some text ∧
        ∀ chunks, chunks.flatten = Utf8.encodeChars text →
          new.pushAll chunks = (new, [.event "" "", .event " :é" " a\n\n:b\n"]) ∧
            (new.pushAll chunks).1.finish = (new, none) :=
  ⟨transmissible_awkwardFrames, pushAll_wireAll transmissible_awkwardFrames⟩

end QueryDesk.EventStream
