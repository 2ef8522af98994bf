import QueryDesk.Proofs.EventStream.Body
import QueryDesk.Proofs.Text.Truncation

/-!
# Bodies that are cut off

A body of blocks is cut off anywhere: inside a name, inside a character, between a carriage return
and its line feed.  Its whole blocks are read as before.  `finish` makes at most one frame of the
rest, whose data is a stump of the data of the block that was cut (`exists_push_cut`).
-/

namespace QueryDesk.EventStream

open QueryDesk.Text Decoder

/-! ## The last line -/

/-- A text without the carriage returns at its end. -/
def trimReturns (s : List Char) : List Char :=
  (s.reverse.dropWhile (· == '\r')).reverse

/-- The line that `finish` makes of what is left of a body. -/
def lastLine (buffer : Bytes) : List Char :=
  trimReturns (Utf8.lossy buffer).toList

theorem trimReturns_concat (s : List Char) : trimReturns (s ++ ['\r']) = trimReturns s := by
  simp [trimReturns]

theorem trimReturns_of_not_mem {s : List Char} (plain : '\r' ∉ s) : trimReturns s = s := by
  have kept : s.reverse.dropWhile (· == '\r') = s.reverse := by
    rw [List.dropWhile_eq_self_iff]
    intro positive returned
    have first := eq_of_beq returned
    exact plain (List.mem_reverse.1 (first ▸ List.getElem_mem positive))
  rw [trimReturns, kept, List.reverse_reverse]

theorem dispatch_twice (d : Decoder) : d.dispatch.1.dispatch.2 = none := by
  rw [dispatch_snd, dispatch_fst]
  simp

/-- `finish` reads the last line, and then a blank one. -/
theorem finish_snd (d : Decoder) :
    d.finish.2 = (({ d with buffer := [] } : Decoder).readLine (lastLine d.buffer)).2.or
      (({ d with buffer := [] } : Decoder).readLine (lastLine d.buffer)).1.dispatch.2 := by
  by_cases empty : d.buffer = []
  · have blank : lastLine d.buffer = [] := by
      rw [empty]
      rfl
    have same : ({ d with buffer := [] } : Decoder) = d := by rw [← empty]
    rw [blank, same, finish, if_pos (List.isEmpty_iff.2 empty)]
    simp only [readLine, dispatch_twice, Option.or_none]
  · rw [finish, if_neg (by rwa [List.isEmpty_iff])]
    dsimp only
    have line : (((Utf8.lossy d.buffer).toList.reverse.dropWhile (· == '\r')).reverse) =
        lastLine d.buffer := rfl
    rw [line]
    rcases ({ d with buffer := [] } : Decoder).readLine (lastLine d.buffer) with ⟨d', _ | frame⟩
    · rfl
    · rfl

/-- What is left of a line that is cut off is read as a stump of its text. -/
theorem stump_lastLine {l : Line} {part : Bytes} (cut : part <+: l.octets)
    (less : part ≠ l.octets) : lineFeed ∉ part ∧ Stump l.text.chars (lastLine part) := by
  obtain ⟨⟨chars, inline⟩, ending⟩ := l
  have inside {part : Bytes} (cut : part <+: Utf8.encodeChars chars) :
      lineFeed ∉ part ∧ Stump chars (lastLine part) := by
    have stump := Utf8.stump_lossy cut
    have plain : '\r' ∉ (Utf8.lossy part).toList := by
      intro member
      rcases stump.mem member with known | other
      · exact (inline _ known).1 rfl
      · exact absurd other (by decide)
    refine ⟨fun fed => unfed_encodeChars inline (cut.subset fed), ?_⟩
    rw [lastLine, trimReturns_of_not_mem plain]
    exact stump
  have feed : Utf8.encodeChars ['\n'] = [lineFeed] := rfl
  cases ending with
  | feed =>
    simp only [Line.octets, LineEnd.chars, Utf8.encodeChars_append, feed] at cut less
    rcases List.prefix_concat_iff.1 cut with whole | shorter
    · exact absurd whole less
    · exact inside shorter
  | returnFeed =>
    have ends : Utf8.encodeChars ['\r', '\n'] = [carriageReturn] ++ [lineFeed] := rfl
    simp only [Line.octets, LineEnd.chars, Utf8.encodeChars_append, ends,
      ← List.append_assoc] at cut less
    rcases List.prefix_concat_iff.1 cut with whole | shorter
    · exact absurd whole less
    rcases List.prefix_concat_iff.1 shorter with returned | shorter
    · -- Cut between carriage return and line feed, the line is whole.
      have text : (Utf8.lossy part).toList = chars ++ ['\r'] := by
        have octets : part = Utf8.encodeChars (chars ++ ['\r']) := by
          rw [returned, Utf8.encodeChars_append]
          rfl
        rw [octets, Utf8.lossy_encodeChars, String.toList_ofList]
      have plain : '\r' ∉ chars := fun member => (inline _ member).1 rfl
      refine ⟨?_, ?_⟩
      · rw [returned, List.mem_append, not_or]
        exact ⟨unfed_encodeChars inline, by decide⟩
      · rw [lastLine, text, trimReturns_concat, trimReturns_of_not_mem plain]
        exact stump_of_front List.prefix_rfl
    · exact inside shorter

/-! ## Fields that are cut off -/

theorem stump_unspaced {value s : List Char} (h : Stump value s) :
    Stump (unspaced value) (unspaced s) := by
  obtain ⟨kept, cut, ends⟩ := h
  cases kept with
  | nil =>
    have same : unspaced s = s := by
      rcases ends with rfl | rfl <;> rfl
    rw [same]
    exact ⟨[], List.nil_prefix, ends⟩
  | cons c kept =>
    obtain ⟨rest, rfl⟩ := cut
    by_cases space : c = ' '
    · subst space
      rcases ends with rfl | rfl
      · exact ⟨kept, List.prefix_append _ _, .inl rfl⟩
      · exact ⟨kept, List.prefix_append _ _, .inr rfl⟩
    · have plain (more : List Char) : unspaced (c :: more) = c :: more := by
        simp [unspaced, space]
      rcases ends with rfl | rfl
      · rw [List.cons_append, plain, plain]
        exact ⟨c :: kept, List.prefix_append _ _, .inl rfl⟩
      · rw [List.cons_append, List.cons_append, plain, plain]
        exact ⟨c :: kept, List.prefix_append _ _, .inr rfl⟩

/-- A line with the name of a field is that name, or goes on behind a colon. -/
theorem splitField_cases (line : List Char) :
    (splitField line = (line, []) ∧ ':' ∉ line) ∨
      ∃ field value, line = field ++ ':' :: value ∧ splitField line = (field, unspaced value) := by
  by_cases colon : ':' ∈ line
  · right
    obtain ⟨field, value, rfl, plain⟩ := List.eq_append_cons_of_mem colon
    exact ⟨field, value, rfl, splitField_colon plain value⟩
  · exact .inl ⟨splitField_bare colon, colon⟩

/-- A line that is read as data starts with that name. -/
theorem head?_of_splitField {line value : List Char}
    (data : splitField line = ("data".toList, value)) : ∃ rest, line = 'd' :: rest := by
  rcases splitField_cases line with ⟨bare, -⟩ | ⟨field, value', rfl, split⟩
  · rw [bare] at data
    exact ⟨_, (Prod.mk.inj data).1⟩
  · rw [split] at data
    rw [(Prod.mk.inj data).1]
    exact ⟨_, rfl⟩

/-- A stump of a field that is read as data is one of data, and holds a stump of its value. -/
theorem stump_of_splitField {f : Field} {s value : List Char} (cut : Stump f.chars s)
    (data : splitField s = ("data".toList, value)) :
    ∃ whole, f.datum? = some whole ∧ Stump whole.toList value := by
  obtain ⟨rest, line⟩ := head?_of_splitField data
  cases f with
  | comment text =>
    rw [line, Field.chars_comment] at cut
    rcases cut.head with same | same <;> exact absurd same (by decide)
  | event name =>
    rw [line, Field.chars_event] at cut
    rcases cut.head with same | same <;> exact absurd same (by decide)
  | data whole =>
    refine ⟨_, rfl, ?_⟩
    rw [String.toList_ofList]
    rcases splitField_cases s with ⟨bare, -⟩ | ⟨field, value', text, split⟩
    · rw [bare] at data
      rw [← (Prod.mk.inj data).2]
      exact stump_of_front List.nil_prefix
    · rw [split] at data
      obtain ⟨rfl, rfl⟩ := Prod.mk.inj data
      have front : "data".toList ++ ':' :: value' = "data:".toList ++ value' := rfl
      rw [text, front, Field.chars_data, stump_append_iff] at cut
      exact stump_unspaced cut

/-- What reading a line does to the data that has been collected: nothing, or it adds a part of a
    value. -/
def Extends (value? : Option String) (data data' : List String) : Prop :=
  data' = data ∨
    ∃ whole part, value? = some whole ∧ Stump whole.toList part.toList ∧ data' = data ++ [part]

/-- A stump of a field completes no frame, and adds at most a stump of its value to the data. -/
theorem readLine_stump (d : Decoder) {f : Field} {s : List Char} (cut : Stump f.chars s)
    (visible : s ≠ []) :
    (d.readLine s).2 = none ∧ Extends f.datum? d.data (d.readLine s).1.data := by
  cases s with
  | nil => exact absurd rfl visible
  | cons c rest =>
    by_cases colon : c = ':'
    · subst colon
      exact ⟨rfl, .inl rfl⟩
    · rw [readLine_cons d colon]
      refine ⟨rfl, ?_⟩
      rcases split : splitField (c :: rest) with ⟨field, value⟩
      simp only [collect]
      by_cases event : field = "event".toList
      · rw [if_pos event]
        exact .inl rfl
      · rw [if_neg event]
        by_cases data : field = "data".toList
        · subst data
          obtain ⟨whole, known, stump⟩ := stump_of_splitField cut split
          rw [if_pos rfl]
          refine .inr ⟨whole, String.ofList value, known, ?_, rfl⟩
          rw [String.toList_ofList]
          exact stump
        · rw [if_neg data]
          exact .inl rfl

/-! ## Data that is cut off -/

theorem prefix_intercalate (data more : List String) :
    ("\n".intercalate data).toList <+: ("\n".intercalate (data ++ more)).toList := by
  by_cases none_before : data = []
  · rw [none_before]
    exact List.nil_prefix
  · by_cases none_behind : more = []
    · simp only [none_behind, List.append_nil, List.prefix_rfl]
    · rw [String.intercalate_append_of_ne_nil none_before none_behind, String.toList_append,
        String.toList_append, List.append_assoc]
      exact List.prefix_append _ _

/-- Data that extends some of the lines by a part of the next one is a stump of them all. -/
theorem Extends.stump {value? : Option String} {data data' : List String}
    (h : Extends value? data data') (more : List String) :
    Stump ("\n".intercalate (data ++ (value?.toList ++ more))).toList
      ("\n".intercalate data').toList := by
  rcases h with rfl | ⟨whole, part, rfl, cut, rfl⟩
  · exact stump_of_front (prefix_intercalate _ _)
  · have last : Stump ("\n".intercalate (whole :: more)).toList part.toList :=
      cut.mono (prefix_intercalate [whole] more)
    by_cases none_before : data = []
    · rw [none_before]
      exact last
    · rw [Option.toList_some, List.singleton_append,
        String.intercalate_append_of_ne_nil none_before (List.cons_ne_nil _ _),
        String.intercalate_append_of_ne_nil none_before (List.cons_ne_nil _ _)]
      simp only [String.toList_append]
      rw [stump_append_iff]
      exact last

/-! ## Blocks that are cut off -/

/-- A decoder whose `finish` makes at most one frame, with a stump of some data. -/
def FinishesIn (d : Decoder) (data : String) : Prop :=
  ∀ frame, d.finish.2 = some frame →
    ∃ name part, frame = .event name part ∧ Stump data.toList part.toList

/-- A decoder that has read some lines of a block, and a part of the next one. -/
theorem finishesIn_of_stump {d : Decoder} {value? : Option String} {part : Bytes}
    (read : ∀ d : Decoder, lastLine part ≠ [] →
      (d.readLine (lastLine part)).2 = none ∧
        Extends value? d.data (d.readLine (lastLine part)).1.data)
    (more : List String) :
    FinishesIn { d with buffer := part }
      ("\n".intercalate (d.data ++ (value?.toList ++ more))) := by
  intro frame made
  rw [finish_snd] at made
  dsimp only at made
  have framed {d' : Decoder} (extended : Extends value? d.data d'.data)
      (dispatched : d'.dispatch.2 = some frame) :
      ∃ name part, frame = .event name part ∧
        Stump ("\n".intercalate (d.data ++ (value?.toList ++ more))).toList part.toList := by
    rw [dispatch_snd] at dispatched
    split at dispatched
    · cases dispatched
    · cases dispatched
      exact ⟨_, _, rfl, extended.stump more⟩
  by_cases blank : lastLine part = []
  · rw [blank] at made
    simp only [readLine, dispatch_twice, Option.or_none] at made
    have same : Extends value? d.data ({ d with buffer := [] } : Decoder).data := .inl rfl
    exact framed same made
  · obtain ⟨silent, extended⟩ := read { d with buffer := [] } blank
    rw [silent, Option.none_or] at made
    exact framed extended made

/-- A block that is cut off completes no frame, and `finish` makes at most one of a stump of its
    data. -/
theorem exists_push_cut_block {b : Block} {part : Bytes} (cut : part <+: b.octets)
    (less : part ≠ b.octets) :
    ∃ d, new.push part = (d, []) ∧ FinishesIn d b.data := by
  rcases exists_of_prefix_flatMap cut with whole | ⟨done, l, rest, last, lines, rfl, cut', less'⟩
  · exact absurd whole less
  obtain ⟨unfed, stump⟩ := stump_lastLine cut' less'
  -- The lines before the cut are fields, and the line that is cut is the next field or blank.
  have split : ∃ fields more, b.fields = fields ++ more ∧
      done.map (·.text.chars) = (fields.map Prod.fst).map Field.chars ∧
      l.text.chars = ((more.head?.map (·.1.chars)).getD []) := by
    rcases List.eq_nil_or_concat rest with rfl | ⟨rest', y, rfl⟩
    · obtain ⟨rfl, last_line⟩ := List.append_inj' lines rfl
      refine ⟨b.fields, [], (List.append_nil _).symm, ?_, ?_⟩
      · simp [Block.fieldLines, Field.text]
      · rw [← (List.cons.inj last_line).1]
        rfl
    · rw [List.concat_eq_append, ← List.cons_append, ← List.append_assoc] at lines
      obtain ⟨fields, -⟩ := List.append_inj' lines rfl
      rw [Block.fieldLines, List.map_eq_append_iff] at fields
      obtain ⟨before, behind, fields, rfl, next⟩ := fields
      obtain ⟨f, more, rfl, rfl, -⟩ := List.map_eq_cons_iff.1 next
      refine ⟨before, f :: more, fields, ?_, ?_⟩
      · simp [Field.text]
      · rfl
  obtain ⟨fields, more, known, texts, text⟩ := split
  have pushed : new.push (done.flatMap Line.octets ++ last) =
      (⟨last, (fields.filterMap (·.1.name?)).getLast?, fields.filterMap (·.1.datum?)⟩, []) := by
    rw [push_append, push_flatMap_octets rfl, texts, readLines_fields]
    dsimp only [push]
    rw [drain_of_drained (by exact unfed)]
    simp [new, List.filterMap_map]
  refine ⟨_, pushed, ?_⟩
  have data : b.data = "\n".intercalate (fields.filterMap (·.1.datum?) ++
      ((more.head?.bind (·.1.datum?)).toList ++ more.tail.filterMap (·.1.datum?))) := by
    rw [Block.data, Block.values, known, List.filterMap_append]
    cases more with
    | nil => rfl
    | cons f more => cases own : f.1.datum? <;> simp [own]
  rw [data]
  refine finishesIn_of_stump (d := ⟨[], _, _⟩) ?_ _
  intro d visible
  rw [text] at stump
  cases more with
  | nil =>
    rcases stump_nil.1 stump with blank | mark
    · exact absurd blank visible
    · rw [mark]
      exact ⟨rfl, .inl rfl⟩
  | cons f more => exact readLine_stump d stump visible

/-- A body of blocks that is cut off: its whole blocks are read, and `finish` makes at most one
    frame, of a stump of the data of the next block. -/
theorem exists_push_cut {blocks : List Block} {part : Bytes}
    (cut : part <+: blocks.flatMap Block.octets) :
    ∃ front back d, blocks = front ++ back ∧ new.push part = (d, front.filterMap Block.frame?) ∧
      ∀ frame, d.finish.2 = some frame →
        ∃ b rest name data, back = b :: rest ∧ frame = .event name data ∧
          Stump b.data.toList data.toList := by
  rcases exists_of_prefix_flatMap cut with rfl | ⟨front, b, rest, last, rfl, rfl, cut', less⟩
  · refine ⟨blocks, [], new, (List.append_nil _).symm, push_blocks blocks, ?_⟩
    intro frame made
    cases made
  · obtain ⟨d, pushed, finishes⟩ := exists_push_cut_block cut' less
    refine ⟨front, b :: rest, d, rfl, ?_, ?_⟩
    · rw [push_append, push_blocks, pushed, List.append_nil]
    · intro frame made
      obtain ⟨name, data, rfl, stump⟩ := finishes frame made
      exact ⟨b, rest, name, data, rfl, rfl, stump⟩

end QueryDesk.EventStream
