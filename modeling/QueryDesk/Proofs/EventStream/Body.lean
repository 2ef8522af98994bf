import Mathlib.Data.List.TakeDrop
import Mathlib.Data.List.TakeWhile
import QueryDesk.Proofs.EventStream.RoundTrip

/-!
# Bodies as blocks of lines

A body is a list of blocks.  A block has lines that are not blank, and a blank line ends it: the
lines are comments, names of its event and data, in any order.  Each line ends in a line feed,
which may have a carriage return before it.

What a block stands for is said without the decoder: its last name, its data lines with line feeds
between them, and no frame if it has neither (`Block.frame?`).  A new decoder reads exactly that
from each block and is new again behind it (`push_blocks`).
-/

namespace QueryDesk.EventStream

open QueryDesk.Text Decoder

/-! ## Lines -/

/-- A text without line ends. -/
structure LineText where
  chars : List Char
  inline : ∀ c ∈ chars, Inline c

/-- How a line ends. -/
inductive LineEnd where
  | feed
  | returnFeed
deriving DecidableEq, Repr

/-- The characters that end a line. -/
def LineEnd.chars : LineEnd → List Char
  | .feed => ['\n']
  | .returnFeed => ['\r', '\n']

/-- A line as it is sent. -/
structure Line where
  text : LineText
  ending : LineEnd

/-- The octets of a line. -/
def Line.octets (l : Line) : Bytes :=
  Utf8.encodeChars (l.text.chars ++ l.ending.chars)

/-- Without one space at its front, which stands for nothing behind the colon of a field. -/
def unspaced : List Char → List Char
  | ' ' :: value => value
  | value => value

/-- A line that is not blank: a comment, a name of the event, or data. -/
inductive Field where
  | comment (text : LineText)
  | event (value : LineText)
  | data (value : LineText)

namespace Field

/-- The text of a field. -/
def chars : Field → List Char
  | comment text => ":".toList ++ text.chars
  | event value => "event:".toList ++ value.chars
  | data value => "data:".toList ++ value.chars

theorem chars_comment (text : LineText) : (comment text).chars = ':' :: text.chars := rfl

theorem chars_event (value : LineText) :
    (event value).chars = 'e' :: ("vent:".toList ++ value.chars) := rfl

theorem chars_data (value : LineText) : (data value).chars = "data:".toList ++ value.chars := rfl

/-- The name that a field gives to its event. -/
def name? : Field → Option String
  | event value => some (String.ofList (unspaced value.chars))
  | _ => none

/-- The line of data that a field holds. -/
def datum? : Field → Option String
  | data value => some (String.ofList (unspaced value.chars))
  | _ => none

theorem inline_of_mem_chars (f : Field) {c : Char} (member : c ∈ f.chars) : Inline c := by
  have marked {mark : String} (plain : mark.toList.all (!isLineEnd ·) = true) (value : LineText)
      (inside : c ∈ mark.toList ++ value.chars) : Inline c := by
    rcases List.mem_append.1 inside with front | back
    · exact inline_of_all plain front
    · exact value.inline c back
  cases f with
  | comment text => exact marked (by decide) text member
  | event value => exact marked (by decide) value member
  | data value => exact marked (by decide) value member

/-- The text of a field, which has no line end. -/
def text (f : Field) : LineText :=
  ⟨f.chars, fun _ => f.inline_of_mem_chars⟩

end Field

/-! ## Blocks -/

/-- Lines that are not blank, and how the blank line behind them ends. -/
structure Block where
  fields : List (Field × LineEnd)
  blank : LineEnd

namespace Block

/-- The lines before the blank one. -/
def fieldLines (b : Block) : List Line :=
  b.fields.map fun (f, ending) => ⟨f.text, ending⟩

/-- The blank line. -/
def blankLine (b : Block) : Line :=
  ⟨⟨[], List.forall_mem_nil _⟩, b.blank⟩

/-- The lines of a block. -/
def lines (b : Block) : List Line :=
  b.fieldLines ++ [b.blankLine]

/-- The octets of a block. -/
def octets (b : Block) : Bytes :=
  b.lines.flatMap Line.octets

/-- The name of a block's event; the last one counts. -/
def name? (b : Block) : Option String :=
  (b.fields.filterMap (·.1.name?)).getLast?

/-- The lines of a block's data. -/
def values (b : Block) : List String :=
  b.fields.filterMap (·.1.datum?)

/-- The data of a block. -/
def data (b : Block) : String :=
  "\n".intercalate b.values

/-- The frame that a block stands for. -/
def frame? (b : Block) : Option Frame :=
  if b.name? = none ∧ b.values = [] then none
  else some (.event (b.name?.getD "message") b.data)

end Block

/-! ## Reading lines -/

/-- A new decoder reads chunks as what they make together. -/
theorem pushAll_new (chunks : List Bytes) : new.pushAll chunks = new.push chunks.flatten :=
  pushAll_eq_push (drained_of_reachable .new) chunks

/-- A line is read like its text, whichever way it ends. -/
theorem push_octets {d : Decoder} (idle : d.buffer = []) (l : Line) :
    d.push l.octets = ((d.readLine l.text.chars).1, (d.readLine l.text.chars).2.toList) := by
  obtain ⟨⟨chars, inline⟩, ending⟩ := l
  cases ending with
  | feed => exact push_line idle inline
  | returnFeed =>
    have ends : Utf8.encodeChars ['\r', '\n'] = [carriageReturn] ++ [lineFeed] := rfl
    have unfed : lineFeed ∉ Utf8.encodeChars chars ++ [carriageReturn] := by
      rw [List.mem_append, not_or]
      exact ⟨unfed_encodeChars inline, by decide⟩
    have text : lineText (Utf8.encodeChars chars ++ [carriageReturn]) = chars := by
      simp [lineText, Utf8.lossy_encodeChars]
    dsimp only [Line.octets, LineEnd.chars]
    rw [Utf8.encodeChars_append, ends, ← List.append_assoc, push_feed idle unfed, text]

/-- Lines are read one after another, and nothing of them stays in the buffer. -/
theorem push_flatMap_octets {d : Decoder} (idle : d.buffer = []) (ls : List Line) :
    d.push (ls.flatMap Line.octets) = d.readLines (ls.map (·.text.chars)) := by
  induction ls generalizing d with
  | nil =>
    have inline : ∀ line ∈ ([] : List (List Char)), ∀ c ∈ line, Inline c := List.forall_mem_nil _
    exact push_lines idle inline
  | cons l rest ih =>
    have idle' : (d.readLine l.text.chars).1.buffer = [] := by rw [readLine_buffer, idle]
    rw [List.flatMap_cons, push_append, push_octets idle]
    simp only [List.map_cons, readLines, ih idle']

/-! ## Reading fields -/

/-- What a field adds to the event that is being collected. -/
def Decoder.collect (d : Decoder) (field value : List Char) : Decoder :=
  if field = "event".toList then { d with name := some (String.ofList value) }
  else if field = "data".toList then { d with data := d.data ++ [String.ofList value] }
  else d

theorem Decoder.collect_event (d : Decoder) (value : List Char) :
    d.collect "event".toList value = { d with name := some (String.ofList value) } :=
  if_pos rfl

theorem Decoder.collect_data (d : Decoder) (value : List Char) :
    d.collect "data".toList value = { d with data := d.data ++ [String.ofList value] } := by
  rw [collect, if_neg (by decide), if_pos rfl]

/-- A line that is neither blank nor a comment is a field. -/
theorem readLine_cons (d : Decoder) {c : Char} (other : c ≠ ':') (line : List Char) :
    d.readLine (c :: line) =
      (d.collect (splitField (c :: line)).1 (splitField (c :: line)).2, none) := by
  unfold readLine collect
  split
  · rename_i blank
    cases blank
  · rename_i comment
    cases comment
    exact absurd rfl other
  · dsimp only
    split
    · rfl
    · split <;> rfl

/-- A field ends at its first colon. -/
theorem splitField_colon {field : List Char} (plain : ':' ∉ field) (value : List Char) :
    splitField (field ++ ':' :: value) = (field, unspaced value) := by
  have inside : ∀ c ∈ field, (c != ':') = true := by
    intro c member
    simp only [bne_iff_ne]
    rintro rfl
    exact plain member
  have cut : (field ++ ':' :: value).span (· != ':') = (field, ':' :: value) := by
    rw [List.span_eq_takeWhile_dropWhile, List.takeWhile_append_of_pos inside,
      List.dropWhile_append_of_pos inside]
    simp
  unfold splitField
  rw [cut]
  cases value with
  | nil => rfl
  | cons c rest =>
    by_cases space : c = ' '
    · subst space
      rfl
    · simp [unspaced, space]

/-- A field without a colon has no value. -/
theorem splitField_bare {field : List Char} (plain : ':' ∉ field) :
    splitField field = (field, []) := by
  have inside : ∀ c ∈ field, (c != ':') = true := by
    intro c member
    simp only [bne_iff_ne]
    rintro rfl
    exact plain member
  unfold splitField
  rw [List.span_eq_takeWhile_dropWhile, List.takeWhile_eq_self_iff.2 inside,
    List.dropWhile_eq_nil_iff.2 inside]

/-- A line with a field and a value is collected. -/
theorem readLine_field (d : Decoder) {field : List Char} (named : field ≠ [])
    (plain : ':' ∉ field) (value : List Char) :
    d.readLine (field ++ ':' :: value) = (d.collect field (unspaced value), none) := by
  obtain ⟨c, rest, rfl⟩ := List.exists_cons_of_ne_nil named
  have other : c ≠ ':' := by
    rintro rfl
    exact plain List.mem_cons_self
  rw [List.cons_append, readLine_cons d other, ← List.cons_append, splitField_colon plain]

/-- A comment leaves everything as it is, a name replaces the one before it, and data is added. -/
theorem readLine_chars (d : Decoder) (f : Field) :
    d.readLine f.chars =
      ({ d with name := f.name?.or d.name, data := d.data ++ f.datum?.toList }, none) := by
  cases f with
  | comment text =>
    have read : d.readLine (Field.comment text).chars = (d, none) := rfl
    rw [read]
    simp only [Field.name?, Field.datum?, Option.none_or, Option.toList_none, List.append_nil]
  | event value =>
    have line : (Field.event value).chars = "event".toList ++ ':' :: value.chars := rfl
    rw [line, readLine_field d (by decide) (by decide), collect_event]
    simp only [Field.name?, Field.datum?, Option.some_or, Option.toList_none, List.append_nil]
  | data value =>
    have line : (Field.data value).chars = "data".toList ++ ':' :: value.chars := rfl
    rw [line, readLine_field d (by decide) (by decide), collect_data]
    simp only [Field.name?, Field.datum?, Option.none_or, Option.toList_some]

/-- After some fields the last name and all data have been collected, and no frame is complete. -/
theorem readLines_fields (d : Decoder) (fields : List Field) :
    d.readLines (fields.map Field.chars) =
      ({ d with name := (fields.filterMap Field.name?).getLast?.or d.name,
                data := d.data ++ fields.filterMap Field.datum? }, []) := by
  induction fields generalizing d with
  | nil => simp [readLines]
  | cons f rest ih =>
    have name : ((f :: rest).filterMap Field.name?).getLast?.or d.name =
        (rest.filterMap Field.name?).getLast?.or (f.name?.or d.name) := by
      cases own : f.name? with
      | none => simp only [List.filterMap_cons, own, Option.none_or]
      | some name =>
        simp only [List.filterMap_cons, own, List.getLast?_cons, Option.some_or]
        cases (rest.filterMap Field.name?).getLast? <;> rfl
    have data : (f :: rest).filterMap Field.datum? =
        f.datum?.toList ++ rest.filterMap Field.datum? := by
      cases own : f.datum? <;> simp [own]
    simp only [List.map_cons, readLines, readLine_chars, ih, name, data, List.append_assoc]
    rfl

/-! ## Reading blocks -/

theorem lines_chars (b : Block) :
    b.lines.map (·.text.chars) = (b.fields.map Prod.fst).map Field.chars ++ [[]] := by
  simp [Block.lines, Block.fieldLines, Block.blankLine, Field.text]

/-- A blank line ends the event that has been collected, if there is one. -/
theorem dispatch_snd (d : Decoder) :
    d.dispatch.2 =
      if d.name = none ∧ d.data = [] then none
      else some (.event (d.name.getD "message") ("\n".intercalate d.data)) := by
  unfold dispatch
  split
  · rename_i noName noData
    simp [noName, noData]
  · rename_i other
    rw [if_neg]
    rintro ⟨noName, noData⟩
    exact other noName noData

/-- A new decoder that reads a block is a new decoder again. -/
theorem push_block (b : Block) : new.push b.octets = (new, b.frame?.toList) := by
  have blank (d : Decoder) : d.readLines [[]] = (d.dispatch.1, d.dispatch.2.toList) := by
    simp [readLines, readLine]
  rw [Block.octets, push_flatMap_octets rfl, lines_chars, readLines_append, readLines_fields, blank,
    dispatch_fst, dispatch_snd]
  simp only [List.filterMap_map, Option.or_none, List.nil_append, new]
  rfl

/-- A new decoder reads a body block by block. -/
theorem push_blocks (blocks : List Block) :
    new.push (blocks.flatMap Block.octets) = (new, blocks.filterMap Block.frame?) := by
  induction blocks with
  | nil => exact push_flatMap_octets rfl []
  | cons b rest ih =>
    rw [List.flatMap_cons, push_append, push_block, ih]
    cases read : b.frame? <;> simp [read]

end QueryDesk.EventStream
