import QueryDesk.Proofs.EventStream.Truncation

/-!
# The end of a body

A body may end without the line feeds that would complete its last line and its last event.  Then
`finish` makes of the rest the frame that two line feeds would complete, but for carriage returns:
of those before a line feed one is dropped, and `finish` drops all.  So the two agree unless the
rest ends in two carriage returns that show in what is read (`finish_agrees_iff`).
-/

namespace QueryDesk.EventStream

open QueryDesk.Text Decoder

/-! ## The last line -/

/-- Only carriage returns are gone. -/
theorem exists_trimReturns (s : List Char) :
    ∃ k, s = trimReturns s ++ List.replicate k '\r' := by
  refine ⟨(s.reverse.takeWhile (· == '\r')).length, ?_⟩
  have gone : s.reverse.takeWhile (· == '\r') =
      List.replicate (s.reverse.takeWhile (· == '\r')).length '\r' := by
    refine List.eq_replicate_of_mem ?_
    intro c member
    have returned := List.mem_takeWhile_imp (p := (· == '\r')) member
    exact eq_of_beq returned
  rw [trimReturns, ← List.reverse_inj, List.reverse_append, List.reverse_reverse,
    List.reverse_replicate, ← gone, List.takeWhile_append_dropWhile]

theorem trimReturns_of_getLast? {s : List Char} (other : s.getLast? ≠ some '\r') :
    trimReturns s = s := by
  obtain ⟨k, kept⟩ := exists_trimReturns s
  cases k with
  | zero =>
    rw [List.replicate_zero, List.append_nil] at kept
    exact kept.symm
  | succ k =>
    rw [List.replicate_succ', ← List.append_assoc] at kept
    rw [kept, List.getLast?_concat] at other
    exact absurd rfl other

/-- A carriage return behind some octets is read as one. -/
theorem toList_lossy_return (bytes : Bytes) :
    (Utf8.lossy (bytes ++ [carriageReturn])).toList = (Utf8.lossy bytes).toList ++ ['\r'] :=
  Utf8.toList_lossy_concat bytes (by decide)

theorem lastLine_concat_return (bytes : Bytes) :
    lastLine (bytes ++ [carriageReturn]) = lastLine bytes := by
  rw [lastLine, toList_lossy_return, trimReturns_concat, lastLine]

theorem lineText_concat_return (bytes : Bytes) :
    lineText (bytes ++ [carriageReturn]) = (Utf8.lossy bytes).toList := by
  simp [lineText]

theorem lineText_of_getLast? {bytes : Bytes} (other : bytes.getLast? ≠ some carriageReturn) :
    lineText bytes = (Utf8.lossy bytes).toList := by
  simp [lineText, other]

theorem lastLine_of_getLast? {bytes : Bytes} (other : bytes.getLast? ≠ some carriageReturn) :
    lastLine bytes = (Utf8.lossy bytes).toList := by
  refine trimReturns_of_getLast? fun last => other ?_
  exact Utf8.getLast?_toList_lossy (by decide) (by decide) last

/-- The line that a line feed would complete has one carriage return less than the rest of the body,
    and the line that `finish` makes has none. -/
theorem exists_lineText (bytes : Bytes) :
    ∃ k, lineText bytes = lastLine bytes ++ List.replicate k '\r' ∧
      (k = 0 ↔ ¬ [carriageReturn, carriageReturn] <:+ bytes) := by
  by_cases one : bytes.getLast? = some carriageReturn
  · obtain ⟨front, rfl⟩ := List.getLast?_eq_some_iff.1 one
    rw [lineText_concat_return, lastLine_concat_return]
    by_cases two : front.getLast? = some carriageReturn
    · obtain ⟨front, rfl⟩ := List.getLast?_eq_some_iff.1 two
      obtain ⟨k, kept⟩ := exists_trimReturns (Utf8.lossy front).toList
      refine ⟨k + 1, ?_, ?_⟩
      · rw [toList_lossy_return, lastLine_concat_return, List.replicate_succ', ← List.append_assoc]
        exact congrArg (· ++ ['\r']) kept
      · simp
    · refine ⟨0, ?_, ?_⟩
      · rw [lastLine_of_getLast? two, List.replicate_zero, List.append_nil]
      · refine iff_of_true rfl ?_
        rintro ⟨front', whole⟩
        have same : front' ++ [carriageReturn] = front := List.append_cancel_right
          (by rw [← whole, List.append_assoc]; rfl)
        rw [← same, List.getLast?_concat] at two
        exact two rfl
  · refine ⟨0, ?_, ?_⟩
    · rw [lineText_of_getLast? one, lastLine_of_getLast? one, List.replicate_zero, List.append_nil]
    · refine iff_of_true rfl ?_
      rintro ⟨front, rfl⟩
      exact one (by simp)

/-! ## Closing an event -/

/-- The frame that a line completes, or a blank line behind it. -/
def Decoder.close (d : Decoder) (line : List Char) : Option Frame :=
  (d.readLine line).2.or (d.readLine line).1.dispatch.2

theorem close_nil (d : Decoder) : d.close [] = d.dispatch.2 := by
  rw [close, readLine, dispatch_twice, Option.or_none]

theorem close_comment (d : Decoder) (text : List Char) : d.close (':' :: text) = d.dispatch.2 :=
  rfl

/-- `finish` closes the event with the last line. -/
theorem finish_eq_close (d : Decoder) :
    d.finish.2 = ({ d with buffer := [] } : Decoder).close (lastLine d.buffer) :=
  finish_snd d

/-- Two line feeds close the event with the line that the first one completes. -/
theorem push_feeds {d : Decoder} (drained : d.Drained) :
    (d.push [lineFeed, lineFeed]).2 =
      (({ d with buffer := [] } : Decoder).close (lineText d.buffer)).toList := by
  have whole : d.push [lineFeed, lineFeed] =
      ({ d with buffer := [] } : Decoder).push (d.buffer ++ [lineFeed] ++ [lineFeed]) := by
    simp [push]
  generalize idle : ({ d with buffer := [] } : Decoder) = d₀ at whole
  have empty : d₀.buffer = [] := by rw [← idle]
  have read : (d₀.readLine (lineText d.buffer)).1.buffer = [] := by rw [readLine_buffer, empty]
  have blank := push_feed read (List.not_mem_nil : lineFeed ∉ [])
  have closed : (d₀.readLine (lineText d.buffer)).1.readLine (lineText []) =
      (d₀.readLine (lineText d.buffer)).1.dispatch := rfl
  rw [List.nil_append, closed] at blank
  rw [whole, push_append, push_feed empty drained, blank, close]
  cases completed : (d₀.readLine (lineText d.buffer)).2 with
  | none => rfl
  | some frame =>
    rw [readLine_of_some completed, dispatch_snd]
    simp

/-! ## Carriage returns that show -/

/-- A field starts a line with a colon behind it just when the line is split there. -/
theorem field_prefix_iff {field line : List Char} (plain : ':' ∉ field) :
    field ++ [':'] <+: line ↔ ':' ∈ line ∧ (splitField line).1 = field := by
  constructor
  · rintro ⟨value, rfl⟩
    rw [List.append_assoc, List.singleton_append, splitField_colon plain]
    exact ⟨by simp, rfl⟩
  · rintro ⟨colon, split⟩
    obtain ⟨field', value, rfl, plain'⟩ := List.eq_append_cons_of_mem colon
    rw [splitField_colon plain'] at split
    cases split
    exact ⟨value, by simp⟩

/-- Carriage returns at the end of a line show: they would be part of a name or of data, or would
    change the name of a field that has no value. -/
def Decoder.Shows (d : Decoder) (line : List Char) : Prop :=
  "event:".toList <+: line ∨ "data:".toList <+: line ∨
    (line = "event".toList ∧ d.name ≠ some "") ∨
      (line = "data".toList ∧ ¬ (d.name ≠ none ∧ d.data = []))

theorem shows_field (d : Decoder) {field : List Char} (plain : ':' ∉ field) (value : List Char) :
    d.Shows (field ++ ':' :: value) ↔ field = "event".toList ∨ field = "data".toList := by
  have starts (name : List Char) (plain' : ':' ∉ name) :
      name ++ [':'] <+: field ++ ':' :: value ↔ field = name := by
    rw [field_prefix_iff plain', splitField_colon plain]
    simp
  have other (name : List Char) (plain' : ':' ∉ name) : field ++ ':' :: value ≠ name := by
    rintro rfl
    exact plain' (by simp)
  rw [Shows, ← starts _ (by decide), ← starts _ (by decide)]
  simp only [other "event".toList (by decide), other "data".toList (by decide), false_and, or_false]
  rfl

theorem shows_bare (d : Decoder) {line : List Char} (plain : ':' ∉ line) :
    d.Shows line ↔
      (line = "event".toList ∧ d.name ≠ some "") ∨
        (line = "data".toList ∧ ¬ (d.name ≠ none ∧ d.data = [])) := by
  have starts (name : List Char) (colon : ':' ∈ name) : ¬ name <+: line :=
    fun front => plain (front.subset colon)
  simp only [Shows, starts "event:".toList (by decide), starts "data:".toList (by decide), false_or]

/-! ## What a line adds to its event -/

theorem collect_other (d : Decoder) {field : List Char} (event : field ≠ "event".toList)
    (data : field ≠ "data".toList) (value : List Char) : d.collect field value = d := by
  rw [collect, if_neg event, if_neg data]

theorem dispatch_collect_event (d : Decoder) (value : List Char) :
    (d.collect "event".toList value).dispatch.2 =
      some (.event (String.ofList value) ("\n".intercalate d.data)) := by
  rw [collect_event, dispatch_snd]
  simp

theorem dispatch_collect_data (d : Decoder) (value : List Char) :
    (d.collect "data".toList value).dispatch.2 =
      some (.event (d.name.getD "message")
        ("\n".intercalate (d.data ++ [String.ofList value]))) := by
  rw [collect_data, dispatch_snd]
  simp

/-- A field with a value is closed with what it adds. -/
theorem close_field (d : Decoder) {field : List Char} (named : field ≠ []) (plain : ':' ∉ field)
    (value : List Char) :
    d.close (field ++ ':' :: value) = (d.collect field (unspaced value)).dispatch.2 := by
  rw [close, readLine_field d named plain, Option.none_or]

/-- A field without a value is closed with what it adds. -/
theorem close_bare (d : Decoder) {field : List Char} (named : field ≠ []) (plain : ':' ∉ field) :
    d.close field = (d.collect field []).dispatch.2 := by
  obtain ⟨c, rest, rfl⟩ := List.exists_cons_of_ne_nil named
  have other : c ≠ ':' := by
    rintro rfl
    exact plain List.mem_cons_self
  rw [close, readLine_cons d other, splitField_bare plain, Option.none_or]

/-- The data of an event ends in its last line. -/
theorem intercalate_concat_inj {lines : List String} {last last' : String} :
    "\n".intercalate (lines ++ [last]) = "\n".intercalate (lines ++ [last']) ↔ last = last' := by
  by_cases alone : lines = []
  · simp [alone]
  · simp [String.intercalate_append_of_ne_nil alone (List.cons_ne_nil _ _)]

/-- An empty last line shows in the data of an event, unless it is the only one. -/
theorem intercalate_concat_empty {lines : List String} :
    "\n".intercalate (lines ++ [""]) = "\n".intercalate lines ↔ lines = [] := by
  by_cases alone : lines = []
  · simp [alone]
  · simp [String.intercalate_append_of_ne_nil alone (List.cons_ne_nil _ _), alone]

/-! ## Lines with carriage returns behind them -/

section Returns

variable {k : Nat}

theorem unspaced_returns (value : List Char) :
    unspaced (value ++ List.replicate (k + 1) '\r') =
      unspaced value ++ List.replicate (k + 1) '\r' := by
  cases value with
  | nil => rfl
  | cons c rest =>
    by_cases space : c = ' '
    · subst space
      rfl
    · simp [unspaced, space]

theorem append_returns_ne (s name : List Char) (plain : '\r' ∉ name) :
    s ++ List.replicate (k + 1) '\r' ≠ name := by
  rintro rfl
  exact plain (by simp)

/-- Behind a field with a value they are part of the value. -/
theorem close_field_returns_iff (d : Decoder) {field : List Char} (plain : ':' ∉ field)
    (value : List Char) :
    d.close (field ++ ':' :: (value ++ List.replicate (k + 1) '\r')) =
        d.close (field ++ ':' :: value) ↔
      ¬ (field = "event".toList ∨ field = "data".toList) := by
  by_cases comment : field = []
  · subst comment
    rw [List.nil_append, List.nil_append, close_comment, close_comment]
    simp
  · rw [close_field d comment plain, close_field d comment plain, unspaced_returns]
    by_cases event : field = "event".toList
    · subst event
      rw [dispatch_collect_event, dispatch_collect_event]
      simp
    · by_cases data : field = "data".toList
      · subst data
        rw [dispatch_collect_data, dispatch_collect_data]
        simp [intercalate_concat_inj]
      · simp only [collect_other d event data, event, data, or_self, not_false_eq_true]

/-- Behind a line without a colon they make another name of it, which stands for nothing. -/
theorem close_bare_returns_iff (d : Decoder) {line : List Char} (plain : ':' ∉ line) :
    d.close (line ++ List.replicate (k + 1) '\r') = d.close line ↔
      ¬ ((line = "event".toList ∧ d.name ≠ some "") ∨
        (line = "data".toList ∧ ¬ (d.name ≠ none ∧ d.data = []))) := by
  have named : line ++ List.replicate (k + 1) '\r' ≠ [] := by simp
  have plain' : ':' ∉ line ++ List.replicate (k + 1) '\r' := by simp [plain]
  have ignored : d.close (line ++ List.replicate (k + 1) '\r') = d.dispatch.2 := by
    rw [close_bare d named plain', collect_other d (append_returns_ne line _ (by decide))
      (append_returns_ne line _ (by decide))]
  have empty : String.ofList [] = "" := rfl
  rw [ignored]
  by_cases blank : line = []
  · subst blank
    rw [close_nil]
    simp
  rw [close_bare d blank plain]
  by_cases event : line = "event".toList
  · subst event
    have other : "event".toList ≠ "data".toList := by decide
    rw [dispatch_collect_event, dispatch_snd]
    simp only [other, empty, true_and, false_and, or_false, not_not]
    cases d.name with
    | none => by_cases data : d.data = [] <;> simp [data]
    | some name => simp
  by_cases data : line = "data".toList
  · subst data
    rw [dispatch_collect_data, dispatch_snd]
    simp only [event, empty, true_and, false_and, false_or, not_not]
    by_cases unnamed : d.name = none ∧ d.data = []
    · rw [if_pos unnamed]
      simp [unnamed.1]
    · rw [if_neg unnamed, Option.some.injEq, Frame.event.injEq,
        eq_comm (a := "\n".intercalate _)]
      simp only [true_and, intercalate_concat_empty]
      tauto
  · simp only [collect_other d event data, event, data, false_and, or_self, not_false_eq_true]

/-- Carriage returns behind a line change the frame that it closes just when they show. -/
theorem close_returns_iff (d : Decoder) (line : List Char) :
    d.close (line ++ List.replicate (k + 1) '\r') = d.close line ↔ ¬ d.Shows line := by
  by_cases colon : ':' ∈ line
  · obtain ⟨field, value, rfl, plain⟩ := List.eq_append_cons_of_mem colon
    rw [shows_field d plain, List.append_assoc, List.cons_append]
    exact close_field_returns_iff d plain value
  · rw [shows_bare d colon]
    exact close_bare_returns_iff d colon

end Returns

/-! ## Ends of bodies -/

/-- Where a body ends without the line feeds that its last event needs, `finish` makes the frame
    that two line feeds would complete, unless what is left of the body ends in two carriage
    returns and they show. -/
theorem finish_agrees_iff (chunks : List Bytes) :
    let d := (new.pushAll chunks).1
    (new.pushAll chunks).2 ++ d.finish.2.toList =
        (new.pushAll (chunks ++ [[lineFeed, lineFeed]])).2 ↔
      ¬ ([carriageReturn, carriageReturn] <:+ d.buffer ∧ d.Shows (lastLine d.buffer)) := by
  intro d
  have state : d = (new.push chunks.flatten).1 := congrArg Prod.fst (pushAll_new chunks)
  have drained : d.Drained := state ▸ drained_push new chunks.flatten
  have more : (new.pushAll (chunks ++ [[lineFeed, lineFeed]])).2 =
      (new.pushAll chunks).2 ++ (d.push [lineFeed, lineFeed]).2 := by
    simp [d, pushAll_new, push_append]
  have same_frame {x y : Option Frame} : x.toList = y.toList ↔ x = y := by
    cases x <;> cases y <;> simp
  obtain ⟨k, text, few⟩ := exists_lineText d.buffer
  rw [more, List.append_cancel_left_eq, push_feeds drained, finish_eq_close, same_frame, text]
  cases k with
  | zero =>
    rw [List.replicate_zero, List.append_nil]
    exact iff_of_true rfl fun returned => few.1 rfl returned.1
  | succ k =>
    have returned : [carriageReturn, carriageReturn] <:+ d.buffer := by
      by_contra other
      exact absurd (few.2 other) (Nat.succ_ne_zero k)
    rw [eq_comm, close_returns_iff, not_and]
    exact ⟨fun hidden _ => hidden, fun hidden => hidden returned⟩

/-- The second carriage return behind a line of data stays when line feeds follow, and `finish`
    drops it. -/
theorem data_returns_lost :
    (new.pushAll [Utf8.encode "data: x\r\r"]).2 ++
        (new.pushAll [Utf8.encode "data: x\r\r"]).1.finish.2.toList = [.event "message" "x"] ∧
      (new.pushAll [Utf8.encode "data: x\r\r", [lineFeed, lineFeed]]).2 =
        [.event "message" "x\r"] := by
  decide +kernel

end QueryDesk.EventStream
