import Mathlib.Data.List.Chain
import Mathlib.Data.List.TakeWhile
import QueryDesk.Proofs.Settings.Segments

/-!
# Expanding any template

Every template has segments unless it has a reference in braces that is not closed, and then they
are determined, if text that goes on is one literal: `cut` takes the first one off a text.  So what
is expanded of segments describes what is expanded of all of these templates (`expand_segments`).
-/

namespace QueryDesk.Settings

open QueryDesk.Text

/-! ## Taking segments off a text -/

/-- A text with a reference in braces that is not closed. -/
def Unclosed (text : List Char) : Prop :=
  ∃ after, '$' :: '\x7b' :: after <:+ text ∧ '\x7d' ∉ after

/-- Segments that fit, in which literal text is not empty and goes on as one segment. -/
structure Merged (segments : List Segment) : Prop where
  fit : Fit segments
  filled : Segment.literal "" ∉ segments
  apart : segments.IsChain fun a b => a.isLiteral = true → b.isLiteral = false

/-- The segment that begins with a dollar sign in front of a text, and what stands behind it. -/
def cutReference : List Char → Segment × List Char
  | '\x7b' :: text =>
    (.braced (String.ofList (text.takeWhile (· ≠ '\x7d'))), (text.dropWhile (· ≠ '\x7d')).tail)
  | text =>
    if text.takeWhile isNameChar = [] then (.dollar, text)
    else (.bare (String.ofList (text.takeWhile isNameChar)), text.dropWhile isNameChar)

/-- The first segment of a text, and what stands behind it. -/
def cut : List Char → Segment × List Char
  | '$' :: text => cutReference text
  | text => (.literal (String.ofList (text.takeWhile (· ≠ '$'))), text.dropWhile (· ≠ '$'))

/-- A word ends where no further character of its kind follows. -/
theorem span_append {p : Char → Bool} {word : List Char} (inside : ∀ c ∈ word, p c = true)
    (after : List Char) (ends : ∀ c ∈ after.head?, p c = false) :
    (word ++ after).takeWhile p = word ∧ (word ++ after).dropWhile p = after := by
  rw [List.takeWhile_append_of_pos inside, List.dropWhile_append_of_pos inside]
  cases after with
  | nil => simp
  | cons c after =>
    have other : p c = false := ends c rfl
    simp [other]

theorem Segment.chars_ne_nil {segment : Segment} (filled : segment ≠ .literal "") :
    segment.chars ≠ [] := by
  cases segment with
  | literal text =>
    intro empty
    have nothing : text = "" := String.toList_eq_nil_iff.1 empty
    exact filled (congrArg Segment.literal nothing)
  | _ => simp [Segment.chars]

/-- A literal that is not empty and ends before a dollar sign is cut off as it is. -/
theorem cut_literal {text : String} {after : List Char} (plain : '$' ∉ text.toList)
    (filled : text.toList ≠ []) (ends : ∀ c ∈ after.head?, c = '$') :
    cut (text.toList ++ after) = (.literal text, after) := by
  have inside : ∀ c ∈ text.toList, decide (c ≠ '$') = true := by
    intro c member
    rw [decide_eq_true_eq]
    rintro rfl
    exact plain member
  have spanned := span_append inside after fun c first => by simp [ends c first]
  obtain ⟨c, rest, split⟩ := List.exists_cons_of_ne_nil filled
  have other : c ≠ '$' := by
    rintro rfl
    exact plain (by simp [split])
  unfold cut
  split
  · rename_i text' begins
    rw [split, List.cons_append, List.cons.injEq] at begins
    exact absurd begins.1 other
  · rw [spanned.1, spanned.2, String.ofList_toList]

/-- A segment is cut off a text as it is. -/
theorem cut_segment {segment : Segment} {after : List Char} (fits : segment.Fits after)
    (filled : segment ≠ .literal "")
    (ends : segment.isLiteral = true → ∀ c ∈ after.head?, c = '$') :
    cut (segment.chars ++ after) = (segment, after) := by
  cases segment with
  | literal text => exact cut_literal fits (Segment.chars_ne_nil filled) (ends rfl)
  | braced name =>
    have inside : ∀ c ∈ name.toList, decide (c ≠ '\x7d') = true := by
      intro c member
      rw [decide_eq_true_eq]
      rintro rfl
      exact fits member
    have spanned := span_append inside ('\x7d' :: after) fun c first => by
      simp [← Option.some.inj first]
    simp only [Segment.chars, List.cons_append, List.append_assoc, List.nil_append, cut,
      cutReference, spanned.1, spanned.2, List.tail_cons, String.ofList_toList]
  | bare name =>
    obtain ⟨named, inside, stops⟩ := fits
    have spanned := span_append inside after stops
    obtain ⟨c, rest, split⟩ := List.exists_cons_of_ne_nil named
    have noBrace : c ≠ '\x7b' := ne_brace_of_isNameChar (inside c (by simp [split]))
    simp only [Segment.chars, List.cons_append, cut]
    unfold cutReference
    split
    · rename_i text begins
      rw [split, List.cons_append, List.cons.injEq] at begins
      exact absurd begins.1 noBrace
    · rw [spanned.1, spanned.2, if_neg named, String.ofList_toList]
  | dollar =>
    simp only [Segment.chars, List.cons_append, List.nil_append, cut]
    unfold cutReference
    split
    · exact absurd rfl (fits _ rfl).1
    · rw [if_pos]
      cases after with
      | nil => rfl
      | cons c after => simp [(fits c rfl).2]

/-! ## Merged segments -/

theorem Segment.chars_of_not_literal {segment : Segment} (h : segment.isLiteral = false) :
    ∃ rest, segment.chars = '$' :: rest := by
  cases segment with
  | literal text => cases h
  | braced name => exact ⟨_, rfl⟩
  | bare name => exact ⟨_, rfl⟩
  | dollar => exact ⟨_, rfl⟩

theorem merged_nil : Merged [] :=
  ⟨trivial, List.not_mem_nil, List.isChain_nil⟩

/-- Segments do not begin with a literal just if their text begins with a dollar sign. -/
theorem head_textOf {segments : List Segment} (fit : Fit segments)
    (filled : Segment.literal "" ∉ segments) :
    (∀ first ∈ segments.head?, first.isLiteral = false) ↔
      ∀ c ∈ (textOf segments).head?, c = '$' := by
  cases segments with
  | nil => simp [textOf]
  | cons first rest =>
    cases literal : first.isLiteral with
    | false =>
      obtain ⟨tail, text⟩ := first.chars_of_not_literal literal
      simp [textOf, text, literal]
    | true =>
      cases first with
      | literal text =>
        have named : Segment.literal text ≠ .literal "" := by
          intro empty
          exact filled (by simp [empty])
        obtain ⟨c, tail, split⟩ : ∃ c tail, text.toList = c :: tail :=
          List.exists_cons_of_ne_nil (Segment.chars_ne_nil named)
        have other : c ≠ '$' := by
          rintro rfl
          exact fit.1 (by simp [split])
        simp [textOf, Segment.chars, split, other, literal]
      | _ => cases literal

/-- Segments are merged when the first one fits, is not empty and, as a literal, ends before a
    dollar sign, and the others are merged. -/
theorem merged_cons_iff {segment : Segment} {rest : List Segment} :
    Merged (segment :: rest) ↔ segment.Fits (textOf rest) ∧ segment ≠ .literal "" ∧
      (segment.isLiteral = true → ∀ c ∈ (textOf rest).head?, c = '$') ∧ Merged rest := by
  constructor
  · rintro ⟨⟨fits, fit⟩, filled, apart⟩
    rw [List.mem_cons, not_or] at filled
    rw [List.isChain_cons] at apart
    refine ⟨fits, Ne.symm filled.1, ?_, fit, filled.2, apart.2⟩
    intro literal
    exact (head_textOf fit filled.2).1 fun first here => apart.1 first here literal
  · rintro ⟨fits, filled, ends, fit, others, apart⟩
    refine ⟨⟨fits, fit⟩, ?_, ?_⟩
    · rw [List.mem_cons, not_or]
      exact ⟨Ne.symm filled, others⟩
    · rw [List.isChain_cons]
      exact ⟨fun first here literal => (head_textOf fit others).2 (ends literal) first here, apart⟩

theorem Merged.cut {segment : Segment} {rest : List Segment} (h : Merged (segment :: rest)) :
    cut (textOf (segment :: rest)) = (segment, textOf rest) := by
  obtain ⟨fits, filled, ends, -⟩ := merged_cons_iff.1 h
  exact cut_segment fits filled ends

theorem Merged.text_ne_nil {segment : Segment} {rest : List Segment}
    (h : Merged (segment :: rest)) : textOf (segment :: rest) ≠ [] := by
  intro empty
  obtain ⟨-, filled, -⟩ := merged_cons_iff.1 h
  exact Segment.chars_ne_nil filled (List.append_eq_nil_iff.1 empty).1

/-- The segments of a text are determined. -/
theorem merged_unique {segments segments' : List Segment} (merged : Merged segments)
    (merged' : Merged segments') (same : textOf segments = textOf segments') :
    segments = segments' := by
  induction segments generalizing segments' with
  | nil =>
    cases segments' with
    | nil => rfl
    | cons segment' rest' => exact absurd same.symm merged'.text_ne_nil
  | cons segment rest ih =>
    cases segments' with
    | nil => exact absurd same merged.text_ne_nil
    | cons segment' rest' =>
      have cuts : (segment, textOf rest) = (segment', textOf rest') := by
        rw [← merged.cut, ← merged'.cut, same]
      rw [Prod.mk.injEq] at cuts
      have left : Merged rest := (merged_cons_iff.1 merged).2.2.2
      have left' : Merged rest' := (merged_cons_iff.1 merged').2.2.2
      rw [cuts.1, ih left left' cuts.2]

/-! ## References that are not closed -/

theorem unclosed_cons_iff {c : Char} {rest : List Char} :
    Unclosed (c :: rest) ↔
      (c = '$' ∧ ∃ after, rest = '\x7b' :: after ∧ '\x7d' ∉ after) ∨ Unclosed rest := by
  unfold Unclosed
  constructor
  · rintro ⟨after, suffix, unclosed⟩
    rcases List.suffix_cons_iff.1 suffix with whole | later
    · rw [List.cons.injEq] at whole
      exact .inl ⟨whole.1.symm, after, whole.2.symm, unclosed⟩
    · exact .inr ⟨after, later, unclosed⟩
  · rintro (⟨rfl, after, rfl, unclosed⟩ | ⟨after, later, unclosed⟩)
    · exact ⟨after, List.suffix_rfl, unclosed⟩
    · exact ⟨after, later.trans (List.suffix_cons ..), unclosed⟩

theorem Unclosed.of_cons {c : Char} {rest : List Char} (other : c ≠ '$')
    (h : Unclosed (c :: rest)) : Unclosed rest :=
  (unclosed_cons_iff.1 h).resolve_left fun first => other first.1

theorem Unclosed.of_plain {word after : List Char} (plain : '$' ∉ word)
    (h : Unclosed (word ++ after)) : Unclosed after := by
  induction word with
  | nil => exact h
  | cons c word ih =>
    rw [List.mem_cons, not_or] at plain
    exact ih plain.2 (h.of_cons (Ne.symm plain.1))

/-- A reference that begins before a closing brace is closed. -/
theorem Unclosed.of_closed {word after : List Char} (h : Unclosed (word ++ '\x7d' :: after)) :
    Unclosed after := by
  induction word with
  | nil => exact h.of_cons (by decide)
  | cons c word ih =>
    rcases unclosed_cons_iff.1 h with ⟨-, after', begins, unclosed⟩ | later
    · have closing : '\x7d' ∈ '\x7b' :: after' := by
        rw [← begins]
        simp
      exact absurd ((List.mem_cons.1 closing).resolve_left (by decide)) unclosed
    · exact ih later

/-- A reference that is not closed does not begin in a segment. -/
theorem Unclosed.of_segment {segment : Segment} {after : List Char} (fits : segment.Fits after)
    (h : Unclosed (segment.chars ++ after)) : Unclosed after := by
  cases segment with
  | literal text => exact h.of_plain fits
  | braced name =>
    have closed : Unclosed (('$' :: '\x7b' :: name.toList) ++ '\x7d' :: after) := by
      simpa [Segment.chars] using h
    exact closed.of_closed
  | bare name =>
    obtain ⟨named, inside, -⟩ := fits
    have plain : '$' ∉ name.toList := by
      intro member
      have named := inside '$' member
      rw [isNameChar_dollar] at named
      cases named
    rcases unclosed_cons_iff.1 h with ⟨-, after', begins, -⟩ | later
    · obtain ⟨c, rest, split⟩ := List.exists_cons_of_ne_nil named
      have noBrace : c ≠ '\x7b' := ne_brace_of_isNameChar (inside c (by simp [split]))
      have begins : name.toList ++ after = '\x7b' :: after' := begins
      rw [split, List.cons_append, List.cons.injEq] at begins
      exact absurd begins.1 noBrace
    · exact Unclosed.of_plain plain later
  | dollar =>
    rcases unclosed_cons_iff.1 h with ⟨-, after', begins, -⟩ | later
    · have begins : after = '\x7b' :: after' := begins
      rw [begins] at fits
      exact absurd rfl (fits _ rfl).1
    · exact later

theorem not_unclosed_textOf {segments : List Segment} (fit : Fit segments) :
    ¬ Unclosed (textOf segments) := by
  induction segments with
  | nil =>
    rintro ⟨after, suffix, -⟩
    exact absurd (List.suffix_nil.1 suffix) (List.cons_ne_nil _ _)
  | cons segment rest ih =>
    intro h
    exact ih fit.2 (Unclosed.of_segment fit.1 h)

/-! ## Every other text has segments -/

theorem head_dropWhile (p : Char → Bool) (text : List Char) :
    ∀ c ∈ (text.dropWhile p).head?, p c = false := by
  intro c first
  have stops := List.head?_dropWhile_not p text
  rw [Option.mem_def.1 first] at stops
  exact stops

/-- A dollar sign begins a segment.  What follows it decides which one. -/
theorem exists_reference {rest : List Char} (closed : ¬ Unclosed ('$' :: rest)) :
    ∃ (segment : Segment) (after : List Char), '$' :: rest = segment.chars ++ after ∧
      segment.Fits after ∧ segment.isLiteral = false := by
  cases rest with
  | nil => exact ⟨.dollar, [], rfl, by simp [Segment.Fits], rfl⟩
  | cons d rest =>
    by_cases brace : d = '\x7b'
    · subst brace
      have closing : '\x7d' ∈ rest := by
        by_contra absent
        exact closed ⟨rest, List.suffix_rfl, absent⟩
      obtain ⟨name, after, rfl, inside⟩ := List.eq_append_cons_of_mem closing
      refine ⟨.braced (String.ofList name), after, by simp [Segment.chars], ?_, rfl⟩
      simpa [Segment.Fits] using inside
    · by_cases named : isNameChar d = true
      · have split := List.takeWhile_append_dropWhile (p := isNameChar) (l := d :: rest)
        refine ⟨.bare (String.ofList ((d :: rest).takeWhile isNameChar)), _, ?_,
          ⟨?_, ?_, head_dropWhile isNameChar (d :: rest)⟩, rfl⟩
        · rw [Segment.chars, String.toList_ofList, List.cons_append, split]
        · simp [named]
        · rw [String.toList_ofList]
          exact fun _ => List.mem_takeWhile_imp
      · refine ⟨.dollar, d :: rest, rfl, ?_, rfl⟩
        intro first here
        cases here
        exact ⟨brace, by simpa using named⟩

/-- A text begins with a segment. -/
theorem exists_segment {text : List Char} (nonempty : text ≠ []) (closed : ¬ Unclosed text) :
    ∃ (segment : Segment) (after : List Char), text = segment.chars ++ after ∧
      segment.Fits after ∧ segment ≠ .literal "" ∧
      (segment.isLiteral = true → ∀ c ∈ after.head?, c = '$') := by
  obtain ⟨c, rest, rfl⟩ := List.exists_cons_of_ne_nil nonempty
  by_cases sign : c = '$'
  · subst sign
    obtain ⟨segment, after, split, fits, reference⟩ := exists_reference closed
    refine ⟨segment, after, split, fits, ?_, by simp [reference]⟩
    rintro rfl
    cases reference
  · have split := List.takeWhile_append_dropWhile (p := (· ≠ '$')) (l := c :: rest)
    refine ⟨.literal (String.ofList ((c :: rest).takeWhile (· ≠ '$'))),
      (c :: rest).dropWhile (· ≠ '$'), ?_, ?_, ?_, ?_⟩
    · rw [Segment.chars, String.toList_ofList, split]
    · intro member
      rw [String.toList_ofList] at member
      simpa using List.mem_takeWhile_imp member
    · simp [sign]
    · intro _ first here
      simpa using head_dropWhile (· ≠ '$') (c :: rest) first here

/-- A text is that of merged segments unless a reference in it is not closed. -/
theorem exists_merged {text : List Char} (closed : ¬ Unclosed text) :
    ∃ segments, Merged segments ∧ textOf segments = text := by
  induction size : text.length using Nat.strong_induction_on generalizing text with
  | _ n ih =>
    by_cases empty : text = []
    · exact ⟨[], merged_nil, empty.symm⟩
    · obtain ⟨segment, after, split, fits, filled, ends⟩ := exists_segment empty closed
      have shorter : after.length < n := by
        have some : 0 < segment.chars.length :=
          List.length_pos_of_ne_nil (Segment.chars_ne_nil filled)
        rw [← size, split, List.length_append]
        omega
      have closed' : ¬ Unclosed after := by
        rintro ⟨inner, suffix, unclosed⟩
        exact closed ⟨inner, split ▸ suffix.trans (List.suffix_append ..), unclosed⟩
      obtain ⟨segments, merged, rfl⟩ := ih _ shorter closed' rfl
      exact ⟨segment :: segments, merged_cons_iff.2 ⟨fits, filled, ends, merged⟩, split.symm⟩

/-- Expanding a template is a substitution in its segments, from the left to the right and in one
    go: literal text and dollar signs stay, references are replaced by values, which are not read
    again, and the first variable that is not set is the failure.  Every template but those with a
    reference in braces that is not closed has segments, and only one list of them in which text
    that goes on is one literal. -/
theorem expand_segments :
    (∀ env segments, Fit segments →
      expand env (String.ofList (textOf segments)) = substituted env segments) ∧
    ∀ template : String,
      (∃! segments, Merged segments ∧ textOf segments = template.toList) ↔
        ¬ Unclosed template.toList := by
  constructor
  · exact fun env _ => expand_textOf env
  · intro template
    constructor
    · rintro ⟨segments, ⟨merged, text⟩, -⟩
      rw [← text]
      exact not_unclosed_textOf merged.fit
    · intro closed
      obtain ⟨segments, merged, text⟩ := exists_merged closed
      refine ⟨segments, ⟨merged, text⟩, ?_⟩
      rintro segments' ⟨merged', text'⟩
      exact merged_unique merged' merged (text'.trans text.symm)

/-- Variables of which two have values that look like references. -/
def selfishEnvironment : Environment where
  values := [("größe", "$A$\x7bA\x7d"), ("A", "_1\x7d"), ("B_1", "")]
  accountHome := none

/-- Segments among which references and dollar signs stand next to each other. -/
def crowdedSegments : List Segment :=
  [.literal "x ", .bare "größe", .braced "A", .bare "A", .dollar, .dollar, .literal "-B",
    .braced "B_1", .dollar]

/-- Segments of which two refer to variables that are not set. -/
def unsetSegments : List Segment :=
  [.bare "A", .braced "B 1", .braced ""]

/-- Values that look like references, alone or with the text behind them, are not read again. -/
theorem selfishEnvironment_expand :
    (Fit crowdedSegments ∧ Fit unsetSegments) ∧
      expand selfishEnvironment "x $größe$\x7bA\x7d$A$$-B$\x7bB_1\x7d$" =
        .ok "x $A$\x7bA\x7d_1\x7d_1\x7d$$-B$" ∧
      expand selfishEnvironment "$A$\x7bB 1\x7d$\x7b\x7d" = .error "B 1" := by
  have fit : Fit crowdedSegments := by decide
  have unset : Fit unsetSegments := by decide
  have text : String.ofList (textOf crowdedSegments) =
      "x $größe$\x7bA\x7d$A$$-B$\x7bB_1\x7d$" := by decide
  have unsetText : String.ofList (textOf unsetSegments) = "$A$\x7bB 1\x7d$\x7b\x7d" := by decide
  refine ⟨⟨fit, unset⟩, ?_, ?_⟩
  · rw [← text, expand_segments.1 _ _ fit]
    decide
  · rw [← unsetText, expand_segments.1 _ _ unset]
    decide

end QueryDesk.Settings
