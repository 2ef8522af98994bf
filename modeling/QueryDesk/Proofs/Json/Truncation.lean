import QueryDesk.Proofs.Json.Codec
import QueryDesk.Proofs.Text.Truncation

/-!
# Texts of objects that are cut off

The brace that closes an object ends its text.  So a text of an object that is cut off before that
brace is not read at all, and one that is cut off behind it is read as the same object
(`parse_stump`).
-/

namespace QueryDesk.Json

open QueryDesk.Text

/-! ## How values start and end -/

/-- Only objects start with a brace. -/
theorem object_of_spells {t : Tree} {s : List Char} (spelled : t.Spells ('\x7b' :: s)) :
    ∃ members closed, t = .object members closed := by
  cases t with
  | null =>
    rw [Tree.Spells] at spelled
    cases spelled
  | bool b => cases b <;> (rw [Tree.Spells] at spelled; cases spelled)
  | numeral x =>
    rw [Tree.Spells] at spelled
    obtain ⟨fraction, exponent, ⟨⟨nonempty, digits⟩, -⟩, -, -, text⟩ := spelled
    cases negative : x.negative with
    | true =>
      rw [negative] at text
      cases text
    | false =>
      cases whole : x.whole with
      | nil => exact absurd whole nonempty
      | cons d ds =>
        rw [negative, whole] at text
        rw [whole] at digits
        have digit := digits d (List.mem_cons_self ..)
        cases text
        cases digit
  | string value =>
    rw [Tree.Spells] at spelled
    obtain ⟨ps, body, -, -, text⟩ := spelled
    cases text
  | array items closed =>
    rw [Tree.Spells] at spelled
    obtain ⟨-, body, -, text⟩ := spelled
    cases text
  | object members closed => exact ⟨members, closed, rfl⟩
  | broken =>
    rw [Tree.Spells] at spelled
    exact spelled.elim

/-- No numeral holds a replacement. -/
theorem replacement_not_mem_numeral {x : Numeral} {s : List Char} (spelled : x.Spells s) :
    replacement ∉ s := by
  obtain ⟨fraction, exponent, ⟨whole, -⟩, fractions, exponents, rfl⟩ := spelled
  have plain {ds : List Char} (digits : Digits ds) : replacement ∉ ds := by
    intro member
    exact absurd (digits.2 _ member) (by decide)
  have inFraction : replacement ∉ fraction := by
    cases digits : x.fraction with
    | none =>
      rw [digits] at fractions
      rw [fractions]
      exact List.not_mem_nil
    | some ds =>
      rw [digits] at fractions
      rw [fractions.2, List.mem_cons, not_or]
      exact ⟨by decide, plain fractions.1⟩
  have inExponent : replacement ∉ exponent := by
    cases parts : x.exponent with
    | none =>
      rw [parts] at exponents
      rw [exponents]
      exact List.not_mem_nil
    | some part =>
      rw [parts] at exponents
      obtain ⟨letter, sign, letters, signs, digits, rfl⟩ := exponents
      have inSign : replacement ∉ sign := by
        cases negative : part.1 with
        | true =>
          simp only [negative, if_true, List.mem_singleton] at signs
          rw [signs]
          decide
        | false =>
          simp only [negative, Bool.false_eq_true, if_false, List.mem_cons, List.not_mem_nil,
            or_false] at signs
          rcases signs with rfl | rfl <;> decide
      have other : replacement ≠ letter := by
        simp only [List.mem_cons, List.not_mem_nil, or_false] at letters
        rcases letters with rfl | rfl <;> decide
      simp only [List.mem_cons, List.mem_append, not_or]
      exact ⟨other, inSign, plain digits⟩
  simp only [List.mem_append, not_or]
  refine ⟨?_, plain whole, inFraction, inExponent⟩
  cases x.negative <;> decide

/-- No value ends in a replacement. -/
theorem getLast?_of_spells {t : Tree} {s : List Char} (spelled : t.Spells s) :
    s.getLast? ≠ some replacement := by
  cases t with
  | null =>
    rw [Tree.Spells] at spelled
    rw [spelled]
    decide
  | bool b =>
    cases b with
    | true =>
      rw [Tree.Spells] at spelled
      rw [spelled]
      decide
    | false =>
      rw [Tree.Spells] at spelled
      rw [spelled]
      decide
  | numeral x =>
    rw [Tree.Spells] at spelled
    intro last
    exact replacement_not_mem_numeral spelled (List.mem_of_getLast? last)
  | string value =>
    rw [Tree.Spells] at spelled
    obtain ⟨ps, body, -, -, rfl⟩ := spelled
    rw [← List.cons_append, List.getLast?_concat]
    decide
  | array items closed =>
    rw [Tree.Spells] at spelled
    obtain ⟨-, body, -, rfl⟩ := spelled
    rw [← List.cons_append, List.getLast?_concat]
    decide
  | object members closed =>
    rw [Tree.Spells] at spelled
    obtain ⟨-, body, -, rfl⟩ := spelled
    rw [← List.cons_append, List.getLast?_concat]
    decide
  | broken =>
    rw [Tree.Spells] at spelled
    exact spelled.elim

/-- No text ends in a replacement. -/
theorem getLast?_of_padded {t : Tree} {s : List Char} (padded : Padded t.Spells s) :
    s.getLast? ≠ some replacement := by
  obtain ⟨w, v, w', -, spelled, layout, rfl⟩ := padded
  obtain ⟨c, v', rfl, -, -⟩ := exists_head spelled
  rw [List.getLast?_append_of_ne_nil _ (by simp)]
  intro last
  rcases List.eq_nil_or_concat w' with rfl | ⟨front, space, rfl⟩
  · rw [List.append_nil] at last
    exact getLast?_of_spells spelled last
  · rw [List.concat_eq_append, ← List.append_assoc, List.getLast?_concat, Option.some.injEq] at last
    have known := layout space (by simp)
    rw [last] at known
    exact absurd known (by decide)

/-! ## Objects that are cut off -/

/-- A text that starts with a text of a value is no text of an object, unless that is the value. -/
theorem eq_of_padded_append {t : Tree} {members : List (Option String × Tree)} {closed : Bool}
    {s rest : List Char} (padded : Padded t.Spells s)
    (whole : Padded (Tree.object members closed).Spells (s ++ rest)) :
    t = .object members closed := by
  obtain ⟨w, v, w', layout, spelled, -, text⟩ := padded
  obtain ⟨u, x, u', layout', spelled', -, text'⟩ := whole
  have back := readsBack_members members
  -- Enough fuel for both.
  have found : scanValue (2 * (s ++ rest).length) ((s ++ rest).map some) =
      (.object members closed, some (u'.map some)) := by
    rw [text', List.map_append, scanValue_layout layout', List.map_append]
    refine scanValue_object back _ spelled' ?_
    simp only [List.length_append]
    omega
  have braced : ∃ x', x = '\x7b' :: x' := by
    rw [Tree.Spells] at spelled'
    obtain ⟨-, body, -, rfl⟩ := spelled'
    exact ⟨_, rfl⟩
  obtain ⟨x', rfl⟩ := braced
  obtain ⟨c, v', rfl, visible, -⟩ := exists_head spelled
  -- Behind the white space, both start with the same character.
  have brace : c = '\x7b' := by
    have here : skipSpace ((s ++ rest).map some) = some c :: (v' ++ (w' ++ rest)).map some := by
      rw [text, List.append_assoc, List.map_append, skipSpace_layout layout, List.append_assoc,
        List.cons_append, List.map_cons, skipSpace_cons visible]
    have there : skipSpace ((s ++ rest).map some) = some '\x7b' :: (x' ++ u').map some := by
      rw [text', List.map_append, skipSpace_layout layout', List.cons_append, List.map_cons,
        skipSpace_cons (by decide)]
    rw [here] at there
    exact Option.some.inj (List.cons.inj there).1
  subst brace
  obtain ⟨members', closed', rfl⟩ := object_of_spells spelled
  have found' : scanValue (2 * (s ++ rest).length) ((s ++ rest).map some) =
      (.object members' closed', some ((w' ++ rest).map some)) := by
    have enough : 2 * ('\x7b' :: v').length ≤ 2 * (s ++ rest).length + 1 := by
      rw [text]
      simp only [List.length_append]
      omega
    rw [text, List.append_assoc, List.map_append, scanValue_layout layout, List.append_assoc,
      List.map_append]
    rw [text, List.append_assoc, List.append_assoc] at enough
    exact scanValue_object (readsBack_members members') _ spelled enough
  rw [found] at found'
  exact (Prod.mk.inj found').1.symm

/-- Only trees of objects are read as objects. -/
theorem object_of_value {budget : Nat} {t : Tree} {members : List (String × Value)}
    (read : Reader.value budget t = .ok (.object members)) :
    ∃ ms closed, t = .object ms closed := by
  rw [Reader.value] at read
  cases t with
  | null =>
    rw [Tree.value?] at read
    cases read
  | bool b =>
    rw [Tree.value?] at read
    cases read
  | numeral x =>
    rw [Tree.value?] at read
    cases found : x.value? <;> (rw [found] at read; cases read)
  | string value =>
    rw [Tree.value?] at read
    cases value <;> cases read
  | array items closed =>
    cases budget with
    | zero =>
      rw [Tree.value?] at read
      cases read
    | succ budget =>
      rw [Tree.value?] at read
      cases closed with
      | false => cases read
      | true =>
        rw [if_pos rfl] at read
        cases found : Tree.itemValues? budget items <;> (rw [found] at read; cases read)
  | object ms closed => exact ⟨ms, closed, rfl⟩
  | broken =>
    rw [Tree.value?] at read
    cases read

/-- A text of an object that is cut off is read as that object or not at all. -/
theorem parse_stump {whole s : String} (cut : Stump whole.toList s.toList)
    {members : List (String × Value)} (read : Value.parse whole = .ok (.object members)) {v : Value}
    (read' : Value.parse s = .ok v) : v = .object members := by
  obtain ⟨t, text, accepted⟩ := parse_eq_ok.1 read
  obtain ⟨t', text', accepted'⟩ := parse_eq_ok.1 read'
  obtain ⟨ms, closed, rfl⟩ := object_of_value accepted
  have same : t' = .object ms closed := by
    obtain ⟨kept, ⟨rest, front⟩, ends | ends⟩ := cut
    · rw [IsText, ← front] at text
      rw [IsText, ends] at text'
      exact eq_of_padded_append text' text
    · rw [IsText, ends] at text'
      exact absurd (List.getLast?_concat ..) (getLast?_of_padded text')
  rw [same, accepted] at accepted'
  cases accepted'
  rfl

end QueryDesk.Json
