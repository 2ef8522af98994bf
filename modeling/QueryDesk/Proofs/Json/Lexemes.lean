import QueryDesk.Proofs.Json.Grammar
import QueryDesk.Proofs.Outcome

/-!
# Strings and numerals are read as they are spelled

A scanner is shown complete first: it reads back what the grammar spells, whatever follows.  Only
after a numeral does it matter what follows, since a numeral takes all that can belong to it.  A
scanner is sound when what stands before the text that it leaves is spelled by what it found.
-/

namespace QueryDesk.Json

open QueryDesk.Text

/-! ## White space -/

theorem isSpace_iff {c : Char} : isSpace (some c) = true ↔ c ∈ [' ', '\t', '\n', '\r'] := by
  unfold isSpace
  split
  · rename_i same
    cases same
    simp
  · rename_i same
    cases same
    simp
  · rename_i same
    cases same
    simp
  · rename_i same
    cases same
    simp
  · rename_i space tab feed carriage
    simp only [Bool.false_eq_true, List.mem_cons, List.not_mem_nil, or_false, false_iff]
    rintro (rfl | rfl | rfl | rfl)
    · exact space rfl
    · exact tab rfl
    · exact feed rfl
    · exact carriage rfl

theorem layout_nil : Layout [] :=
  List.forall_mem_nil _

theorem layout_cons {c : Char} {s : List Char} :
    Layout (c :: s) ↔ isSpace (some c) = true ∧ Layout s := by
  rw [isSpace_iff]
  exact List.forall_mem_cons

theorem skipSpace_layout {w : List Char} {rest : List Symbol} (layout : Layout w) :
    skipSpace (w.map some ++ rest) = skipSpace rest := by
  induction w with
  | nil => rfl
  | cons c w ih =>
    rw [layout_cons] at layout
    rw [List.map_cons, List.cons_append, skipSpace, List.dropWhile_cons_of_pos layout.1]
    exact ih layout.2

theorem skipSpace_cons {c : Char} {rest : List Symbol} (visible : isSpace (some c) = false) :
    skipSpace (some c :: rest) = some c :: rest :=
  List.dropWhile_cons_of_neg (Bool.not_eq_true _ ▸ visible)

theorem skipSpace_skipSpace (s : List Symbol) : skipSpace (skipSpace s) = skipSpace s := by
  unfold skipSpace
  induction s with
  | nil => rfl
  | cons x s ih =>
    cases space : isSpace x with
    | true => rw [List.dropWhile_cons_of_pos space, ih]
    | false =>
      have visible : ¬ isSpace x = true := by
        rw [space]
        exact Bool.false_ne_true
      rw [List.dropWhile_cons_of_neg visible, List.dropWhile_cons_of_neg visible]

/-- A text is white space and what is left when it is skipped. -/
theorem exists_layout (s : List Char) :
    ∃ w r, Layout w ∧ skipSpace (s.map some) = r.map some ∧ s = w ++ r := by
  induction s with
  | nil => exact ⟨[], [], layout_nil, rfl, rfl⟩
  | cons c s ih =>
    cases space : isSpace (some c) with
    | true =>
      obtain ⟨w, r, layout, skipped, rfl⟩ := ih
      refine ⟨c :: w, r, layout_cons.2 ⟨space, layout⟩, ?_, rfl⟩
      rw [← skipped, List.map_cons, skipSpace, List.dropWhile_cons_of_pos space]
      rfl
    | false => exact ⟨[], c :: s, layout_nil, skipSpace_cons space, rfl⟩

theorem exists_layout_of_cons {s : List Char} {c : Char} {rest : List Symbol}
    (h : skipSpace (s.map some) = some c :: rest) :
    ∃ w r, Layout w ∧ rest = r.map some ∧ s = w ++ c :: r := by
  obtain ⟨w, r, layout, skipped, rfl⟩ := exists_layout s
  rw [skipped] at h
  cases r with
  | nil => cases h
  | cons d r =>
    cases h
    exact ⟨w, r, layout, rfl, rfl⟩

theorem layout_of_skipSpace {s : List Char} (h : skipSpace (s.map some) = []) : Layout s := by
  obtain ⟨w, r, layout, skipped, rfl⟩ := exists_layout s
  rw [skipped, List.map_eq_nil_iff] at h
  rw [h, List.append_nil]
  exact layout

/-! ## Strings -/

theorem mem_shortEscapes {e c : Char} : (e, c) ∈ shortEscapes ↔ simpleEscape? e = some c := by
  unfold simpleEscape?
  split
  all_goals simp_all [shortEscapes, eq_comm]

theorem scanString_plain {c : Char} {rest : List Symbol} (quote : c ≠ '"') (backslash : c ≠ '\\')
    (printed : 0x20 ≤ c.toNat) :
    scanString (some c :: rest) =
      (scanString rest).map fun (ps, rest) => (.char c :: ps, rest) := by
  have not_control : ¬ c.toNat < 0x20 := Nat.not_lt.2 printed
  rw [scanString, if_neg not_control]
  all_goals simp [quote, backslash]

theorem scanString_short {e c : Char} {rest : List Symbol} (escape : simpleEscape? e = some c) :
    scanString (some '\\' :: some e :: rest) =
      (scanString rest).map fun (ps, rest) => (.char c :: ps, rest) := by
  rw [scanString, escape]
  rintro a b c d rest - rfl
  cases escape

/-- A scanner reads a string up to its closing quote. -/
theorem scanString_of_spells {ps : List Piece} {body : List Char} (rest : List Symbol)
    (h : SpellsPieces ps body) :
    scanString (body.map some ++ some '"' :: rest) = some (ps, rest) := by
  induction h with
  | nil => rw [List.map_nil, List.nil_append, scanString]
  | plain quote backslash printed _ ih =>
    rw [List.map_cons, List.cons_append, scanString_plain quote backslash printed, ih]
    rfl
  | short escape _ ih =>
    rw [List.map_cons, List.map_cons, List.cons_append, List.cons_append,
      scanString_short (mem_shortEscapes.1 escape), ih]
    rfl
  | unit digits _ ih =>
    simp only [List.map_cons, List.cons_append]
    rw [scanString, digits]
    dsimp only
    rw [ih]
    rfl

theorem exists_of_map_cons {found : Option (List Piece × List Symbol)} {p : Piece}
    {ps : List Piece} {rest : List Symbol}
    (h : (found.map fun (ps, rest) => (p :: ps, rest)) = some (ps, rest)) :
    ∃ ps', ps = p :: ps' ∧ found = some (ps', rest) := by
  obtain ⟨⟨ps', rest'⟩, same, h⟩ := Option.map_eq_some_iff.1 h
  cases h
  exact ⟨ps', rfl, same⟩

/-- What a scanner reads as a string is spelled. -/
theorem spells_of_scanString {s : List Char} {ps : List Piece} {rest : List Symbol}
    (h : scanString (s.map some) = some (ps, rest)) :
    ∃ body r, SpellsPieces ps body ∧ rest = r.map some ∧ s = body ++ '"' :: r := by
  generalize same : s.map some = x at h
  induction x using scanString.induct generalizing s ps rest with
  | case1 => cases h
  | case2 x ih =>
    obtain ⟨c, s, rfl, ill, -⟩ := List.map_eq_cons_iff.1 same
    cases ill
  | case3 x =>
    obtain ⟨c, s, rfl, quote, tail⟩ := List.map_eq_cons_iff.1 same
    cases quote
    cases h
    exact ⟨[], s, .nil, tail.symm, rfl⟩
  | case4 a b c d x n digits ih =>
    rw [scanString, digits] at h
    obtain ⟨ps, rfl, found⟩ := exists_of_map_cons h
    simp only [List.map_eq_cons_iff] at same
    obtain ⟨_, _, rfl, backslash, _, _, rfl, letter, a, _, rfl, rfl, b, _, rfl, rfl, c, _, rfl, rfl,
      d, s, rfl, rfl, tail⟩ := same
    cases backslash
    cases letter
    obtain ⟨body, r, spelled, rest, rfl⟩ := ih tail found
    exact ⟨_, r, .unit digits spelled, rest, rfl⟩
  | case5 a b c d x broken =>
    rw [scanString, broken] at h
    cases h
  | case6 e x ordinary c escape ih =>
    rw [scanString_short escape] at h
    obtain ⟨ps, rfl, found⟩ := exists_of_map_cons h
    simp only [List.map_eq_cons_iff] at same
    obtain ⟨_, _, rfl, backslash, _, s, rfl, letter, tail⟩ := same
    cases backslash
    cases letter
    obtain ⟨body, r, spelled, rest, rfl⟩ := ih tail found
    exact ⟨_, r, .short (mem_shortEscapes.2 escape) spelled, rest, rfl⟩
  | case7 e x ordinary broken =>
    rw [scanString, broken] at h
    · cases h
    · exact ordinary
  | case8 x notUnit notShort =>
    rw [scanString] at h
    · cases h
    · exact notUnit
    · exact notShort
  | case9 c x quote _ _ backslash control =>
    rw [scanString, if_pos control] at h
    · cases h
    all_goals simp_all
  | case10 c x quote _ _ backslash printed ih =>
    rw [scanString_plain quote backslash (Nat.not_lt.1 printed)] at h
    obtain ⟨ps, rfl, found⟩ := exists_of_map_cons h
    obtain ⟨_, s, rfl, plain, tail⟩ := List.map_eq_cons_iff.1 same
    cases plain
    obtain ⟨body, r, spelled, rest, rfl⟩ := ih tail found
    exact ⟨_, r, .plain quote backslash (Nat.not_lt.1 printed) spelled, rest, rfl⟩

/-! ## Numerals -/

/-- A text that does not start with a digit or one of some characters. -/
def Ends (others : List Char) (s : List Symbol) : Prop :=
  ∀ c, s.head? = some (some c) → isDigit c = false ∧ c ∉ others

/-- A text that a numeral cannot go on with. -/
abbrev EndsNumeral : List Symbol → Prop :=
  Ends ['.', 'e', 'E']

theorem ends_nil {others : List Char} : Ends others [] := by
  intro c same
  cases same

theorem ends_cons {others : List Char} {c : Char} {s : List Symbol} :
    Ends others (some c :: s) ↔ isDigit c = false ∧ c ∉ others := by
  constructor
  · intro ends
    exact ends c rfl
  · rintro visible d same
    cases same
    exact visible

theorem Ends.mono {others others' : List Char} {s : List Symbol} (ends : Ends others s)
    (fewer : others' ⊆ others) : Ends others' s :=
  fun c same => ⟨(ends c same).1, fun member => (ends c same).2 (fewer member)⟩

theorem takeDigits_append {ds : List Char} {rest : List Symbol}
    (digits : ∀ c ∈ ds, isDigit c = true) (ends : Ends [] rest) :
    takeDigits (ds.map some ++ rest) = (ds, rest) := by
  induction ds with
  | nil =>
    cases rest with
    | nil => rfl
    | cons x rest =>
      cases x with
      | none => rfl
      | some c => simp [takeDigits, (ends c rfl).1]
  | cons d ds ih =>
    rw [List.forall_mem_cons] at digits
    rw [List.map_cons, List.cons_append, takeDigits, if_pos digits.1, ih digits.2]

theorem takeWhole_append {ds : List Char} {rest : List Symbol} (whole : WholeDigits ds)
    (ends : Ends [] rest) : takeWhole (ds.map some ++ rest) = some (ds, rest) := by
  obtain ⟨⟨nonempty, digits⟩, zero⟩ := whole
  rw [takeWhole, takeDigits_append digits ends]
  split
  · rename_i same
    cases same
    exact absurd rfl nonempty
  · rename_i same
    cases same
    cases zero rfl
  · rfl

theorem takeSome_append {ds : List Char} {rest : List Symbol} (digits : Digits ds)
    (ends : Ends [] rest) : takeSome (ds.map some ++ rest) = some (ds, rest) := by
  rw [takeSome, takeDigits_append digits.2 ends]
  split
  · rename_i same
    cases same
    exact absurd rfl digits.1
  · rfl

theorem takeFraction_append {fraction : Option (List Char)} {s : List Char} {rest : List Symbol}
    (spelled : SpellsFraction fraction s) (ends : Ends ['.'] rest) :
    takeFraction (s.map some ++ rest) = some (fraction, rest) := by
  cases fraction with
  | none =>
    rw [SpellsFraction] at spelled
    subst spelled
    rw [List.map_nil, List.nil_append]
    unfold takeFraction
    split
    · exact absurd (List.mem_singleton_self _) (ends _ rfl).2
    · rfl
  | some ds =>
    obtain ⟨digits, rfl⟩ := spelled
    rw [List.map_cons, List.cons_append, takeFraction,
      takeSome_append digits (ends.mono (List.nil_subset _))]
    rfl

theorem takeExponent_append {exponent : Option (Bool × List Char)} {s : List Char}
    {rest : List Symbol} (spelled : SpellsExponent exponent s) (ends : Ends ['e', 'E'] rest) :
    takeExponent (s.map some ++ rest) = some (exponent, rest) := by
  cases exponent with
  | none =>
    rw [SpellsExponent] at spelled
    subst spelled
    rw [List.map_nil, List.nil_append]
    unfold takeExponent
    split
    · exact absurd (by decide) (ends _ rfl).2
    · exact absurd (by decide) (ends _ rfl).2
    · rfl
  | some signed =>
    obtain ⟨negative, ds⟩ := signed
    obtain ⟨letter, sign, letters, signs, digits, rfl⟩ := spelled
    have found := takeSome_append digits (ends.mono (List.nil_subset _))
    have signed : takeSignedExponent ((sign ++ ds).map some ++ rest) =
        some (some (negative, ds), rest) := by
      cases negative with
      | true =>
        cases List.mem_singleton.1 signs
        rw [List.cons_append, List.nil_append, List.map_cons, List.cons_append, takeSignedExponent,
          found]
        rfl
      | false =>
        rcases List.mem_pair.1 signs with rfl | rfl
        · rw [List.cons_append, List.nil_append, List.map_cons, List.cons_append,
            takeSignedExponent, found]
          rfl
        · obtain ⟨nonempty, digit⟩ := digits
          cases ds with
          | nil => exact absurd rfl nonempty
          | cons d ds =>
            have first := digit d (List.mem_cons_self ..)
            rw [List.nil_append, takeSignedExponent, found]
            · rfl
            · rintro rest' same
              cases same
              cases first
            · rintro rest' same
              cases same
              cases first
    rw [List.map_cons, List.cons_append]
    rcases List.mem_pair.1 letters with rfl | rfl
    · rw [takeExponent, signed]
    · rw [takeExponent, signed]

theorem ends_exponent {exponent : Option (Bool × List Char)} {s : List Char} {rest : List Symbol}
    (spelled : SpellsExponent exponent s) (ends : EndsNumeral rest) :
    Ends ['.'] (s.map some ++ rest) := by
  cases exponent with
  | none =>
    rw [SpellsExponent] at spelled
    subst spelled
    exact ends.mono (by simp)
  | some signed =>
    obtain ⟨letter, sign, letters, -, -, rfl⟩ := spelled
    rw [List.map_cons, List.cons_append, ends_cons]
    rcases List.mem_pair.1 letters with rfl | rfl
    · decide
    · decide

theorem ends_fraction {fraction : Option (List Char)} {s : List Char} {rest : List Symbol}
    (spelled : SpellsFraction fraction s) (ends : Ends ['.'] rest) :
    Ends [] (s.map some ++ rest) := by
  cases fraction with
  | none =>
    rw [SpellsFraction] at spelled
    subst spelled
    exact ends.mono (by simp)
  | some ds =>
    obtain ⟨-, rfl⟩ := spelled
    rw [List.map_cons, List.cons_append, ends_cons]
    decide

/-- A scanner reads a numeral if what follows does not go on with it. -/
theorem scanNumeral_of_spells {x : Numeral} {s : List Char} {rest : List Symbol}
    (spelled : x.Spells s) (ends : EndsNumeral rest) :
    scanNumeral (s.map some ++ rest) = some (x, rest) := by
  obtain ⟨fraction, exponent, whole, fractions, exponents, rfl⟩ := spelled
  have ends' := ends_exponent exponents ends
  have ends'' := ends_fraction fractions ends'
  have unsigned (negative : Bool) :
      scanUnsigned negative
          (x.whole.map some ++ (fraction.map some ++ (exponent.map some ++ rest))) =
        some (⟨negative, x.whole, x.fraction, x.exponent⟩, rest) := by
    rw [scanUnsigned, takeWhole_append whole ends'']
    simp only [Option.bind_eq_bind, Option.bind_some]
    rw [takeFraction_append fractions ends']
    simp only [Option.bind_some]
    rw [takeExponent_append exponents (ends.mono (by simp))]
    rfl
  obtain ⟨negative, ds, fractionDigits, exponentDigits⟩ := x
  simp only [List.map_append, List.append_assoc]
  cases negative with
  | true =>
    rw [if_pos rfl, List.map_singleton, List.singleton_append, scanNumeral]
    exact unsigned true
  | false =>
    rw [if_neg Bool.false_ne_true, List.map_nil, List.nil_append, scanNumeral]
    · exact unsigned false
    · obtain ⟨⟨nonempty, digits⟩, -⟩ := whole
      cases ds with
      | nil => exact absurd rfl nonempty
      | cons d ds =>
        intro rest' same
        cases same
        exact absurd (digits '-' (List.mem_cons_self ..)) (by decide)

theorem digits_of_takeDigits {s ds : List Char} {rest : List Symbol}
    (h : takeDigits (s.map some) = (ds, rest)) :
    (∀ c ∈ ds, isDigit c = true) ∧ ∃ r, rest = r.map some ∧ s = ds ++ r := by
  induction s generalizing ds with
  | nil =>
    cases h
    exact ⟨List.forall_mem_nil _, [], rfl, rfl⟩
  | cons c s ih =>
    rw [List.map_cons, takeDigits] at h
    split at h
    · rename_i digit
      generalize found : takeDigits (s.map some) = result at h
      obtain ⟨ds', rest'⟩ := result
      cases h
      obtain ⟨digits, r, same, rfl⟩ := ih found
      exact ⟨List.forall_mem_cons.2 ⟨digit, digits⟩, r, same, rfl⟩
    · cases h
      exact ⟨List.forall_mem_nil _, c :: s, rfl, rfl⟩

theorem whole_of_takeWhole {s ds : List Char} {rest : List Symbol}
    (h : takeWhole (s.map some) = some (ds, rest)) :
    WholeDigits ds ∧ ∃ r, rest = r.map some ∧ s = ds ++ r := by
  rw [takeWhole] at h
  generalize found : takeDigits (s.map some) = result at h
  split at h
  · cases h
  · cases h
  · rename_i nonempty zero
    cases h
    obtain ⟨digits, remainder⟩ := digits_of_takeDigits found
    refine ⟨⟨⟨?_, digits⟩, ?_⟩, remainder⟩
    · rintro rfl
      exact nonempty _ rfl
    · intro first
      cases ds with
      | nil => cases first
      | cons d ds =>
        cases first
        cases ds with
        | nil => rfl
        | cons d' ds => exact (zero d' ds _ rfl).elim

theorem digits_of_takeSome {s ds : List Char} {rest : List Symbol}
    (h : takeSome (s.map some) = some (ds, rest)) :
    Digits ds ∧ ∃ r, rest = r.map some ∧ s = ds ++ r := by
  rw [takeSome] at h
  generalize found : takeDigits (s.map some) = result at h
  split at h
  · cases h
  · rename_i nonempty
    cases h
    obtain ⟨digits, remainder⟩ := digits_of_takeDigits found
    refine ⟨⟨?_, digits⟩, remainder⟩
    rintro rfl
    exact nonempty _ rfl

theorem spells_of_takeFraction {s : List Char} {fraction : Option (List Char)}
    {rest : List Symbol} (h : takeFraction (s.map some) = some (fraction, rest)) :
    ∃ v r, SpellsFraction fraction v ∧ rest = r.map some ∧ s = v ++ r := by
  unfold takeFraction at h
  split at h
  · rename_i rest' same
    obtain ⟨_, s, rfl, point, tail⟩ := List.map_eq_cons_iff.1 same
    cases point
    obtain ⟨⟨ds, rest''⟩, found, h⟩ := Option.map_eq_some_iff.1 h
    cases h
    rw [← tail] at found
    obtain ⟨digits, r, remainder, rfl⟩ := digits_of_takeSome found
    exact ⟨'.' :: ds, r, ⟨digits, rfl⟩, remainder, rfl⟩
  · cases h
    exact ⟨[], s, rfl, rfl, rfl⟩

section

variable {s : List Char} {exponent : Option (Bool × List Char)} {rest : List Symbol}

theorem spells_of_takeSome {letter : Char} {sign : List Char} {negative : Bool}
    (letters : letter ∈ ['e', 'E'])
    (signs : sign ∈ (if negative then [['-']] else [['+'], []] : List (List Char)))
    (h : ((takeSome (s.map some)).map fun (ds, rest) => (some (negative, ds), rest)) =
      some (exponent, rest)) :
    ∃ v r, SpellsExponent exponent v ∧ rest = r.map some ∧ letter :: (sign ++ s) = v ++ r := by
  obtain ⟨⟨ds, rest'⟩, found, h⟩ := Option.map_eq_some_iff.1 h
  cases h
  obtain ⟨digits, r, remainder, rfl⟩ := digits_of_takeSome found
  refine ⟨letter :: (sign ++ ds), r, ⟨letter, sign, letters, signs, digits, rfl⟩, remainder, ?_⟩
  simp

theorem spells_of_takeSignedExponent {letter : Char} (letters : letter ∈ ['e', 'E'])
    (h : takeSignedExponent (s.map some) = some (exponent, rest)) :
    ∃ v r, SpellsExponent exponent v ∧ rest = r.map some ∧ letter :: s = v ++ r := by
  unfold takeSignedExponent at h
  split at h
  · rename_i rest' same
    obtain ⟨_, s, rfl, sign, tail⟩ := List.map_eq_cons_iff.1 same
    cases sign
    rw [← tail] at h
    exact spells_of_takeSome letters (List.mem_singleton_self ['-']) h
  · rename_i rest' same
    obtain ⟨_, s, rfl, sign, tail⟩ := List.map_eq_cons_iff.1 same
    cases sign
    rw [← tail] at h
    exact spells_of_takeSome letters (List.mem_cons_self (a := ['+'])) h
  · exact spells_of_takeSome letters (List.mem_pair.2 (.inr rfl)) h

theorem spells_of_takeExponent (h : takeExponent (s.map some) = some (exponent, rest)) :
    ∃ v r, SpellsExponent exponent v ∧ rest = r.map some ∧ s = v ++ r := by
  unfold takeExponent at h
  split at h
  · rename_i rest' same
    obtain ⟨_, s, rfl, letter, tail⟩ := List.map_eq_cons_iff.1 same
    cases letter
    rw [← tail] at h
    exact spells_of_takeSignedExponent (by decide) h
  · rename_i rest' same
    obtain ⟨_, s, rfl, letter, tail⟩ := List.map_eq_cons_iff.1 same
    cases letter
    rw [← tail] at h
    exact spells_of_takeSignedExponent (by decide) h
  · cases h
    exact ⟨[], s, rfl, rfl, rfl⟩

end

/-- What a scanner reads as a numeral is spelled. -/
theorem spells_of_scanNumeral {s : List Char} {x : Numeral} {rest : List Symbol}
    (h : scanNumeral (s.map some) = some (x, rest)) :
    ∃ v r, x.Spells v ∧ rest = r.map some ∧ s = v ++ r := by
  have unsigned {negative : Bool} {s : List Char}
      (h : scanUnsigned negative (s.map some) = some (x, rest)) :
      ∃ v r, x.Spells ((if negative then ['-'] else []) ++ v) ∧ rest = r.map some ∧ s = v ++ r := by
    rw [scanUnsigned] at h
    simp only [Option.bind_eq_bind, Option.bind_eq_some_iff] at h
    obtain ⟨⟨whole, rest₁⟩, found, ⟨fraction, rest₂⟩, found', ⟨exponent, rest₃⟩, found'', h⟩ := h
    cases h
    obtain ⟨digits, r₁, rfl, rfl⟩ := whole_of_takeWhole found
    obtain ⟨v, r₂, fractions, rfl, rfl⟩ := spells_of_takeFraction found'
    obtain ⟨v', r₃, exponents, rfl, rfl⟩ := spells_of_takeExponent found''
    refine ⟨whole ++ (v ++ v'), r₃, ⟨v, v', digits, fractions, exponents, rfl⟩, rfl, ?_⟩
    simp only [List.append_assoc]
  unfold scanNumeral at h
  split at h
  · rename_i rest' same
    obtain ⟨_, s, rfl, sign, tail⟩ := List.map_eq_cons_iff.1 same
    cases sign
    rw [← tail] at h
    obtain ⟨v, r, spelled, remainder, rfl⟩ := unsigned h
    exact ⟨'-' :: v, r, spelled, remainder, rfl⟩
  · obtain ⟨v, r, spelled, remainder, rfl⟩ := unsigned h
    exact ⟨v, r, spelled, remainder, rfl⟩

end QueryDesk.Json
