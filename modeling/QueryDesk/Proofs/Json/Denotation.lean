import Mathlib.Tactic.FieldSimp
import QueryDesk.Proofs.Json.Integer
import QueryDesk.Proofs.Number.Shortest

/-!
# The numbers that texts denote

A numeral denotes its digits times a power of ten, exactly, and a text denotes what the numeral that
it spells denotes (`Denotes`).  So the text of an integer denotes it, and the text of a double
denotes the shortest decimal that reads back as it (`denotes_chars`), which is seldom the double
itself.
-/

namespace QueryDesk.Json

open QueryDesk.Number QueryDesk.Text

/-! ## Numerals -/

namespace Numeral

/-- The value of an exponent. -/
def power : Option (Bool × List Char) → ℤ
  | none => 0
  | some (true, ds) => -(Nat.ofDigitChars 10 ds 0 : ℤ)
  | some (false, ds) => (Nat.ofDigitChars 10 ds 0 : ℤ)

@[simp] theorem power_none : power none = 0 := rfl

/-- The power of ten at which the last digit of a numeral stands. -/
def scale (x : Numeral) : ℤ :=
  power x.exponent - (x.fraction.getD []).length

/-- The number that a numeral denotes without its sign. -/
def unsigned (x : Numeral) : ℚ :=
  Nat.ofDigitChars 10 (x.whole ++ x.fraction.getD []) 0 * 10 ^ x.scale

/-- The number that a numeral denotes. -/
def rational (x : Numeral) : ℚ :=
  if x.negative then -x.unsigned else x.unsigned

end Numeral

/-- A text that denotes a number. -/
def Denotes (s : List Char) (v : ℚ) : Prop :=
  ∃ x : Numeral, x.Spells s ∧ x.rational = v

/-- A text without a sign that denotes a number. -/
def DenotesUnsigned (s : List Char) (v : ℚ) : Prop :=
  ∃ x : Numeral, x.negative = false ∧ x.Spells s ∧ x.unsigned = v

/-- A text spells one numeral at most. -/
theorem spells_unique {x y : Numeral} {s : List Char} (hx : x.Spells s) (hy : y.Spells s) :
    x = y := by
  have scanned := (scanNumeral_of_spells hx ends_nil).symm.trans (scanNumeral_of_spells hy ends_nil)
  exact congrArg Prod.fst (Option.some.inj scanned)

/-- What spells a numeral denotes what the numeral does, and nothing else. -/
theorem denotes_iff_of_spells {x : Numeral} {s : List Char} (spelled : x.Spells s) {v : ℚ} :
    Denotes s v ↔ x.rational = v := by
  constructor
  · rintro ⟨y, spelled', rfl⟩
    rw [spells_unique spelled spelled']
  · intro value
    exact ⟨x, spelled, value⟩

theorem Denotes.unique {s : List Char} {v w : ℚ} (hv : Denotes s v) (hw : Denotes s w) :
    v = w := by
  obtain ⟨x, spelled, rfl⟩ := hv
  exact (denotes_iff_of_spells spelled).1 hw

theorem DenotesUnsigned.denotes {s : List Char} {v : ℚ} (h : DenotesUnsigned s v) :
    Denotes s v := by
  obtain ⟨x, positive, spelled, value⟩ := h
  refine ⟨x, spelled, ?_⟩
  rw [Numeral.rational, positive, if_neg Bool.false_ne_true, value]

/-- A minus sign before a text takes the number it denotes to its opposite. -/
theorem DenotesUnsigned.denotes_neg {s : List Char} {v : ℚ} (h : DenotesUnsigned s v) :
    Denotes ('-' :: s) (-v) := by
  obtain ⟨⟨negative, whole, fraction, exponent⟩, rfl, spelled, value⟩ := h
  obtain ⟨fractionText, exponentText, digits, fractions, exponents, rfl⟩ := spelled
  refine ⟨⟨true, whole, fraction, exponent⟩,
    ⟨fractionText, exponentText, digits, fractions, exponents, rfl⟩, ?_⟩
  rw [Numeral.rational, if_pos rfl, ← value]
  rfl

/-! ## Texts of digits -/

theorem digits_decimalDigits (n : Nat) : Digits (decimalDigits n) :=
  (wholeDigits_decimalDigits n).1

theorem ofDigitChars_decimalDigits (n : Nat) : Nat.ofDigitChars 10 (decimalDigits n) 0 = n :=
  Nat.ofDigitChars_ten_toDigits

/-- The text of digits denotes their value. -/
theorem denotesUnsigned_decimalDigits (n : Nat) : DenotesUnsigned (decimalDigits n) n := by
  refine ⟨⟨false, decimalDigits n, none, none⟩, rfl,
    ⟨[], [], wholeDigits_decimalDigits n, rfl, rfl, ?_⟩, ?_⟩
  · simp
  · simp [Numeral.unsigned, Numeral.scale, ofDigitChars_decimalDigits]

/-- The text of an integer denotes it. -/
theorem denotes_integerText (i : ℤ) : Denotes (integerText i) i := by
  unfold integerText
  by_cases negative : i < 0
  · rw [if_pos negative]
    have value : (i : ℚ) = -(i.natAbs : ℚ) := by
      have := Int.ofNat_natAbs_of_nonpos (le_of_lt negative)
      rw [← Int.cast_natCast (R := ℚ), this]
      push_cast
      ring
    rw [value]
    exact (denotesUnsigned_decimalDigits i.natAbs).denotes_neg
  · rw [if_neg negative]
    have value : (i : ℚ) = (i.natAbs : ℚ) := by
      have := Int.natAbs_of_nonneg (not_lt.1 negative)
      rw [← Int.cast_natCast (R := ℚ), this]
    rw [value]
    exact (denotesUnsigned_decimalDigits i.natAbs).denotes

section Digits

variable {ds : List Char}

theorem wholeDigits_of_head {s : List Char} (digits : Digits s) (first : s.head? ≠ some '0') :
    WholeDigits s :=
  ⟨digits, fun zero => absurd zero first⟩

theorem isDigit_append {s t : List Char} (hs : ∀ c ∈ s, isDigit c = true)
    (ht : ∀ c ∈ t, isDigit c = true) : ∀ c ∈ s ++ t, isDigit c = true :=
  List.forall_mem_append.2 ⟨hs, ht⟩

theorem isDigit_zeros (n : Nat) : ∀ c ∈ List.replicate n '0', isDigit c = true := by
  intro c member
  rw [List.eq_of_mem_replicate member]
  rfl

/-- Digits and then a point, the first digit standing at a power of ten that is not negative. -/
theorem denotesUnsigned_positional_ofNat (digits : Digits ds) (first : ds.head? ≠ some '0')
    (k : Nat) : DenotesUnsigned (positional ds (.ofNat k))
      (Nat.ofDigitChars 10 ds 0 * 10 ^ ((k : ℤ) + 1 - ds.length)) := by
  obtain ⟨nonempty, all⟩ := digits
  rw [positional]
  by_cases long : k + 1 < ds.length
  · -- the point stands among the digits
    have zeros : k + 1 - ds.length = 0 := by omega
    have rest : (ds.drop (k + 1)).isEmpty = false := by
      rw [List.isEmpty_eq_false_iff, ne_eq, List.drop_eq_nil_iff]
      omega
    rw [zeros, List.replicate_zero, List.append_nil, rest, if_neg Bool.false_ne_true]
    refine ⟨⟨false, ds.take (k + 1), some (ds.drop (k + 1)), none⟩, rfl,
      ⟨'.' :: ds.drop (k + 1), [], ?_, ⟨⟨?_, ?_⟩, rfl⟩, rfl, by simp⟩, ?_⟩
    · refine wholeDigits_of_head ⟨?_, fun c member => all c (List.mem_of_mem_take member)⟩ ?_
      · rw [ne_eq, List.take_eq_nil_iff]
        simp [nonempty]
      · rwa [List.head?_take, if_neg (by omega)]
    · exact List.isEmpty_eq_false_iff.1 rest
    · exact fun c member => all c (List.mem_of_mem_drop member)
    · have scale : ((ds.drop (k + 1)).length : ℤ) = ds.length - (k + 1) := by
        rw [List.length_drop]
        omega
      simp only [Numeral.unsigned, Numeral.scale, Numeral.power_none, Option.getD_some,
        List.take_append_drop, scale]
      congr 2
      ring
  · -- zeros stand behind the digits
    have whole : ds.take (k + 1) = ds := List.take_of_length_le (by omega)
    have rest : ds.drop (k + 1) = [] := List.drop_eq_nil_of_le (by omega)
    rw [whole, rest, List.isEmpty_nil, if_pos rfl]
    refine ⟨⟨false, ds ++ List.replicate (k + 1 - ds.length) '0', some ['0'], none⟩, rfl,
      ⟨['.', '0'], [], ?_, ⟨⟨by simp, isDigit_zeros 1⟩, rfl⟩, rfl, by simp⟩, ?_⟩
    · refine wholeDigits_of_head ⟨by simp [nonempty], isDigit_append all (isDigit_zeros _)⟩ ?_
      rwa [List.head?_append_of_ne_nil _ nonempty]
    · have width : ((k + 1 - ds.length : Nat) : ℤ) = k + 1 - ds.length := by omega
      have zero : Nat.ofDigitChars 10 ['0'] = fun v => 10 * v := by
        funext v
        simp [Nat.ofDigitChars]
      simp only [Numeral.unsigned, Numeral.scale, Numeral.power_none, Option.getD_some,
        Nat.ofDigitChars_append, Nat.ofDigitChars_replicate_zero, zero, List.length_singleton]
      rw [← width, zpow_natCast]
      push_cast
      field_simp

/-- Digits behind a point and zeros. -/
theorem denotesUnsigned_positional_negSucc (digits : Digits ds) (k : Nat) :
    DenotesUnsigned (positional ds (.negSucc k))
      (Nat.ofDigitChars 10 ds 0 * 10 ^ (Int.negSucc k + 1 - ds.length)) := by
  obtain ⟨nonempty, all⟩ := digits
  refine ⟨⟨false, ['0'], some (List.replicate k '0' ++ ds), none⟩, rfl,
    ⟨'.' :: (List.replicate k '0' ++ ds), [], ?_, ⟨⟨by simp [nonempty], ?_⟩, rfl⟩, rfl, ?_⟩, ?_⟩
  · exact ⟨⟨by simp, isDigit_zeros 1⟩, fun _ => rfl⟩
  · exact isDigit_append (isDigit_zeros k) all
  · simp [positional]
  · have zeros : Nat.ofDigitChars 10 (['0'] ++ (List.replicate k '0' ++ ds)) 0 =
        Nat.ofDigitChars 10 ds 0 := by
      rw [Nat.ofDigitChars_append, Nat.ofDigitChars_append, Nat.ofDigitChars_replicate_zero]
      rfl
    simp only [Numeral.unsigned, Numeral.scale, Numeral.power_none, Option.getD_some, zeros,
      List.length_append, List.length_replicate]
    congr 2
    rw [Int.negSucc_eq]
    push_cast
    ring

theorem denotesUnsigned_positional (digits : Digits ds) (first : ds.head? ≠ some '0')
    (leading : ℤ) : DenotesUnsigned (positional ds leading)
      (Nat.ofDigitChars 10 ds 0 * 10 ^ (leading + 1 - ds.length)) := by
  cases leading with
  | ofNat k => exact denotesUnsigned_positional_ofNat digits first k
  | negSucc k => exact denotesUnsigned_positional_negSucc digits k

/-- Digits with a point behind the first one, and an exponent. -/
theorem denotesUnsigned_scientific (digits : Digits ds) (first : ds.head? ≠ some '0')
    (leading : ℤ) : DenotesUnsigned (scientific ds leading)
      (Nat.ofDigitChars 10 ds 0 * 10 ^ (leading + 1 - ds.length)) := by
  obtain ⟨nonempty, all⟩ := digits
  have exponent : SpellsExponent (some (decide (leading < 0), decimalDigits leading.natAbs))
      ('e' :: (if leading < 0 then '-' else '+') :: decimalDigits leading.natAbs) := by
    refine ⟨'e', [if leading < 0 then '-' else '+'], by simp, ?_, digits_decimalDigits _, by simp⟩
    by_cases negative : leading < 0 <;> simp [negative]
  have power : Numeral.power (some (decide (leading < 0), decimalDigits leading.natAbs)) =
      leading := by
    by_cases negative : leading < 0
    · rw [decide_eq_true negative, Numeral.power, ofDigitChars_decimalDigits,
        Int.ofNat_natAbs_of_nonpos (le_of_lt negative), neg_neg]
    · rw [decide_eq_false negative, Numeral.power, ofDigitChars_decimalDigits,
        Int.natAbs_of_nonneg (not_lt.1 negative)]
  match ds, nonempty, all, first with
  | [d], _, all, first =>
    refine ⟨⟨false, [d], none, some (_, _)⟩, rfl,
      ⟨[], _, wholeDigits_of_head ⟨by simp, all⟩ first, rfl, exponent, rfl⟩, ?_⟩
    simp [Numeral.unsigned, Numeral.scale, power]
  | d :: e :: rest, _, all, first =>
    have head : ∀ c ∈ [d], isDigit c = true :=
      List.forall_mem_singleton.2 (all d List.mem_cons_self)
    have tail : ∀ c ∈ e :: rest, isDigit c = true := fun c member =>
      all c (List.mem_cons_of_mem d member)
    refine ⟨⟨false, [d], some (e :: rest), some (_, _)⟩, rfl,
      ⟨'.' :: e :: rest, _, wholeDigits_of_head ⟨by simp, head⟩ first, ⟨⟨by simp, tail⟩, rfl⟩,
        exponent, rfl⟩, ?_⟩
    simp only [Numeral.unsigned, Numeral.scale, Option.getD_some, power, List.singleton_append]
    congr 2
    rw [List.length_cons (a := d)]
    push_cast
    ring

end Digits

/-! ## Texts of doubles -/

/-- The number that the text of a double's magnitude denotes. -/
def magnitudeShown (units : Nat) : ℚ :=
  if units = 0 then 0 else (Binary64.shortest units).rational

/-- The number that the text of a number denotes. -/
def Number.shown : Number → ℚ
  | .integer i => i
  | .real x => if x.negative then -magnitudeShown x.units else magnitudeShown x.units

theorem denotesUnsigned_zero : DenotesUnsigned ['0', '.', '0'] 0 := by
  refine ⟨⟨false, ['0'], some ['0'], none⟩, rfl,
    ⟨['.', '0'], [], ⟨⟨by simp, isDigit_zeros 1⟩, fun _ => rfl⟩,
      ⟨⟨by simp, isDigit_zeros 1⟩, rfl⟩, rfl, rfl⟩, ?_⟩
  have zero : Nat.ofDigitChars 10 ['0', '0'] 0 = 0 := rfl
  simp [Numeral.unsigned, zero]

/-- The text of a double without its sign denotes its shortest decimal. -/
theorem denotesUnsigned_magnitudeText (units : Nat) :
    DenotesUnsigned (magnitudeText units) (magnitudeShown units) := by
  unfold magnitudeText magnitudeShown
  by_cases zero : units = 0
  · rw [if_pos zero, if_pos zero]
    exact denotesUnsigned_zero
  · rw [if_neg zero, if_neg zero]
    rcases Binary64.shortest_cases units with nothing | ⟨positive, -⟩
    · have value : (⟨0, 0⟩ : Decimal).rational = 0 := by simp [Decimal.rational]
      rw [nothing, value]
      exact denotesUnsigned_zero
    · dsimp only
      generalize Binary64.shortest units = x at positive ⊢
      have digits := digits_decimalDigits x.digits
      have first := head?_decimalDigits positive
      have value : (Nat.ofDigitChars 10 (decimalDigits x.digits) 0 : ℚ) *
          10 ^ (x.exponent + (decimalDigits x.digits).length - 1 + 1 -
            (decimalDigits x.digits).length) = x.rational := by
        rw [ofDigitChars_decimalDigits, Decimal.rational]
        congr 2
        ring
      rw [← value]
      split_ifs
      · exact denotesUnsigned_positional digits first _
      · exact denotesUnsigned_scientific digits first _

/-- The text of a number denotes what it shows. -/
theorem denotes_chars (n : Number) : Denotes n.chars n.shown := by
  cases n with
  | integer i => exact denotes_integerText i
  | real x =>
    have magnitude := denotesUnsigned_magnitudeText x.units
    rw [Number.chars, Number.shown]
    split_ifs
    · exact magnitude.denotes_neg
    · exact magnitude.denotes

end QueryDesk.Json
