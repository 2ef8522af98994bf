import QueryDesk.Proofs.Json.Lexemes
import QueryDesk.Proofs.Json.Number

/-!
# Integers are read back

Every integer of 64 bits, signed or unsigned, is what its decimal text is read as.
-/

namespace QueryDesk.Json

open QueryDesk.Text

theorem head?_decimalDigits {n : Nat} (positive : 0 < n) : (decimalDigits n).head? ≠ some '0' := by
  induction n using Nat.strongRecOn with
  | ind n ih =>
    have base : 1 < 10 := by decide
    rw [decimalDigits, Nat.toDigits_eq_if base]
    split
    · rename_i small
      have digit : ∀ d < 10, 0 < d → d.digitChar ≠ '0' := by decide
      rw [List.head?_cons]
      intro same
      exact digit n small positive (Option.some.inj same)
    · rename_i large
      have nonempty : Nat.toDigits 10 (n / 10) ≠ [] := Nat.toDigits_ne_nil
      rw [List.head?_append_of_ne_nil _ nonempty]
      exact ih (n / 10) (by omega) (by omega)

theorem wholeDigits_decimalDigits (n : Nat) : WholeDigits (decimalDigits n) := by
  refine ⟨⟨Nat.toDigits_ne_nil, ?_⟩, ?_⟩
  · intro c member
    exact Nat.isDigit_of_mem_toDigits (by decide) (by decide) member
  · intro zero
    cases n with
    | zero => rfl
    | succ n => exact absurd zero (head?_decimalDigits (Nat.succ_pos n))

theorem le_ofDigitChars (ds : List Char) (value : Nat) : value ≤ Nat.ofDigitChars 10 ds value := by
  induction ds generalizing value with
  | nil => exact Nat.le_refl value
  | cons d ds ih =>
    rw [Nat.ofDigitChars_cons]
    have further := ih (10 * value + (d.toNat - '0'.toNat))
    omega

/-- Digits are collected to their value if it fits. -/
theorem collect_eq {ds : List Char} {value : Nat}
    (fits : Nat.ofDigitChars 10 ds value ≤ maxUnsigned) :
    collect value ds = (Nat.ofDigitChars 10 ds value, []) := by
  induction ds generalizing value with
  | nil => rfl
  | cons d ds ih =>
    rw [Nat.ofDigitChars_cons, Nat.mul_comm] at fits ⊢
    have next : ¬ maxUnsigned < value * 10 + digitValue d := by
      have := le_ofDigitChars ds (value * 10 + (d.toNat - '0'.toNat))
      rw [digitValue]
      omega
    rw [collect, if_neg next]
    exact ih fits

theorem collect_decimalDigits {n : Nat} (fits : n ≤ maxUnsigned) :
    collect 0 (decimalDigits n) = (n, []) := by
  have value : Nat.ofDigitChars 10 (decimalDigits n) 0 = n := Nat.ofDigitChars_ten_toDigits
  rw [collect_eq (value.symm ▸ fits), value]

/-- The numeral that an integer is written as. -/
def integerNumeral (i : Int) : Numeral :=
  ⟨i < 0, decimalDigits i.natAbs, none, none⟩

theorem spells_integerText (i : Int) : (integerNumeral i).Spells (integerText i) := by
  refine ⟨[], [], wholeDigits_decimalDigits i.natAbs, rfl, rfl, ?_⟩
  unfold integerText integerNumeral
  by_cases negative : i < 0
  · simp [negative]
  · simp [negative]

theorem value?_integerNumeral {i : Int} (low : -(Nat.pow 2 63 : Int) ≤ i)
    (high : i < (Nat.pow 2 64 : Int)) :
    (integerNumeral i).value? = some (.integer i) := by
  have least : Nat.pow 2 63 = 9223372036854775808 := rfl
  have most : Nat.pow 2 64 = 18446744073709551616 := rfl
  have fits : i.natAbs ≤ maxUnsigned := by
    rw [maxUnsigned]
    omega
  have found : (integerNumeral i).integer? = some i := by
    unfold Numeral.integer? integerNumeral
    dsimp only
    rw [collect_decimalDigits fits]
    by_cases negative : i < 0
    · have positive : ¬ i.natAbs = 0 := by omega
      have small : ¬ Nat.pow 2 63 < i.natAbs := by omega
      have value : -(i.natAbs : Int) = i := by omega
      rw [← Option.some_inj] at value
      simpa [negative, positive, small] using value
    · have value : (i.natAbs : Int) = i := by omega
      simp [negative, value]
  rw [Numeral.value?, found]

theorem isSpace_numeric {c : Char} (numeric : Numeric c) : isSpace (some c) = false := by
  rw [Bool.eq_false_iff, ne_eq, isSpace_iff]
  intro member
  simp only [List.mem_cons, List.not_mem_nil, or_false] at member
  rcases member with rfl | rfl | rfl | rfl
  all_goals exact absurd numeric (by decide)

/-- There is no white space before a numeral. -/
theorem skipSpace_of_spells {x : Numeral} {s : List Char} (spelled : x.Spells s) :
    skipSpace (s.map some) = s.map some := by
  obtain ⟨fraction, exponent, ⟨⟨nonempty, digits⟩, -⟩, -, -, rfl⟩ := spelled
  cases x.negative with
  | true => exact skipSpace_cons (isSpace_numeric (by decide))
  | false =>
    obtain ⟨d, ds, whole⟩ := List.exists_cons_of_ne_nil nonempty
    have digit : isDigit d = true := digits d (whole ▸ List.mem_cons_self)
    rw [whole]
    exact skipSpace_cons (isSpace_numeric (.inl digit))

/-- A text is read as the numeral that it spells. -/
theorem parse?_of_spells {x : Numeral} {s : String} (spelled : x.Spells s.toList) :
    Number.parse? s = x.value? := by
  have scanned := scanNumeral_of_spells spelled ends_nil
  rw [List.append_nil] at scanned
  rw [Number.parse?, symbols, skipSpace_of_spells spelled, scanned]
  rfl

/-- An integer of 64 bits is read back from its text. -/
theorem parse?_integer {i : Int} (low : -(Nat.pow 2 63 : Int) ≤ i)
    (high : i < (Nat.pow 2 64 : Int)) :
    Number.parse? (Number.integer i).text = some (.integer i) := by
  have spelled : (integerNumeral i).Spells (Number.integer i).text.toList := by
    rw [Number.text, String.toList_ofList]
    exact spells_integerText i
  rw [parse?_of_spells spelled]
  exact value?_integerNumeral low high

end QueryDesk.Json
