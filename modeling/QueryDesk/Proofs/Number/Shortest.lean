import Mathlib.Algebra.Order.Field.Basic
import Mathlib.Data.Rat.Cast.Order
import Mathlib.Tactic.Positivity
import Mathlib.Tactic.Ring
import QueryDesk.Number.Shortest

/-!
# The shortest decimals of large doubles

Rounding takes nothing below a power of two that it was not below (`two_pow_le_roundRatio`), so a
large number becomes a large double.  The shortest decimal of a double has seventeen digits at most,
so that of a double beyond `2 ^ 63` is a multiple of a hundred (`hundred_dvd_shortest`).
-/

namespace QueryDesk.Number

namespace Decimal

/-- The number that a decimal is. -/
def rational (x : Decimal) : ℚ :=
  x.digits * 10 ^ x.exponent

/-- Zeros at the end move into the exponent. -/
theorem stripZeros_rational (fuel : Nat) (x : Decimal) :
    (stripZeros fuel x).rational = x.rational := by
  induction fuel generalizing x with
  | zero => rfl
  | succ fuel ih =>
    rw [stripZeros]
    split
    · rename_i zeros
      rw [ih]
      have tens : x.digits = x.digits / 10 * 10 := by
        simp only [Bool.and_eq_true, decide_eq_true_eq] at zeros
        omega
      have value : (x.digits : ℚ) = (x.digits / 10 : Nat) * 10 := by exact_mod_cast tens
      rw [rational, rational, value, zpow_add₀ (by decide)]
      ring
    · rfl

theorem stripZeros_pos (fuel : Nat) {x : Decimal} (positive : 0 < x.digits) :
    0 < (stripZeros fuel x).digits := by
  induction fuel generalizing x with
  | zero => exact positive
  | succ fuel ih =>
    rw [stripZeros]
    split
    · rename_i zeros
      refine ih ?_
      simp only [Bool.and_eq_true, decide_eq_true_eq] at zeros
      dsimp only
      omega
    · exact positive

end Decimal

namespace Binary64

/-! ## Searching grids -/

/-- The neighbours of a double stand on their grid, and the one above is not zero. -/
theorem neighbours_exponent (units : Nat) (k : ℤ) :
    (neighbours units k).1.exponent = k ∧ (neighbours units k).2.exponent = k ∧
      0 < (neighbours units k).2.digits := by
  cases k with
  | ofNat k => exact ⟨rfl, rfl, Nat.succ_pos _⟩
  | negSucc k => exact ⟨rfl, rfl, Nat.succ_pos _⟩

/-- What is found on a grid is positive and stands on the grid. -/
theorem gridHit_eq_some {units : Nat} {k : ℤ} {x : Decimal} (h : gridHit units k = some x) :
    0 < x.digits ∧ x.exponent = k := by
  obtain ⟨below, above, next⟩ := neighbours_exponent units k
  unfold gridHit at h
  cases hitBelow : readsBack units (neighbours units k).1 && 0 < (neighbours units k).1.digits
  · cases hitAbove : readsBack units (neighbours units k).2
    · simp [hitBelow, hitAbove] at h
    · simp only [hitBelow, hitAbove, Option.some.injEq] at h
      rw [← h]
      exact ⟨next, above⟩
  · have positive : 0 < (neighbours units k).1.digits := by
      simp only [Bool.and_eq_true, decide_eq_true_eq] at hitBelow
      exact hitBelow.2
    have either : x = (neighbours units k).1 ∨ x = (neighbours units k).2 := by
      cases hitAbove : readsBack units (neighbours units k).2
      · simp only [hitBelow, hitAbove, Option.some.injEq] at h
        exact .inl h.symm
      · simp only [hitBelow, hitAbove] at h
        split_ifs at h
        all_goals simp only [Option.some.injEq] at h
        · exact .inl h.symm
        · exact .inr h.symm
        · exact .inl h.symm
        · exact .inr h.symm
    rcases either with rfl | rfl
    · exact ⟨positive, below⟩
    · exact ⟨next, above⟩

/-- Seventeen grids are searched at most. -/
theorem searchGrids_eq_some {units : Nat} {leading : ℤ} {fuel count : Nat} {x : Decimal}
    (h : searchGrids units leading fuel count = some x) :
    0 < x.digits ∧ leading - (count + fuel) < x.exponent := by
  induction fuel generalizing count with
  | zero => cases h
  | succ fuel ih =>
    rw [searchGrids, Option.or_eq_some_iff] at h
    rcases h with here | ⟨-, later⟩
    · obtain ⟨positive, exponent⟩ := gridHit_eq_some here
      refine ⟨positive, ?_⟩
      rw [exponent]
      omega
    · obtain ⟨positive, exponent⟩ := ih later
      refine ⟨positive, ?_⟩
      push_cast at exponent
      omega

/-- A shortest decimal is found on a grid, unless none is. -/
theorem shortest_cases (units : Nat) :
    shortest units = ⟨0, 0⟩ ∨ 0 < (shortest units).digits ∧
      ∃ x : Decimal, (shortest units).rational = x.rational ∧
        leadingExponent units - 16 ≤ x.exponent := by
  unfold shortest
  cases found : searchGrids units (leadingExponent units) 17 0 with
  | none => exact .inl rfl
  | some x =>
    obtain ⟨positive, exponent⟩ := searchGrids_eq_some found
    refine .inr ⟨Decimal.stripZeros_pos 400 positive, x, Decimal.stripZeros_rational 400 x, ?_⟩
    omega

/-! ## Rounding -/

/-- What is at least a multiple of the divisor is rounded to at least that many. -/
theorem le_nearest {n d q : Nat} (positive : 0 < d) (least : q * d ≤ n) : q ≤ nearest n d := by
  have quotient : q ≤ n / d := (Nat.le_div_iff_mul_le positive).2 least
  unfold nearest
  dsimp only
  split_ifs <;> omega

/-- A fraction that is a power of two of units or more is not rounded below it. -/
theorem two_pow_le_roundRatio {n d m units : Nat} (positive : 0 < d)
    (least : 2 ^ m * d ≤ n * one) (h : roundRatio n d = some units) : 2 ^ m ≤ units := by
  unfold roundRatio at h
  dsimp only at h
  split at h
  · cases h
    have whole : 2 ^ m ≤ n * one / d := (Nat.le_div_iff_mul_le positive).2 least
    have nonzero : n * one / d ≠ 0 := Nat.ne_of_gt (Nat.lt_of_lt_of_le (Nat.two_pow_pos m) whole)
    have bits : 2 ^ (n * one / d).log2 * d ≤ n * one :=
      (Nat.le_div_iff_mul_le positive).1 (Nat.log2_self_le nonzero)
    obtain ⟨g, gap, fits⟩ : ∃ g, spacing (n * one / d) = 2 ^ g ∧ g ≤ (n * one / d).log2 :=
      ⟨_, rfl, Nat.sub_le _ _⟩
    rw [gap]
    -- a power of two that is not below the gap is a multiple of it
    have multiple {e : Nat} (above : g ≤ e) (within : 2 ^ e * d ≤ n * one) :
        2 ^ e ≤ nearest (n * one) (d * 2 ^ g) * 2 ^ g := by
      have power : 2 ^ e = 2 ^ (e - g) * 2 ^ g := by rw [← Nat.pow_add, Nat.sub_add_cancel above]
      rw [power]
      refine Nat.mul_le_mul_right _ (le_nearest (Nat.mul_pos positive (Nat.two_pow_pos g)) ?_)
      calc 2 ^ (e - g) * (d * 2 ^ g) = 2 ^ e * d := by rw [power]; ring
        _ ≤ n * one := within
    by_cases above : g ≤ m
    · exact multiple above least
    · refine Nat.le_trans (Nat.pow_le_pow_right (by decide) (Nat.le_of_not_le above)) ?_
      have within : 2 ^ g * d ≤ n * one :=
        Nat.le_trans (Nat.mul_le_mul_right d (Nat.pow_le_pow_right (by decide) fits)) bits
      exact multiple (Nat.le_refl g) within
  · cases h

-- Both powers are left to the kernel: nothing else evaluates numbers of that size.

/-- The exponent stands behind a variable, so that nothing evaluates the power later on. -/
theorem exists_one_eq : ∃ k, k = 1074 ∧ one = 2 ^ k :=
  ⟨1074, rfl, by decide +kernel⟩

theorem limit_pos : 0 < limit := by decide +kernel

theorem one_pos : 0 < one := by
  obtain ⟨k, -, power⟩ := exists_one_eq
  rw [power]
  exact Nat.two_pow_pos k

/-- An integer is not rounded below a power of two. -/
theorem two_pow_le_ofNat? {n a units : Nat} (least : 2 ^ a ≤ n) (h : ofNat? n = some units) :
    2 ^ a * one ≤ units := by
  obtain ⟨k, -, power⟩ := exists_one_eq
  rw [power, ← Nat.pow_add]
  refine two_pow_le_roundRatio Nat.one_pos ?_ h
  rw [Nat.pow_add, ← power, Nat.mul_one]
  exact Nat.mul_le_mul_right one least

/-- A product is not rounded below the product of powers of two. -/
theorem two_pow_le_mul? {x y a b units : Nat} (hx : 2 ^ a * one ≤ x) (hy : 2 ^ b * one ≤ y)
    (h : mul? x y = some units) : 2 ^ (a + b) * one ≤ units := by
  obtain ⟨k, -, power⟩ := exists_one_eq
  have least : 2 ^ (a + b + k) * (one * one) ≤ x * y * one := by
    calc 2 ^ (a + b + k) * (one * one) = 2 ^ a * one * (2 ^ b * one) * one := by
          rw [Nat.pow_add, Nat.pow_add, ← power]
          ring
      _ ≤ x * y * one := Nat.mul_le_mul_right one (Nat.mul_le_mul hx hy)
  have rounded := two_pow_le_roundRatio (Nat.mul_pos one_pos one_pos) least h
  rwa [Nat.pow_add, ← power] at rounded

/-- A power of ten is not rounded below the power of eight, unless it has no double. -/
theorem powerOfTen_cases (k : Nat) : powerOfTen k = 0 ∨ 2 ^ (3 * k) * one ≤ powerOfTen k := by
  unfold powerOfTen
  cases rounded : roundRatio (Nat.pow 10 k) 1 with
  | none => exact .inl rfl
  | some units =>
    have least : 2 ^ (3 * k) ≤ Nat.pow 10 k := by
      rw [Nat.pow_mul]
      exact Nat.pow_le_pow_left (by decide) k
    exact .inr (two_pow_le_ofNat? least rounded)

theorem mul?_zero (x : Nat) : mul? x 0 = some 0 := by
  have positive : 0 < one * one * spacing 0 := Nat.mul_pos (Nat.mul_pos one_pos one_pos) Nat.one_pos
  have zero : nearest 0 (one * one * spacing 0) = 0 := by
    unfold nearest
    simp [positive]
  unfold mul? roundRatio
  simp only [Nat.mul_zero, Nat.zero_mul, Nat.zero_div, zero]
  exact if_pos limit_pos

/-! ## Large doubles -/

/-- The first digit of a double from `2 ^ 63` on stands at `10 ^ 18` or further up. -/
theorem leadingExponent_ge {units : Nat} (large : 2 ^ 63 * one ≤ units) :
    18 ≤ leadingExponent units := by
  have bits : 1137 ≤ units.log2 := by
    obtain ⟨k, width, power⟩ := exists_one_eq
    rw [power, ← Nat.pow_add] at large
    have nonzero : units ≠ 0 := Nat.ne_of_gt (Nat.lt_of_lt_of_le (Nat.two_pow_pos _) large)
    have := (Nat.le_log2 nonzero).2 large
    omega
  have below : powerBelow units 18 = true := by
    have power : Nat.pow 10 18 ≤ 2 ^ 63 := by decide
    change powerBelow units (.ofNat 18) = true
    rw [powerBelow, decide_eq_true_eq]
    exact Nat.le_trans (Nat.mul_le_mul_right one power) large
  unfold leadingExponent
  dsimp only
  split_ifs with further here
  · omega
  · omega
  · -- the guess itself can only be too large if it is more than eighteen
    by_cases guess : ((units.log2 : ℤ) - 1074) * 1233 / 4096 = 18
    · rw [guess] at here
      exact absurd below here
    · omega

/-- The shortest decimal of a double from `2 ^ 63` on is a multiple of a hundred. -/
theorem hundred_dvd_shortest {units : Nat} (large : 2 ^ 63 * one ≤ units) :
    ∃ n : Nat, (shortest units).rational = 100 * n := by
  rcases shortest_cases units with zero | ⟨-, x, value, exponent⟩
  · refine ⟨0, ?_⟩
    rw [zero]
    simp [Decimal.rational]
  · have leading := leadingExponent_ge large
    obtain ⟨e, power⟩ : ∃ e : Nat, x.exponent = (e : ℤ) + 2 :=
      ⟨(x.exponent - 2).toNat, by omega⟩
    refine ⟨x.digits * 10 ^ e, ?_⟩
    rw [value, Decimal.rational, power, zpow_add₀ (by decide), zpow_natCast]
    push_cast
    ring

end Binary64

end QueryDesk.Number
