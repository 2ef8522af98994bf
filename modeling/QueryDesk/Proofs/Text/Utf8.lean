import QueryDesk.Text.Utf8
import Mathlib.Tactic.IntervalCases

/-!
# Text is read back from its octets

The octets of a character are decoded to that character, whatever follows them
(`decodeFrom_encodeChar`), so a text is read back from its octets (`lossy_encodeChars`).  An ASCII
octet stands for its own character only, so a line end among the octets of a text is one of the
text (`mem_of_mem_encodeChars`).
-/

namespace QueryDesk.Text.Utf8

/-! ## Octets of a character -/

theorem toNat_octet {n : Nat} (small : n < 0x100) : (UInt8.ofNat n).toNat = n := by
  rw [UInt8.toNat_ofNat']
  exact Nat.mod_eq_of_lt small

/-- The octets that start a character of two. -/
theorem leading_two {k : Nat} (least : 2 ≤ k) (greatest : k < 0x20) :
    leading (0xC0 + k) = some ⟨0, 0x80, 0xBF, k⟩ := by
  interval_cases k <;> rfl

/-- The octets that start a character of three. -/
theorem leading_three {k : Nat} (greatest : k < 0x10) :
    leading (0xE0 + k) =
      some ⟨1, if k = 0 then 0xA0 else 0x80, if k = 0xD then 0x9F else 0xBF, k⟩ := by
  interval_cases k <;> rfl

/-- The octets that start a character of four. -/
theorem leading_four {k : Nat} (greatest : k < 5) :
    leading (0xF0 + k) =
      some ⟨2, if k = 0 then 0x90 else 0x80, if k = 4 then 0x8F else 0xBF, k⟩ := by
  interval_cases k <;> rfl

/-- An octet that starts a character with more octets. -/
theorem decodeFrom_leading {b : Nat} {p : Pending} (high : 0x80 ≤ b) (small : b < 0x100)
    (starts : leading b = some p) (rest : Bytes) :
    decodeFrom none (UInt8.ofNat b :: rest) = decodeFrom (some p) rest := by
  have wide : ¬ b < 0x80 := by omega
  simp [decodeFrom, step, start, toNat_octet small, wide, starts]

/-- An octet in the middle of a character. -/
theorem decodeFrom_middle {owed low high value t : Nat} (bound : t < 0x40)
    (above : low ≤ 0x80 + t) (below : 0x80 + t ≤ high) (rest : Bytes) :
    decodeFrom (some ⟨owed + 1, low, high, value⟩) (UInt8.ofNat (0x80 + t) :: rest) =
      decodeFrom (some ⟨owed, 0x80, 0xBF, value * 0x40 + t⟩) rest := by
  have octet : (UInt8.ofNat (0x80 + t)).toNat = 0x80 + t := toNat_octet (by omega)
  have inside : (decide (low ≤ 0x80 + t) && decide (0x80 + t ≤ high)) = true := by
    simp [above, below]
  have value' : value * 0x40 + (0x80 + t - 0x80) = value * 0x40 + t := by omega
  simp only [decodeFrom, step, octet, inside, value', if_true, List.nil_append]

/-- The last octet of a character. -/
theorem decodeFrom_last {low high value t : Nat} (bound : t < 0x40)
    (above : low ≤ 0x80 + t) (below : 0x80 + t ≤ high) (rest : Bytes) :
    decodeFrom (some ⟨0, low, high, value⟩) (UInt8.ofNat (0x80 + t) :: rest) =
      some (Char.ofNat (value * 0x40 + t)) :: decodeFrom none rest := by
  have octet : (UInt8.ofNat (0x80 + t)).toNat = 0x80 + t := toNat_octet (by omega)
  have inside : (decide (low ≤ 0x80 + t) && decide (0x80 + t ≤ high)) = true := by
    simp [above, below]
  have value' : value * 0x40 + (0x80 + t - 0x80) = value * 0x40 + t := by omega
  simp only [decodeFrom, step, octet, inside, value', if_true, List.cons_append, List.nil_append]

/-! ## Characters and texts -/

/-- The octets of a character are decoded to it, whatever follows. -/
theorem decodeFrom_encodeChar (c : Char) (rest : Bytes) :
    decodeFrom none (encodeChar c ++ rest) = some c :: decodeFrom none rest := by
  have valid : c.toNat < 0xD800 ∨ 0xDFFF < c.toNat ∧ c.toNat < 0x110000 := c.valid
  have same : Char.ofNat c.toNat = c := Char.ofNat_toNat c
  unfold encodeChar
  generalize c.toNat = n at valid same
  dsimp only
  by_cases one : n < 0x80
  · have octet : (UInt8.ofNat n).toNat = n := toNat_octet (by omega)
    rw [if_pos one]
    simp [decodeFrom, step, start, octet, one, same]
  rw [if_neg one]
  by_cases two : n < 0x800
  · have starts := leading_two (k := n / 0x40) (by omega) (by omega)
    have whole : n / 0x40 * 0x40 + n % 0x40 = n := by omega
    rw [if_pos two, List.cons_append, decodeFrom_leading (by omega) (by omega) starts]
    rw [List.cons_append, decodeFrom_last (by omega) (by omega) (by omega), whole, same]
    rfl
  rw [if_neg two]
  by_cases three : n < 0x10000
  · have starts := leading_three (k := n / 0x1000) (by omega)
    have whole : (n / 0x1000 * 0x40 + n / 0x40 % 0x40) * 0x40 + n % 0x40 = n := by omega
    rw [if_pos three, List.cons_append, decodeFrom_leading (by omega) (by omega) starts]
    -- the second octet is bounded more tightly after 0xE0 and, for want of surrogates, after 0xED
    rw [List.cons_append, decodeFrom_middle (by omega) (by split <;> omega) (by split <;> omega)]
    rw [List.cons_append, decodeFrom_last (by omega) (by omega) (by omega), whole, same]
    rfl
  · have starts := leading_four (k := n / 0x40000) (by omega)
    have whole : ((n / 0x40000 * 0x40 + n / 0x1000 % 0x40) * 0x40 + n / 0x40 % 0x40) * 0x40 +
        n % 0x40 = n := by omega
    rw [if_neg three, List.cons_append, decodeFrom_leading (by omega) (by omega) starts]
    rw [List.cons_append, decodeFrom_middle (by omega) (by split <;> omega) (by split <;> omega)]
    rw [List.cons_append, decodeFrom_middle (by omega) (by omega) (by omega)]
    rw [List.cons_append, decodeFrom_last (by omega) (by omega) (by omega), whole, same]
    rfl

theorem decode_encodeChars (cs : List Char) : decode (encodeChars cs) = cs.map some := by
  induction cs with
  | nil => rfl
  | cons c cs ih =>
    rw [decode, encodeChars, List.flatMap_cons, decodeFrom_encodeChar, List.map_cons]
    exact congrArg _ ih

/-- A text is read back from its octets. -/
theorem lossy_encodeChars (cs : List Char) : lossy (encodeChars cs) = String.ofList cs := by
  rw [lossy, decode_encodeChars]
  simp

/-! ## ASCII -/

theorem encodeChar_ascii {c : Char} (ascii : c.toNat < 0x80) :
    encodeChar c = [UInt8.ofNat c.toNat] := by
  unfold encodeChar
  dsimp only
  rw [if_pos ascii]

/-- Every octet of a character that is not ASCII is above the ASCII range. -/
theorem le_of_mem_encodeChar {c : Char} (wide : 0x80 ≤ c.toNat) {b : UInt8}
    (member : b ∈ encodeChar c) : 0x80 ≤ b.toNat := by
  have bound : c.toNat < 0x110000 := by
    have valid : c.toNat < 0xD800 ∨ 0xDFFF < c.toNat ∧ c.toNat < 0x110000 := c.valid
    omega
  have high {n : Nat} (least : 0x80 ≤ n) (greatest : n < 0x100) : 0x80 ≤ (UInt8.ofNat n).toNat := by
    rw [toNat_octet greatest]
    exact least
  unfold encodeChar at member
  generalize c.toNat = n at wide bound member
  dsimp only at member
  rw [if_neg (by omega)] at member
  split at member
  · simp only [List.mem_cons, List.not_mem_nil, or_false] at member
    rcases member with rfl | rfl <;> exact high (by omega) (by omega)
  · split at member
    · simp only [List.mem_cons, List.not_mem_nil, or_false] at member
      rcases member with rfl | rfl | rfl <;> exact high (by omega) (by omega)
    · simp only [List.mem_cons, List.not_mem_nil, or_false] at member
      rcases member with rfl | rfl | rfl | rfl <;> exact high (by omega) (by omega)

/-- An ASCII octet is among the octets of its own character only. -/
theorem eq_of_mem_encodeChar {c a : Char} (ascii : a.toNat < 0x80)
    (member : UInt8.ofNat a.toNat ∈ encodeChar c) : c = a := by
  have octet : (UInt8.ofNat a.toNat).toNat = a.toNat := toNat_octet (by omega)
  by_cases narrow : c.toNat < 0x80
  · rw [encodeChar_ascii narrow, List.mem_singleton] at member
    have same : a.toNat = c.toNat := by
      rw [← octet, member, toNat_octet (by omega)]
    rw [← Char.ofNat_toNat c, ← same, Char.ofNat_toNat]
  · have above := le_of_mem_encodeChar (by omega) member
    omega

theorem mem_of_mem_encodeChars {cs : List Char} {a : Char} (ascii : a.toNat < 0x80)
    (member : UInt8.ofNat a.toNat ∈ encodeChars cs) : a ∈ cs := by
  obtain ⟨c, inside, octet⟩ := List.mem_flatMap.1 member
  rw [← eq_of_mem_encodeChar ascii octet]
  exact inside

theorem encodeChars_append (cs cs' : List Char) :
    encodeChars (cs ++ cs') = encodeChars cs ++ encodeChars cs' :=
  List.flatMap_append

/-- ASCII texts compare octet by octet as they do character by character. -/
theorem encodeChars_lt_iff {cs ds : List Char} (ascii : ∀ c ∈ cs, c.toNat < 0x80)
    (ascii' : ∀ d ∈ ds, d.toNat < 0x80) : encodeChars cs < encodeChars ds ↔ cs < ds := by
  induction cs generalizing ds with
  | nil =>
    cases ds with
    | nil => simp [encodeChars]
    | cons d ds =>
      rw [List.forall_mem_cons] at ascii'
      rw [encodeChars, encodeChars, List.flatMap_cons, encodeChar_ascii ascii'.1]
      simp
  | cons c cs ih =>
    rw [List.forall_mem_cons] at ascii
    cases ds with
    | nil =>
      rw [encodeChars, List.flatMap_cons, encodeChar_ascii ascii.1]
      simp [encodeChars]
    | cons d ds =>
      rw [List.forall_mem_cons] at ascii'
      have octet : (UInt8.ofNat c.toNat).toNat = c.toNat := toNat_octet (by omega)
      have octet' : (UInt8.ofNat d.toNat).toNat = d.toNat := toNat_octet (by omega)
      have less : UInt8.ofNat c.toNat < UInt8.ofNat d.toNat ↔ c < d := by
        rw [UInt8.lt_iff_toNat_lt, octet, octet']
        rfl
      have same : UInt8.ofNat c.toNat = UInt8.ofNat d.toNat ↔ c = d := by
        rw [← UInt8.toNat_inj, octet, octet', Char.toNat_inj]
      have rest := ih ascii.2 ascii'.2
      rw [encodeChars, encodeChars] at rest ⊢
      rw [List.flatMap_cons, List.flatMap_cons, encodeChar_ascii ascii.1,
        encodeChar_ascii ascii'.1, List.singleton_append, List.singleton_append,
        List.cons_lt_cons_iff, List.cons_lt_cons_iff, rest, less, same]

end QueryDesk.Text.Utf8
