import QueryDesk.Proofs.Text.Utf8

/-!
# ASCII behind other octets

A character with more than one octet is not ASCII, and none of its octets is.  So an ASCII octet
behind any octets is read as its character (`toList_lossy_concat`), and a text that is read
leniently ends in an ASCII character only if its octets do (`getLast?_toList_lossy`).
-/

namespace QueryDesk.Text.Utf8

/-! ## Unfinished characters -/

/-- An unfinished character that no ASCII octet continues, and that will not be an ASCII one. -/
structure Pending.Wide (p : Pending) : Prop where
  low : 0x80 ≤ p.low
  value : (if p.owed = 0 then 0x80 else 2) ≤ p.value * 0x40 + (p.low - 0x80)

/-- A state between characters, or inside one that is not ASCII. -/
def Wide (state : Option Pending) : Prop :=
  ∀ p, state = some p → p.Wide

theorem wide_none : Wide none := by
  intro p unfinished
  cases unfinished

theorem wide_some {p : Pending} (wide : p.Wide) : Wide (some p) := by
  rintro _ ⟨⟩
  exact wide

theorem wide_leading (b : Nat) : Wide (leading b) := by
  intro p starts
  unfold leading at starts
  split at starts
  · rename_i two
    simp only [Bool.and_eq_true, decide_eq_true_eq] at two
    cases starts
    exact ⟨Nat.le_refl _, by simp only [if_true]; omega⟩
  split at starts
  · cases starts
    exact ⟨by decide, by decide⟩
  split at starts
  · cases starts
    exact ⟨by decide, by decide⟩
  split at starts
  · rename_i first _ three
    simp only [Bool.and_eq_true, decide_eq_true_eq, beq_iff_eq] at first three
    cases starts
    exact ⟨Nat.le_refl _, by simp only [Nat.one_ne_zero, if_false]; omega⟩
  split at starts
  · cases starts
    exact ⟨by decide, by decide⟩
  split at starts
  · rename_i four
    simp only [Bool.and_eq_true, decide_eq_true_eq] at four
    cases starts
    exact ⟨Nat.le_refl _, by simp only [OfNat.ofNat_ne_zero, if_false]; omega⟩
  split at starts
  · cases starts
    exact ⟨by decide, by decide⟩
  · cases starts

theorem wide_start (b : Nat) : Wide (start b).2 := by
  have wide := wide_leading b
  unfold start
  split
  · exact wide_none
  · split
    · rename_i p starts
      rw [starts] at wide
      exact wide
    · exact wide_none

theorem wide_step {state : Option Pending} (wide : Wide state) (b : Nat) :
    Wide (step state b).2 := by
  cases state with
  | none => exact wide_start b
  | some p =>
    obtain ⟨low, value⟩ := wide p rfl
    rw [step]
    split
    · rename_i inside
      simp only [Bool.and_eq_true, decide_eq_true_eq] at inside
      dsimp only
      split
      · exact wide_none
      · rename_i owed more
        rw [more, if_neg (Nat.succ_ne_zero owed)] at value
        refine wide_some ⟨Nat.le_refl _, ?_⟩
        dsimp only
        split <;> omega
    · exact wide_start b

/-! ## One octet -/

/-- What is read at the end of the bytes: an unfinished character is ill-formed. -/
theorem decodeFrom_nil (state : Option Pending) :
    decodeFrom state [] = state.toList.map fun _ => none := by
  cases state <;> rfl

theorem decodeFrom_cons (state : Option Pending) (b : UInt8) (bytes : Bytes) :
    decodeFrom state (b :: bytes) =
      (step state b.toNat).1 ++ decodeFrom (step state b.toNat).2 bytes := by
  rw [decodeFrom]

/-- An ASCII octet ends an unfinished character, and is a character of its own. -/
theorem step_ascii {state : Option Pending} (wide : Wide state) {b : Nat} (ascii : b < 0x80) :
    step state b = (decodeFrom state [] ++ [some (Char.ofNat b)], none) := by
  have alone : start b = ([some (Char.ofNat b)], none) := if_pos ascii
  cases state with
  | none => exact alone
  | some p =>
    have outside : ¬ (p.low ≤ b ∧ b ≤ p.high) := by
      have low := (wide p rfl).low
      omega
    simp only [step, Bool.and_eq_true, decide_eq_true_eq, if_neg outside, alone]
    rfl

/-- A number that is no code point stands for the character zero, every other one for its own. -/
theorem toNat_of_ofNat {n : Nat} {c : Char} (same : Char.ofNat n = c) (visible : c.toNat ≠ 0) :
    c.toNat = n := by
  subst same
  by_cases valid : n.isValidChar
  · rw [Char.ofNat, dif_pos valid]
    rfl
  · simp [Char.ofNat, valid] at visible

theorem start_high {b : Nat} (high : 0x80 ≤ b) (c : Char) : some c ∉ (start b).1 := by
  unfold start
  rw [if_neg (by omega)]
  split <;> simp

/-- Every other octet completes no ASCII character. -/
theorem step_high {state : Option Pending} (wide : Wide state) {b : Nat} (high : 0x80 ≤ b)
    {c : Char} (ascii : c.toNat < 0x80) (visible : c.toNat ≠ 0) : some c ∉ (step state b).1 := by
  cases state with
  | none => exact start_high high c
  | some p =>
    obtain ⟨low, value⟩ := wide p rfl
    rw [step]
    split
    · rename_i inside
      simp only [Bool.and_eq_true, decide_eq_true_eq] at inside
      dsimp only
      split
      · rename_i last
        rw [last, if_pos rfl] at value
        intro member
        have same := toNat_of_ofNat (Option.some.inj (List.mem_singleton.1 member)).symm visible
        omega
      · exact List.not_mem_nil
    · dsimp only
      rw [List.mem_cons, not_or]
      exact ⟨by simp, start_high high c⟩

/-- An octet is read as something, even if no more follow. -/
theorem decodeFrom_singleton_ne_nil (state : Option Pending) (b : UInt8) :
    decodeFrom state [b] ≠ [] := by
  have alone : (start b.toNat).1 ++ decodeFrom (start b.toNat).2 [] ≠ [] := by
    unfold start
    split
    · simp
    · split <;> simp [decodeFrom]
  rw [decodeFrom_cons]
  cases state with
  | none => exact alone
  | some p =>
    rw [step]
    split
    · dsimp only
      split <;> simp [decodeFrom]
    · simp

/-! ## Many octets -/

/-- Octets are decoded one by one: what more of them follow does not change what has been decoded,
    up to the character that is unfinished. -/
theorem exists_decodeFrom {state : Option Pending} (wide : Wide state) (bytes : Bytes) :
    ∃ symbols next, Wide next ∧
      ∀ more, decodeFrom state (bytes ++ more) = symbols ++ decodeFrom next more := by
  induction bytes generalizing state with
  | nil => exact ⟨[], state, wide, fun _ => rfl⟩
  | cons b bytes ih =>
    obtain ⟨others, next, wide', rest⟩ := ih (wide_step wide b.toNat)
    refine ⟨(step state b.toNat).1 ++ others, next, wide', ?_⟩
    intro more
    rw [List.cons_append, decodeFrom_cons, rest more, List.append_assoc]

/-- An ASCII octet behind any octets is read as its character. -/
theorem toList_lossy_concat (bytes : Bytes) {b : UInt8} (ascii : b.toNat < 0x80) :
    (lossy (bytes ++ [b])).toList = (lossy bytes).toList ++ [Char.ofNat b.toNat] := by
  obtain ⟨symbols, next, wide, decoded⟩ := exists_decodeFrom wide_none bytes
  have whole : decode (bytes ++ [b]) = decode bytes ++ [some (Char.ofNat b.toNat)] := by
    have front := decoded []
    rw [List.append_nil] at front
    rw [decode, decode, decoded, front, decodeFrom_cons, step_ascii wide ascii, decodeFrom_nil none,
      List.append_assoc]
    simp
  simp [lossy, whole]

/-- A text ends in an ASCII character only if its octets do. -/
theorem getLast?_toList_lossy {bytes : Bytes} {c : Char} (ascii : c.toNat < 0x80)
    (visible : c.toNat ≠ 0) (last : (lossy bytes).toList.getLast? = some c) :
    bytes.getLast? = some (UInt8.ofNat c.toNat) := by
  rcases List.eq_nil_or_concat bytes with rfl | ⟨front, b, rfl⟩
  · cases last
  rw [List.concat_eq_append] at last ⊢
  rw [List.getLast?_concat]
  by_cases narrow : b.toNat < 0x80
  · rw [toList_lossy_concat front narrow, List.getLast?_concat, Option.some.injEq] at last
    rw [toNat_of_ofNat last visible, UInt8.ofNat_toNat]
  · obtain ⟨symbols, next, wide, decoded⟩ := exists_decodeFrom wide_none front
    have absent : some c ∉ decodeFrom next [b] := by
      rw [decodeFrom_cons, decodeFrom_nil, List.mem_append, not_or]
      exact ⟨step_high wide (by omega) ascii visible, by simp⟩
    obtain ⟨symbol, final⟩ : ∃ symbol, (decodeFrom next [b]).getLast? = some symbol :=
      Option.isSome_iff_exists.1 (List.getLast?_isSome.2 (decodeFrom_singleton_ne_nil next b))
    rw [lossy, String.toList_ofList, decode, decoded, List.getLast?_map, List.getLast?_append,
      final, Option.some_or, Option.map_some, Option.some.injEq] at last
    have member := List.mem_of_getLast? final
    cases symbol with
    | none =>
      rw [← last] at ascii
      exact absurd ascii (by decide)
    | some d =>
      cases last
      exact absurd member absent

end QueryDesk.Text.Utf8
