import QueryDesk.Json.Number

/-!
# The characters of numbers

A number is written with digits, signs, a point and the letter of the exponent.
-/

namespace QueryDesk.Json

/-- A character that the text of a number may have. -/
def Numeric (c : Char) : Prop :=
  c.isDigit = true ∨ c ∈ ['-', '+', '.', 'e']

instance (c : Char) : Decidable (Numeric c) :=
  inferInstanceAs (Decidable (_ ∨ _))

theorem numeric_zero : Numeric '0' := by decide

theorem numeric_of_mem_decimalDigits {n : Nat} {c : Char} (member : c ∈ decimalDigits n) :
    Numeric c :=
  .inl (Nat.isDigit_of_mem_toDigits (by decide) (by decide) member)

theorem numeric_of_mem_replicate {n : Nat} {c : Char} (member : c ∈ List.replicate n '0') :
    Numeric c := by
  rw [List.eq_of_mem_replicate member]
  exact numeric_zero

theorem numeric_of_mem_integerText {i : Int} {c : Char} (member : c ∈ integerText i) :
    Numeric c := by
  unfold integerText at member
  split at member
  · rcases List.mem_cons.1 member with rfl | member
    · exact .inr (by decide)
    · exact numeric_of_mem_decimalDigits member
  · exact numeric_of_mem_decimalDigits member

theorem numeric_of_mem_positional {digits : List Char} {k : Int} {c : Char}
    (numeric : ∀ d ∈ digits, Numeric d) (member : c ∈ positional digits k) : Numeric c := by
  cases k with
  | ofNat k =>
    rcases List.mem_append.1 member with member | member
    · rcases List.mem_append.1 member with member | member
      · exact numeric c (List.mem_of_mem_take member)
      · exact numeric_of_mem_replicate member
    · rcases List.mem_cons.1 member with rfl | member
      · exact .inr (by decide)
      · split at member
        · rw [List.mem_singleton.1 member]
          exact numeric_zero
        · exact numeric c (List.mem_of_mem_drop member)
  | negSucc k =>
    rcases List.mem_cons.1 member with rfl | member
    · exact numeric_zero
    rcases List.mem_cons.1 member with rfl | member
    · exact .inr (by decide)
    rcases List.mem_append.1 member with member | member
    · exact numeric_of_mem_replicate member
    · exact numeric c member

theorem numeric_of_mem_scientific {digits : List Char} {k : Int} {c : Char}
    (numeric : ∀ d ∈ digits, Numeric d) (member : c ∈ scientific digits k) : Numeric c := by
  rcases List.mem_append.1 member with member | member
  · split at member
    · rcases List.mem_cons.1 member with rfl | member
      · exact numeric c (List.mem_cons_self ..)
      rcases List.mem_cons.1 member with rfl | member
      · exact .inr (by decide)
      · exact numeric c (List.mem_cons_of_mem _ member)
    · exact numeric c member
  · rcases List.mem_cons.1 member with rfl | member
    · exact .inr (by decide)
    rcases List.mem_cons.1 member with rfl | member
    · split
      · exact .inr (by decide)
      · exact .inr (by decide)
    · exact numeric_of_mem_decimalDigits member

theorem numeric_of_mem_magnitudeText {units : Nat} {c : Char} (member : c ∈ magnitudeText units) :
    Numeric c := by
  unfold magnitudeText at member
  split at member
  · rcases List.mem_cons.1 member with rfl | member
    · exact numeric_zero
    rcases List.mem_cons.1 member with rfl | member
    · exact .inr (by decide)
    · rw [List.mem_singleton.1 member]
      exact numeric_zero
  · dsimp only at member
    split at member
    · exact numeric_of_mem_positional (fun d => numeric_of_mem_decimalDigits) member
    · exact numeric_of_mem_scientific (fun d => numeric_of_mem_decimalDigits) member

/-- The text of a number has numeric characters only. -/
theorem numeric_of_mem_chars {x : Number} {c : Char} (member : c ∈ x.chars) : Numeric c := by
  cases x with
  | integer i => exact numeric_of_mem_integerText member
  | real x =>
    rw [Number.chars] at member
    split at member
    · rcases List.mem_cons.1 member with rfl | member
      · exact .inr (by decide)
      · exact numeric_of_mem_magnitudeText member
    · exact numeric_of_mem_magnitudeText member

end QueryDesk.Json
