import QueryDesk.Json.Reader
import QueryDesk.Proofs.Json.Document

/-!
# Readers and whole texts

What a reader makes of a text is what it makes of the tree that the text spells.
-/

namespace QueryDesk.Json

open QueryDesk.Text

variable {α : Type}

/-- A text that spells a tree is read as the tree is. -/
theorem parse_of_isText (read : Reader α) {s : String} {t : Tree} (text : IsText s t) :
    read.parse s = read maxNesting t := by
  rw [Reader.parse, parse_eq_iff.2 text, Reader.run]
  cases read maxNesting t with
  | error fault => rfl
  | ok a => rfl

/-- A reader accepts the texts that spell a tree which it accepts. -/
theorem parse_eq_ok {read : Reader α} {s : String} {a : α} :
    read.parse s = .ok a ↔ ∃ t, IsText s t ∧ read maxNesting t = .ok a := by
  constructor
  · intro h
    rw [Reader.parse, Reader.run] at h
    split at h
    · cases h
    · rename_i b accepted
      split at h
      · rename_i ended
        cases h
        refine ⟨_, parse_eq_iff.1 ?_, accepted⟩
        rw [← ended]
      · cases h
  · rintro ⟨t, text, accepted⟩
    rw [parse_of_isText read text, accepted]

namespace Reader

theorem mismatch_ne_ok (expected : String) (t : Tree) (a : α) : mismatch expected t ≠ .ok a := by
  intro h
  cases t with
  | numeral x =>
    rw [mismatch] at h
    split at h
    · cases h
    · cases h
  | string value =>
    cases value with
    | none => cases h
    | some s => cases h
  | null => cases h
  | bool b => cases h
  | array items closed => cases h
  | object members closed => cases h
  | broken => cases h

theorem text_eq_ok {budget : Nat} {t : Tree} {s : String} :
    text budget t = .ok s ↔ t = .string (some s) := by
  unfold text textAs
  constructor
  · intro h
    split at h
    · cases h
      rfl
    · exact absurd h (mismatch_ne_ok _ _ _)
  · rintro rfl
    rfl

variable {σ : Type}

/-- A record is read from the members of an object or from the items of an array. -/
theorem record_eq_ok {shape : Shape σ} {budget : Nat} {t : Tree} {r : σ} :
    record shape budget t = .ok r ↔
      ∃ rest, budget = rest + 1 ∧
        ((∃ ms seen, t = .object ms true ∧ members shape rest ms [] shape.initial = .ok (seen, r) ∧
            missing? shape seen = none) ∨
          ∃ ts closed, t = .array ts closed ∧
            positions shape rest closed 0 shape.fields ts shape.initial = .ok r) := by
  constructor
  · intro h
    unfold record at h
    split at h
    · rename_i ms closed
      split at h
      · cases h
      rename_i rest
      split at h
      · cases h
      rename_i seen r' found
      split at h
      · cases h
      rename_i isClosed
      split at h
      · cases h
      rename_i complete
      cases h
      simp only [Bool.not_eq_true', Bool.not_eq_false] at isClosed
      subst isClosed
      exact ⟨rest, rfl, .inl ⟨ms, seen, rfl, found, complete⟩⟩
    · rename_i ts closed
      split at h
      · cases h
      rename_i rest
      exact ⟨rest, rfl, .inr ⟨ts, closed, rfl, h⟩⟩
    · exact absurd h (mismatch_ne_ok _ _ _)
  · rintro ⟨rest, rfl, ⟨ms, seen, rfl, found, complete⟩ | ⟨ts, closed, rfl, found⟩⟩
    · simp [record, found, complete]
    · exact found

end Reader

end QueryDesk.Json
