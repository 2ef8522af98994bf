import Mathlib.Data.List.Basic
import QueryDesk.Proofs.Text.Ascii

/-!
# Texts that are cut off

A text whose octets are cut off anywhere is read as a part from its front; when the cut goes
through a character, U+FFFD stands behind that part (`stump_lossy`).
-/

namespace QueryDesk.Text

/-! ## Fronts of lists -/

section Fronts

variable {α β : Type}

/-- A front of two lists ends inside the first one or behind it. -/
theorem prefix_append_cases {front xs ys : List α} (cut : front <+: xs ++ ys) :
    front <+: xs ∨ ∃ r, front = xs ++ r ∧ r <+: ys := by
  obtain ⟨more, whole⟩ := cut
  rcases List.append_eq_append_iff.1 whole with ⟨r, rfl, -⟩ | ⟨r, rfl, rest⟩
  · exact .inl (List.prefix_append _ _)
  · exact .inr ⟨r, rfl, more, rest.symm⟩

/-- A front of pieces that are joined is all of them, or whole pieces and a part of the next. -/
theorem exists_of_prefix_flatMap {f : α → List β} {xs : List α} {front : List β}
    (cut : front <+: xs.flatMap f) :
    front = xs.flatMap f ∨
      ∃ done x rest part, xs = done ++ x :: rest ∧ front = done.flatMap f ++ part ∧
        part <+: f x ∧ part ≠ f x := by
  induction xs generalizing front with
  | nil => exact .inl (List.prefix_nil.1 cut)
  | cons x xs ih =>
    rw [List.flatMap_cons] at cut
    rcases prefix_append_cases cut with inside | ⟨behind, rfl, cut'⟩
    · by_cases whole : front = f x
      · subst whole
        rcases ih List.nil_prefix with none_left | ⟨done, y, rest, part, rfl, empty, inside, less⟩
        · left
          rw [List.flatMap_cons, ← none_left, List.append_nil]
        · refine .inr ⟨x :: done, y, rest, part, rfl, ?_, inside, less⟩
          rw [List.flatMap_cons, List.append_assoc, ← empty, List.append_nil]
      · exact .inr ⟨[], x, xs, front, rfl, rfl, inside, whole⟩
    · rcases ih cut' with whole | ⟨done, y, rest, part, rfl, rfl, inside, less⟩
      · exact .inl (by rw [List.flatMap_cons, whole])
      · refine .inr ⟨x :: done, y, rest, part, rfl, ?_, inside, less⟩
        rw [List.flatMap_cons, List.append_assoc]

end Fronts

/-! ## Stumps -/

/-- The character that stands for what is ill-formed. -/
def replacement : Char := Char.ofNat 0xFFFD

/-- What may be read of a text that is cut off: a part from its front, and perhaps the replacement
    for a character that was cut in two. -/
def Stump (whole s : List Char) : Prop :=
  ∃ kept, kept <+: whole ∧ (s = kept ∨ s = kept ++ [replacement])

theorem stump_of_front {whole s : List Char} (front : s <+: whole) : Stump whole s :=
  ⟨s, front, .inl rfl⟩

/-- What is left of nothing is nothing, or a replacement. -/
theorem stump_nil {s : List Char} : Stump [] s ↔ s = [] ∨ s = [replacement] := by
  constructor
  · rintro ⟨kept, front, rfl | rfl⟩
    · exact .inl (List.prefix_nil.1 front)
    · rw [List.prefix_nil.1 front]
      exact .inr rfl
  · rintro (rfl | rfl)
    · exact ⟨[], List.prefix_rfl, .inl rfl⟩
    · exact ⟨[], List.prefix_rfl, .inr rfl⟩

theorem Stump.mono {whole whole' s : List Char} (h : Stump whole s) (front : whole <+: whole') :
    Stump whole' s := by
  obtain ⟨kept, cut, ends⟩ := h
  exact ⟨kept, cut.trans front, ends⟩

/-- Behind the same front, stumps are those of the rest. -/
theorem stump_append_iff {front rest s : List Char} :
    Stump (front ++ rest) (front ++ s) ↔ Stump rest s := by
  constructor
  · rintro ⟨kept, cut, whole | whole⟩
    · rw [← whole, List.prefix_append_right_inj] at cut
      exact stump_of_front cut
    · rcases List.eq_nil_or_concat s with rfl | ⟨s', c, rfl⟩
      · exact stump_of_front List.nil_prefix
      · rw [List.concat_eq_append, ← List.append_assoc] at whole
        obtain ⟨rfl, last⟩ := List.append_inj' whole rfl
        rw [List.prefix_append_right_inj] at cut
        exact ⟨s', cut, .inr (by rw [List.concat_eq_append, last])⟩
  · rintro ⟨kept, cut, rfl | rfl⟩
    · exact stump_of_front ((List.prefix_append_right_inj front).2 cut)
    · refine ⟨front ++ kept, (List.prefix_append_right_inj front).2 cut, .inr ?_⟩
      rw [List.append_assoc]

/-- A stump starts as the text does, unless that was cut in its first character. -/
theorem Stump.head {c d : Char} {rest s : List Char} (h : Stump (c :: rest) (d :: s)) :
    d = c ∨ d = replacement := by
  obtain ⟨kept, cut, whole⟩ := h
  cases kept with
  | nil =>
    rcases whole with whole | whole
    · cases whole
    · exact .inr (List.cons.inj whole).1
  | cons e kept =>
    have first : e = c := (List.cons_prefix_cons.1 cut).1
    rcases whole with whole | whole
    · exact .inl ((List.cons.inj whole).1.trans first)
    · exact .inl ((List.cons.inj whole).1.trans first)

/-- A stump holds no characters but those of the text and replacements. -/
theorem Stump.mem {whole s : List Char} (h : Stump whole s) {c : Char} (member : c ∈ s) :
    c ∈ whole ∨ c = replacement := by
  obtain ⟨kept, cut, rfl | rfl⟩ := h
  · exact .inl (cut.subset member)
  · rcases List.mem_append.1 member with inside | last
    · exact .inl (cut.subset inside)
    · exact .inr (List.mem_singleton.1 last)

namespace Utf8

/-- The octets of a text that are cut off are read as a stump of it. -/
theorem stump_lossy {cs : List Char} {bytes : Bytes} (cut : bytes <+: encodeChars cs) :
    Stump cs (lossy bytes).toList := by
  obtain ⟨more, whole⟩ := cut
  obtain ⟨symbols, next, -, decoded⟩ := exists_decodeFrom wide_none bytes
  have front : symbols <+: cs.map some := by
    rw [← decode_encodeChars, decode, ← whole, decoded]
    exact List.prefix_append _ _
  obtain ⟨kept, inside, rfl⟩ := List.prefix_map_iff.1 front
  have read : decode bytes = kept.map some ++ decodeFrom next [] := by
    rw [decode, ← decoded [], List.append_nil]
  have plain : (kept.map some).map (·.getD replacement) = kept := by
    rw [List.map_map]
    exact List.map_id kept
  refine ⟨kept, inside, ?_⟩
  rw [lossy, String.toList_ofList, read, List.map_append]
  cases next with
  | none => exact .inl (by rw [decodeFrom, List.map_nil, List.append_nil]; exact plain)
  | some p => exact .inr (congrArg (· ++ [replacement]) plain)

end Utf8

end QueryDesk.Text
