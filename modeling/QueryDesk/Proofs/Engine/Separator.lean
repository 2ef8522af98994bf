import Mathlib.Data.List.TakeWhile
import QueryDesk.Engine.Basic

/-!
# The separator of a statement

A statement is separated when a semicolon stands in it with nothing but white space behind.  There
is one such semicolon at most, the last one.  `prepare` keeps what stands before it, further
semicolons and white space included, and any other statement as it is (`prepare_exact`).
-/

namespace QueryDesk.Engine

open QueryDesk.Text

/-- A text that a semicolon divides into a statement and white space. -/
structure Separated (sql statement blank : String) : Prop where
  divided : sql = statement ++ ";" ++ blank
  blank : isBlankText blank = true

/-- A number of semicolons. -/
def semicolons (n : Nat) : String :=
  String.ofList (List.replicate n ';')

theorem forall_mem_of_isBlankText {s : String} (h : isBlankText s = true) :
    ∀ c ∈ s.toList, isBlank c = true :=
  List.all_eq_true.1 h

theorem not_mem_of_isBlankText {s : String} (h : isBlankText s = true) : ';' ∉ s.toList := by
  intro member
  have blank : isBlank ';' = true := forall_mem_of_isBlankText h ';' member
  exact absurd blank (by decide)

theorem semicolons_succ (n : Nat) : semicolons (n + 1) = semicolons n ++ ";" := by
  rw [String.ext_iff]
  simp [semicolons, List.replicate_succ']

namespace Separated

variable {sql statement blank : String}

/-- The white space is dropped from the end, then the semicolon. -/
theorem prepare (h : Separated sql statement blank) : prepare sql = statement := by
  have backwards : sql.toList.reverse =
      blank.toList.reverse ++ ';' :: statement.toList.reverse := by
    simp [h.divided]
  have dropped : sql.toList.reverse.dropWhile isBlank = ';' :: statement.toList.reverse := by
    have visible : isBlank ';' = false := rfl
    rw [backwards, List.dropWhile_append_of_pos, List.dropWhile_cons_of_neg (by simp [visible])]
    intro c member
    exact forall_mem_of_isBlankText h.blank c (List.mem_reverse.1 member)
  simp [Engine.prepare, dropped]

/-- A text is divided in one way. -/
theorem unique (h : Separated sql statement blank) {statement' blank' : String}
    (h' : Separated sql statement' blank') : statement' = statement ∧ blank' = blank := by
  have same : statement' = statement := h'.prepare.symm.trans h.prepare
  subst same
  have tails : statement' ++ ";" ++ blank' = statement' ++ ";" ++ blank :=
    h'.divided.symm.trans h.divided
  exact ⟨rfl, (String.append_right_inj _).1 tails⟩

end Separated

/-- Where a semicolon is stripped, it has divided the statement; otherwise nothing is stripped. -/
theorem separated_or_prepare_eq (sql : String) :
    (∃ blank, Separated sql (prepare sql) blank) ∨ prepare sql = sql := by
  cases found : sql.toList.reverse.dropWhile isBlank with
  | nil => simp [prepare, found]
  | cons c rest =>
    by_cases semicolon : c = ';'
    · subst semicolon
      left
      refine ⟨String.ofList (sql.toList.reverse.takeWhile isBlank).reverse, ?_, ?_⟩
      · have whole := List.takeWhile_append_dropWhile (p := isBlank) (l := sql.toList.reverse)
        have forwards := congrArg List.reverse whole
        rw [String.ext_iff]
        simpa [prepare, found] using forwards.symm
      · simp only [isBlankText, String.toList_ofList, List.all_reverse, List.all_eq_true]
        exact fun _ => List.mem_takeWhile_imp
    · right
      simp [prepare, found, semicolon]

/-- A separator is stripped together with the white space behind it, and nothing else is.  The
    separator is determined by the text, so of several semicolons at the end one is lost; a text
    without one keeps the white space at its end. -/
theorem prepare_exact :
    (∀ sql statement blank, Separated sql statement blank →
      prepare sql = statement ∧
        ∀ statement' blank', Separated sql statement' blank' →
          statement' = statement ∧ blank' = blank) ∧
    (∀ sql, (∀ statement blank, ¬ Separated sql statement blank) → prepare sql = sql) ∧
    (∀ sql, ∃ dropped, sql = prepare sql ++ dropped ∧ dropped.toList.count ';' ≤ 1) ∧
    ∀ statement n, 1 ≤ n →
      prepare (statement ++ semicolons n) = statement ++ semicolons (n - 1) := by
  refine ⟨?_, ?_, ?_, ?_⟩
  · intro sql statement blank h
    exact ⟨h.prepare, fun _ _ h' => h.unique h'⟩
  · intro sql undivided
    rcases separated_or_prepare_eq sql with ⟨blank, h⟩ | same
    · exact absurd h (undivided _ _)
    · exact same
  · intro sql
    rcases separated_or_prepare_eq sql with ⟨blank, h⟩ | same
    · refine ⟨";" ++ blank, by rw [← String.append_assoc]; exact h.divided, ?_⟩
      have absent : blank.toList.count ';' = 0 :=
        List.count_eq_zero.2 (not_mem_of_isBlankText h.blank)
      simp [absent]
    · exact ⟨"", by simp [same], by simp⟩
  · intro statement n some
    obtain ⟨m, rfl⟩ := Nat.exists_eq_add_of_le' some
    have h : Separated (statement ++ semicolons (m + 1)) (statement ++ semicolons m) "" :=
      ⟨by simp [semicolons_succ, String.append_assoc], rfl⟩
    exact h.prepare

/-- Of a statement with semicolons and white space of several kinds at its end the last semicolon
    is stripped; one with white space only keeps it. -/
theorem paddedStatement_exact :
    Separated "SELECT ';' ;; \u00a0;\u2003\n" "SELECT ';' ;; \u00a0" "\u2003\n" ∧
      prepare "SELECT ';' ;; \u00a0;\u2003\n" = "SELECT ';' ;; \u00a0" ∧
      (∀ statement blank, ¬ Separated "SELECT 1 \n" statement blank) ∧
      prepare "SELECT 1 \n" = "SELECT 1 \n" ∧
      prepare ("SELECT 1 " ++ semicolons 3) = "SELECT 1 " ++ semicolons 2 := by
  have h : Separated "SELECT ';' ;; \u00a0;\u2003\n" "SELECT ';' ;; \u00a0" "\u2003\n" :=
    ⟨by decide, by decide⟩
  have undivided : ∀ statement blank, ¬ Separated "SELECT 1 \n" statement blank := by
    intro statement blank h
    have member : ';' ∈ "SELECT 1 \n".toList := by
      rw [h.divided]
      simp
    exact absurd member (by decide)
  exact ⟨h, (prepare_exact.1 _ _ _ h).1, undivided, prepare_exact.2.1 _ undivided,
    prepare_exact.2.2.2 "SELECT 1 " 3 (by decide)⟩

end QueryDesk.Engine
