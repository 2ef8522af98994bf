import QueryDesk.Proofs.Sql.Capture
import QueryDesk.Proofs.Sql.Flattening

/-!
# Where filters are written

A filter of any spec of a tree ends a line of the SQL: its column behind the alias that its table
was resolved to, the operator, and the literal (`compile_writes_filter`).  So the literal is all the
text between the operator and the end of the line.
-/

namespace QueryDesk.Sql

open QueryDesk.Query QueryDesk.Outcome

/-- The tokens of a condition, without what separates it from others. -/
def Condition.tokens (c : Condition) : List Token :=
  c.name.tokens ++ [.space, .operator c.comparison, .space, literalToken c.value]

/-- Nothing, or tokens that start with a new line. -/
def Breaks (ts : List Token) : Prop :=
  ∀ t, ts.head? = some t → t = .newline

/-- Tokens among which a condition ends a line. -/
def Writes (ts : List Token) (c : Condition) : Prop :=
  ∃ before after, ts = before ++ c.tokens ++ after ∧ Breaks after

theorem breaks_line (level : Nat) (ts : List Token) : Breaks (line level ++ ts) := by
  intro t first
  exact (Option.some.inj first).symm

section

variable {ts after : List Token} {c : Condition} {level : Nat} {b nested : Block}

theorem Breaks.append (here : Breaks ts) (next : Breaks after) : Breaks (ts ++ after) := by
  cases ts with
  | nil => exact next
  | cons t ts => exact here

theorem Writes.prepend (before : List Token) (h : Writes ts c) : Writes (before ++ ts) c := by
  obtain ⟨front, back, rfl, breaks⟩ := h
  refine ⟨before ++ front, back, ?_, breaks⟩
  simp only [List.append_assoc]

theorem Writes.append (h : Writes ts c) (next : Breaks after) : Writes (ts ++ after) c := by
  obtain ⟨front, back, rfl, breaks⟩ := h
  exact ⟨front, back ++ after, List.append_assoc .., breaks.append next⟩

/-! ## Conditions of a block -/

theorem conditionTokens_cons (level : Nat) (first : Bool) (c : Condition)
    (rest : List Condition) :
    conditionTokens level first (c :: rest) =
      (if first then line level ++ [.where] else []) ++ line (level + 1) ++
        (if first then [] else [.and, .space]) ++ c.tokens ++ conditionTokens level false rest := by
  simp only [conditionTokens, Condition.tokens, List.append_assoc]

theorem breaks_conditionTokens (level : Nat) (first : Bool) (conditions : List Condition) :
    Breaks (conditionTokens level first conditions) := by
  cases conditions with
  | nil =>
    intro t none
    cases none
  | cons c rest =>
    simp only [conditionTokens_cons, List.append_assoc]
    cases first with
    | true =>
      rw [if_pos rfl, List.append_assoc]
      exact breaks_line level _
    | false => exact breaks_line (level + 1) _

theorem breaks_sortTokens (level : Nat) (keys : List SortKey) :
    Breaks (sortTokens level true keys) := by
  cases keys with
  | nil =>
    intro t none
    cases none
  | cons k rest =>
    simp only [sortTokens, List.append_assoc, if_pos]
    exact breaks_line level _

theorem writes_conditionTokens {conditions : List Condition} (level : Nat) (first : Bool)
    (member : c ∈ conditions) : Writes (conditionTokens level first conditions) c := by
  induction conditions generalizing first with
  | nil => cases member
  | cons d rest ih =>
    rw [conditionTokens_cons]
    rcases List.mem_cons.1 member with rfl | later
    · exact ⟨_, _, rfl, breaks_conditionTokens level false rest⟩
    · exact (ih false later).prepend _

theorem writes_tokens (level : Nat) (member : c ∈ b.conditions) : Writes (b.tokens level) c := by
  rw [Block.tokens_eq]
  exact ((writes_conditionTokens level true member).prepend _).append
    (breaks_sortTokens level b.sortKeys)

/-! ## Conditions of nested blocks -/

/-- A line that ends inside of a derived table ends in the enclosing block. -/
theorem writes_of_derived {i : Nat} (derived : b.derived? i = some nested)
    (h : Writes (nested.tokens (level + 1)) c) : Writes (b.tokens level) c := by
  obtain ⟨clause, here, relation⟩ := Option.bind_eq_some_iff.1 derived
  have relation : clause.relation = .derived nested := by
    cases related : clause.relation with
    | table database name =>
      rw [related] at relation
      cases relation
    | derived d =>
      rw [related] at relation
      rw [Option.some.inj relation]
  have tokens : b.tokens level =
      (b.head level i ++ [.lparen] ++ line (level + 1)) ++ nested.tokens (level + 1) ++
        (line level ++ ([.rparen] ++ b.tail level i)) := by
    rw [tokens_split level here, relation, relationTokens]
    simp only [List.append_assoc]
  rw [tokens]
  exact (h.prepend _).append (breaks_line level _)

theorem writes_of_chainAt {outer outer' : List Block} {b' : Block} {path : List Nat}
    (chained : Block.chainAt outer b path = some (b' :: outer'))
    (h : Writes (b'.tokens (level + path.length)) c) : Writes (b.tokens level) c := by
  induction path generalizing level b outer with
  | nil =>
    cases chained
    exact h
  | cons i path ih =>
    obtain ⟨nested, derived, chained⟩ := Option.bind_eq_some_iff.1 chained
    rw [List.length_cons, Nat.add_comm path.length 1, ← Nat.add_assoc] at h
    exact writes_of_derived derived (ih chained h)

end

/-! ## Filters -/

/-- A text that ends a line of another. -/
def EndsLine (s text : List Char) : Prop :=
  ∃ before after, s = before ++ text ++ after ∧ ∀ c, after.head? = some c → c = '\n'

theorem endsLine_of_writes {ts : List Token} {c : Condition} (h : Writes ts c) :
    EndsLine (tokensChars ts) (tokensChars c.tokens) := by
  obtain ⟨before, after, rfl, breaks⟩ := h
  refine ⟨tokensChars before, tokensChars after, ?_, ?_⟩
  · rw [tokensChars_append, tokensChars_append]
  · intro x first
    cases after with
    | nil => cases first
    | cons t after =>
      cases breaks t rfl
      exact (Option.some.inj first).symm

/-- The text of a filter whose table was resolved to an alias, with a text for its literal. -/
def filterChars (source : String) (f : Filter) (literal : List Char) : List Char :=
  source.toList ++ '.' :: f.column.toList ++ ' ' :: f.comparison.sql.toList ++ ' ' :: literal

/-- A filter of a spec anywhere in a tree ends a line of the SQL, with its column behind the alias
    that its table was resolved to. -/
theorem compile_writes_filter {options : Options} {s : Spec} {sql : String} {path : List Nat}
    {n : Node} {f : Filter} (h : compile options s = .ok sql)
    (found : (Node.root s).at? path = some n) (member : f ∈ n.spec.filters) :
    ∃ source, resolveAlias n.scopes f.table = .ok source ∧
      EndsLine sql.toList (filterChars source f (literalToken f.value).chars) := by
  obtain ⟨root, block, rfl⟩ := compile_eq_ok.1 h
  obtain ⟨b, outer, chained, block', -⟩ := exists_chainAt block .nil found
  obtain ⟨i, at_i⟩ := List.mem_iff_getElem?.1 member
  obtain ⟨condition, there, written⟩ :=
    getElem?_of_forall₂ (blockOf_eq_ok.1 block').conditions at_i
  obtain ⟨source, resolved, written⟩ := bind_eq_ok.1 written
  refine ⟨source, resolved, ?_⟩
  have text : filterChars source f (literalToken f.value).chars =
      tokensChars condition.tokens := by
    cases written
    simp [filterChars, Condition.tokens, ColumnName.tokens, columnRef]
  have member' : condition ∈ b.conditions := List.mem_of_getElem? there
  have writes : Writes (root.tokens 0) condition :=
    writes_of_chainAt chained (writes_tokens _ member')
  rw [tokensText, String.toList_ofList, text]
  exact endsLine_of_writes writes

end QueryDesk.Sql
