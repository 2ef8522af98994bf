import QueryDesk.Generation.Output
import QueryDesk.Proofs.Json.Reading
import QueryDesk.Proofs.Json.Writer

/-!
# Which outputs are accepted

The schema that is sent along asks for an object with the one member `sql_query`, a string.  Such
texts are accepted, however they are spelled, and so are arrays with that string as their only item,
which the schema does not have (`parseOutput_eq_ok`).
-/

namespace QueryDesk.Generation

open QueryDesk.Json QueryDesk.Json.Reader QueryDesk.Text

/-- The tree of an object that has a query and nothing else. -/
def queryObject (sql : String) : Tree :=
  .object [(some "sql_query", .string (some sql))] true

/-- The tree of an array that has a query and nothing else. -/
def queryArray (sql : String) : Tree :=
  .array [.string (some sql)] true

/-- The field of the query. -/
def queryField : Reader.Field String :=
  .needed "sql_query" .text fun v _ => v

theorem find?_outputShape (key : String) :
    (outputShape.fields.find? (·.name == key)) =
      if key = "sql_query" then some queryField else none := by
  by_cases same : key = "sql_query"
  · subst same
    rfl
  · have other : (queryField.name == key) = false := by
      rw [beq_eq_false_iff_ne]
      exact Ne.symm same
    rw [if_neg same]
    exact List.find?_cons_of_neg (Bool.eq_false_iff.1 other)

/-- Once the query has been read, any other member is a fault. -/
theorem members_outputShape_again {budget : Nat} {ms : List (Option String × Tree)}
    {seen : List String} {sql sql' : String}
    (h : members outputShape budget ms ["sql_query"] sql = .ok (seen, sql')) :
    ms = [] ∧ sql' = sql := by
  cases ms with
  | nil =>
    cases h
    exact ⟨rfl, rfl⟩
  | cons m ms =>
    obtain ⟨_ | key, t⟩ := m
    · cases h
    · rw [members, find?_outputShape] at h
      by_cases same : key = "sql_query"
      · subst same
        cases h
      · rw [if_neg same] at h
        cases h

theorem members_outputShape {budget : Nat} {ms : List (Option String × Tree)} {seen : List String}
    {sql : String} (h : members outputShape budget ms [] "" = .ok (seen, sql)) :
    (ms = [] ∧ seen = []) ∨ ms = [(some "sql_query", .string (some sql))] := by
  cases ms with
  | nil =>
    cases h
    exact .inl ⟨rfl, rfl⟩
  | cons m ms =>
    obtain ⟨_ | key, t⟩ := m
    · cases h
    · rw [members, find?_outputShape] at h
      by_cases same : key = "sql_query"
      · subst same
        rw [if_pos rfl] at h
        dsimp only at h
        rw [if_neg (by decide)] at h
        have put : queryField.put budget t = (text budget t).map fun v _ => v := rfl
        cases value : text budget t with
        | error fault =>
          rw [put, value] at h
          cases h
        | ok v =>
          rw [put, value] at h
          obtain ⟨rfl, rfl⟩ := members_outputShape_again h
          rw [text_eq_ok.1 value]
          exact .inr rfl
      · rw [if_neg same] at h
        cases h

theorem positions_outputShape {budget : Nat} {ts : List Tree} {closed : Bool} {sql : String}
    (h : positions outputShape budget closed 0 outputShape.fields ts "" = .ok sql) :
    ts = [.string (some sql)] ∧ closed = true := by
  have fields : outputShape.fields = [queryField] := rfl
  cases ts with
  | nil =>
    cases closed with
    | true => cases h
    | false => cases h
  | cons t ts =>
    have put : queryField.put budget t = (text budget t).map fun v _ => v := rfl
    rw [fields, positions, put] at h
    cases value : text budget t with
    | error fault =>
      rw [value] at h
      cases h
    | ok v =>
      rw [value] at h
      cases ts with
      | cons t' ts => cases h
      | nil =>
        cases closed with
        | false => cases h
        | true =>
          cases h
          rw [text_eq_ok.1 value]
          exact ⟨rfl, rfl⟩

/-- The trees that are read as an output. -/
theorem record_outputShape {budget : Nat} {t : Tree} {sql : String} :
    record outputShape (budget + 1) t = .ok sql ↔ t = queryObject sql ∨ t = queryArray sql := by
  constructor
  · intro h
    obtain ⟨_, -, ⟨ms, seen, rfl, found, complete⟩ | ⟨ts, closed, rfl, found⟩⟩ := record_eq_ok.1 h
    · obtain ⟨rfl, rfl⟩ | rfl := members_outputShape found
      · cases complete
      · exact .inl rfl
    · obtain ⟨rfl, rfl⟩ := positions_outputShape found
      exact .inr rfl
  · rintro (rfl | rfl)
    · rfl
    · rfl

/-- A text is accepted when it spells an object with the query or an array with it, and the query
    is not blank. -/
theorem parseOutput_eq_ok {output sql : String} :
    parseOutput output = .ok sql ↔
      (IsText output (queryObject sql) ∨ IsText output (queryArray sql)) ∧
        isBlankText sql = false := by
  have accepted {read : String} : (record outputShape).parse output = .ok read ↔
      IsText output (queryObject read) ∨ IsText output (queryArray read) := by
    rw [parse_eq_ok]
    constructor
    · rintro ⟨t, text, h⟩
      rcases record_outputShape.1 h with rfl | rfl
      · exact .inl text
      · exact .inr text
    · rintro (text | text)
      · exact ⟨_, text, record_outputShape.2 (.inl rfl)⟩
      · exact ⟨_, text, record_outputShape.2 (.inr rfl)⟩
  rw [parseOutput, ← accepted]
  cases (record outputShape).parse output with
  | error fault => simp
  | ok read =>
    dsimp only
    constructor
    · intro h
      split at h
      · cases h
      · rename_i visible
        cases h
        exact ⟨rfl, Bool.not_eq_true _ ▸ visible⟩
    · rintro ⟨same, visible⟩
      cases same
      rw [visible]
      rfl

/-- An array is accepted that the schema does not have. -/
theorem query_array_accepted :
    ¬ (parseOutput "[\"SELECT 1\"]" = .ok "SELECT 1" ↔
      IsText "[\"SELECT 1\"]" (queryObject "SELECT 1") ∧ isBlankText "SELECT 1" = false) := by
  have text : IsText "[\"SELECT 1\"]" (queryArray "SELECT 1") :=
    Value.isText_render (.array [.string "SELECT 1"]) rfl
  have accepted : parseOutput "[\"SELECT 1\"]" = .ok "SELECT 1" :=
    parseOutput_eq_ok.2 ⟨.inr text, by decide⟩
  intro claim
  cases text.unique (claim.1 accepted).1

end QueryDesk.Generation
