import Mathlib.Data.List.Nodup
import QueryDesk.Proofs.Json.Codec
import QueryDesk.Proofs.Json.Number
import QueryDesk.Proofs.Json.Writer

/-!
# Values are read back

The compact text of a value is read as that value if no object in it has two members of one name
and it does not nest deeper than a reader goes (`parse_render`).  Values with numbers are left out,
as for writing.  Whatever the value, its text has no control character, and so no line end
(`printed_of_mem_chars`).
-/

namespace QueryDesk.Json

namespace Value

/-! ## Values of trees -/

mutual

/-- Whether the members of each object in a value have different names. -/
def distinct : Value → Bool
  | .array items => itemsDistinct items
  | .object members => decide (members.map Prod.fst).Nodup && membersDistinct members
  | _ => true

/-- Whether this holds of all items of an array. -/
def itemsDistinct : List Value → Bool
  | [] => true
  | v :: rest => v.distinct && itemsDistinct rest

/-- Whether this holds of all members of an object. -/
def membersDistinct : List (String × Value) → Bool
  | [] => true
  | (_, v) :: rest => v.distinct && membersDistinct rest

end

/-- A member of a new name comes last. -/
theorem putMember_of_not_mem {key : String} {done : List (String × Value)}
    (fresh : key ∉ done.map Prod.fst) (v : Value) :
    putMember key v done = done ++ [(key, v)] := by
  induction done with
  | nil => rfl
  | cons m rest ih =>
    rw [List.map_cons, List.mem_cons, not_or] at fresh
    rw [putMember, if_neg (Ne.symm fresh.1), ih fresh.2]
    rfl

mutual

/-- A value is read from its tree. -/
theorem value?_tree (v : Value) {budget : Nat} (numberless : v.numberless = true)
    (distinct : v.distinct = true) (fits : v.tree.nesting ≤ budget) :
    v.tree.value? budget = some v :=
  match v with
  | .null => by rw [tree, Tree.value?]
  | .bool b => by rw [tree, Tree.value?]
  | .number x => by
    rw [Value.numberless] at numberless
    cases numberless
  | .string s => by rw [tree, Tree.value?, Option.map_some]
  | .array items => by
    rw [Value.numberless] at numberless
    rw [Value.distinct] at distinct
    rw [tree, Tree.nesting] at fits
    obtain ⟨budget, rfl⟩ := Nat.exists_eq_add_of_le' fits
    have read : Tree.itemValues? (budget + Tree.itemsNesting (itemTrees items)) (itemTrees items) =
        some items := itemValues?_itemTrees items numberless distinct (Nat.le_add_left _ _)
    rw [tree, ← Nat.add_assoc, Tree.value?, read]
    rfl
  | .object members => by
    rw [Value.numberless] at numberless
    rw [Value.distinct, Bool.and_eq_true, decide_eq_true_iff] at distinct
    rw [tree, Tree.nesting] at fits
    obtain ⟨budget, rfl⟩ := Nat.exists_eq_add_of_le' fits
    have read : Tree.memberValues? (budget + Tree.membersNesting (memberTrees members))
        (memberTrees members) [] = some members :=
      memberValues?_memberTrees members [] numberless distinct.2 (Nat.le_add_left _ _) distinct.1
    rw [tree, ← Nat.add_assoc, Tree.value?, read]
    rfl

theorem itemValues?_itemTrees (items : List Value) {budget : Nat}
    (numberless : itemsNumberless items = true) (distinct : itemsDistinct items = true)
    (fits : Tree.itemsNesting (itemTrees items) ≤ budget) :
    Tree.itemValues? budget (itemTrees items) = some items :=
  match items with
  | [] => by rw [itemTrees, Tree.itemValues?]
  | v :: rest => by
    rw [itemsNumberless, Bool.and_eq_true] at numberless
    rw [itemsDistinct, Bool.and_eq_true] at distinct
    rw [itemTrees, Tree.itemsNesting, Nat.max_le] at fits
    rw [itemTrees, Tree.itemValues?, value?_tree v numberless.1 distinct.1 fits.1,
      itemValues?_itemTrees rest numberless.2 distinct.2 fits.2]
    rfl

theorem memberValues?_memberTrees (members : List (String × Value)) {budget : Nat}
    (done : List (String × Value)) (numberless : membersNumberless members = true)
    (distinct : membersDistinct members = true)
    (fits : Tree.membersNesting (memberTrees members) ≤ budget)
    (fresh : ((done ++ members).map Prod.fst).Nodup) :
    Tree.memberValues? budget (memberTrees members) done = some (done ++ members) :=
  match members with
  | [] => by rw [memberTrees, Tree.memberValues?, List.append_nil]
  | (key, v) :: rest => by
    rw [membersNumberless, Bool.and_eq_true] at numberless
    rw [membersDistinct, Bool.and_eq_true] at distinct
    rw [memberTrees, Tree.membersNesting, Nat.max_le] at fits
    have unused : key ∉ done.map Prod.fst := by
      intro used
      rw [List.map_append, List.nodup_append] at fresh
      exact fresh.2.2 key used key (by simp) rfl
    have split : done ++ (key, v) :: rest = (done ++ [(key, v)]) ++ rest := by simp
    rw [split] at fresh
    rw [memberTrees, Tree.memberValues?, value?_tree v numberless.1 distinct.1 fits.1,
      Option.bind_eq_bind, Option.bind_some, putMember_of_not_mem unused,
      memberValues?_memberTrees rest _ numberless.2 distinct.2 fits.2 fresh, split]

end

/-- A value is read back from its compact text. -/
theorem parse_render {v : Value} (numberless : v.numberless = true) (distinct : v.distinct = true)
    (fits : v.tree.nesting ≤ maxNesting) : Value.parse v.render = .ok v := by
  rw [Value.parse, parse_of_isText Reader.value (isText_render v numberless), Reader.value,
    value?_tree v numberless distinct fits]

end Value

/-! ## No control characters -/

/-- A character that is no control character. -/
def Printed (c : Char) : Prop :=
  0x20 ≤ c.toNat

instance (c : Char) : Decidable (Printed c) :=
  inferInstanceAs (Decidable (0x20 ≤ c.toNat))

theorem printed_of_numeric {c : Char} (numeric : Numeric c) : Printed c := by
  rcases numeric with digit | sign
  · simp only [Char.isDigit, Bool.and_eq_true, decide_eq_true_eq] at digit
    have least : (48 : UInt32).toNat ≤ c.val.toNat := UInt32.le_iff_toNat_le.1 digit.1
    exact Nat.le_trans (by decide) least
  · simp only [List.mem_cons, List.not_mem_nil, or_false] at sign
    rcases sign with rfl | rfl | rfl | rfl <;> decide

theorem printed_of_all {s : List Char} (printed : s.all (Printed ·) = true) {c : Char}
    (member : c ∈ s) : Printed c :=
  of_decide_eq_true (List.all_eq_true.1 printed c member)

/-- Control characters are escaped. -/
theorem printed_of_mem_escapeChar {c d : Char} (member : d ∈ escapeChar c) : Printed d := by
  have escaped : ∀ n < 0x20, (escapeChar (Char.ofNat n)).all (Printed ·) = true := by decide
  by_cases control : c.toNat < 0x20
  · rw [← Char.ofNat_toNat c] at member
    exact printed_of_all (escaped c.toNat control) member
  · unfold escapeChar at member
    rw [if_neg control] at member
    by_cases quote : c = '"'
    · rw [if_pos quote, List.mem_cons, List.mem_singleton] at member
      rcases member with rfl | rfl <;> decide
    · by_cases backslash : c = '\\'
      · rw [if_neg quote, if_pos backslash, List.mem_cons, List.mem_singleton] at member
        rcases member with rfl | rfl <;> decide
      · rw [if_neg quote, if_neg backslash, List.mem_singleton] at member
        rw [member]
        exact Nat.not_lt.1 control

theorem printed_of_mem_stringChars {s : String} {c : Char} (member : c ∈ stringChars s) :
    Printed c := by
  simp only [stringChars, List.mem_cons, List.mem_append, List.not_mem_nil, or_false] at member
  rcases member with rfl | inside | rfl
  · decide
  · obtain ⟨d, -, written⟩ := List.mem_flatMap.1 inside
    exact printed_of_mem_escapeChar written
  · decide

namespace Value

mutual

/-- The compact text of a value has no control characters. -/
theorem printed_of_mem_chars (v : Value) {c : Char} (member : c ∈ v.chars) : Printed c :=
  match v with
  | .null => by
    rw [chars] at member
    exact printed_of_all (by decide) member
  | .bool true => by
    rw [chars] at member
    exact printed_of_all (by decide) member
  | .bool false => by
    rw [chars] at member
    exact printed_of_all (by decide) member
  | .number x => by
    rw [chars] at member
    exact printed_of_numeric (numeric_of_mem_chars member)
  | .string s => by
    rw [chars] at member
    exact printed_of_mem_stringChars member
  | .array items => by
    rw [chars, List.mem_cons, List.mem_append, List.mem_singleton] at member
    rcases member with rfl | inside | rfl
    · decide
    · exact printed_of_mem_itemsChars items inside
    · decide
  | .object members => by
    rw [chars, List.mem_cons, List.mem_append, List.mem_singleton] at member
    rcases member with rfl | inside | rfl
    · decide
    · exact printed_of_mem_membersChars members inside
    · decide

theorem printed_of_mem_itemsChars (items : List Value) {c : Char}
    (member : c ∈ itemsChars items) : Printed c :=
  match items with
  | [] => by
    rw [itemsChars] at member
    cases member
  | [v] => by
    rw [itemsChars] at member
    exact printed_of_mem_chars v member
  | v :: w :: rest => by
    rw [itemsChars, List.mem_append, List.mem_cons] at member
    · rcases member with first | rfl | others
      · exact printed_of_mem_chars v first
      · decide
      · exact printed_of_mem_itemsChars (w :: rest) others
    · exact List.cons_ne_nil w rest

theorem printed_of_mem_membersChars (members : List (String × Value)) {c : Char}
    (member : c ∈ membersChars members) : Printed c :=
  match members with
  | [] => by
    rw [membersChars] at member
    cases member
  | [(key, v)] => by
    rw [membersChars, List.mem_append, List.mem_cons] at member
    rcases member with name | rfl | value
    · exact printed_of_mem_stringChars name
    · decide
    · exact printed_of_mem_chars v value
  | (key, v) :: m :: rest => by
    rw [membersChars, List.mem_append, List.mem_cons, List.mem_append, List.mem_cons] at member
    · rcases member with name | rfl | value | rfl | others
      · exact printed_of_mem_stringChars name
      · decide
      · exact printed_of_mem_chars v value
      · decide
      · exact printed_of_mem_membersChars (m :: rest) others
    · exact List.cons_ne_nil m rest

end

end Value

end QueryDesk.Json
