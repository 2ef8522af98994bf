import Mathlib.Data.List.Forall2
import QueryDesk.Json.Value
import QueryDesk.Proofs.Json.Document
import QueryDesk.Proofs.Json.Denotation

/-!
# Written values

The compact text of a value says what the value is: it is a text of a tree whose leaves are those
of the value, numbers being those that their texts denote (`exists_spells_chars`).  A value without
numbers has one such tree, and its text spells it (`isText_render`).
-/

namespace QueryDesk.Json

open QueryDesk.Text

/-! ## Strings -/

theorem hexUnit?_hexDigit :
    ∀ n < 0x20,
      hexUnit? (some '0') (some '0') (some (hexDigit (n / 16))) (some (hexDigit (n % 16))) =
        some n := by
  decide

/-- A control character is written with a short escape or as a code unit. -/
theorem escapeChar_control :
    ∀ n < 0x20,
      (∃ escape ∈ shortEscapes, escape.2 = Char.ofNat n ∧
        escapeChar (Char.ofNat n) = ['\\', escape.1]) ∨
      escapeChar (Char.ofNat n) =
        ['\\', 'u', '0', '0', hexDigit (n / 16), hexDigit (n % 16)] := by
  decide

theorem joinPieces_unit {n : Nat} (basic : n < 0xD800) (ps : List Piece) :
    joinPieces (.unit n :: ps) = (joinPieces ps).map (Char.ofNat n :: ·) := by
  have high : isHighSurrogate n = false := by
    simp only [isHighSurrogate, Bool.and_eq_false_iff, decide_eq_false_iff_not]
    omega
  have low : isLowSurrogate n = false := by
    simp only [isLowSurrogate, Bool.and_eq_false_iff, decide_eq_false_iff_not]
    omega
  rw [joinPieces.eq_def]
  simp [high, low]

/-- A written character is one piece, which stands for the character. -/
theorem exists_piece (c : Char) {ps : List Piece} {s : List Char} (rest : SpellsPieces ps s) :
    ∃ p, SpellsPieces (p :: ps) (escapeChar c ++ s) ∧
      joinPieces (p :: ps) = (joinPieces ps).map (c :: ·) := by
  have short {e : Char} (escape : (e, c) ∈ shortEscapes) (written : escapeChar c = ['\\', e]) :
      ∃ p, SpellsPieces (p :: ps) (escapeChar c ++ s) ∧
        joinPieces (p :: ps) = (joinPieces ps).map (c :: ·) := by
    rw [written]
    exact ⟨.char c, .short escape rest, rfl⟩
  by_cases quote : c = '"'
  · subst quote
    exact short (e := '"') (by decide) rfl
  by_cases backslash : c = '\\'
  · subst backslash
    exact short (e := '\\') (by decide) rfl
  by_cases control : c.toNat < 0x20
  · have written := escapeChar_control c.toNat control
    rw [Char.ofNat_toNat] at written
    obtain ⟨⟨e, d⟩, escape, rfl, written⟩ | written := written
    · exact short escape written
    · have meaning := joinPieces_unit (by omega : c.toNat < 0xD800) ps
      rw [Char.ofNat_toNat] at meaning
      rw [written]
      exact ⟨.unit c.toNat, .unit (hexUnit?_hexDigit c.toNat control) rest, meaning⟩
  · rw [escapeChar, if_neg quote, if_neg backslash, if_neg control]
    exact ⟨.char c, .plain quote backslash (Nat.not_lt.1 control) rest, rfl⟩

/-- A written string stands for itself. -/
theorem spells_stringChars (s : String) : SpellsString (some s) (stringChars s) := by
  have pieces : ∀ cs : List Char, ∃ ps, SpellsPieces ps (cs.flatMap escapeChar) ∧
      joinPieces ps = some cs := by
    intro cs
    induction cs with
    | nil => exact ⟨[], .nil, rfl⟩
    | cons c cs ih =>
      obtain ⟨ps, spelled, joined⟩ := ih
      obtain ⟨p, spelled, meaning⟩ := exists_piece c spelled
      refine ⟨p :: ps, spelled, ?_⟩
      rw [meaning, joined]
      rfl
  obtain ⟨ps, spelled, joined⟩ := pieces s.toList
  refine ⟨ps, _, spelled, ?_, rfl⟩
  rw [piecesText, joined, Option.map_some, String.ofList_toList]

/-! ## What a tree says -/

/-- A tree says what a value is: their leaves are the same, and a numeral denotes the number that is
    shown in its place. -/
inductive Tree.Says : Tree → Value → Prop where
  | null : Says .null .null
  | bool (b : Bool) : Says (.bool b) (.bool b)
  | numeral {x : Numeral} {n : Number} (denoted : x.rational = n.shown) :
      Says (.numeral x) (.number n)
  | string (s : String) : Says (.string (some s)) (.string s)
  | array {ts : List Tree} {items : List Value} (each : List.Forall₂ Says ts items) :
      Says (.array ts true) (.array items)
  | object {ms : List (Option String × Tree)} {members : List (String × Value)}
      (names : ms.map Prod.fst = members.map fun m => some m.1)
      (each : List.Forall₂ Says (ms.map Prod.snd) (members.map Prod.snd)) :
      Says (.object ms true) (.object members)

/-! ## Values -/

namespace Value

mutual

/-- The syntax tree of a value without numbers. -/
def tree : Value → Tree
  | .null => .null
  | .bool b => .bool b
  | .number _ => .broken
  | .string s => .string (some s)
  | .array items => .array (itemTrees items) true
  | .object members => .object (memberTrees members) true

/-- The syntax trees of items. -/
def itemTrees : List Value → List Tree
  | [] => []
  | v :: rest => v.tree :: itemTrees rest

/-- The names and syntax trees of members. -/
def memberTrees : List (String × Value) → List (Option String × Tree)
  | [] => []
  | (name, v) :: rest => (some name, v.tree) :: memberTrees rest

end

mutual

/-- Whether no number is in a value. -/
def numberless : Value → Bool
  | .number _ => false
  | .array items => itemsNumberless items
  | .object members => membersNumberless members
  | _ => true

/-- Whether no number is in the items of an array. -/
def itemsNumberless : List Value → Bool
  | [] => true
  | v :: rest => v.numberless && itemsNumberless rest

/-- Whether no number is in the members of an object. -/
def membersNumberless : List (String × Value) → Bool
  | [] => true
  | (_, v) :: rest => v.numberless && membersNumberless rest

end

theorem itemTrees_eq (items : List Value) : itemTrees items = items.map tree := by
  induction items with
  | nil => rw [itemTrees, List.map_nil]
  | cons v rest ih => rw [itemTrees, ih, List.map_cons]

theorem itemsNumberless_iff {items : List Value} :
    itemsNumberless items = true ↔ ∀ v ∈ items, v.numberless = true := by
  induction items with
  | nil => simp [itemsNumberless]
  | cons v rest ih => rw [itemsNumberless, Bool.and_eq_true, ih, List.forall_mem_cons]

theorem padded_of {P : List Char → Prop} {s : List Char} (h : P s) : Padded P s :=
  ⟨[], s, [], layout_nil, h, layout_nil, (List.append_nil s).symm⟩

/-- Items are written as trees that spell them, one by one, are spelled. -/
theorem spellsItems_of_forall₂ {ts : List Tree} {items : List Value}
    (each : List.Forall₂ (fun t v => t.Spells v.chars) ts items) :
    Tree.SpellsItems ts (itemsChars items) := by
  induction each with
  | nil =>
    rw [Tree.SpellsItems, itemsChars]
    exact layout_nil
  | cons spelled others ih =>
    rw [Tree.spellsItems_cons]
    cases others with
    | nil =>
      rw [itemsChars]
      exact .inl ⟨rfl, padded_of spelled⟩
    | cons next rest =>
      rw [itemsChars]
      · exact .inr ⟨List.cons_ne_nil _ _, _, _, padded_of spelled, ih, rfl⟩
      · exact List.cons_ne_nil _ _

/-- Members are written as their names and trees that spell their values are spelled. -/
theorem spellsMembers_of_forall₂ {ms : List (Option String × Tree)}
    {members : List (String × Value)}
    (each : List.Forall₂ (fun m v => m.1 = some v.1 ∧ m.2.Spells v.2.chars) ms members) :
    Tree.SpellsMembers ms (membersChars members) := by
  induction each with
  | nil =>
    rw [Tree.SpellsMembers, membersChars]
    exact layout_nil
  | @cons m v _ _ spelled others ih =>
    obtain ⟨name, t⟩ := m
    obtain ⟨rfl, spelled⟩ := spelled
    have named := padded_of (spells_stringChars v.1)
    rw [Tree.spellsMembers_cons]
    cases others with
    | nil =>
      rw [membersChars]
      exact ⟨_, _, named, padded_of spelled, .inl ⟨rfl, rfl⟩⟩
    | cons next rest =>
      rw [membersChars]
      · exact ⟨_, _, named, padded_of spelled, .inr ⟨List.cons_ne_nil _ _, _, ih, rfl⟩⟩
      · exact List.cons_ne_nil _ _

mutual

/-- A value is written as its tree is spelled. -/
theorem spells_chars (v : Value) (numberless : v.numberless = true) : v.tree.Spells v.chars :=
  match v with
  | .null => by
    rw [tree, Tree.Spells, chars]
    rfl
  | .bool true => by
    rw [tree, Tree.Spells, chars]
    rfl
  | .bool false => by
    rw [tree, Tree.Spells, chars]
    rfl
  | .number x => by
    rw [Value.numberless] at numberless
    cases numberless
  | .string s => by
    rw [tree, Tree.Spells, chars]
    exact spells_stringChars s
  | .array items => by
    rw [Value.numberless] at numberless
    rw [tree, Tree.Spells, chars]
    exact ⟨rfl, _, spellsItems_of_forall₂ (forall₂_itemTrees items numberless), rfl⟩
  | .object members => by
    rw [Value.numberless] at numberless
    rw [tree, Tree.Spells, chars]
    exact ⟨rfl, _, spellsMembers_of_forall₂ (forall₂_memberTrees members numberless), rfl⟩

theorem forall₂_itemTrees (items : List Value) (numberless : itemsNumberless items = true) :
    List.Forall₂ (fun t v => t.Spells v.chars) (itemTrees items) items :=
  match items with
  | [] => by
    rw [itemTrees]
    exact .nil
  | v :: rest => by
    rw [itemsNumberless, Bool.and_eq_true] at numberless
    rw [itemTrees]
    exact .cons (spells_chars v numberless.1) (forall₂_itemTrees rest numberless.2)

theorem forall₂_memberTrees (members : List (String × Value))
    (numberless : membersNumberless members = true) :
    List.Forall₂ (fun m v => m.1 = some v.1 ∧ m.2.Spells v.2.chars) (memberTrees members)
      members :=
  match members with
  | [] => by
    rw [memberTrees]
    exact .nil
  | (name, v) :: rest => by
    rw [membersNumberless, Bool.and_eq_true] at numberless
    rw [memberTrees]
    exact .cons ⟨rfl, spells_chars v numberless.1⟩ (forall₂_memberTrees rest numberless.2)

end

theorem isText_of_spells {v : Value} {t : Tree} (spelled : t.Spells v.chars) :
    IsText v.render t := by
  rw [IsText, render, String.toList_ofList]
  exact padded_of spelled

/-- The compact text of a value is a text of its tree. -/
theorem isText_render (v : Value) (numberless : v.numberless = true) : IsText v.render v.tree :=
  isText_of_spells (spells_chars v numberless)

/-- The compact text of an object is a text of its members' trees. -/
theorem isText_render_object {ms : List (Option String × Tree)} {members : List (String × Value)}
    (each : List.Forall₂ (fun m v => m.1 = some v.1 ∧ m.2.Spells v.2.chars) ms members) :
    IsText (object members).render (.object ms true) := by
  apply isText_of_spells
  rw [Tree.Spells, chars]
  exact ⟨rfl, _, spellsMembers_of_forall₂ each, rfl⟩

mutual

/-- A value is written as a tree is spelled that says what the value is. -/
theorem exists_spells_chars (v : Value) : ∃ t : Tree, t.Spells v.chars ∧ t.Says v :=
  match v with
  | .null => ⟨.null, by rw [Tree.Spells, chars]; rfl, .null⟩
  | .bool true => ⟨.bool true, by rw [Tree.Spells, chars]; rfl, .bool true⟩
  | .bool false => ⟨.bool false, by rw [Tree.Spells, chars]; rfl, .bool false⟩
  | .number n => by
    obtain ⟨x, spelled, denoted⟩ := denotes_chars n
    refine ⟨.numeral x, ?_, .numeral denoted⟩
    rwa [Tree.Spells, chars]
  | .string s => by
    refine ⟨.string (some s), ?_, .string s⟩
    rw [Tree.Spells, chars]
    exact spells_stringChars s
  | .array items => by
    obtain ⟨ts, spelled, meant⟩ := exists_forall₂_items items
    refine ⟨.array ts true, ?_, .array meant⟩
    rw [Tree.Spells, chars]
    exact ⟨rfl, _, spellsItems_of_forall₂ spelled, rfl⟩
  | .object members => by
    obtain ⟨ms, spelled, names, meant⟩ := exists_forall₂_members members
    refine ⟨.object ms true, ?_, .object names meant⟩
    rw [Tree.Spells, chars]
    exact ⟨rfl, _, spellsMembers_of_forall₂ spelled, rfl⟩

theorem exists_forall₂_items (items : List Value) :
    ∃ ts, List.Forall₂ (fun t v => t.Spells v.chars) ts items ∧
      List.Forall₂ Tree.Says ts items :=
  match items with
  | [] => ⟨[], .nil, .nil⟩
  | v :: rest => by
    obtain ⟨t, spelled, meant⟩ := exists_spells_chars v
    obtain ⟨ts, others, more⟩ := exists_forall₂_items rest
    exact ⟨t :: ts, .cons spelled others, .cons meant more⟩

theorem exists_forall₂_members (members : List (String × Value)) :
    ∃ ms : List (Option String × Tree),
      List.Forall₂ (fun m v => m.1 = some v.1 ∧ m.2.Spells v.2.chars) ms members ∧
      (ms.map Prod.fst = members.map fun m => some m.1) ∧
      List.Forall₂ Tree.Says (ms.map Prod.snd) (members.map Prod.snd) :=
  match members with
  | [] => ⟨[], .nil, rfl, .nil⟩
  | (name, v) :: rest => by
    obtain ⟨t, spelled, meant⟩ := exists_spells_chars v
    obtain ⟨ms, others, names, more⟩ := exists_forall₂_members rest
    exact ⟨(some name, t) :: ms, .cons ⟨rfl, spelled⟩ others,
      congrArg (some name :: ·) names, .cons meant more⟩

end

end Value

end QueryDesk.Json
