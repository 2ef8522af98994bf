import QueryDesk.Proofs.Json.Lexemes

/-!
# The syntax tree of a text

`Document.parse` finds a tree, with nothing but white space behind it, exactly in the texts that the
grammar has for the tree (`parse_eq_iff`).
-/

namespace QueryDesk.Json

open QueryDesk.Text

/-! ## The grammar of lists -/

namespace Tree

theorem spellsItems_cons {t : Tree} {rest : List Tree} {s : List Char} :
    SpellsItems (t :: rest) s ↔
      (rest = [] ∧ Padded t.Spells s) ∨
        rest ≠ [] ∧ ∃ first others, Padded t.Spells first ∧ SpellsItems rest others ∧
          s = first ++ ',' :: others := by
  cases rest with
  | nil => simp [SpellsItems]
  | cons t' rest => simp [SpellsItems]

theorem spellsMembers_cons {key : Option String} {t : Tree} {rest : List (Option String × Tree)}
    {s : List Char} :
    SpellsMembers ((key, t) :: rest) s ↔
      ∃ name value, Padded (SpellsString key) name ∧ Padded t.Spells value ∧
        ((rest = [] ∧ s = name ++ ':' :: value) ∨
          rest ≠ [] ∧ ∃ others, SpellsMembers rest others ∧
            s = name ++ ':' :: (value ++ ',' :: others)) := by
  cases rest with
  | nil => simp [SpellsMembers]
  | cons m rest =>
    simp only [SpellsMembers, reduceCtorEq, false_and, false_or, ne_eq, not_false_eq_true, true_and]
    constructor
    · rintro ⟨name, value, others, names, values, members, rfl⟩
      exact ⟨name, value, names, values, others, members, rfl⟩
    · rintro ⟨name, value, names, values, others, members, rfl⟩
      exact ⟨name, value, others, names, values, members, rfl⟩

end Tree

theorem not_space_of_isDigit {c : Char} (digit : isDigit c = true) : isSpace (some c) = false := by
  rw [Bool.eq_false_iff, ne_eq, isSpace_iff]
  intro member
  simp only [List.mem_cons, List.not_mem_nil, or_false] at member
  rcases member with rfl | rfl | rfl | rfl
  all_goals cases digit

/-- A value starts with a character that is not white space and ends no array. -/
theorem exists_head {t : Tree} {v : List Char} (spelled : t.Spells v) :
    ∃ c s, v = c :: s ∧ isSpace (some c) = false ∧ c ≠ ']' := by
  cases t with
  | null =>
    rw [Tree.Spells] at spelled
    exact ⟨_, _, spelled, by decide, by decide⟩
  | bool b =>
    cases b with
    | true =>
      rw [Tree.Spells] at spelled
      exact ⟨_, _, spelled, by decide, by decide⟩
    | false =>
      rw [Tree.Spells] at spelled
      exact ⟨_, _, spelled, by decide, by decide⟩
  | numeral x =>
    rw [Tree.Spells] at spelled
    obtain ⟨fraction, exponent, ⟨⟨nonempty, digits⟩, -⟩, -, -, rfl⟩ := spelled
    cases x.negative with
    | true => exact ⟨_, _, rfl, by decide, by decide⟩
    | false =>
      cases whole : x.whole with
      | nil => exact absurd whole nonempty
      | cons d ds =>
        rw [whole] at digits
        have digit := digits d (List.mem_cons_self ..)
        refine ⟨d, _, rfl, not_space_of_isDigit digit, ?_⟩
        rintro rfl
        cases digit
  | string value =>
    rw [Tree.Spells] at spelled
    obtain ⟨ps, body, -, -, rfl⟩ := spelled
    exact ⟨_, _, rfl, by decide, by decide⟩
  | array items closed =>
    rw [Tree.Spells] at spelled
    obtain ⟨-, body, -, rfl⟩ := spelled
    exact ⟨_, _, rfl, by decide, by decide⟩
  | object members closed =>
    rw [Tree.Spells] at spelled
    obtain ⟨-, body, -, rfl⟩ := spelled
    exact ⟨_, _, rfl, by decide, by decide⟩
  | broken =>
    rw [Tree.Spells] at spelled
    exact spelled.elim

/-! ## Reading back -/

/-- A tree that is read back from each of its texts.  The text bounds the fuel. -/
def ReadsBack (t : Tree) : Prop :=
  ∀ v rest fuel, t.Spells v → EndsNumeral rest → 2 * v.length ≤ fuel + 1 →
    scanValue fuel (v.map some ++ rest) = (t, some rest)

theorem ends_layout {w : List Char} {rest : List Symbol} (layout : Layout w)
    (ends : EndsNumeral rest) : EndsNumeral (w.map some ++ rest) := by
  cases w with
  | nil => exact ends
  | cons c w =>
    have space := layout c (List.mem_cons_self ..)
    simp only [List.mem_cons, List.not_mem_nil, or_false] at space
    rcases space with rfl | rfl | rfl | rfl
    all_goals exact ends_cons.2 (by decide)

theorem scanValue_layout {w : List Char} (layout : Layout w) (fuel : Nat) (s : List Symbol) :
    scanValue fuel (w.map some ++ s) = scanValue fuel s := by
  cases fuel with
  | zero => rfl
  | succ fuel => rw [scanValue, scanValue, skipSpace_layout layout]

theorem ReadsBack.padded {t : Tree} (back : ReadsBack t) {s : List Char} {rest : List Symbol}
    {fuel : Nat} (padded : Padded t.Spells s) (ends : EndsNumeral rest)
    (enough : 2 * s.length ≤ fuel + 1) :
    ∃ rest', scanValue fuel (s.map some ++ rest) = (t, some rest') ∧
      skipSpace rest' = skipSpace rest := by
  obtain ⟨w, v, w', layout, spelled, layout', rfl⟩ := padded
  simp only [List.length_append] at enough
  refine ⟨w'.map some ++ rest, ?_, skipSpace_layout layout'⟩
  rw [List.map_append, List.map_append, List.append_assoc, List.append_assoc,
    scanValue_layout layout]
  exact back v _ fuel spelled (ends_layout layout' ends) (by omega)

/-! ### Lists -/

section

variable {fuel : Nat} {s rest rest' : List Symbol} {t : Tree}

theorem scanItems_skipSpace (fuel : Nat) (s : List Symbol) :
    scanItems fuel (skipSpace s) = scanItems fuel s := by
  cases fuel with
  | zero => rfl
  | succ fuel =>
    have value : scanValue fuel (skipSpace s) = scanValue fuel s := by
      cases fuel with
      | zero => rfl
      | succ fuel => rw [scanValue, scanValue, skipSpace_skipSpace]
    rw [scanItems, scanItems, value]

theorem scanItems_last (value : scanValue fuel s = (t, some rest))
    (closing : skipSpace rest = some ']' :: rest') :
    scanItems (fuel + 1) s = ([t], true, some rest') := by
  rw [scanItems, value]
  simp [closing]

theorem scanItems_more {c : Char} {next final : List Symbol} {items : List Tree}
    (value : scanValue fuel s = (t, some rest)) (comma : skipSpace rest = some ',' :: rest')
    (further : skipSpace rest' = some c :: next) (notEnd : c ≠ ']')
    (others : scanItems fuel rest' = (items, true, some final)) :
    scanItems (fuel + 1) s = (t :: items, true, some final) := by
  rw [← scanItems_skipSpace, further] at others
  rw [scanItems, value]
  simp [comma, further, notEnd, others]

theorem scanMembers_skipSpace (fuel : Nat) (s : List Symbol) :
    scanMembers fuel (skipSpace s) = scanMembers fuel s := by
  cases fuel with
  | zero => rfl
  | succ fuel => rw [scanMembers, scanMembers, skipSpace_skipSpace]

variable {body after inner : List Symbol} {ps : List Piece}

theorem scanMembers_last (opening : skipSpace s = some '"' :: body)
    (name : scanString body = some (ps, after)) (colon : skipSpace after = some ':' :: inner)
    (value : scanValue fuel inner = (t, some rest))
    (closing : skipSpace rest = some '\x7d' :: rest') :
    scanMembers (fuel + 1) s = ([(piecesText ps, t)], true, some rest') := by
  rw [scanMembers, opening]
  simp [name, colon, value, closing]

theorem scanMembers_more {members : List (Option String × Tree)} {final : List Symbol}
    (opening : skipSpace s = some '"' :: body)
    (name : scanString body = some (ps, after)) (colon : skipSpace after = some ':' :: inner)
    (value : scanValue fuel inner = (t, some rest))
    (comma : skipSpace rest = some ',' :: rest')
    (others : scanMembers fuel rest' = (members, true, some final)) :
    scanMembers (fuel + 1) s = ((piecesText ps, t) :: members, true, some final) := by
  rw [scanMembers, opening]
  simp [name, colon, value, comma, others]

end

theorem padded_head {t : Tree} {s : List Char} (padded : Padded t.Spells s) (rest : List Symbol) :
    ∃ c rest', skipSpace (s.map some ++ rest) = some c :: rest' ∧ c ≠ ']' := by
  obtain ⟨w, v, w', layout, spelled, -, rfl⟩ := padded
  obtain ⟨c, v, rfl, visible, notEnd⟩ := exists_head spelled
  refine ⟨c, (v ++ w').map some ++ rest, ?_, notEnd⟩
  rw [List.map_append, List.append_assoc, skipSpace_layout layout, List.cons_append, List.map_cons,
    List.cons_append, skipSpace_cons visible]

theorem items_head {items : List Tree} {body : List Char} (nonempty : items ≠ [])
    (spelled : Tree.SpellsItems items body) (rest : List Symbol) :
    ∃ c rest', skipSpace (body.map some ++ rest) = some c :: rest' ∧ c ≠ ']' := by
  cases items with
  | nil => exact absurd rfl nonempty
  | cons t items =>
    rcases Tree.spellsItems_cons.1 spelled with ⟨-, padded⟩ | ⟨-, first, others, padded, -, rfl⟩
    · exact padded_head padded rest
    · rw [List.map_append, List.append_assoc]
      exact padded_head padded _

/-- Items are read back, up to the bracket behind them. -/
theorem scanItems_of_spells {items : List Tree} (back : ∀ t ∈ items, ReadsBack t)
    (nonempty : items ≠ []) {body : List Char} (rest : List Symbol) {fuel : Nat}
    (spelled : Tree.SpellsItems items body) (enough : 2 * body.length ≤ fuel) :
    scanItems fuel (body.map some ++ some ']' :: rest) = (items, true, some rest) := by
  induction items generalizing body fuel with
  | nil => exact absurd rfl nonempty
  | cons t items ih =>
    rw [List.forall_mem_cons] at back
    cases fuel with
    | zero =>
      obtain ⟨c, rest', visible, -⟩ := items_head nonempty spelled []
      rw [List.eq_nil_of_length_eq_zero (by omega : body.length = 0)] at visible
      cases visible
    | succ fuel =>
      rcases Tree.spellsItems_cons.1 spelled with
        ⟨rfl, padded⟩ | ⟨further, first, others, padded, spelled', rfl⟩
      · have ends : EndsNumeral (some ']' :: rest) := ends_cons.2 (by decide)
        obtain ⟨rest', value, skipped⟩ := back.1.padded padded ends enough
        rw [skipSpace_cons (by decide)] at skipped
        exact scanItems_last value skipped
      · rw [List.length_append, List.length_cons] at enough
        have ends : EndsNumeral (some ',' :: (others.map some ++ some ']' :: rest)) :=
          ends_cons.2 (by decide)
        have shorter : 2 * first.length ≤ fuel + 1 := by omega
        have shorter' : 2 * others.length ≤ fuel := by omega
        obtain ⟨rest', value, skipped⟩ := back.1.padded padded ends shorter
        rw [skipSpace_cons (by decide)] at skipped
        obtain ⟨c, next, visible, notEnd⟩ := items_head further spelled' (some ']' :: rest)
        have others := ih back.2 further spelled' shorter'
        rw [List.map_append, List.append_assoc]
        exact scanItems_more value skipped visible notEnd others

/-- The name of a member is read back, up to what stands behind it. -/
theorem scanString_of_padded {key : Option String} {name : List Char}
    (named : Padded (SpellsString key) name) (rest : List Symbol) :
    ∃ ps body after, piecesText ps = key ∧ skipSpace (name.map some ++ rest) = some '"' :: body ∧
      scanString body = some (ps, after) ∧ skipSpace after = skipSpace rest := by
  obtain ⟨w, _, w', layout, ⟨ps, quoted, pieces, meaning, rfl⟩, layout', rfl⟩ := named
  refine ⟨ps, _, w'.map some ++ rest, meaning, ?_, scanString_of_spells _ pieces,
    skipSpace_layout layout'⟩
  rw [List.map_append, List.append_assoc, skipSpace_layout layout]
  simp only [List.cons_append, List.map_cons, List.map_append, List.append_assoc, List.nil_append]
  rw [skipSpace_cons (by decide)]

/-- Members are read back, up to the brace behind them. -/
theorem scanMembers_of_spells {members : List (Option String × Tree)}
    (back : ∀ m ∈ members, ReadsBack m.2) (nonempty : members ≠ []) {body : List Char}
    (rest : List Symbol) {fuel : Nat} (spelled : Tree.SpellsMembers members body)
    (enough : 2 * body.length ≤ fuel) :
    scanMembers fuel (body.map some ++ some '\x7d' :: rest) = (members, true, some rest) := by
  induction members generalizing body fuel with
  | nil => exact absurd rfl nonempty
  | cons m members ih =>
    obtain ⟨key, t⟩ := m
    rw [List.forall_mem_cons] at back
    obtain ⟨name, value, named, padded, spelled⟩ := Tree.spellsMembers_cons.1 spelled
    cases fuel with
    | zero =>
      have positive : body ≠ [] := by
        rcases spelled with ⟨-, rfl⟩ | ⟨-, others, -, rfl⟩
        · simp
        · simp
      exact absurd (List.eq_nil_of_length_eq_zero (by omega)) positive
    | succ fuel =>
      rcases spelled with ⟨rfl, rfl⟩ | ⟨further, others, spelled', rfl⟩
      · rw [List.length_append, List.length_cons] at enough
        have ends : EndsNumeral (some '\x7d' :: rest) := ends_cons.2 (by decide)
        have shorter : 2 * value.length ≤ fuel + 1 := by omega
        obtain ⟨rest', found, skipped⟩ := back.1.padded padded ends shorter
        rw [skipSpace_cons (by decide)] at skipped
        obtain ⟨ps, body, after, rfl, opening, pieces, colon⟩ :=
          scanString_of_padded named (some ':' :: (value.map some ++ some '\x7d' :: rest))
        rw [skipSpace_cons (by decide)] at colon
        rw [List.map_append, List.append_assoc]
        exact scanMembers_last opening pieces colon found skipped
      · simp only [List.length_append, List.length_cons] at enough
        have ends : EndsNumeral (some ',' :: (others.map some ++ some '\x7d' :: rest)) :=
          ends_cons.2 (by decide)
        have shorter : 2 * value.length ≤ fuel + 1 := by omega
        have shorter' : 2 * others.length ≤ fuel := by omega
        obtain ⟨rest', found, skipped⟩ := back.1.padded padded ends shorter
        rw [skipSpace_cons (by decide)] at skipped
        obtain ⟨ps, body, after, rfl, opening, pieces, colon⟩ := scanString_of_padded named
          (some ':' :: (value.map some ++ some ',' :: (others.map some ++ some '\x7d' :: rest)))
        rw [skipSpace_cons (by decide)] at colon
        have text : (name ++ ':' :: (value ++ ',' :: others)).map some ++ some '\x7d' :: rest =
            name.map some ++ some ':' ::
              (value.map some ++ some ',' :: (others.map some ++ some '\x7d' :: rest)) := by
          simp
        rw [text]
        exact scanMembers_more opening pieces colon found skipped
          (ih back.2 further spelled' shorter')

/-! ### Values -/

theorem readsBack_array {items : List Tree} (closed : Bool) (back : ∀ t ∈ items, ReadsBack t) :
    ReadsBack (.array items closed) := by
  intro v rest fuel spelled ends enough
  rw [Tree.Spells] at spelled
  obtain ⟨rfl, body, spelled, rfl⟩ := spelled
  have text : ('[' :: (body ++ [']'])).map some ++ rest =
      some '[' :: (body.map some ++ some ']' :: rest) := by simp
  simp only [List.length_cons, List.length_append, List.length_nil] at enough
  obtain ⟨fuel, rfl⟩ : ∃ n, fuel = n + 1 := ⟨fuel - 1, by omega⟩
  rw [text, scanValue, skipSpace_cons (by decide)]
  cases items with
  | nil =>
    rw [Tree.SpellsItems] at spelled
    have closing : skipSpace (body.map some ++ some ']' :: rest) = some ']' :: rest := by
      rw [skipSpace_layout spelled, skipSpace_cons (by decide)]
    simp [closing]
  | cons t items =>
    have further : t :: items ≠ [] := List.cons_ne_nil t items
    obtain ⟨c, next, visible, notEnd⟩ := items_head further spelled (some ']' :: rest)
    have shorter : 2 * body.length ≤ fuel := by omega
    have found := scanItems_of_spells back further rest spelled shorter
    rw [← scanItems_skipSpace, visible] at found
    simp [visible, notEnd, found]

theorem members_head {members : List (Option String × Tree)} {body : List Char}
    (nonempty : members ≠ []) (spelled : Tree.SpellsMembers members body) (rest : List Symbol) :
    ∃ next, skipSpace (body.map some ++ rest) = some '"' :: next := by
  cases members with
  | nil => exact absurd rfl nonempty
  | cons m members =>
    obtain ⟨name, value, named, -, spelled⟩ := Tree.spellsMembers_cons.1 spelled
    obtain ⟨after, rfl⟩ : ∃ after, body = name ++ after := by
      rcases spelled with ⟨-, rfl⟩ | ⟨-, others, -, rfl⟩
      · exact ⟨_, rfl⟩
      · exact ⟨_, rfl⟩
    rw [List.map_append, List.append_assoc]
    obtain ⟨_, next, -, -, opening, -⟩ := scanString_of_padded named (after.map some ++ rest)
    exact ⟨next, opening⟩

/-- An object is read back whatever follows it: its brace ends it. -/
theorem scanValue_object {members : List (Option String × Tree)} {closed : Bool}
    (back : ∀ m ∈ members, ReadsBack m.2) {v : List Char} (rest : List Symbol) {fuel : Nat}
    (spelled : (Tree.object members closed).Spells v) (enough : 2 * v.length ≤ fuel + 1) :
    scanValue fuel (v.map some ++ rest) = (.object members closed, some rest) := by
  rw [Tree.Spells] at spelled
  obtain ⟨rfl, body, spelled, rfl⟩ := spelled
  have text : ('\x7b' :: (body ++ ['\x7d'])).map some ++ rest =
      some '\x7b' :: (body.map some ++ some '\x7d' :: rest) := by simp
  simp only [List.length_cons, List.length_append, List.length_nil] at enough
  obtain ⟨fuel, rfl⟩ : ∃ n, fuel = n + 1 := ⟨fuel - 1, by omega⟩
  rw [text, scanValue, skipSpace_cons (by decide)]
  cases members with
  | nil =>
    rw [Tree.SpellsMembers] at spelled
    have closing : skipSpace (body.map some ++ some '\x7d' :: rest) = some '\x7d' :: rest := by
      rw [skipSpace_layout spelled, skipSpace_cons (by decide)]
    simp [closing]
  | cons m members =>
    have further : m :: members ≠ [] := List.cons_ne_nil m members
    have shorter : 2 * body.length ≤ fuel := by omega
    obtain ⟨next, visible⟩ := members_head further spelled (some '\x7d' :: rest)
    have found := scanMembers_of_spells back further rest spelled shorter
    rw [← scanMembers_skipSpace, visible] at found
    simp [visible, found]

theorem readsBack_object {members : List (Option String × Tree)} (closed : Bool)
    (back : ∀ m ∈ members, ReadsBack m.2) : ReadsBack (.object members closed) := by
  intro v rest fuel spelled _ enough
  exact scanValue_object back rest spelled enough

theorem readsBack_string (value : Option String) : ReadsBack (.string value) := by
  intro v rest fuel spelled ends enough
  rw [Tree.Spells] at spelled
  obtain ⟨ps, body, pieces, rfl, rfl⟩ := spelled
  have text : ('"' :: (body ++ ['"'])).map some ++ rest =
      some '"' :: (body.map some ++ some '"' :: rest) := by simp
  simp only [List.length_cons, List.length_append, List.length_nil] at enough
  obtain ⟨fuel, rfl⟩ : ∃ n, fuel = n + 1 := ⟨fuel - 1, by omega⟩
  rw [text, scanValue, skipSpace_cons (by decide)]
  simp [scanText, scanString_of_spells rest pieces]

theorem readsBack_numeral (x : Numeral) : ReadsBack (.numeral x) := by
  intro v rest fuel spelled ends enough
  rw [Tree.Spells] at spelled
  have head : ∃ c s, v = c :: s ∧ (c = '-' ∨ isDigit c = true) := by
    obtain ⟨fraction, exponent, ⟨⟨nonempty, digits⟩, -⟩, -, -, rfl⟩ := spelled
    cases x.negative with
    | true => exact ⟨_, _, rfl, .inl rfl⟩
    | false =>
      cases whole : x.whole with
      | nil => exact absurd whole nonempty
      | cons d ds =>
        rw [whole] at digits
        exact ⟨d, _, rfl, .inr (digits d (List.mem_cons_self ..))⟩
  obtain ⟨c, s, rfl, first⟩ := head
  have others : c ∉ [' ', '\t', '\n', '\r', '"', '[', '\x7b', 'n', 't', 'f'] := by
    rcases first with rfl | digit
    · decide
    · intro member
      simp only [List.mem_cons, List.not_mem_nil, or_false] at member
      rcases member with rfl | rfl | rfl | rfl | rfl | rfl | rfl | rfl | rfl | rfl
      all_goals cases digit
  simp only [List.mem_cons, List.not_mem_nil, or_false, not_or] at others
  have visible : isSpace (some c) = false := by
    rw [Bool.eq_false_iff, ne_eq, isSpace_iff]
    simp [others]
  have found := scanNumeral_of_spells spelled ends
  rw [List.length_cons] at enough
  obtain ⟨fuel, rfl⟩ : ∃ n, fuel = n + 1 := ⟨fuel - 1, by omega⟩
  rw [List.map_cons, List.cons_append] at found ⊢
  rw [scanValue, skipSpace_cons visible]
  simp [others, scanNumber, found]

theorem expectChars_append (word : List Char) (rest : List Symbol) :
    expectChars word (word.map some ++ rest) = some rest := by
  induction word with
  | nil => rfl
  | cons c word ih =>
    rw [List.map_cons, List.cons_append, expectChars, if_pos rfl]
    exact ih

theorem readsBack_word {t : Tree} (c : Char) (word : List Char)
    (spells : ∀ v, t.Spells v → v = c :: word)
    (scans : ∀ fuel rest, scanValue (fuel + 1) (some c :: rest) = scanWord word t rest) :
    ReadsBack t := by
  intro v rest fuel spelled ends enough
  obtain rfl := spells v spelled
  rw [List.length_cons] at enough
  obtain ⟨fuel, rfl⟩ : ∃ n, fuel = n + 1 := ⟨fuel - 1, by omega⟩
  rw [List.map_cons, List.cons_append, scans, scanWord, expectChars_append]

theorem readsBack_null : ReadsBack .null := by
  refine readsBack_word 'n' ['u', 'l', 'l'] ?_ ?_
  · intro v spelled
    rw [Tree.Spells] at spelled
    exact spelled
  · intro fuel rest
    rw [scanValue, skipSpace_cons (by decide)]
    rfl

theorem readsBack_bool (b : Bool) : ReadsBack (.bool b) := by
  cases b with
  | true =>
    refine readsBack_word 't' ['r', 'u', 'e'] ?_ ?_
    · intro v spelled
      rw [Tree.Spells] at spelled
      exact spelled
    · intro fuel rest
      rw [scanValue, skipSpace_cons (by decide)]
      rfl
  | false =>
    refine readsBack_word 'f' ['a', 'l', 's', 'e'] ?_ ?_
    · intro v spelled
      rw [Tree.Spells] at spelled
      exact spelled
    · intro fuel rest
      rw [scanValue, skipSpace_cons (by decide)]
      rfl

mutual

/-- Every tree is read back from each of its texts. -/
theorem readsBack (t : Tree) : ReadsBack t :=
  match t with
  | .null => readsBack_null
  | .bool b => readsBack_bool b
  | .numeral x => readsBack_numeral x
  | .string value => readsBack_string value
  | .array items closed => readsBack_array closed (readsBack_items items)
  | .object members closed => readsBack_object closed (readsBack_members members)
  | .broken => by
    intro v rest fuel spelled
    rw [Tree.Spells] at spelled
    exact spelled.elim

theorem readsBack_items (items : List Tree) : ∀ t ∈ items, ReadsBack t :=
  match items with
  | [] => List.forall_mem_nil _
  | t :: rest => List.forall_mem_cons.2 ⟨readsBack t, readsBack_items rest⟩

theorem readsBack_members (members : List (Option String × Tree)) :
    ∀ m ∈ members, ReadsBack m.2 :=
  match members with
  | [] => List.forall_mem_nil _
  | (_, t) :: rest => List.forall_mem_cons.2 ⟨readsBack t, readsBack_members rest⟩

end

/-! ## What is read is spelled -/

/-- With this much fuel, what stands before the text that is left is spelled by the tree. -/
def Sound (fuel : Nat) : Prop :=
  ∀ s t rest, scanValue fuel (s.map some) = (t, some rest) →
    ∃ w v r, Layout w ∧ t.Spells v ∧ rest = r.map some ∧ s = w ++ (v ++ r)

theorem Sound.padded {fuel : Nat} (sound : Sound fuel) {s : List Char} {t : Tree}
    {rest rest' : List Symbol} {c : Char}
    (value : scanValue fuel (s.map some) = (t, some rest))
    (next : skipSpace rest = some c :: rest') :
    ∃ v r, Padded t.Spells v ∧ rest' = r.map some ∧ s = v ++ c :: r := by
  obtain ⟨w, v, r, layout, spelled, rfl, rfl⟩ := sound s t rest value
  obtain ⟨w', r, layout', rfl, rfl⟩ := exists_layout_of_cons next
  exact ⟨w ++ (v ++ w'), r, ⟨w, v, w', layout, spelled, layout', rfl⟩, rfl, by simp⟩

theorem spells_of_scanItems {fuel : Nat} (sound : ∀ n < fuel, Sound n) {s : List Char}
    {items : List Tree} {closed : Bool} {rest : List Symbol}
    (h : scanItems fuel (s.map some) = (items, closed, some rest)) :
    closed = true ∧ items ≠ [] ∧
      ∃ body r, Tree.SpellsItems items body ∧ rest = r.map some ∧ s = body ++ ']' :: r := by
  induction fuel generalizing s items with
  | zero => cases h
  | succ fuel ih =>
    have sound' := sound fuel (Nat.lt_succ_self fuel)
    rw [scanItems] at h
    split at h
    · cases h
    rename_i t rest' value
    split at h
    · rename_i closing
      cases h
      obtain ⟨v, r, padded, rfl, rfl⟩ := sound'.padded value closing
      exact ⟨rfl, List.cons_ne_nil t [], v, r, Tree.spellsItems_cons.2 (.inl ⟨rfl, padded⟩), rfl,
        rfl⟩
    · rename_i rest'' comma
      split at h
      · cases h
      rename_i further
      obtain ⟨v, r, padded, rfl, rfl⟩ := sound'.padded value comma
      dsimp only at h
      generalize others : scanItems fuel (skipSpace (r.map some)) = result at h
      obtain ⟨items', closed', final⟩ := result
      cases h
      rw [scanItems_skipSpace] at others
      obtain ⟨rfl, nonempty, body, r', spelled, rfl, rfl⟩ :=
        ih (fun n below => sound n (by omega)) others
      exact ⟨rfl, List.cons_ne_nil t items', v ++ ',' :: body, r',
        Tree.spellsItems_cons.2 (.inr ⟨nonempty, v, body, padded, spelled, rfl⟩), rfl, by simp⟩
    · cases h

theorem padded_of_scanString {s : List Char} {body after inner : List Symbol} {ps : List Piece}
    (opening : skipSpace (s.map some) = some '"' :: body)
    (name : scanString body = some (ps, after)) (colon : skipSpace after = some ':' :: inner) :
    ∃ v r, Padded (SpellsString (piecesText ps)) v ∧ inner = r.map some ∧ s = v ++ ':' :: r := by
  obtain ⟨w, r, layout, rfl, rfl⟩ := exists_layout_of_cons opening
  obtain ⟨quoted, r, pieces, rfl, rfl⟩ := spells_of_scanString name
  obtain ⟨w', r, layout', rfl, rfl⟩ := exists_layout_of_cons colon
  exact ⟨w ++ ('"' :: (quoted ++ ['"']) ++ w'), r,
    ⟨w, _, w', layout, ⟨ps, quoted, pieces, rfl, rfl⟩, layout', rfl⟩, rfl, by simp⟩

theorem spells_of_scanMembers {fuel : Nat} (sound : ∀ n < fuel, Sound n) {s : List Char}
    {members : List (Option String × Tree)} {closed : Bool} {rest : List Symbol}
    (h : scanMembers fuel (s.map some) = (members, closed, some rest)) :
    closed = true ∧ members ≠ [] ∧
      ∃ body r, Tree.SpellsMembers members body ∧ rest = r.map some ∧ s = body ++ '\x7d' :: r := by
  induction fuel generalizing s members with
  | zero => cases h
  | succ fuel ih =>
    have sound' := sound fuel (Nat.lt_succ_self fuel)
    rw [scanMembers] at h
    split at h
    · rename_i body opening
      split at h
      · cases h
      rename_i ps after name
      dsimp only at h
      split at h
      · rename_i inner colon
        obtain ⟨u, r, named, rfl, rfl⟩ := padded_of_scanString opening name colon
        split at h
        · cases h
        rename_i t rest' value
        split at h
        · rename_i closing
          cases h
          obtain ⟨v, r, padded, rfl, rfl⟩ := sound'.padded value closing
          refine ⟨rfl, List.cons_ne_nil _ [], u ++ ':' :: v, r, ?_, rfl, by simp⟩
          exact Tree.spellsMembers_cons.2 ⟨u, v, named, padded, .inl ⟨rfl, rfl⟩⟩
        · rename_i rest'' comma
          obtain ⟨v, r, padded, rfl, rfl⟩ := sound'.padded value comma
          generalize others : scanMembers fuel (r.map some) = result at h
          obtain ⟨members', closed', final⟩ := result
          cases h
          obtain ⟨rfl, nonempty, body', r', spelled, rfl, rfl⟩ :=
            ih (fun n below => sound n (by omega)) others
          refine ⟨rfl, List.cons_ne_nil _ members', u ++ ':' :: (v ++ ',' :: body'), r', ?_, rfl,
            by simp⟩
          exact Tree.spellsMembers_cons.2
            ⟨u, v, named, padded, .inr ⟨nonempty, body', spelled, rfl⟩⟩
        · cases h
      · cases h
    · cases h

theorem eq_append_of_expectChars {word s : List Char} {rest : List Symbol}
    (h : expectChars word (s.map some) = some rest) :
    ∃ r, rest = r.map some ∧ s = word ++ r := by
  induction word generalizing s with
  | nil =>
    cases h
    exact ⟨s, rfl, rfl⟩
  | cons c word ih =>
    cases s with
    | nil => cases h
    | cons d s =>
      rw [List.map_cons, expectChars] at h
      split at h
      · rename_i same
        obtain ⟨r, rfl, rfl⟩ := ih h
        exact ⟨r, rfl, by rw [same, List.cons_append]⟩
      · cases h

theorem sound_word {word s : List Char} {t t' : Tree} {c : Char} {rest rest' : List Symbol}
    (here : skipSpace (s.map some) = some c :: rest') (h : scanWord word t rest' = (t', some rest))
    (spelled : t.Spells (c :: word)) :
    ∃ w v r, Layout w ∧ t'.Spells v ∧ rest = r.map some ∧ s = w ++ (v ++ r) := by
  obtain ⟨w, r, layout, rfl, rfl⟩ := exists_layout_of_cons here
  unfold scanWord at h
  split at h
  · rename_i found
    cases h
    obtain ⟨r, rfl, rfl⟩ := eq_append_of_expectChars found
    exact ⟨w, c :: word, r, layout, spelled, rfl, rfl⟩
  · cases h

theorem sound_string {s : List Char} {t : Tree} {rest rest' : List Symbol}
    (here : skipSpace (s.map some) = some '"' :: rest') (h : scanText rest' = (t, some rest)) :
    ∃ w v r, Layout w ∧ t.Spells v ∧ rest = r.map some ∧ s = w ++ (v ++ r) := by
  obtain ⟨w, r, layout, rfl, rfl⟩ := exists_layout_of_cons here
  unfold scanText at h
  split at h
  · rename_i ps rest' found
    cases h
    obtain ⟨body, r, pieces, rfl, rfl⟩ := spells_of_scanString found
    refine ⟨w, '"' :: (body ++ ['"']), r, layout, ?_, rfl, by simp⟩
    rw [Tree.Spells]
    exact ⟨ps, body, pieces, rfl, rfl⟩
  · cases h

theorem sound_array {fuel : Nat} (sound : ∀ n < fuel, Sound n) {s : List Char} {t : Tree}
    {rest rest' : List Symbol} (here : skipSpace (s.map some) = some '[' :: rest')
    (h : (match skipSpace rest' with
      | some ']' :: rest => (.array [] true, some rest)
      | rest =>
        let (items, closed, rest) := scanItems fuel rest
        (.array items closed, rest) : Scan) = (t, some rest)) :
    ∃ w v r, Layout w ∧ t.Spells v ∧ rest = r.map some ∧ s = w ++ (v ++ r) := by
  obtain ⟨w, r, layout, rfl, rfl⟩ := exists_layout_of_cons here
  split at h
  · rename_i closing
    cases h
    obtain ⟨w', r, layout', rfl, rfl⟩ := exists_layout_of_cons closing
    refine ⟨w, '[' :: (w' ++ [']']), r, layout, ?_, rfl, by simp⟩
    rw [Tree.Spells]
    exact ⟨rfl, w', by rw [Tree.SpellsItems]; exact layout', rfl⟩
  · dsimp only at h
    generalize found : scanItems fuel (skipSpace (r.map some)) = result at h
    obtain ⟨items, closed, final⟩ := result
    cases h
    rw [scanItems_skipSpace] at found
    obtain ⟨rfl, -, body, r, spelled, rfl, rfl⟩ := spells_of_scanItems sound found
    refine ⟨w, '[' :: (body ++ [']']), r, layout, ?_, rfl, by simp⟩
    rw [Tree.Spells]
    exact ⟨rfl, body, spelled, rfl⟩

theorem sound_object {fuel : Nat} (sound : ∀ n < fuel, Sound n) {s : List Char} {t : Tree}
    {rest rest' : List Symbol} (here : skipSpace (s.map some) = some '\x7b' :: rest')
    (h : (match skipSpace rest' with
      | some '\x7d' :: rest => (.object [] true, some rest)
      | rest =>
        let (members, closed, rest) := scanMembers fuel rest
        (.object members closed, rest) : Scan) = (t, some rest)) :
    ∃ w v r, Layout w ∧ t.Spells v ∧ rest = r.map some ∧ s = w ++ (v ++ r) := by
  obtain ⟨w, r, layout, rfl, rfl⟩ := exists_layout_of_cons here
  split at h
  · rename_i closing
    cases h
    obtain ⟨w', r, layout', rfl, rfl⟩ := exists_layout_of_cons closing
    refine ⟨w, '\x7b' :: (w' ++ ['\x7d']), r, layout, ?_, rfl, by simp⟩
    rw [Tree.Spells]
    exact ⟨rfl, w', by rw [Tree.SpellsMembers]; exact layout', rfl⟩
  · dsimp only at h
    generalize found : scanMembers fuel (skipSpace (r.map some)) = result at h
    obtain ⟨members, closed, final⟩ := result
    cases h
    rw [scanMembers_skipSpace] at found
    obtain ⟨rfl, -, body, r, spelled, rfl, rfl⟩ := spells_of_scanMembers sound found
    refine ⟨w, '\x7b' :: (body ++ ['\x7d']), r, layout, ?_, rfl, by simp⟩
    rw [Tree.Spells]
    exact ⟨rfl, body, spelled, rfl⟩

/-- The scanner is sound, whatever the fuel. -/
theorem sound (fuel : Nat) : Sound fuel := by
  induction fuel using Nat.strongRecOn with
  | ind fuel ih =>
    intro s t rest h
    cases fuel with
    | zero => cases h
    | succ fuel =>
      have below : ∀ n < fuel, Sound n := fun n below => ih n (by omega)
      rw [scanValue] at h
      split at h
      · rename_i here
        exact sound_string here h
      · rename_i here
        exact sound_array below here h
      · rename_i here
        exact sound_object below here h
      · rename_i here
        exact sound_word here h (by rw [Tree.Spells]; rfl)
      · rename_i here
        exact sound_word here h (by rw [Tree.Spells]; rfl)
      · rename_i here
        exact sound_word here h (by rw [Tree.Spells]; rfl)
      · obtain ⟨w, r, layout, skipped, rfl⟩ := exists_layout s
        rw [skipped] at h
        unfold scanNumber at h
        split at h
        · rename_i x rest' found
          cases h
          obtain ⟨v, r, spelled, rfl, rfl⟩ := spells_of_scanNumeral found
          refine ⟨w, v, r, layout, ?_, rfl, rfl⟩
          rw [Tree.Spells]
          exact spelled
        · cases h

/-! ## Whole texts -/

/-- A text is read as a tree, to its end, just when it is a text of the tree. -/
theorem parse_eq_iff {s : String} {t : Tree} :
    Document.parse (symbols s) = ⟨t, true⟩ ↔ IsText s t := by
  rw [Document.parse, symbols]
  constructor
  · intro h
    split at h
    · cases h
    · rename_i root rest found
      obtain ⟨rfl, ended⟩ := Document.mk.inj h
      obtain ⟨w, v, r, layout, spelled, rfl, text⟩ := sound _ _ _ _ found
      exact ⟨w, v, r, layout, spelled, layout_of_skipSpace (List.isEmpty_iff.1 ended), text⟩
  · rintro ⟨w, v, w', layout, spelled, layout', text⟩
    have ends : EndsNumeral (w'.map some) := by
      rw [← List.append_nil (w'.map some)]
      exact ends_layout layout' ends_nil
    have found (fuel : Nat) (enough : 2 * v.length ≤ fuel + 1) :
        scanValue fuel (s.toList.map some) = (t, some (w'.map some)) := by
      rw [text, List.map_append, scanValue_layout layout, List.map_append]
      exact readsBack t v _ fuel spelled ends enough
    have enough : 2 * v.length ≤ 2 * (s.toList.map some).length + 2 + 1 := by
      rw [List.length_map, text, List.length_append, List.length_append]
      omega
    have ended : skipSpace (w'.map some) = [] := by
      rw [← List.append_nil (w'.map some), skipSpace_layout layout']
      rfl
    rw [found _ enough]
    dsimp only
    rw [ended]
    rfl

/-- A text spells one tree only. -/
theorem IsText.unique {s : String} {t t' : Tree} (text : IsText s t) (text' : IsText s t') :
    t = t' := by
  have same := (parse_eq_iff.2 text).symm.trans (parse_eq_iff.2 text')
  exact (Document.mk.inj same).1

end QueryDesk.Json
