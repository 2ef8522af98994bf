import QueryDesk.Settings.Template

/-!
# Templates as segments

A template is a sequence of segments: literal text, references to variables and dollar signs that
stand for themselves.  Each segment is read into its own pieces, whatever stands behind it, and its
pieces are filled on their own.  So expanding the text of segments is a substitution in them
(`expand_textOf`): values take the place of references and are not read again, and the first
variable without a value is the failure.
-/

namespace QueryDesk.Settings

open QueryDesk.Text

/-- A segment of a template. -/
inductive Segment where
  | literal (text : String)
  | braced (name : String)
  | bare (name : String)
  | dollar
deriving DecidableEq, Repr

namespace Segment

/-- The text of a segment. -/
def chars : Segment → List Char
  | literal text => text.toList
  | braced name => '$' :: '\x7b' :: (name.toList ++ ['\x7d'])
  | bare name => '$' :: name.toList
  | dollar => ['$']

/-- Whether a segment is literal text. -/
def isLiteral : Segment → Bool
  | literal _ => true
  | _ => false

/-- The variable that a segment refers to. -/
def name? : Segment → Option String
  | braced name => some name
  | bare name => some name
  | _ => none

/-- What a segment is expanded to when its variable is set. -/
def value (env : Environment) : Segment → String
  | literal text => text
  | braced name => (env.get? name).getD ""
  | bare name => (env.get? name).getD ""
  | dollar => "$"

/-- A segment with a text behind it: the text does not go on a name without braces, nor make a
    reference of a dollar sign. -/
def Fits (after : List Char) : Segment → Prop
  | literal text => '$' ∉ text.toList
  | braced name => '\x7d' ∉ name.toList
  | bare name => name.toList ≠ [] ∧ (∀ c ∈ name.toList, isNameChar c = true) ∧
      ∀ c ∈ after.head?, isNameChar c = false
  | dollar => ∀ c ∈ after.head?, c ≠ '\x7b' ∧ isNameChar c = false

/-- The pieces that a segment is read into. -/
def pieces : Segment → List Piece
  | literal text => text.toList.map .char
  | braced name => [.reference name]
  | bare name => [.reference name]
  | dollar => [.char '$']

end Segment

/-- The text of segments. -/
def textOf (segments : List Segment) : List Char :=
  segments.flatMap Segment.chars

/-- Segments that fit, each before the text of the ones behind it. -/
def Fit : List Segment → Prop
  | [] => True
  | segment :: rest => segment.Fits (textOf rest) ∧ Fit rest

-- The quantifiers run over the characters at hand, not over all characters there are.
instance (after : List Char) : (segment : Segment) → Decidable (segment.Fits after)
  | .literal text => inferInstanceAs (Decidable ('$' ∉ text.toList))
  | .braced name => inferInstanceAs (Decidable ('\x7d' ∉ name.toList))
  | .bare name =>
    have := List.decidableBAll (fun c => isNameChar c = true) name.toList
    have := after.head?.decidableForallMem (p := fun c => isNameChar c = false)
    inferInstanceAs (Decidable (name.toList ≠ [] ∧
      (∀ c ∈ name.toList, isNameChar c = true) ∧ ∀ c ∈ after.head?, isNameChar c = false))
  | .dollar =>
    have := after.head?.decidableForallMem (p := fun c => c ≠ '\x7b' ∧ isNameChar c = false)
    inferInstanceAs (Decidable (∀ c ∈ after.head?, c ≠ '\x7b' ∧ isNameChar c = false))

instance decidableFit : (segments : List Segment) → Decidable (Fit segments)
  | [] => inferInstanceAs (Decidable True)
  | segment :: rest =>
    have := decidableFit rest
    inferInstanceAs (Decidable (segment.Fits (textOf rest) ∧ Fit rest))

/-- The segments with the values in the place of the references, or the first variable in order
    that has none. -/
def substituted (env : Environment) (segments : List Segment) : Except String String :=
  match (segments.filterMap Segment.name?).find? fun name => (env.get? name).isNone with
  | some name => .error name
  | none => .ok (String.join (segments.map (Segment.value env)))

/-! ## Reading segments -/

theorem pieces_literal {text : List Char} (plain : '$' ∉ text) (after : List Char) :
    pieces .plain (text ++ after) = text.map .char ++ pieces .plain after := by
  induction text with
  | nil => rfl
  | cons c text ih =>
    rw [List.mem_cons, not_or] at plain
    simp [pieces, readChar, readPlain, Ne.symm plain.1, ih plain.2]

/-- A name in braces ends where they are closed. -/
theorem pieces_braced {name : List Char} (inside : '\x7d' ∉ name) (read after : List Char) :
    pieces (.braced read) (name ++ '\x7d' :: after) =
      .named (name.reverse ++ read) :: pieces .plain after := by
  induction name generalizing read with
  | nil => simp [pieces, readChar]
  | cons c name ih =>
    rw [List.mem_cons, not_or] at inside
    simp [pieces, readChar, Ne.symm inside.1, ih inside.2]

/-- A name without braces ends where no character of a name follows. -/
theorem pieces_bare {name after : List Char} (inside : ∀ c ∈ name, isNameChar c = true)
    (ends : ∀ c ∈ after.head?, isNameChar c = false) (read : List Char) :
    pieces (.bare read) (name ++ after) = .named (name.reverse ++ read) :: pieces .plain after := by
  induction name generalizing read with
  | nil =>
    cases after with
    | nil => rfl
    | cons c after =>
      have other : isNameChar c = false := ends c rfl
      simp [pieces, readChar, other]
  | cons c name ih =>
    rw [List.forall_mem_cons] at inside
    simp [pieces, readChar, inside.1, ih inside.2]

theorem isNameChar_brace : isNameChar '\x7b' = false := by decide

theorem isNameChar_dollar : isNameChar '$' = false := by decide

theorem ne_brace_of_isNameChar {c : Char} (h : isNameChar c = true) : c ≠ '\x7b' := by
  rintro rfl
  rw [isNameChar_brace] at h
  cases h

/-- A segment is read for itself, whatever stands behind it. -/
theorem pieces_segment {segment : Segment} {after : List Char} (fits : segment.Fits after) :
    pieces .plain (segment.chars ++ after) = segment.pieces ++ pieces .plain after := by
  cases segment with
  | literal text => exact pieces_literal fits after
  | braced name =>
    have inside := pieces_braced fits [] after
    simpa [Segment.chars, Segment.pieces, pieces, readChar, readPlain, Piece.named] using inside
  | bare name =>
    obtain ⟨filled, named, ends⟩ := fits
    obtain ⟨c, rest, split⟩ := List.exists_cons_of_ne_nil filled
    rw [split, List.forall_mem_cons] at named
    have inside := pieces_bare named.2 ends [c]
    have whole : String.ofList (c :: rest) = name := by rw [← split, String.ofList_toList]
    simpa [Segment.chars, Segment.pieces, split, pieces, readChar, readPlain, Piece.named, named.1,
      ne_brace_of_isNameChar named.1, whole] using inside
  | dollar =>
    cases after with
    | nil => rfl
    | cons c after =>
      obtain ⟨noBrace, other⟩ := fits c rfl
      simp [Segment.chars, Segment.pieces, pieces, readChar, readPlain, noBrace, other]

theorem pieces_textOf {segments : List Segment} (fit : Fit segments) :
    pieces .plain (textOf segments) = segments.flatMap Segment.pieces := by
  induction segments with
  | nil => rfl
  | cons segment rest ih =>
    have first := pieces_segment fit.1
    simp only [textOf, List.flatMap_cons] at first ih ⊢
    rw [first, ih fit.2]

/-! ## Filling segments -/

section Filling

variable {env : Environment} {segment : Segment}

theorem fill_literal (text : List Char) (rest : List Piece) :
    fill env (text.map .char ++ rest) = (fill env rest).map (text ++ ·) := by
  induction text with
  | nil =>
    rw [List.map_nil, List.nil_append]
    cases fill env rest <;> rfl
  | cons c text ih =>
    simp only [List.map_cons, List.cons_append, fill, ih]
    cases fill env rest <;> rfl

theorem pieces_of_refers {name : String} (refers : segment.name? = some name) :
    segment.pieces = [.reference name] := by
  cases segment <;> cases refers <;> rfl

theorem value_of_refers {name : String} (refers : segment.name? = some name) :
    segment.value env = (env.get? name).getD "" := by
  cases segment <;> cases refers <;> rfl

/-- A segment without a variable is read as its own value. -/
theorem pieces_of_plain (plain : segment.name? = none) :
    segment.pieces = (segment.value env).toList.map .char := by
  cases segment with
  | literal text => rfl
  | dollar => simp [Segment.pieces, Segment.value]
  | _ => cases plain

theorem fill_unset {name : String} (refers : segment.name? = some name)
    (unset : env.get? name = none) (rest : List Piece) :
    fill env (segment.pieces ++ rest) = .error name := by
  simp [pieces_of_refers refers, fill, unset]

theorem fill_set (set : ∀ name, segment.name? = some name → env.get? name ≠ none)
    (rest : List Piece) :
    fill env (segment.pieces ++ rest) = (fill env rest).map ((segment.value env).toList ++ ·) := by
  cases refers : segment.name? with
  | none =>
    rw [pieces_of_plain refers]
    exact fill_literal _ rest
  | some name =>
    obtain ⟨value, found⟩ := Option.ne_none_iff_exists'.1 (set name refers)
    simp [pieces_of_refers refers, value_of_refers refers, fill, found]

theorem substituted_unset {name : String} (refers : segment.name? = some name)
    (unset : env.get? name = none) (rest : List Segment) :
    substituted env (segment :: rest) = .error name := by
  simp [substituted, refers, unset]

theorem substituted_set (set : ∀ name, segment.name? = some name → env.get? name ≠ none)
    (rest : List Segment) :
    substituted env (segment :: rest) =
      (substituted env rest).map (segment.value env ++ ·) := by
  have skipped : ((segment :: rest).filterMap Segment.name?).find?
      (fun name => (env.get? name).isNone) =
        (rest.filterMap Segment.name?).find? fun name => (env.get? name).isNone := by
    cases refers : segment.name? with
    | none => simp [refers]
    | some name => simp [refers, set name refers]
  unfold substituted
  rw [skipped]
  cases (rest.filterMap Segment.name?).find? fun name => (env.get? name).isNone with
  | none => simp [Except.map]
  | some name => rfl

end Filling

theorem fill_pieces (env : Environment) (segments : List Segment) :
    fill env (segments.flatMap Segment.pieces) =
      (substituted env segments).map String.toList := by
  induction segments with
  | nil => rfl
  | cons segment rest ih =>
    rw [List.flatMap_cons]
    by_cases missing : ∃ name, segment.name? = some name ∧ env.get? name = none
    · obtain ⟨name, refers, unset⟩ := missing
      rw [fill_unset refers unset, substituted_unset refers unset]
      rfl
    · have set : ∀ name, segment.name? = some name → env.get? name ≠ none :=
        fun name refers unset => missing ⟨name, refers, unset⟩
      rw [fill_set set, substituted_set set, ih]
      cases substituted env rest <;> simp [Except.map]

/-- Expanding a template is substituting in its segments. -/
theorem expand_textOf (env : Environment) {segments : List Segment} (fit : Fit segments) :
    expand env (String.ofList (textOf segments)) = substituted env segments := by
  rw [expand, String.toList_ofList, pieces_textOf fit, fill_pieces]
  cases substituted env segments <;> simp [Except.map]

end QueryDesk.Settings
