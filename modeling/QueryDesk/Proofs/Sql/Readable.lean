import QueryDesk.Proofs.Sql.Capture
import QueryDesk.Proofs.Sql.Resolved
import QueryDesk.Proofs.Sql.Scan

/-!
# Reading SQL back

The SQL of a resolved spec can be read in one way only.  For each writing function: two written
things that agree together with what follows them are the same, and the same follows them.  What
may follow is said by its first characters, which tell the end of a clause from its continuation.
-/

namespace QueryDesk.Sql

open QueryDesk.Query QueryDesk.Json

/-! ## Words -/

/-- A text in which only the characters of one class are followed by something else is cut in one
    way. -/
theorem span_inj {p : Char → Prop} {s t u v : List Char} (hs : ∀ c ∈ s, p c) (ht : ∀ c ∈ t, p c)
    (hu : ∀ c, u.head? = some c → ¬ p c) (hv : ∀ c, v.head? = some c → ¬ p c)
    (h : s ++ u = t ++ v) : s = t ∧ u = v := by
  induction s generalizing t with
  | nil =>
    cases t with
    | nil => exact ⟨rfl, h⟩
    | cons d t =>
      have stop := hu d (by rw [List.nil_append] at h; rw [h]; rfl)
      exact absurd (ht d (List.mem_cons_self ..)) stop
  | cons c s ih =>
    cases t with
    | nil =>
      have stop := hv c (by rw [List.nil_append] at h; rw [← h]; rfl)
      exact absurd (hs c (List.mem_cons_self ..)) stop
    | cons d t =>
      rw [List.forall_mem_cons] at hs ht
      obtain ⟨rfl, rest⟩ := List.cons.inj h
      obtain ⟨rfl, same⟩ := ih hs.2 ht.2 rest
      exact ⟨rfl, same⟩

theorem cancel_word (word : List Char) {u v : List Char} (h : word ++ u = word ++ v) : u = v :=
  List.append_cancel_left h

/-- A way to spell things in which no spelling starts with another one. -/
def PrefixFree {α : Type} (spell : α → List Char) : Prop :=
  ∀ a b, spell a <+: spell b → a = b

theorem PrefixFree.inj {α : Type} {spell : α → List Char} (free : PrefixFree spell) {a b : α}
    {u v : List Char} (h : spell a ++ u = spell b ++ v) : a = b ∧ u = v := by
  have same : a = b := by
    have before : spell a <+: spell b ++ v := ⟨u, h⟩
    rcases List.prefix_or_prefix_of_prefix before (List.prefix_append ..) with shorter | longer
    · exact free a b shorter
    · exact (free b a longer).symm
  subst same
  exact ⟨rfl, List.append_cancel_left h⟩

theorem prefixFree_kind : PrefixFree fun kind : JoinKind => kind.sql.toList := by
  intro a b
  cases a <;> cases b <;> decide

theorem prefixFree_aggregate : PrefixFree fun a : Aggregate => a.sql.toList := by
  intro a b
  cases a <;> cases b <;> decide

/-- Comparisons need the space that follows them: some start with others. -/
theorem prefixFree_comparison : PrefixFree fun c : Comparison => c.sql.toList ++ [' '] := by
  intro a b
  cases a <;> cases b <;> decide

theorem prefixFree_direction : PrefixFree directionText := by
  intro a b
  cases a <;> cases b <;> decide

/-! ## Where a clause ends -/

/-- The end of the text, a comma, or a new line. -/
def Stop (u : List Char) : Prop :=
  ∀ c, u.head? = some c → c = ',' ∨ c = '\n'

/-- The end of the text, or a new line that starts in one of some ways: with a character and a text
    after it. -/
def Meets (starts : List (Char × List Char)) (u : List Char) : Prop :=
  u = [] ∨ ∃ level c w v, (c, w) ∈ starts ∧ u = newLine level (c :: (w ++ v))

theorem stop_newLine (level : Nat) (u : List Char) : Stop (newLine level u) := by
  intro c head
  exact .inr (Option.some.inj head).symm

theorem Meets.head_eq {starts : List (Char × List Char)} {u : List Char} (h : Meets starts u)
    {c : Char} (head : u.head? = some c) : c = '\n' := by
  rcases h with rfl | ⟨level, d, w, v, -, rfl⟩
  · cases head
  · exact (Option.some.inj head).symm

theorem Meets.stop {starts : List (Char × List Char)} {u : List Char} (h : Meets starts u) :
    Stop u :=
  fun _ head => .inr (h.head_eq head)

theorem Meets.mono {starts more : List (Char × List Char)} {u : List Char}
    (h : Meets starts u) (sub : starts ⊆ more) : Meets more u := by
  rcases h with rfl | ⟨level, c, w, v, member, rfl⟩
  · exact .inl rfl
  · exact .inr ⟨level, c, w, v, sub member, rfl⟩

theorem Stop.not_part {u : List Char} (h : Stop u) (c : Char) (head : u.head? = some c) :
    ¬ isIdentPart c = true := by
  rcases h c head with rfl | rfl
  · decide
  · decide

theorem newLine_append (level : Nat) (u v : List Char) :
    newLine level u ++ v = newLine level (u ++ v) := by
  simp [newLine]

theorem newLine_cancel {level : Nat} {u v : List Char} (h : newLine level u = newLine level v) :
    u = v := by
  simpa [newLine] using h

/-- Lines that agree have the same text, however they are indented. -/
theorem newLine_inj {level level' : Nat} {c d : Char} {u v : List Char} (hc : c ≠ ' ')
    (hd : d ≠ ' ') (h : newLine level (c :: u) = newLine level' (d :: v)) : c :: u = d :: v :=
  (span_inj (p := (· = ' ')) (fun _ => List.eq_of_mem_replicate)
    (fun _ => List.eq_of_mem_replicate) (by simpa using hc) (by simpa using hd)
    (List.cons.inj h).2).2

/-- A line that starts otherwise is not met. -/
theorem Meets.ne_newLine {starts : List (Char × List Char)} {u v : List Char} {level : Nat}
    {c : Char} (h : Meets starts u) (spaceless : ∀ start ∈ starts, start.1 ≠ ' ') (hc : c ≠ ' ')
    (other : ∀ start ∈ starts, ¬ start.1 :: start.2 <+: c :: v) : newLine level (c :: v) ≠ u := by
  intro same
  rcases h with rfl | ⟨level', d, w, x, member, rfl⟩
  · cases same
  · have line := newLine_inj hc (spaceless _ member) same
    exact other _ member ⟨x, line.symm⟩

/-! ## Columns -/

/-- A plain identifier is not empty, and starts as one. -/
theorem plain_ne_cons {s u v : List Char} {d : Char} (plain : isPlainIdent s = true)
    (other : isIdentPart d = false) : s ++ u ≠ d :: v := by
  cases s with
  | nil => cases plain
  | cons c s =>
    intro h
    have part := isIdentPart_of_isPlainIdent plain c (List.mem_cons_self ..)
    rw [(List.cons.inj h).1, other] at part
    cases part

theorem isIdentPart_aliasName (n : Nat) : ∀ c ∈ (aliasName n).toList, isIdentPart c = true := by
  rw [aliasName, String.toList_append, List.forall_mem_append]
  have letter : isIdentPart 't' = true := by decide
  refine ⟨List.forall_mem_singleton.2 letter, ?_⟩
  intro c member
  rw [String.toList_ofList] at member
  have digit : c.isDigit = true := Nat.isDigit_of_mem_toDigits (by decide) (by decide) member
  simp [isIdentPart, Char.isAlphanum, digit]

theorem aliasName_inj {m n : Nat} {u v : List Char} {d e : Char} (hd : isIdentPart d = false)
    (he : isIdentPart e = false)
    (h : (aliasName m).toList ++ d :: u = (aliasName n).toList ++ e :: v) :
    m = n ∧ d = e ∧ u = v := by
  obtain ⟨names, rest⟩ := span_inj (p := (isIdentPart · = true)) (isIdentPart_aliasName m)
    (isIdentPart_aliasName n) (by simpa using hd) (by simpa using he) h
  obtain ⟨rfl, rfl⟩ := List.cons.inj rest
  exact ⟨aliasName_injective (String.toList_inj.1 names), rfl, rfl⟩

theorem Mention.write_inj {x y : Mention} {u v : List Char}
    (hx : isPlainIdent x.column.toList = true) (hy : isPlainIdent y.column.toList = true)
    (hu : ∀ c, u.head? = some c → ¬ isIdentPart c = true)
    (hv : ∀ c, v.head? = some c → ¬ isIdentPart c = true)
    (h : x.write u = y.write v) : x = y ∧ u = v := by
  obtain ⟨number, -, h⟩ := aliasName_inj (by decide) (by decide) h
  obtain ⟨column, rest⟩ := span_inj (isIdentPart_of_isPlainIdent hx)
    (isIdentPart_of_isPlainIdent hy) hu hv h
  cases x with
  | mk n column =>
    cases y with
    | mk m column' =>
      cases number
      cases String.toList_inj.1 column
      exact ⟨rfl, rest⟩

/-! ## Quoted texts -/

theorem quote_inj {q : Char} {s t u v : List Char} (isQuote : q = '\'' ∨ q = '"')
    (hu : u.head? ≠ some q) (hv : v.head? ≠ some q) (h : quote q s ++ u = quote q t ++ v) :
    s = t ∧ u = v := by
  have found := congrArg (scan .plain) h
  rw [scan_quote isQuote hu, scan_quote isQuote hv] at found
  have same : s = t := by
    unfold Scan.quoted at found
    split at found
    · exact (List.cons.inj (congrArg Scan.singles found)).1
    · exact (List.cons.inj (congrArg Scan.doubles found)).1
  subst same
  exact ⟨rfl, List.append_cancel_left h⟩

theorem Stop.head_ne {u : List Char} (h : Stop u) {d : Char} (comma : d ≠ ',')
    (newline : d ≠ '\n') : u.head? ≠ some d := by
  intro head
  rcases h d head with rfl | rfl
  · exact comma rfl
  · exact newline rfl

/-- A label that is not quoted does not start with a quote. -/
theorem plain_ne_quote {s t u v : List Char} (plain : isPlainIdent s = true) :
    s ++ u ≠ quote '"' t ++ v :=
  plain_ne_cons plain (by decide)

theorem labelChars_inj {s t u v : List Char} (hu : Stop u) (hv : Stop v)
    (h : labelChars s ++ u = labelChars t ++ v) : s = t ∧ u = v := by
  unfold labelChars at h
  split at h
  · rename_i plain
    split at h
    · rename_i plain'
      exact span_inj (isIdentPart_of_isPlainIdent plain) (isIdentPart_of_isPlainIdent plain')
        hu.not_part hv.not_part h
    · exact absurd h (plain_ne_quote plain)
  · split at h
    · rename_i plain'
      exact absurd h.symm (plain_ne_quote plain')
    · exact quote_inj (.inr rfl) (hu.head_ne (by decide) (by decide))
        (hv.head_ne (by decide) (by decide)) h

/-! ## Selected columns -/

theorem writeLabel_inj {x y : Option String} {u v : List Char} (hu : Stop u) (hv : Stop v)
    (h : writeLabel x u = writeLabel y v) : x = y ∧ u = v := by
  cases x with
  | none =>
    cases y with
    | none => exact ⟨rfl, h⟩
    | some t => exact absurd (congrArg List.head? h) (hu.head_ne (by decide) (by decide))
  | some s =>
    cases y with
    | none => exact absurd (congrArg List.head? h).symm (hv.head_ne (by decide) (by decide))
    | some t =>
      obtain ⟨same, rest⟩ := labelChars_inj hu hv (List.append_cancel_left h)
      cases String.toList_inj.1 same
      exact ⟨rfl, rest⟩

theorem writeLabel_not_part {x : Option String} {u : List Char} (hu : Stop u) (c : Char)
    (head : (writeLabel x u).head? = some c) : ¬ isIdentPart c = true := by
  cases x with
  | none => exact hu.not_part c head
  | some s =>
    cases head
    decide

theorem Aggregate.sql_eq_cons (a : Aggregate) :
    ∃ c cs, c ∈ ['C', 'S', 'A', 'M'] ∧ a.sql.toList = c :: cs := by
  cases a with
  | count => exact ⟨'C', _, by decide, rfl⟩
  | sum => exact ⟨'S', _, by decide, rfl⟩
  | avg => exact ⟨'A', _, by decide, rfl⟩
  | min => exact ⟨'M', _, by decide, rfl⟩
  | max => exact ⟨'M', _, by decide, rfl⟩

theorem Mention.write_eq_cons (m : Mention) (u : List Char) :
    m.write u = 't' :: (decimalDigits m.number ++ '.' :: (m.column.toList ++ u)) := by
  simp [Mention.write, aliasName]

/-- A column behind an alias does not start with an aggregate. -/
theorem aggregate_ne_mention {a : Aggregate} {m : Mention} {u v : List Char} :
    a.sql.toList ++ u ≠ m.write v := by
  intro h
  obtain ⟨c, cs, member, spelled⟩ := Aggregate.sql_eq_cons a
  rw [spelled, Mention.write_eq_cons] at h
  rw [(List.cons.inj h).1] at member
  exact absurd member (by decide)

theorem Output.write_inj {x y : Output} {u v : List Char}
    (hx : isPlainIdent x.mention.column.toList = true)
    (hy : isPlainIdent y.mention.column.toList = true) (hu : Stop u) (hv : Stop v)
    (h : x.write u = y.write v) : x = y ∧ u = v := by
  rcases x with ⟨_ | a, m, label⟩
  · rcases y with ⟨_ | b, m', label'⟩
    · obtain ⟨rfl, rest⟩ := Mention.write_inj hx hy (writeLabel_not_part hu)
        (writeLabel_not_part hv) h
      obtain ⟨rfl, same⟩ := writeLabel_inj hu hv rest
      exact ⟨rfl, same⟩
    · exact absurd h.symm aggregate_ne_mention
  · rcases y with ⟨_ | b, m', label'⟩
    · exact absurd h aggregate_ne_mention
    · obtain ⟨rfl, inner⟩ := prefixFree_aggregate.inj h
      obtain ⟨rfl, rest⟩ := Mention.write_inj hx hy (by simpa using by decide)
        (by simpa using by decide) (List.cons.inj inner).2
      obtain ⟨rfl, same⟩ := writeLabel_inj hu hv (List.cons.inj rest).2
      exact ⟨rfl, same⟩

theorem Output.write_eq_cons (x : Output) (u : List Char) :
    ∃ c v, c ∈ ['t', 'C', 'S', 'A', 'M'] ∧ x.write u = c :: v := by
  rcases x with ⟨_ | a, m, label⟩
  · exact ⟨'t', _, by decide, Mention.write_eq_cons m _⟩
  · obtain ⟨c, cs, member, spelled⟩ := Aggregate.sql_eq_cons a
    refine ⟨c, cs ++ '(' :: m.write (')' :: writeLabel label u), List.mem_cons_of_mem _ member, ?_⟩
    calc
      a.sql.toList ++ '(' :: m.write (')' :: writeLabel label u) =
          (c :: cs) ++ '(' :: m.write (')' :: writeLabel label u) := by rw [spelled]
      _ = _ := rfl

/-- What follows the selected columns is no selected column. -/
theorem writeOutputs_ne {level : Nat} {first : Bool} {c : Output} {cs : List Output}
    {u v : List Char} (hu : Meets [('F', [])] u) : writeOutputs level first (c :: cs) v ≠ u := by
  intro h
  rw [writeOutputs] at h
  cases first with
  | false =>
    have comma := hu.head_eq (c := ',') (by rw [← h]; rfl)
    exact absurd comma (by decide)
  | true =>
    obtain ⟨d, w, member, written⟩ := c.write_eq_cons (writeOutputs level false cs v)
    rw [written] at h
    refine hu.ne_newLine (by decide) ?_ ?_ h
    · rintro rfl
      exact absurd member (by decide)
    · simp only [List.forall_mem_singleton, List.cons_prefix_cons, List.nil_prefix, and_true]
      rintro rfl
      exact absurd member (by decide)

theorem stop_writeOutputs {level : Nat} {cs : List Output} {u : List Char} (hu : Stop u) :
    Stop (writeOutputs level false cs u) := by
  cases cs with
  | nil => exact hu
  | cons c cs =>
    intro d head
    exact .inl (Option.some.inj head).symm

theorem writeOutputs_inj {level : Nat} {first : Bool} {xs ys : List Output} {u v : List Char}
    (hx : ∀ c ∈ xs, isPlainIdent c.mention.column.toList = true)
    (hy : ∀ c ∈ ys, isPlainIdent c.mention.column.toList = true)
    (hu : Meets [('F', [])] u) (hv : Meets [('F', [])] v)
    (h : writeOutputs level first xs u = writeOutputs level first ys v) : xs = ys ∧ u = v := by
  induction xs generalizing first ys with
  | nil =>
    cases ys with
    | nil => exact ⟨rfl, h⟩
    | cons y ys => exact absurd h.symm (writeOutputs_ne hu)
  | cons x xs ih =>
    cases ys with
    | nil => exact absurd h (writeOutputs_ne hv)
    | cons y ys =>
      rw [List.forall_mem_cons] at hx hy
      rw [writeOutputs, writeOutputs] at h
      obtain ⟨rfl, rest⟩ := Output.write_inj hx.1 hy.1 (stop_writeOutputs hu.stop)
        (stop_writeOutputs hv.stop) (newLine_cancel (List.append_cancel_left h))
      obtain ⟨rfl, same⟩ := ih hx.2 hy.2 rest
      exact ⟨rfl, same⟩

/-! ## Conditions -/

/-- A value that is written as a number has the characters of one. -/
def Constant.Numeral : Constant → Prop
  | .number s => ∀ c ∈ s.toList, Numeric c
  | _ => True

theorem Stop.not_numeric {u : List Char} (h : Stop u) (c : Char) (head : u.head? = some c) :
    ¬ Numeric c := by
  rcases h c head with rfl | rfl
  · decide
  · decide

/-- Neither a quote nor a truth value can be taken for a number. -/
theorem numeral_ne {s u v : List Char} {d : Char} (numeral : ∀ c ∈ s, Numeric c) (hu : Stop u)
    (other : ¬ Numeric d) (comma : d ≠ ',') (newline : d ≠ '\n') : s ++ u ≠ d :: v := by
  intro h
  cases s with
  | nil => exact hu.head_ne comma newline (congrArg List.head? h)
  | cons c s =>
    rw [List.forall_mem_cons, (List.cons.inj h).1] at numeral
    exact other numeral.1

theorem Constant.write_inj {x y : Constant} {u v : List Char} (hx : x.Numeral) (hy : y.Numeral)
    (hu : Stop u) (hv : Stop v) (h : x.write u = y.write v) : x = y ∧ u = v := by
  cases x with
  | text s =>
    cases y with
    | text t =>
      obtain ⟨same, rest⟩ := quote_inj (.inl rfl) (hu.head_ne (by decide) (by decide))
        (hv.head_ne (by decide) (by decide)) h
      cases String.toList_inj.1 same
      exact ⟨rfl, rest⟩
    | number t => exact absurd h.symm (numeral_ne hy hv (by decide) (by decide) (by decide))
    | boolean b => cases b <;> exact absurd (List.cons.inj h).1 (by decide)
  | number s =>
    cases y with
    | text t => exact absurd h (numeral_ne hx hu (by decide) (by decide) (by decide))
    | number t =>
      obtain ⟨same, rest⟩ := span_inj hx hy hu.not_numeric hv.not_numeric h
      cases String.toList_inj.1 same
      exact ⟨rfl, rest⟩
    | boolean b =>
      cases b <;> exact absurd h (numeral_ne hx hu (by decide) (by decide) (by decide))
  | boolean a =>
    cases y with
    | text t => cases a <;> exact absurd (List.cons.inj h).1 (by decide)
    | number t =>
      cases a <;> exact absurd h.symm (numeral_ne hy hv (by decide) (by decide) (by decide))
    | boolean b =>
      cases a <;> cases b
      · exact ⟨rfl, List.append_cancel_left h⟩
      · exact absurd (List.cons.inj h).1 (by decide)
      · exact absurd (List.cons.inj h).1 (by decide)
      · exact ⟨rfl, List.append_cancel_left h⟩

theorem Check.write_inj {x y : Check} {u v : List Char}
    (hx : isPlainIdent x.mention.column.toList = true ∧ x.value.Numeral)
    (hy : isPlainIdent y.mention.column.toList = true ∧ y.value.Numeral) (hu : Stop u)
    (hv : Stop v) (h : x.write u = y.write v) : x = y ∧ u = v := by
  cases x with
  | mk mention comparison value =>
    cases y with
    | mk mention' comparison' value' =>
      obtain ⟨rfl, rest⟩ := Mention.write_inj hx.1 hy.1 (by simpa using by decide)
        (by simpa using by decide) h
      have operator : (comparison.sql.toList ++ [' ']) ++ value.write u =
          (comparison'.sql.toList ++ [' ']) ++ value'.write v := by
        simpa using rest
      obtain ⟨rfl, constants⟩ := prefixFree_comparison.inj operator
      obtain ⟨rfl, same⟩ := Constant.write_inj hx.2 hy.2 hu hv constants
      exact ⟨rfl, same⟩

theorem stop_writeChecks {level : Nat} {first : Bool} {cs : List Check} {u : List Char}
    (hu : Stop u) : Stop (writeChecks level first cs u) := by
  cases cs with
  | nil => exact hu
  | cons c cs =>
    intro d head
    cases first with
    | true => exact .inr (Option.some.inj head).symm
    | false => exact .inr (Option.some.inj head).symm

/-- What follows the conditions is no condition. -/
theorem writeChecks_ne {level : Nat} {first : Bool} {c : Check} {cs : List Check}
    {u v : List Char} (hu : Meets [('O', ['R']), (')', [])] u) :
    writeChecks level first (c :: cs) v ≠ u := by
  rw [writeChecks]
  generalize c.write (writeChecks level false cs v) = rest
  cases first with
  | true =>
    rw [if_pos rfl, newLine_append]
    exact hu.ne_newLine (by decide) (by decide) (by simp)
  | false => exact hu.ne_newLine (by decide) (by decide) (by simp)

theorem writeChecks_inj {level : Nat} {first : Bool} {xs ys : List Check} {u v : List Char}
    (hx : ∀ c ∈ xs, isPlainIdent c.mention.column.toList = true ∧ c.value.Numeral)
    (hy : ∀ c ∈ ys, isPlainIdent c.mention.column.toList = true ∧ c.value.Numeral)
    (hu : Meets [('O', ['R']), (')', [])] u) (hv : Meets [('O', ['R']), (')', [])] v)
    (h : writeChecks level first xs u = writeChecks level first ys v) : xs = ys ∧ u = v := by
  induction xs generalizing first ys with
  | nil =>
    cases ys with
    | nil => exact ⟨rfl, h⟩
    | cons y ys => exact absurd h.symm (writeChecks_ne hu)
  | cons x xs ih =>
    cases ys with
    | nil => exact absurd h (writeChecks_ne hv)
    | cons y ys =>
      rw [List.forall_mem_cons] at hx hy
      rw [writeChecks, writeChecks] at h
      obtain ⟨rfl, rest⟩ := Check.write_inj hx.1 hy.1 (stop_writeChecks hu.stop)
        (stop_writeChecks hv.stop)
        (List.append_cancel_left (newLine_cancel (List.append_cancel_left h)))
      obtain ⟨rfl, same⟩ := ih hx.2 hy.2 rest
      exact ⟨rfl, same⟩

theorem meets_writeChecks (level : Nat) (cs : List Check) {u : List Char}
    (hu : Meets [('O', ['R']), (')', [])] u) :
    Meets [('W', []), ('O', ['R']), (')', [])] (writeChecks level true cs u) := by
  cases cs with
  | nil => exact hu.mono (List.subset_cons_self ..)
  | cons c cs =>
    exact .inr ⟨level, 'W', [], _, List.mem_cons_self .., newLine_append level _ _⟩

/-! ## Sort order -/

theorem SortedBy.write_inj {x y : SortedBy} {u v : List Char}
    (hx : isPlainIdent x.mention.column.toList = true)
    (hy : isPlainIdent y.mention.column.toList = true) (h : x.write u = y.write v) :
    x = y ∧ u = v := by
  cases x with
  | mk mention descending =>
    cases y with
    | mk mention' descending' =>
      obtain ⟨rfl, rest⟩ := Mention.write_inj hx hy (by simpa using by decide)
        (by simpa using by decide) h
      obtain ⟨rfl, same⟩ := prefixFree_direction.inj (List.cons.inj rest).2
      exact ⟨rfl, same⟩

/-- What follows the sort order is no entry of it. -/
theorem writeSorting_ne {level : Nat} {first : Bool} {k : SortedBy} {ks : List SortedBy}
    {u v : List Char} (hu : Meets [(')', [])] u) : writeSorting level first (k :: ks) v ≠ u := by
  rw [writeSorting]
  generalize k.write (writeSorting level false ks v) = rest
  cases first with
  | true =>
    rw [sortingWord, if_pos rfl, newLine_append]
    exact hu.ne_newLine (by decide) (by decide) (by simp)
  | false =>
    intro h
    have comma := hu.head_eq (c := ',') (by rw [← h]; rfl)
    exact absurd comma (by decide)

theorem writeSorting_inj {level : Nat} {first : Bool} {xs ys : List SortedBy} {u v : List Char}
    (hx : ∀ k ∈ xs, isPlainIdent k.mention.column.toList = true)
    (hy : ∀ k ∈ ys, isPlainIdent k.mention.column.toList = true)
    (hu : Meets [(')', [])] u) (hv : Meets [(')', [])] v)
    (h : writeSorting level first xs u = writeSorting level first ys v) : xs = ys ∧ u = v := by
  induction xs generalizing first ys with
  | nil =>
    cases ys with
    | nil => exact ⟨rfl, h⟩
    | cons y ys => exact absurd h.symm (writeSorting_ne hu)
  | cons x xs ih =>
    cases ys with
    | nil => exact absurd h (writeSorting_ne hv)
    | cons y ys =>
      rw [List.forall_mem_cons] at hx hy
      rw [writeSorting, writeSorting] at h
      obtain ⟨rfl, rest⟩ := SortedBy.write_inj hx.1 hy.1 (List.append_cancel_left h)
      obtain ⟨rfl, same⟩ := ih hx.2 hy.2 rest
      exact ⟨rfl, same⟩

theorem meets_writeSorting (level : Nat) (ks : List SortedBy) {u : List Char}
    (hu : Meets [(')', [])] u) :
    Meets [('O', ['R']), (')', [])] (writeSorting level true ks u) := by
  cases ks with
  | nil => exact hu.mono (List.subset_cons_self ..)
  | cons k ks =>
    exact .inr ⟨level, 'O', ['R'], _, List.mem_cons_self .., newLine_append level _ _⟩

/-! ## Tables -/

theorem qualifiedChars_inj {database database' : Option String} {name name' : String}
    {u v : List Char} (hd : ∀ db, database = some db → isPlainIdent db.toList = true)
    (hd' : ∀ db, database' = some db → isPlainIdent db.toList = true)
    (hn : isPlainIdent name.toList = true) (hn' : isPlainIdent name'.toList = true)
    (h : qualifiedChars database name ++ ' ' :: u = qualifiedChars database' name' ++ ' ' :: v) :
    database = database' ∧ name = name' ∧ u = v := by
  -- a name ends at a space or, if it is a database, at a dot
  have ident {s t : String} {c d : Char} {u v : List Char} (hs : isPlainIdent s.toList = true)
      (ht : isPlainIdent t.toList = true) (hc : isIdentPart c = false)
      (hd : isIdentPart d = false) (h : s.toList ++ c :: u = t.toList ++ d :: v) :
      s = t ∧ c = d ∧ u = v := by
    obtain ⟨names, rest⟩ := span_inj (isIdentPart_of_isPlainIdent hs)
      (isIdentPart_of_isPlainIdent ht) (by simpa using hc) (by simpa using hd) h
    exact ⟨String.toList_inj.1 names, List.cons.inj rest⟩
  have qualified {db : String} (plain : isPlainIdent db.toList = true) (name : String)
      (u : List Char) :
      qualifiedChars (some db) name ++ u = db.toList ++ '.' :: (name.toList ++ u) := by
    have shown : db.isEmpty = false := by
      rw [← Bool.not_eq_true]
      intro empty
      rw [String.isEmpty_iff.1 empty] at plain
      exact absurd plain (by decide)
    simp [qualifiedChars, shown]
  cases database with
  | none =>
    cases database' with
    | none =>
      obtain ⟨names, -, same⟩ := ident hn hn' (by decide) (by decide) h
      exact ⟨rfl, names, same⟩
    | some db' =>
      rw [qualified (hd' db' rfl)] at h
      exact absurd (ident hn (hd' db' rfl) (by decide) (by decide) h).2.1 (by decide)
  | some db =>
    rw [qualified (hd db rfl)] at h
    cases database' with
    | none => exact absurd (ident (hd db rfl) hn' (by decide) (by decide) h).2.1 (by decide)
    | some db' =>
      rw [qualified (hd' db' rfl)] at h
      obtain ⟨databases, -, rest⟩ := ident (hd db rfl) (hd' db' rfl) (by decide) (by decide) h
      obtain ⟨names, -, same⟩ := ident hn hn' (by decide) (by decide) rest
      exact ⟨congrArg some databases, names, same⟩

/-- A table is not a derived one. -/
theorem qualifiedChars_ne {database : Option String} {name : String} {u v : List Char}
    (hd : ∀ db, database = some db → isPlainIdent db.toList = true)
    (hn : isPlainIdent name.toList = true) : qualifiedChars database name ++ u ≠ '(' :: v := by
  cases database with
  | none => exact plain_ne_cons hn (by decide)
  | some db =>
    rw [qualifiedChars]
    split
    · exact plain_ne_cons hn (by decide)
    · rw [List.append_assoc]
      exact plain_ne_cons (hd db rfl) (by decide)

/-! ## Trees -/

mutual

/-- A resolved spec whose names are plain identifiers and whose numbers look like numbers. -/
def Resolved.Legible : Resolved → Prop
  | ⟨database, table, outputs, links, checks, sorting⟩ =>
    (∀ db, database = some db → isPlainIdent db.toList = true) ∧
      isPlainIdent table.toList = true ∧
      (∀ c ∈ outputs, isPlainIdent c.mention.column.toList = true) ∧
      LegibleLinks links ∧
      (∀ c ∈ checks, isPlainIdent c.mention.column.toList = true ∧ c.value.Numeral) ∧
      ∀ k ∈ sorting, isPlainIdent k.mention.column.toList = true

/-- Joins whose names are plain identifiers and whose numbers look like numbers. -/
def LegibleLinks : List (Link Resolved) → Prop
  | [] => True
  | ⟨_, left, partner, column⟩ :: rest =>
    isPlainIdent left.column.toList = true ∧ isPlainIdent column.toList = true ∧
      LegiblePartner partner ∧ LegibleLinks rest

/-- What is joined, with plain identifiers as names and numbers that look like numbers. -/
def LegiblePartner : Partner Resolved → Prop
  | .table name => isPlainIdent name.toList = true
  | .derived tree => tree.Legible

end

theorem JoinKind.sql_eq_cons (kind : JoinKind) :
    ∃ c d w, (c, d) ∈ [('I', 'N'), ('L', 'E'), ('R', 'I'), ('O', 'U')] ∧
      kind.sql.toList = c :: d :: w := by
  cases kind with
  | inner => exact ⟨'I', 'N', _, by decide, rfl⟩
  | left => exact ⟨'L', 'E', _, by decide, rfl⟩
  | right => exact ⟨'R', 'I', _, by decide, rfl⟩
  | outer => exact ⟨'O', 'U', _, by decide, rfl⟩

/-- What follows the joins is no join: the only one that starts as `ORDER BY` does is `OUTER`. -/
theorem writeLinks_ne {level : Nat} {database : Option String} {number : Nat}
    {link : Link Resolved} {links : List (Link Resolved)} {u v : List Char}
    (hu : Meets [('W', []), ('O', ['R']), (')', [])] u) :
    writeLinks level database number (link :: links) v ≠ u := by
  cases link with
  | mk kind left partner column =>
    obtain ⟨c, d, w, member, spelled⟩ := JoinKind.sql_eq_cons kind
    rw [writeLinks, spelled]
    refine hu.ne_newLine (by decide) ?_ ?_
    · rintro rfl
      simp at member
    · simp only [List.mem_cons, Prod.mk.injEq, List.not_mem_nil, or_false] at member
      rcases member with ⟨rfl, rfl⟩ | ⟨rfl, rfl⟩ | ⟨rfl, rfl⟩ | ⟨rfl, rfl⟩
      · simp
      · simp
      · simp
      · simp

theorem stop_writeLinks {level : Nat} {database : Option String} {number : Nat}
    {links : List (Link Resolved)} {u : List Char} (hu : Stop u) :
    Stop (writeLinks level database number links u) := by
  cases links with
  | nil =>
    rw [writeLinks]
    exact hu
  | cons link links =>
    cases link with
    | mk kind left partner column =>
      rw [writeLinks]
      exact stop_newLine level _

mutual

theorem Resolved.write_inj (level : Nat) (x y : Resolved) {u v : List Char} (hx : x.Legible)
    (hy : y.Legible) (hu : Meets [(')', [])] u) (hv : Meets [(')', [])] v)
    (h : x.write level u = y.write level v) : x = y ∧ u = v :=
  match x, y with
  | ⟨database, table, outputs, links, checks, sorting⟩,
    ⟨database', table', outputs', links', checks', sorting'⟩ => by
    rw [Resolved.Legible] at hx hy
    obtain ⟨hd, ht, ho, hl, hc, hs⟩ := hx
    obtain ⟨hd', ht', ho', hl', hc', hs'⟩ := hy
    rw [Resolved.write, Resolved.write] at h
    have sorted := meets_writeSorting level sorting hu
    have sorted' := meets_writeSorting level sorting' hv
    have checked := meets_writeChecks level checks sorted
    have checked' := meets_writeChecks level checks' sorted'
    obtain ⟨rfl, fromLine⟩ := writeOutputs_inj ho ho'
      (.inr ⟨level, 'F', [], _, List.mem_cons_self .., rfl⟩)
      (.inr ⟨level, 'F', [], _, List.mem_cons_self .., rfl⟩) (List.append_cancel_left h)
    obtain ⟨rfl, rfl, primary⟩ := qualifiedChars_inj hd hd' ht ht'
      (cancel_word ['F', 'R', 'O', 'M', ' '] (newLine_cancel fromLine))
    obtain ⟨rfl, conditions⟩ := writeLinks_inj level database 2 links links' hd hl hl' checked
      checked' (List.append_cancel_left (cancel_word ['A', 'S', ' '] primary))
    obtain ⟨rfl, order⟩ := writeChecks_inj hc hc' sorted sorted' conditions
    obtain ⟨rfl, rest⟩ := writeSorting_inj hs hs' hu hv order
    exact ⟨rfl, rest⟩

theorem writeLinks_inj (level : Nat) (database : Option String) (number : Nat)
    (xs ys : List (Link Resolved)) {u v : List Char}
    (hd : ∀ db, database = some db → isPlainIdent db.toList = true) (hx : LegibleLinks xs)
    (hy : LegibleLinks ys) (hu : Meets [('W', []), ('O', ['R']), (')', [])] u)
    (hv : Meets [('W', []), ('O', ['R']), (')', [])] v)
    (h : writeLinks level database number xs u = writeLinks level database number ys v) :
    xs = ys ∧ u = v :=
  match xs, ys with
  | [], [] => by
    rw [writeLinks, writeLinks] at h
    exact ⟨rfl, h⟩
  | [], y :: ys => by
    rw [writeLinks] at h
    exact absurd h.symm (writeLinks_ne hu)
  | x :: xs, [] => by
    rw [writeLinks.eq_1] at h
    exact absurd h (writeLinks_ne hv)
  | ⟨kind, left, partner, column⟩ :: xs, ⟨kind', left', partner', column'⟩ :: ys => by
    rw [LegibleLinks] at hx hy
    obtain ⟨hl, hc, hp, hx⟩ := hx
    obtain ⟨hl', hc', hp', hy⟩ := hy
    rw [writeLinks, writeLinks] at h
    obtain ⟨rfl, joined⟩ := prefixFree_kind.inj (newLine_cancel h)
    obtain ⟨rfl, named⟩ := writePartner_inj level database partner partner' hd hp hp'
      (List.append_cancel_left joined)
    obtain ⟨rfl, equation⟩ := Mention.write_inj hl hl' (by simpa using by decide)
      (by simpa using by decide) (cancel_word [' ', 'O', 'N', ' ']
        (List.append_cancel_left (cancel_word ['A', 'S', ' '] named)))
    obtain ⟨target, others⟩ := Mention.write_inj (x := ⟨number, column⟩) (y := ⟨number, column'⟩)
      hc hc' (stop_writeLinks hu.stop).not_part (stop_writeLinks hv.stop).not_part
      (List.append_cancel_left equation)
    obtain ⟨rfl, rest⟩ := writeLinks_inj level database (number + 1) xs ys hd hx hy hu hv others
    cases target
    exact ⟨rfl, rest⟩

theorem writePartner_inj (level : Nat) (database : Option String) (x y : Partner Resolved)
    {u v : List Char} (hd : ∀ db, database = some db → isPlainIdent db.toList = true)
    (hx : LegiblePartner x) (hy : LegiblePartner y)
    (h : writePartner level database x (' ' :: u) = writePartner level database y (' ' :: v)) :
    x = y ∧ u = v :=
  match x, y with
  | .table name, .table name' => by
    rw [writePartner, writePartner] at h
    obtain ⟨-, rfl, rest⟩ := qualifiedChars_inj hd hd hx hy h
    exact ⟨rfl, rest⟩
  | .table name, .derived tree => by
    rw [writePartner, writePartner] at h
    exact absurd h (qualifiedChars_ne hd hx)
  | .derived tree, .table name => by
    rw [writePartner, writePartner] at h
    exact absurd h.symm (qualifiedChars_ne hd hy)
  | .derived tree, .derived tree' => by
    rw [writePartner, writePartner] at h
    obtain ⟨rfl, closed⟩ := Resolved.write_inj (level + 1) tree tree' hx hy
      (.inr ⟨level, ')', [], _, List.mem_cons_self .., rfl⟩)
      (.inr ⟨level, ')', [], _, List.mem_cons_self .., rfl⟩)
      (newLine_cancel (List.cons.inj h).2)
    exact ⟨rfl, cancel_word [')', ' '] (newLine_cancel closed)⟩

end

end QueryDesk.Sql
