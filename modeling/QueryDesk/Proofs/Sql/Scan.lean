import QueryDesk.Sql.Scope
import QueryDesk.Sql.Token
import QueryDesk.Proofs.Json.Number

/-!
# Scanning SQL text

A scanner that reads SQL text from left to right knows three kinds of place: plain text, the inside
of a string between single quotes and the inside of an identifier between double quotes.  Inside
quotes a doubled quote stands for one.  A list of tokens scans to the texts of its literals and
quoted labels when nothing else in it has a quote and a quoted text is not followed by a quote.
-/

namespace QueryDesk.Sql

open QueryDesk.Query QueryDesk.Json

/-- Where a scanner is: outside of quotes, or inside quotes of a kind after some text. -/
inductive Region where
  | plain
  | inside (quote : Char) (text : List Char)
deriving DecidableEq, Repr

/-- What a scanner found: where it ended, and the texts between single and between double quotes,
    in order. -/
structure Scan where
  ends : Region
  singles : List (List Char)
  doubles : List (List Char)
deriving DecidableEq, Repr

/-- A scan with a text between quotes before it. -/
def Scan.quoted (found : Scan) (quote : Char) (text : List Char) : Scan :=
  if quote = '\'' then { found with singles := text :: found.singles }
  else { found with doubles := text :: found.doubles }

/-- Scans SQL text from a place on. -/
def scan : Region → List Char → Scan
  | place, [] =>
    ⟨place, [], []⟩
  | .plain, c :: rest =>
    if c = '\'' ∨ c = '"' then scan (.inside c []) rest else scan .plain rest
  | .inside quote text, [c] =>
    if c = quote then (⟨.plain, [], []⟩ : Scan).quoted quote text
    else ⟨.inside quote (text ++ [c]), [], []⟩
  | .inside quote text, c :: d :: rest =>
    if c = quote then
      if d = quote then scan (.inside quote (text ++ [quote])) rest
      else (scan .plain (d :: rest)).quoted quote text
    else scan (.inside quote (text ++ [c])) (d :: rest)

theorem scan_other {quote c : Char} {text rest : List Char} (other : c ≠ quote) :
    scan (.inside quote text) (c :: rest) = scan (.inside quote (text ++ [c])) rest := by
  cases rest with
  | nil => simp only [scan, if_neg other]
  | cons d rest => simp only [scan, if_neg other]

theorem scan_twice {quote : Char} {text rest : List Char} :
    scan (.inside quote text) (quote :: quote :: rest) =
      scan (.inside quote (text ++ [quote])) rest := by
  rw [scan, if_pos rfl, if_pos rfl]

theorem scan_closing {quote : Char} {text rest : List Char} (unquoted : rest.head? ≠ some quote) :
    scan (.inside quote text) (quote :: rest) = (scan .plain rest).quoted quote text := by
  cases rest with
  | nil => simp only [scan, if_true]
  | cons d rest =>
    have other : d ≠ quote := by
      intro same
      exact unquoted (congrArg some same)
    simp only [scan, if_true, if_neg other]

/-- Reading the rest of a quoted text. -/
theorem scan_doubled {quote : Char} {text s rest : List Char}
    (unquoted : rest.head? ≠ some quote) :
    scan (.inside quote text) (doubled quote s ++ quote :: rest) =
      (scan .plain rest).quoted quote (text ++ s) := by
  induction s generalizing text with
  | nil =>
    rw [List.append_nil]
    exact scan_closing unquoted
  | cons c s ih =>
    rw [doubled, List.flatMap_cons, ← doubled]
    by_cases same : c = quote
    · subst same
      rw [if_pos rfl, List.append_assoc, List.cons_append, List.singleton_append, scan_twice, ih,
        List.append_assoc, List.singleton_append]
    · rw [if_neg same, List.append_assoc, List.singleton_append, scan_other same, ih,
        List.append_assoc, List.singleton_append]

/-- A quoted text is read back, whatever it is, when no quote follows. -/
theorem scan_quote {q : Char} {s rest : List Char} (isQuote : q = '\'' ∨ q = '"')
    (unquoted : rest.head? ≠ some q) :
    scan .plain (quote q s ++ rest) = (scan .plain rest).quoted q s := by
  rw [quote, List.cons_append, scan, if_pos isQuote, List.append_assoc, List.singleton_append,
    scan_doubled unquoted]
  rfl

example : scan .plain (quote '\'' "it's".toList ++ " AND".toList) =
    ⟨.plain, ["it's".toList], []⟩ := by
  decide

/-! ## Text without quotes -/

/-- A text without quotes. -/
def Clean (s : List Char) : Prop :=
  '\'' ∉ s ∧ '"' ∉ s

instance (s : List Char) : Decidable (Clean s) :=
  inferInstanceAs (Decidable (_ ∧ _))

/-- A text that does not start with a quote. -/
def Unquoted (s : List Char) : Prop :=
  s.head? ≠ some '\'' ∧ s.head? ≠ some '"'

theorem clean_append {s t : List Char} : Clean (s ++ t) ↔ Clean s ∧ Clean t := by
  simp only [Clean, List.mem_append, not_or]
  constructor
  · rintro ⟨⟨a, b⟩, c, d⟩
    exact ⟨⟨a, c⟩, b, d⟩
  · rintro ⟨⟨a, c⟩, b, d⟩
    exact ⟨⟨a, b⟩, c, d⟩

theorem unquoted_append {s rest : List Char} (clean : Clean s) (unquoted : Unquoted rest) :
    Unquoted (s ++ rest) := by
  cases s with
  | nil => exact unquoted
  | cons c s =>
    constructor
    · intro same
      cases same
      exact clean.1 (List.mem_cons_self ..)
    · intro same
      cases same
      exact clean.2 (List.mem_cons_self ..)

theorem scan_clean {s rest : List Char} (clean : Clean s) :
    scan .plain (s ++ rest) = scan .plain rest := by
  induction s with
  | nil => rfl
  | cons c s ih =>
    have notQuote : ¬ (c = '\'' ∨ c = '"') := by
      rintro (rfl | rfl)
      · exact clean.1 (List.mem_cons_self ..)
      · exact clean.2 (List.mem_cons_self ..)
    have rest : Clean s :=
      ⟨fun member => clean.1 (List.mem_cons_of_mem c member),
        fun member => clean.2 (List.mem_cons_of_mem c member)⟩
    rw [List.cons_append, scan, if_neg notQuote, ih rest]

theorem scan_space {rest : List Char} : scan .plain (' ' :: rest) = scan .plain rest :=
  scan_clean (s := [' ']) (by decide)

theorem clean_of_numeric {s : List Char} (numeric : ∀ c ∈ s, Numeric c) : Clean s := by
  refine ⟨?_, ?_⟩
  · intro member
    exact absurd (numeric _ member) (by decide)
  · intro member
    exact absurd (numeric _ member) (by decide)

theorem isIdentPart_of_isPlainIdent {s : List Char} (ident : isPlainIdent s = true) :
    ∀ c ∈ s, isIdentPart c = true := by
  cases s with
  | nil => simp
  | cons c rest =>
    simp only [isPlainIdent, Bool.and_eq_true, List.all_eq_true] at ident
    rw [List.forall_mem_cons]
    refine ⟨?_, ident.2⟩
    have start := ident.1
    simp only [isIdentStart, isIdentPart, Char.isAlphanum, Bool.or_eq_true] at start ⊢
    exact start.imp_left .inl

theorem clean_of_isPlainIdent {s : List Char} (ident : isPlainIdent s = true) : Clean s := by
  have part := isIdentPart_of_isPlainIdent ident
  refine ⟨?_, ?_⟩
  · intro member
    exact absurd (part _ member) (by decide)
  · intro member
    exact absurd (part _ member) (by decide)

theorem clean_aliasName (n : Nat) : Clean (aliasName n).toList := by
  have start : Clean "t".toList := by decide
  have digits : Clean (String.ofList (decimalDigits n)).toList := by
    rw [String.toList_ofList]
    exact clean_of_numeric fun c => numeric_of_mem_decimalDigits
  rw [aliasName, String.toList_append]
  exact clean_append.2 ⟨start, digits⟩

/-! ## Tokens -/

/-- A token that is written without quotes. -/
def Token.Bare : Token → Prop
  | .ident name => Clean name.toList
  | .qualified database name => Clean (qualifiedChars database name)
  | .label _ => False
  | .string _ => False
  | _ => True

theorem clean_of_bare {t : Token} (bare : t.Bare) : Clean t.chars := by
  cases t with
  | ident name => exact bare
  | qualified database name => exact bare
  | label text => exact bare.elim
  | string text => exact bare.elim
  | number value => exact clean_of_numeric fun c => numeric_of_mem_chars
  | indent levels =>
    refine ⟨?_, ?_⟩
    · intro member
      cases List.eq_of_mem_replicate member
    · intro member
      cases List.eq_of_mem_replicate member
  | join kind => cases kind <;> decide
  | operator comparison => cases comparison <;> decide
  | function aggregate => cases aggregate <;> decide
  | bool value => cases value <;> decide
  | _ => decide

/-- Tokens that are written without quotes. -/
def Bare (ts : List Token) : Prop :=
  ∀ t ∈ ts, t.Bare

theorem bare_nil : Bare [] :=
  List.forall_mem_nil _

theorem bare_cons {t : Token} {ts : List Token} : Bare (t :: ts) ↔ t.Bare ∧ Bare ts :=
  List.forall_mem_cons

theorem bare_append {ts us : List Token} : Bare (ts ++ us) ↔ Bare ts ∧ Bare us :=
  List.forall_mem_append

theorem clean_tokensChars {ts : List Token} (bare : Bare ts) : Clean (tokensChars ts) := by
  induction ts with
  | nil => exact ⟨List.not_mem_nil, List.not_mem_nil⟩
  | cons t ts ih =>
    rw [bare_cons] at bare
    rw [tokensChars, List.flatMap_cons, ← tokensChars]
    exact clean_append.2 ⟨clean_of_bare bare.1, ih bare.2⟩

/-- A scan with some texts between quotes before it. -/
def Scan.after (found : Scan) (singles doubles : List String) : Scan :=
  ⟨found.ends, singles.map String.toList ++ found.singles,
    doubles.map String.toList ++ found.doubles⟩

/-- Tokens that scan to some texts between single and some between double quotes, and that do not
    start with a quote, provided that what stands behind them does not. -/
structure Scans (ts : List Token) (singles doubles : List String) : Prop where
  unquoted : ∀ rest, Unquoted rest → Unquoted (tokensChars ts ++ rest)
  scan : ∀ rest, Unquoted rest →
    scan .plain (tokensChars ts ++ rest) = (scan .plain rest).after singles doubles

theorem Scans.append {ts us : List Token} {singles singles' doubles doubles' : List String}
    (h : Scans ts singles doubles) (h' : Scans us singles' doubles') :
    Scans (ts ++ us) (singles ++ singles') (doubles ++ doubles') := by
  have chars : tokensChars (ts ++ us) = tokensChars ts ++ tokensChars us := List.flatMap_append
  refine ⟨?_, ?_⟩
  · intro rest unquoted
    rw [chars, List.append_assoc]
    exact h.unquoted _ (h'.unquoted rest unquoted)
  · intro rest unquoted
    rw [chars, List.append_assoc, h.scan _ (h'.unquoted rest unquoted), h'.scan rest unquoted]
    simp [Scan.after]

/-- The text of a token behind a space. -/
theorem tokensChars_space (t : Token) : tokensChars [.space, t] = ' ' :: t.chars := by
  rw [tokensChars, List.flatMap_cons, List.flatMap_singleton]
  rfl

theorem scans_bare {ts : List Token} (bare : Bare ts) : Scans ts [] [] := by
  have clean := clean_tokensChars bare
  refine ⟨?_, ?_⟩
  · intro rest unquoted
    exact unquoted_append clean unquoted
  · intro rest unquoted
    rw [scan_clean clean]
    rfl

/-- A string literal behind a space scans to its text. -/
theorem scans_string (s : String) : Scans [.space, .string s] [s] [] := by
  have chars : tokensChars [.space, .string s] = ' ' :: quote '\'' s.toList :=
    tokensChars_space (.string s)
  refine ⟨?_, ?_⟩
  · intro rest _
    rw [chars]
    exact ⟨by simp, by simp⟩
  · intro rest unquoted
    have text := scan_quote (q := '\'') (s := s.toList) (.inl rfl) unquoted.1
    rw [chars, List.cons_append, scan_space, text]
    rfl

/-- A label behind a space scans to its text if it is quoted. -/
theorem scans_label (s : String) :
    Scans [.space, .label s] [] (if isPlainIdent s.toList then [] else [s]) := by
  have chars : tokensChars [.space, .label s] = ' ' :: labelChars s.toList :=
    tokensChars_space (.label s)
  refine ⟨?_, ?_⟩
  · intro rest _
    rw [chars]
    exact ⟨by simp, by simp⟩
  · intro rest unquoted
    rw [chars, List.cons_append, scan_space, labelChars]
    split
    · rename_i ident
      rw [scan_clean (clean_of_isPlainIdent ident)]
      rfl
    · have text := scan_quote (q := '"') (s := s.toList) (.inr rfl) unquoted.2
      rw [text]
      rfl

end QueryDesk.Sql
