import QueryDesk.Proofs.Json.Denotation
import QueryDesk.Proofs.Query.RoundTrip
import QueryDesk.Proofs.Sql.Conditions

/-!
# Integers in filters

The text of a number filter is read as a number, and what the SQL and the JSON form show is the text
of that number.  An integer of 64 bits is shown as it is.  A larger one becomes a double, and the
text of a double is its shortest decimal; `shown_denotes_iff` says which integers that text still
denotes.  A large double's shortest decimal ends in two zeros at least, so all others change.
-/

namespace QueryDesk.Json

open QueryDesk.Number

/-! ## Numerals of digits only -/

/-- A numeral without a fraction and an exponent. -/
structure Numeral.IsWhole (x : Numeral) : Prop where
  fraction : x.fraction = none
  exponent : x.exponent = none

/-- The value of the digits of a numeral before its point. -/
def Numeral.size (x : Numeral) : Nat :=
  Nat.ofDigitChars 10 x.whole 0

/-- The integer that a numeral of digits only is. -/
def Numeral.integer (x : Numeral) : ℤ :=
  if x.negative then -x.size else x.size

/-- An integer that fits into 64 bits, signed or unsigned. -/
def Fits (i : ℤ) : Prop :=
  -(Nat.pow 2 63 : ℤ) ≤ i ∧ i < (Nat.pow 2 64 : ℤ)

instance (i : ℤ) : Decidable (Fits i) :=
  inferInstanceAs (Decidable (_ ∧ _))

theorem digitValue_le {d : Char} (digit : isDigit d = true) : digitValue d ≤ 9 := by
  simp only [isDigit, Bool.and_eq_true, decide_eq_true_eq] at digit
  have most : d.toNat ≤ 57 := digit.2
  have zero : ('0' : Char).toNat = 48 := rfl
  rw [digitValue, zero]
  omega

theorem collect_le {ds : List Char} {value : Nat} (fits : value ≤ maxUnsigned) :
    (collect value ds).1 ≤ maxUnsigned := by
  induction ds generalizing value with
  | nil => exact fits
  | cons d ds ih =>
    rw [collect]
    split
    · exact fits
    · rename_i next
      exact ih (Nat.not_lt.1 next)

/-- The digits that are collected have the collected value, and the next one did not fit. -/
theorem collect_spec (ds : List Char) (value : Nat) :
    ∃ read, ds = read ++ (collect value ds).2 ∧
      (collect value ds).1 = Nat.ofDigitChars 10 read value ∧
      ∀ d rest, (collect value ds).2 = d :: rest →
        maxUnsigned < (collect value ds).1 * 10 + digitValue d := by
  induction ds generalizing value with
  | nil =>
    refine ⟨[], rfl, rfl, ?_⟩
    intro d rest left
    cases left
  | cons d ds ih =>
    rw [collect]
    split
    · rename_i excess
      refine ⟨[], rfl, rfl, ?_⟩
      intro e rest left
      cases left
      exact excess
    · obtain ⟨read, digits, found, excess⟩ := ih (value * 10 + digitValue d)
      refine ⟨d :: read, ?_, ?_, excess⟩
      · rw [List.cons_append, ← digits]
      · rw [found, Nat.ofDigitChars_cons, Nat.mul_comm]
        rfl

/-- An integer times a power of ten is not rounded below the powers of two that are not above
    them, unless it is lost. -/
theorem le_scaled {w a k units : Nat} (least : 2 ^ a ≤ w) (h : scaled w (k : ℤ) = some units) :
    units = 0 ∨ 2 ^ (a + 3 * k) * Binary64.one ≤ units := by
  obtain ⟨rounded, integer, h⟩ := Option.bind_eq_some_iff.1 h
  have bound := Binary64.two_pow_le_ofNat? least integer
  dsimp only at h
  split_ifs at h
  · rcases Binary64.powerOfTen_cases k with lost | power
    · rw [lost, Binary64.mul?_zero] at h
      exact .inl (Option.some.inj h).symm
    · exact .inr (Binary64.two_pow_le_mul? bound power h)
  · exact .inl (Option.some.inj h).symm

section

variable {x : Numeral} {units : Nat}

theorem Numeral.rational_of_isWhole (whole : x.IsWhole) : x.rational = x.integer := by
  have unsigned : x.unsigned = x.size := by
    rw [unsigned, scale, whole.fraction, whole.exponent]
    simp [size]
  rw [rational, integer, unsigned]
  split_ifs <;> simp

/-- A numeral of digits only is read as an integer just when it fits into 64 bits and is not minus
    zero. -/
theorem Numeral.integer?_of_isWhole (whole : x.IsWhole) (i : ℤ) :
    x.integer? = some i ↔
      i = x.integer ∧ Fits x.integer ∧ (x.negative = true → x.size ≠ 0) := by
  have least : Nat.pow 2 63 = 9223372036854775808 := rfl
  have most : Nat.pow 2 64 = 18446744073709551616 := rfl
  unfold integer? Fits integer
  rw [whole.fraction, whole.exponent, least, most]
  by_cases fits : x.size ≤ maxUnsigned
  · have collected : collect 0 x.whole = (x.size, []) := collect_eq fits
    rw [maxUnsigned, most] at fits
    rw [collected]
    cases x.negative with
    | false =>
      simp only [Option.isSome_none, Bool.or_self, Bool.false_eq_true, ↓reduceIte,
        List.isEmpty_nil, Bool.not_true, Bool.not_false, Option.some.injEq, ne_eq,
        IsEmpty.forall_iff, and_true]
      omega
    | true =>
      simp only [Option.isSome_none, Bool.or_self, Bool.false_eq_true, ↓reduceIte,
        List.isEmpty_nil, Bool.not_true, Bool.or_eq_true, decide_eq_true_eq,
        Option.ite_none_left_eq_some, Option.some.injEq, ne_eq, forall_const]
      omega
  · have left : (collect 0 x.whole).2.isEmpty = false := by
      obtain ⟨read, digits, value, -⟩ := collect_spec x.whole 0
      rw [Bool.eq_false_iff]
      intro empty
      rw [List.isEmpty_iff.1 empty, List.append_nil] at digits
      have within : (collect 0 x.whole).1 ≤ maxUnsigned := collect_le (Nat.zero_le _)
      rw [value, ← digits] at within
      exact fits within
    rw [maxUnsigned, most] at fits
    have excess : ¬ (-9223372036854775808 ≤ (if x.negative then -(x.size : ℤ) else x.size) ∧
        (if x.negative then -(x.size : ℤ) else x.size) < 18446744073709551616) := by
      split_ifs <;> omega
    refine iff_of_false ?_ ?_
    · simp [left]
    · rintro ⟨-, within, -⟩
      exact excess within

theorem Numeral.magnitude_eq (whole : x.IsWhole) :
    x.magnitude = scaled (collect 0 x.whole).1 (collect 0 x.whole).2.length := by
  rw [magnitude, whole.fraction, whole.exponent]
  simp [collect]

/-- A numeral of digits only that is `2 ^ 63` or more becomes a double that is not smaller, or
    zero. -/
theorem Numeral.le_magnitude (whole : x.IsWhole) (digits : Digits x.whole)
    (large : 2 ^ 63 ≤ x.size) (h : x.magnitude = some units) :
    units = 0 ∨ 2 ^ 63 * Binary64.one ≤ units := by
  rw [magnitude_eq whole] at h
  obtain ⟨read, split, value, excess⟩ := collect_spec x.whole 0
  cases left : (collect 0 x.whole).2 with
  | nil =>
    rw [left, List.append_nil] at split
    rw [left, value, ← split] at h
    have bound := le_scaled large h
    rwa [List.length_nil, Nat.mul_zero, Nat.add_zero] at bound
  | cons d rest =>
    have digit : digitValue d ≤ 9 := by
      refine digitValue_le (digits.2 d ?_)
      rw [split, left]
      simp
    have least : 2 ^ 60 ≤ (collect 0 x.whole).1 := by
      have := excess d rest left
      have most : maxUnsigned = 18446744073709551615 := rfl
      omega
    rw [left] at h
    refine (le_scaled least h).imp_right fun bound => Nat.le_trans ?_ bound
    refine Nat.mul_le_mul_right _ (Nat.pow_le_pow_right (by decide) ?_)
    rw [List.length_cons]
    omega

theorem Numeral.magnitude_of_zero (whole : x.IsWhole) (zero : x.size = 0) :
    x.magnitude = some 0 := by
  have fits : Nat.ofDigitChars 10 x.whole 0 ≤ maxUnsigned := by
    rw [← size, zero]
    exact Nat.zero_le _
  have nothing : scaled 0 0 = some 0 := by decide +kernel
  rw [magnitude_eq whole, collect_eq fits, ← size, zero]
  exact nothing

/-! ## What is shown -/

theorem Numeral.abs_integer (x : Numeral) : |(x.integer : ℚ)| = x.size := by
  rw [integer]
  split_ifs <;> simp

/-- The sign of a double is that of the numeral, so only its magnitude matters. -/
theorem Numeral.shown_real_iff (x : Numeral) (units : Nat) :
    (Number.real ⟨x.negative, units⟩).shown = x.integer ↔ magnitudeShown units = x.size := by
  rw [Number.shown, integer]
  cases x.negative <;> simp

/-- A numeral of digits only is shown as the integer that it is just when that fits into 64 bits or
    is, but for its sign, the shortest decimal of the numeral's double. -/
theorem Numeral.shown_eq_iff {n : Number} (whole : x.IsWhole) (h : x.value? = some n) :
    n.shown = x.integer ↔ Fits x.integer ∨ ∃ units, x.magnitude = some units ∧ 0 < units ∧
      (Binary64.shortest units).rational = |(x.integer : ℚ)| := by
  unfold value? at h
  cases found : x.integer? with
  | some i =>
    rw [found] at h
    cases h
    obtain ⟨rfl, fits, -⟩ := (integer?_of_isWhole whole i).1 found
    exact iff_of_true rfl (.inl fits)
  | none =>
    rw [found] at h
    obtain ⟨units, magnitude, rfl⟩ := Option.map_eq_some_iff.1 h
    have unfit : ¬ (Fits x.integer ∧ (x.negative = true → x.size ≠ 0)) := by
      intro fits
      rw [(integer?_of_isWhole whole _).2 ⟨rfl, fits⟩] at found
      cases found
    rw [shown_real_iff, abs_integer, magnitude, magnitudeShown]
    by_cases zero : x.size = 0
    · -- this is minus zero
      obtain rfl : 0 = units :=
        Option.some.inj ((magnitude_of_zero whole zero).symm.trans magnitude)
      have fits : Fits x.integer := by
        rw [integer, zero]
        cases x.negative <;> decide
      rw [if_pos rfl, zero]
      exact iff_of_true Nat.cast_zero.symm (.inl fits)
    · have nonzero : (x.size : ℚ) ≠ 0 := Nat.cast_ne_zero.2 zero
      have beyond : ¬ Fits x.integer := fun fits => unfit ⟨fits, fun _ => zero⟩
      constructor
      · intro shown
        split_ifs at shown with lost
        · exact absurd shown.symm nonzero
        · exact .inr ⟨units, rfl, Nat.pos_of_ne_zero lost, shown⟩
      · rintro (fits | ⟨_, same, positive, shortest⟩)
        · exact absurd fits beyond
        · rw [← Option.some.inj same] at positive shortest
          rwa [if_neg (Nat.ne_of_gt positive)]

/-- An integer that does not fit into 64 bits is shown as another number, unless it ends in two
    zeros. -/
theorem Numeral.hundred_dvd_of_shown {n : Number} (whole : x.IsWhole) (digits : Digits x.whole)
    (h : x.value? = some n) (shown : n.shown = x.integer) : Fits x.integer ∨ 100 ∣ x.integer := by
  rcases (shown_eq_iff whole h).1 shown with fits | ⟨units, magnitude, positive, shortest⟩
  · exact .inl fits
  · by_cases fits : Fits x.integer
    · exact .inl fits
    · have large : 2 ^ 63 ≤ x.size := by
        have least : Nat.pow 2 63 = 9223372036854775808 := rfl
        have most : Nat.pow 2 64 = 18446744073709551616 := rfl
        rw [Fits, integer, least, most] at fits
        split_ifs at fits <;> omega
      have bound := (le_magnitude whole digits large magnitude).resolve_left (Nat.ne_of_gt positive)
      obtain ⟨m, multiple⟩ := Binary64.hundred_dvd_shortest bound
      have value : |x.integer| = 100 * m := by
        rw [multiple] at shortest
        exact_mod_cast shortest.symm
      exact .inr ((dvd_abs 100 x.integer).1 ⟨m, value⟩)

end

end QueryDesk.Json

namespace QueryDesk.Query

open QueryDesk.Json QueryDesk.Number QueryDesk.Sql QueryDesk.Text

/-- A text that stands for the literal of a filter wherever the filter is written: behind the
    operator at the end of a line of SQL, and in the JSON form. -/
structure ShownAs (f : Filter) (text : List Char) : Prop where
  sql : ∀ options s sql path n, compile options s = .ok sql → (Node.root s).at? path = some n →
    f ∈ n.spec.filters → ∃ source, resolveAlias n.scopes f.table = .ok source ∧
      EndsLine sql.toList (filterChars source f text)
  json : ∃ members, f.toJson = .object (members ++ [("value", .string (String.ofList text))])

theorem shownAs_of_number {f : Filter} {n : Number} (number : f.value = .number n) :
    ShownAs f n.chars := by
  constructor
  · intro options s sql path m compiled found member
    obtain ⟨source, resolved, line⟩ := compile_writes_filter compiled found member
    rw [number] at line
    exact ⟨source, resolved, line⟩
  · refine ⟨[("table", f.table.toJson), ("field", .string f.column),
      ("operator", .string f.comparison.sql), ("type", .string f.value.kind.name)], ?_⟩
    rw [Filter.toJson, number]
    rfl

/-- The text that is shown for an integer denotes a number, and denotes that integer just when it
    fits into 64 bits or is, but for its sign, the shortest decimal of the double that is nearest to
    it as it is read.  So of the integers beyond 64 bits only multiples of a hundred are shown. -/
theorem shown_denotes_iff {f : FilterForm} {filter : Filter} {x : Numeral}
    (number : f.kind = .number) (spelled : x.Spells (trim f.value).toList) (whole : x.IsWhole)
    (accepted : f.check = .ok filter) :
    Denotes (trim f.value).toList x.integer ∧
      ∃ text, ShownAs filter text ∧ (∃ v, Denotes text v) ∧
        (Denotes text x.integer ↔ Fits x.integer ∨ ∃ units, x.magnitude = some units ∧
          0 < units ∧ (Binary64.shortest units).rational = |(x.integer : ℚ)|) ∧
        (Denotes text x.integer → Fits x.integer ∨ 100 ∣ x.integer) := by
  have digits : Digits x.whole := by
    obtain ⟨_, _, ⟨digits, -⟩, -⟩ := spelled
    exact digits
  have input := (denotes_iff_of_spells spelled).2 (Numeral.rational_of_isWhole whole)
  obtain ⟨n, read, value⟩ : ∃ n, x.value? = some n ∧ filter.value = .number n := by
    rw [FilterForm.check, number, Literal.parse, parse?_of_spells spelled] at accepted
    cases read : x.value? with
    | none =>
      rw [read] at accepted
      cases accepted
    | some n =>
      rw [read] at accepted
      cases accepted
      exact ⟨n, rfl, rfl⟩
  have shown {v : ℚ} : Denotes n.chars v ↔ n.shown = v := by
    constructor
    · intro other
      exact (denotes_chars n).unique other
    · rintro rfl
      exact denotes_chars n
  refine ⟨input, n.chars, shownAs_of_number value, ⟨_, denotes_chars n⟩, ?_, ?_⟩
  · rw [shown]
    exact Numeral.shown_eq_iff whole read
  · rw [shown]
    exact Numeral.hundred_dvd_of_shown whole digits read

theorem spells_digits {ds : List Char} (digits : WholeDigits ds) :
    Numeral.Spells ⟨false, ds, none, none⟩ ds :=
  ⟨[], [], digits, rfl, rfl, by simp⟩

/-- Ten to the power of twenty as a numeral. -/
def roundPrice : Numeral :=
  ⟨false, '1' :: List.replicate 20 '0', none, none⟩

/-- An integer just beyond 64 bits as a numeral. -/
def excessPrice : Numeral :=
  ⟨false, "18446744073709551617".toList, none, none⟩

/-- A condition on the price of orders, as a form. -/
def priceForm (price : String) : FilterForm :=
  ⟨.primary "orders", "price", .eq, .number, price⟩

/-- Ten to the power of twenty, which is shown as `1e+20`, is beyond 64 bits and yet not changed. -/
theorem roundPrice_shown :
    roundPrice.Spells (trim " 100000000000000000000").toList ∧ roundPrice.IsWhole ∧
      ¬ Fits roundPrice.integer ∧
      ∃ filter, (priceForm " 100000000000000000000").check = .ok filter ∧
        ∃ text, ShownAs filter text ∧ Denotes text roundPrice.integer := by
  have spelled : roundPrice.Spells (trim " 100000000000000000000").toList := by
    have text : (trim " 100000000000000000000").toList = roundPrice.whole := by decide +kernel
    rw [text]
    exact spells_digits (by decide)
  have whole : roundPrice.IsWhole := ⟨rfl, rfl⟩
  have found : roundPrice.magnitude.map Binary64.shortest = some ⟨1, 20⟩ := by decide +kernel
  have nonzero : roundPrice.magnitude ≠ some 0 := by decide +kernel
  obtain ⟨units, magnitude, shortest⟩ := Option.map_eq_some_iff.1 found
  have read : roundPrice.value? = some (.real ⟨false, units⟩) := by
    have large : roundPrice.integer? = none := by decide +kernel
    rw [Numeral.value?, large, magnitude]
    rfl
  have accepted : (priceForm " 100000000000000000000").check =
      .ok ⟨.primary "orders", "price", .eq, .number (.real ⟨false, units⟩)⟩ := by
    rw [FilterForm.check, priceForm, Literal.parse, parse?_of_spells spelled, read]
    rfl
  have positive : 0 < units := by
    rw [Nat.pos_iff_ne_zero]
    rintro rfl
    exact nonzero magnitude
  have value : roundPrice.integer = 10 ^ 20 := by decide +kernel
  obtain ⟨-, text, shown, -, exactly, -⟩ :=
    shown_denotes_iff (f := priceForm " 100000000000000000000") rfl spelled whole accepted
  refine ⟨spelled, whole, by decide +kernel, _, accepted, text, shown, ?_⟩
  refine exactly.2 (.inr ⟨units, magnitude, positive, ?_⟩)
  rw [shortest, value]
  norm_num [Decimal.rational]

/-- An integer just beyond 64 bits is changed, in SQL and in the JSON form. -/
theorem excessPrice_changed :
    ∃ s, Spec.parse (pricedJson "18446744073709551617").render = .ok s ∧
      Denotes "18446744073709551617".toList (18446744073709551617 : ℤ) ∧
      compile .default s =
        .ok "SELECT\nFROM orders AS t1\nWHERE\n  t1.price = 1.8446744073709552e+19" ∧
      s.toJson = pricedJson "1.8446744073709552e+19" ∧
      ¬ Denotes "1.8446744073709552e+19".toList (18446744073709551617 : ℤ) := by
  have whole : excessPrice.IsWhole := ⟨rfl, rfl⟩
  have digits : WholeDigits excessPrice.whole := by decide
  have spelled := spells_digits digits
  have value : excessPrice.integer = 18446744073709551617 := by decide +kernel
  have written :
      excessPrice.value?.map (fun n => (n.text, (compile .default (priced n)).toOption)) =
      some ("1.8446744073709552e+19",
        some "SELECT\nFROM orders AS t1\nWHERE\n  t1.price = 1.8446744073709552e+19") := by
    decide +kernel
  obtain ⟨n, read, written⟩ := Option.map_eq_some_iff.1 written
  obtain ⟨text, sql⟩ := Prod.mk.inj written
  have trimmed : trim "18446744073709551617" = "18446744073709551617" := by decide +kernel
  refine ⟨priced n, parse_priced ?_, ?_, ?_, ?_, ?_⟩
  · rw [trimmed]
    exact (parse?_of_spells spelled).trans read
  · rw [← value]
    exact (denotes_iff_of_spells spelled).2 (Numeral.rational_of_isWhole whole)
  · cases compiled : compile .default (priced n) with
    | error e =>
      rw [compiled] at sql
      cases sql
    | ok shown =>
      rw [compiled] at sql
      rw [Option.some.inj sql]
  · rw [toJson_priced, text]
  · rw [← text, Number.text, String.toList_ofList, ← value]
    intro same
    have unfit : ¬ (Fits excessPrice.integer ∨ 100 ∣ excessPrice.integer) := by decide +kernel
    exact unfit (Numeral.hundred_dvd_of_shown whole digits.1 read ((denotes_chars n).unique same))

end QueryDesk.Query
