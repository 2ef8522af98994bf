import Mathlib.Data.String.Basic
import QueryDesk.Proofs.Record.Timestamp
import QueryDesk.Proofs.Text.Utf8

/-!
# Texts of timestamps sort as moments do

Days are counted through the calendar, and a moment is earlier than another one if it lies in an
earlier minute, or earlier in the same minute.  The parts of a timestamp compare from the largest
unit down as the moments do (`isBefore_iff`), and so do the texts with six fraction digits, octet
by octet, for moments of the years 0 to 9999 in whole microseconds (`microsText_lt_iff`).
-/

namespace QueryDesk.Record

open QueryDesk.Json QueryDesk.Text

/-! ## Counting days -/

/-- The number of days from a fixed one to the start of a year. -/
def daysBeforeYear (year : Int) : Int :=
  365 * year + (year - 1) / 4 - (year - 1) / 100 + (year - 1) / 400

/-- The number of days of a year that are before a month. -/
def daysBeforeMonth (year : Int) (month : Nat) : Nat :=
  ((List.range' 1 (month - 1)).map (daysInMonth year)).sum

theorem daysBeforeYear_succ (year : Int) :
    daysBeforeYear (year + 1) = daysBeforeYear year + if isLeapYear year then 366 else 365 := by
  have leap : isLeapYear year = true ↔ year % 4 = 0 ∧ (year % 100 ≠ 0 ∨ year % 400 = 0) := by
    simp [isLeapYear]
  unfold daysBeforeYear
  split
  · rename_i isLeap
    have := leap.1 isLeap
    omega
  · rename_i isCommon
    have := mt leap.2 isCommon
    omega

theorem daysBeforeYear_mono {year year' : Int} (earlier : year ≤ year') :
    daysBeforeYear year ≤ daysBeforeYear year' := by
  unfold daysBeforeYear
  omega

theorem daysBeforeMonth_succ (year : Int) {month : Nat} (positive : 1 ≤ month) :
    daysBeforeMonth year (month + 1) = daysBeforeMonth year month + daysInMonth year month := by
  obtain ⟨m, rfl⟩ := Nat.exists_eq_add_of_le' positive
  simp only [daysBeforeMonth, Nat.add_sub_cancel, List.range'_concat, List.map_append,
    List.sum_append, List.map_singleton, List.sum_singleton, Nat.one_mul, Nat.add_comm 1 m]

theorem daysBeforeMonth_mono (year : Int) {month month' : Nat} (positive : 1 ≤ month)
    (earlier : month ≤ month') : daysBeforeMonth year month ≤ daysBeforeMonth year month' := by
  induction month', earlier using Nat.le_induction with
  | base => exact Nat.le_refl _
  | succ month' later ih =>
    rw [daysBeforeMonth_succ year (Nat.le_trans positive later)]
    omega

/-- The months of a year make the year. -/
theorem daysBeforeMonth_thirteen (year : Int) :
    daysBeforeMonth year 13 = if isLeapYear year then 366 else 365 := by
  cases leap : isLeapYear year <;> simp [daysBeforeMonth, List.range', daysInMonth, leap]

namespace Timestamp

/-! ## Moments -/

/-- The number of a moment's day, counted from a fixed one. -/
def dayNumber (t : Timestamp) : Int :=
  daysBeforeYear t.year + daysBeforeMonth t.year t.month + t.day

/-- The number of a moment's minute, counted from the start of a fixed day. -/
def minuteNumber (t : Timestamp) : Int :=
  t.dayNumber * 1440 + (t.hour * 60 + t.minute : Nat)

/-- The nanoseconds since the start of a moment's minute, which may have a leap second. -/
def nanosOfMinute (t : Timestamp) : Nat :=
  t.second * 1000000000 + t.nano

/-- A moment is earlier in an earlier minute, or earlier in the same one. -/
def Earlier (a b : Timestamp) : Prop :=
  a.minuteNumber < b.minuteNumber ∨
    a.minuteNumber = b.minuteNumber ∧ a.nanosOfMinute < b.nanosOfMinute

/-- What makes the parts of a date one. -/
theorem isDate_iff {year : Int} {month day : Nat} :
    isDate year month day = true ↔
      isYear year = true ∧ 1 ≤ month ∧ month ≤ 12 ∧ 1 ≤ day ∧ day ≤ daysInMonth year month := by
  simp only [isDate, Bool.and_eq_true, decide_eq_true_eq, and_assoc]

/-- The day after has the next number. -/
theorem dayNumber_dayAfter {t : Timestamp} (date : isDate t.year t.month t.day = true) :
    t.dayAfter.dayNumber = t.dayNumber + 1 := by
  obtain ⟨-, least, most, -, days⟩ := isDate_iff.1 date
  unfold dayAfter
  split
  · simp only [dayNumber]
    omega
  have last : t.day = daysInMonth t.year t.month := by omega
  have month := daysBeforeMonth_succ t.year least
  split
  · simp only [dayNumber]
    omega
  · have december : t.month + 1 = 13 := by omega
    rw [december, daysBeforeMonth_thirteen] at month
    have first : daysBeforeMonth (t.year + 1) 1 = 0 := rfl
    simp only [dayNumber, daysBeforeYear_succ, first]
    split
    · rename_i leap
      rw [if_pos leap] at month
      omega
    · rename_i common
      rw [if_neg common] at month
      omega

/-- The day of an earlier date has a smaller number. -/
theorem dayNumber_lt {a b : Timestamp} (dateA : isDate a.year a.month a.day = true)
    (dateB : isDate b.year b.month b.day = true)
    (before : a.year < b.year ∨ a.year = b.year ∧
      (a.month < b.month ∨ a.month = b.month ∧ a.day < b.day)) :
    a.dayNumber < b.dayNumber := by
  obtain ⟨-, leastA, mostA, -, daysA⟩ := isDate_iff.1 dateA
  obtain ⟨-, leastB, -, dayB, -⟩ := isDate_iff.1 dateB
  have monthA := daysBeforeMonth_succ a.year leastA
  unfold dayNumber
  rcases before with year | ⟨year, month | ⟨month, day⟩⟩
  · have rest := daysBeforeMonth_mono a.year (Nat.le_add_left 1 a.month)
      (Nat.add_le_add_right mostA 1)
    have whole := daysBeforeYear_succ a.year
    have later : daysBeforeYear (a.year + 1) ≤ daysBeforeYear b.year := daysBeforeYear_mono year
    rw [daysBeforeMonth_thirteen] at rest
    split at rest
    · rename_i leap
      rw [if_pos leap] at whole
      omega
    · rename_i common
      rw [if_neg common] at whole
      omega
  · have rest := daysBeforeMonth_mono a.year (Nat.le_add_left 1 a.month) month
    rw [← year]
    omega
  · rw [← year, ← month]
    omega

theorem dayNumber_lt_iff {a b : Timestamp} (dateA : isDate a.year a.month a.day = true)
    (dateB : isDate b.year b.month b.day = true) :
    a.dayNumber < b.dayNumber ↔ a.year < b.year ∨ a.year = b.year ∧
      (a.month < b.month ∨ a.month = b.month ∧ a.day < b.day) := by
  refine ⟨fun less => ?_, dayNumber_lt dateA dateB⟩
  by_contra notBefore
  by_cases same : a.year = b.year ∧ a.month = b.month ∧ a.day = b.day
  · obtain ⟨year, month, day⟩ := same
    rw [dayNumber, dayNumber, year, month, day] at less
    exact lt_irrefl _ less
  · have := dayNumber_lt dateB dateA (by omega)
    omega

theorem isBefore_iff_parts {a b : Timestamp} :
    a.isBefore b = true ↔ a.year < b.year ∨ a.year = b.year ∧
      (a.month < b.month ∨ a.month = b.month ∧ (a.day < b.day ∨ a.day = b.day ∧
      (a.hour < b.hour ∨ a.hour = b.hour ∧ (a.minute < b.minute ∨ a.minute = b.minute ∧
      (a.second < b.second ∨ a.second = b.second ∧ a.nano < b.nano))))) := by
  simp [isBefore, key, keyBefore]

/-- The parts compare from the largest unit down as the moments do. -/
theorem isBefore_iff {a b : Timestamp} (ha : a.Civil) (hb : b.Civil) :
    a.isBefore b = true ↔ a.Earlier b := by
  have dates := dayNumber_lt_iff ha.date hb.date
  have dates' := dayNumber_lt_iff hb.date ha.date
  obtain ⟨-, -, hourA, minuteA, -, nanoA⟩ := ha
  obtain ⟨-, -, hourB, minuteB, -, nanoB⟩ := hb
  rw [isBefore_iff_parts, Earlier, minuteNumber, minuteNumber, nanosOfMinute, nanosOfMinute]
  omega

/-! ## Texts of a fixed width -/

/-- Lists of the same length with something behind them. -/
theorem append_lt_append {s t : List Char} (width : s.length = t.length) (more more' : List Char) :
    s ++ more < t ++ more' ↔ s < t ∨ s = t ∧ more < more' := by
  induction s generalizing t with
  | nil =>
    cases List.length_eq_zero_iff.1 width.symm
    simp
  | cons c s ih =>
    cases t with
    | nil => cases width
    | cons d t =>
      simp only [List.cons_append, List.cons_lt_cons_iff, ih (Nat.succ.inj width), List.cons.injEq]
      tauto

theorem cons_lt_cons (c : Char) (s t : List Char) : c :: s < c :: t ↔ s < t := by
  simp

/-- Digits compare as their values do. -/
theorem digit_lt_iff {c d : Char} (hc : isDigit c = true) (hd : isDigit d = true) :
    c < d ↔ digitValue c < digitValue d := by
  simp only [isDigit, Bool.and_eq_true, decide_eq_true_eq, Char.le_def, UInt32.le_iff_toNat_le]
    at hc hd
  rw [Char.lt_def, UInt32.lt_iff_toNat_lt]
  unfold digitValue Char.toNat
  have := hc.1
  have := hd.1
  omega

theorem digitValue_lt {c : Char} (hc : isDigit c = true) : digitValue c < 10 := by
  simp only [isDigit, Bool.and_eq_true, decide_eq_true_eq, Char.le_def, UInt32.le_iff_toNat_le]
    at hc
  have most : c.val.toNat ≤ 57 := hc.2
  unfold digitValue Char.toNat
  change c.val.toNat - 48 < 10
  omega

theorem digit_eq_iff {c d : Char} (hc : isDigit c = true) (hd : isDigit d = true) :
    c = d ↔ digitValue c = digitValue d := by
  have less := digit_lt_iff hc hd
  have greater := digit_lt_iff hd hc
  constructor
  · rintro rfl
    rfl
  · intro same
    exact le_antisymm (not_lt.1 fun h => by have := greater.1 h; omega)
      (not_lt.1 fun h => by have := less.1 h; omega)

/-- Lists of digits of the same length compare as their values do, after any digits before them. -/
theorem ofDigitChars_lt_iff {ds es : List Char} (width : ds.length = es.length)
    (digits : ∀ d ∈ ds, isDigit d = true) (digits' : ∀ e ∈ es, isDigit e = true) (m n : Nat) :
    Nat.ofDigitChars 10 ds m < Nat.ofDigitChars 10 es n ↔ m < n ∨ m = n ∧ ds < es := by
  induction ds generalizing es m n with
  | nil =>
    cases List.length_eq_zero_iff.1 width.symm
    simp [Nat.ofDigitChars]
  | cons d ds ih =>
    cases es with
    | nil => cases width
    | cons e es =>
      rw [List.forall_mem_cons] at digits digits'
      have small : digitValue d < 10 := digitValue_lt digits.1
      have small' : digitValue e < 10 := digitValue_lt digits'.1
      rw [Nat.ofDigitChars_cons, Nat.ofDigitChars_cons,
        ih (Nat.succ.inj width) digits.2 digits'.2, List.cons_lt_cons_iff,
        digit_lt_iff digits.1 digits'.1, digit_eq_iff digits.1 digits'.1]
      change 10 * m + digitValue d < 10 * n + digitValue e ∨
        10 * m + digitValue d = 10 * n + digitValue e ∧ ds < es ↔ _
      by_cases later : ds < es
      · simp only [later, and_true]
        omega
      · simp only [later, and_false, or_false]
        omega

/-- Numbers of a fixed width compare as they are. -/
theorem padded_lt_iff {width m n : Nat} (positive : 0 < width) (small : m < 10 ^ width)
    (small' : n < 10 ^ width) : padded width m < padded width n ↔ m < n := by
  have length : (padded width m).length = (padded width n).length := by
    rw [length_padded positive small, length_padded positive small']
  have values := ofDigitChars_lt_iff length (fun _ => isDigit_of_mem_padded)
    (fun _ => isDigit_of_mem_padded) 0 0
  rw [← digitsValue_eq, ← digitsValue_eq, digitsValue_padded, digitsValue_padded] at values
  rw [values]
  simp

theorem padded_eq_iff {width m n : Nat} : padded width m = padded width n ↔ m = n := by
  constructor
  · intro same
    rw [← digitsValue_padded width m, same, digitsValue_padded]
  · rintro rfl
    rfl

/-- A number of a fixed width decides unless it is the same, and then what stands behind it. -/
theorem padded_append_lt_iff {width m n : Nat} (positive : 0 < width) (small : m < 10 ^ width)
    (small' : n < 10 ^ width) (c : Char) (s t : List Char) :
    padded width m ++ c :: s < padded width n ++ c :: t ↔ m < n ∨ m = n ∧ s < t := by
  have length : (padded width m).length = (padded width n).length := by
    rw [length_padded positive small, length_padded positive small']
  rw [append_lt_append length, padded_lt_iff positive small small', padded_eq_iff, cons_lt_cons]

/-! ## Texts of moments -/

/-- A moment in whole microseconds. -/
def WholeMicros (t : Timestamp) : Prop :=
  t.truncated = t

theorem WholeMicros.nano {t : Timestamp} (h : t.WholeMicros) : t.nano / 1000 * 1000 = t.nano :=
  congrArg Timestamp.nano h

/-- Texts compare as the parts do. -/
theorem microsText_lt_iff_isBefore {a b : Timestamp} (ha : a.Civil) (hb : b.Civil)
    (wholeA : a.WholeMicros) (wholeB : b.WholeMicros) :
    a.microsText < b.microsText ↔ a.isBefore b = true := by
  rw [String.lt_iff_toList_lt, toList_microsText ha, toList_microsText hb,
    isBefore_iff_parts]
  have microsA := wholeA.nano
  have microsB := wholeB.nano
  obtain ⟨yearA, dateA, hourA, minuteA, secondA, nanoA⟩ := ha
  obtain ⟨yearB, dateB, hourB, minuteB, secondB, nanoB⟩ := hb
  obtain ⟨monthA, dayA⟩ := month_day_of_isDate dateA
  obtain ⟨monthB, dayB⟩ := month_day_of_isDate dateB
  rw [padded_append_lt_iff (by decide) (by omega) (by omega),
    padded_append_lt_iff (by decide) monthA monthB, padded_append_lt_iff (by decide) dayA dayB,
    padded_append_lt_iff (by decide) (by omega) (by omega),
    padded_append_lt_iff (by decide) (by omega) (by omega),
    padded_append_lt_iff (by decide) (by omega) (by omega),
    padded_append_lt_iff (by decide) (by omega) (by omega)]
  have last : ¬ ([] : List Char) < [] := by simp
  simp only [last, and_false, or_false]
  omega

/-- The texts of moments sort as the moments do. -/
theorem microsText_lt_iff {a b : Timestamp} (ha : a.Civil) (hb : b.Civil)
    (wholeA : a.WholeMicros) (wholeB : b.WholeMicros) :
    a.microsText < b.microsText ↔ a.Earlier b :=
  (microsText_lt_iff_isBefore ha hb wholeA wholeB).trans (isBefore_iff ha hb)

theorem ascii_of_mem_padded {width n : Nat} {c : Char} (member : c ∈ padded width n) :
    c.toNat < 0x80 := by
  have digit := isDigit_of_mem_padded member
  simp only [isDigit, Bool.and_eq_true, decide_eq_true_eq, Char.le_def, UInt32.le_iff_toNat_le]
    at digit
  exact Nat.lt_of_le_of_lt digit.2 (by decide)

theorem ascii_of_mem_microsText {t : Timestamp} (h : t.Civil) :
    ∀ c ∈ t.microsText.toList, c.toNat < 0x80 := by
  intro c member
  rw [toList_microsText h] at member
  simp only [List.mem_append, List.mem_cons, List.not_mem_nil, or_false] at member
  rcases member with h | rfl | h | rfl | h | rfl | h | rfl | h | rfl | h | rfl | h | rfl
  all_goals first | exact ascii_of_mem_padded h | decide

/-- Octet by octet the texts of moments sort as the moments do. -/
theorem encode_microsText_lt_iff {a b : Timestamp} (ha : a.Civil) (hb : b.Civil)
    (wholeA : a.WholeMicros) (wholeB : b.WholeMicros) :
    Utf8.encode a.microsText < Utf8.encode b.microsText ↔ a.Earlier b := by
  rw [Utf8.encode, Utf8.encode,
    Utf8.encodeChars_lt_iff (ascii_of_mem_microsText ha) (ascii_of_mem_microsText hb),
    ← String.lt_iff_toList_lt, microsText_lt_iff ha hb wholeA wholeB]

end Timestamp

end QueryDesk.Record
