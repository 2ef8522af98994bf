import Mathlib.Data.List.TakeWhile
import Mathlib.Data.Nat.Digits.Defs
import QueryDesk.Proofs.Json.Integer
import QueryDesk.Record.Timestamp

/-!
# Timestamps are read back

A moment of the years 0 to 9999 is read back from its text with six fraction digits, in whole
microseconds (`parseStrict?_microsText`); one that is in whole microseconds already is read back as
it was (`Civil.kept_truncated`).
-/

namespace QueryDesk.Record.Timestamp

open QueryDesk.Json

/-! ## Numbers of a fixed width -/

theorem digitsValue_eq (ds : List Char) : digitsValue ds = Nat.ofDigitChars 10 ds 0 := by
  have start (value : Nat) : ds.foldl (fun n d => n * 10 + digitValue d) value =
      Nat.ofDigitChars 10 ds value := by
    induction ds generalizing value with
    | nil => rfl
    | cons d ds ih => rw [List.foldl_cons, ih, Nat.ofDigitChars_cons, Nat.mul_comm, digitValue]
  exact start 0

/-- Leading zeros do not change a value. -/
theorem digitsValue_padded (width n : Nat) : digitsValue (padded width n) = n := by
  have zeros (k : Nat) : Nat.ofDigitChars 10 (List.replicate k '0' ++ decimalDigits n) 0 =
      Nat.ofDigitChars 10 (decimalDigits n) 0 := by
    induction k with
    | zero => rfl
    | succ k ih =>
      rw [List.replicate_succ, List.cons_append, Nat.ofDigitChars_cons]
      exact ih
  rw [digitsValue_eq, padded, zeros]
  exact Nat.ofDigitChars_ten_toDigits

theorem isDigit_of_mem_padded {width n : Nat} {c : Char} (member : c ∈ padded width n) :
    isDigit c = true := by
  rcases List.mem_append.1 member with zero | digit
  · rw [List.eq_of_mem_replicate zero]
    rfl
  · exact Nat.isDigit_of_mem_toDigits (by decide) (by decide) digit

theorem length_padded {width n : Nat} (positive : 0 < width) (small : n < 10 ^ width) :
    (padded width n).length = width := by
  have digits : (decimalDigits n).length ≤ width := Nat.toDigits_length 10 n width positive small
  rw [padded, List.length_append, List.length_replicate]
  omega

/-- A number of a fixed width is read back, whatever follows it. -/
theorem takeNumber_padded (width n : Nat) (positive : 0 < width) (small : n < 10 ^ width)
    (rest : List Char) : takeNumber width width (padded width n ++ rest) = some (n, rest) := by
  have length := length_padded positive small
  have digits : ((padded width n ++ rest).take width).takeWhile isDigit = padded width n := by
    rw [List.take_left' length, List.takeWhile_eq_self_iff]
    exact fun c => isDigit_of_mem_padded
  simp only [takeNumber, digits, length, Nat.lt_irrefl, if_false, digitsValue_padded,
    List.drop_left' length]

/-- Six digits are read as microseconds. -/
theorem takeFraction_padded {n : Nat} (small : n < 10 ^ 6) {c : Char} (other : isDigit c = false)
    (rest : List Char) :
    takeFraction ('.' :: (padded 6 n ++ c :: rest)) = some (n * 1000, c :: rest) := by
  have length := length_padded (by decide) small
  have digits : (padded 6 n ++ c :: rest).takeWhile isDigit = padded 6 n := by
    rw [List.takeWhile_append_of_pos fun c => isDigit_of_mem_padded]
    simp [other]
  have present : (padded 6 n).isEmpty = false := by
    rw [List.isEmpty_eq_false_iff, ← List.length_pos_iff, length]
    decide
  have kept : (padded 6 n).take 9 = padded 6 n := List.take_of_length_le (by omega)
  simp only [takeFraction, digits, present, kept, length, digitsValue_padded,
    List.drop_left' length]
  rfl

@[simp] theorem takeChar_cons (c : Char) (rest : List Char) : takeChar c (c :: rest) = some rest :=
  if_pos rfl

@[simp] theorem takeSeparator_T (rest : List Char) : takeSeparator ('T' :: rest) = some rest := rfl

@[simp] theorem takeOffset_Z (separator : List Char → Option (List Char)) (rest : List Char) :
    takeOffset separator ('Z' :: rest) = some (0, rest) := rfl

/-! ## Moments -/

/-- A moment that there is, of a year with four digits. -/
structure Civil (t : Timestamp) : Prop where
  year : 0 ≤ t.year ∧ t.year ≤ 9999
  date : isDate t.year t.month t.day = true
  hour : t.hour < 24
  minute : t.minute < 60
  second : t.second ≤ 60
  nano : t.nano < 1000000000

/-- A date's month and day have two digits. -/
theorem month_day_of_isDate {year : Int} {month day : Nat} (h : isDate year month day = true) :
    month < 10 ^ 2 ∧ day < 10 ^ 2 := by
  have days : daysInMonth year month ≤ 31 := by
    unfold daysInMonth
    split
    · split <;> decide
    all_goals decide
  simp only [isDate, Bool.and_eq_true, decide_eq_true_eq] at h
  omega

/-- A local time without an offset is the moment itself. -/
theorem build_zero {t : Timestamp} (h : t.Civil) : build t 0 = some t := by
  have minutes : ((t.hour * 60 + t.minute : Nat) : Int) - 0 = (t.hour * 60 + t.minute : Nat) := by
    omega
  have early : ¬ 1440 ≤ ((t.hour * 60 + t.minute : Nat) : Int) := by
    have := h.hour
    have := h.minute
    omega
  have time : t.atMinute (t.hour * 60 + t.minute) = t := by
    have hour : (t.hour * 60 + t.minute) / 60 = t.hour := by have := h.minute; omega
    have minute : (t.hour * 60 + t.minute) % 60 = t.minute := by have := h.minute; omega
    rw [atMinute, hour, minute]
  have same : t.ofLocal 0 = t := by
    unfold ofLocal
    dsimp only
    rw [minutes, if_neg (by omega), if_neg early, Int.toNat_natCast, time]
  have year : isYear t.year = true := by
    have := h.year
    simp only [isYear, Bool.and_eq_true, decide_eq_true_eq]
    omega
  simp [build, h.date, h.hour, h.minute, h.second, same, year]

/-- The text of a moment: numbers of a fixed width with a character behind each. -/
theorem toList_microsText {t : Timestamp} (h : t.Civil) :
    t.microsText.toList = padded 4 t.year.toNat ++ '-' :: (padded 2 t.month ++ '-' ::
      (padded 2 t.day ++ 'T' :: (padded 2 t.hour ++ ':' :: (padded 2 t.minute ++ ':' ::
      (padded 2 t.second ++ '.' :: (padded 6 (t.nano / 1000) ++ ['Z'])))))) := by
  have digits : yearChars t.year = padded 4 t.year.toNat := by
    simp [yearChars, h.year.1, h.year.2]
  simp only [microsText, wholeChars, digits, String.toList_ofList, List.append_assoc,
    List.cons_append]

/-- A moment is read back from its text, in whole microseconds. -/
theorem parseStrict?_microsText {t : Timestamp} (h : t.Civil) :
    parseStrict? t.microsText = some t.truncated := by
  have text := toList_microsText h
  obtain ⟨⟨least, greatest⟩, date, hour, minute, second, nano⟩ := h
  obtain ⟨month, day⟩ := month_day_of_isDate date
  have readYear := takeNumber_padded 4 t.year.toNat (by decide) (by omega)
  have readMonth := takeNumber_padded 2 t.month (by decide) month
  have readDay := takeNumber_padded 2 t.day (by decide) day
  have readHour := takeNumber_padded 2 t.hour (by decide) (by omega)
  have readMinute := takeNumber_padded 2 t.minute (by decide) (by omega)
  have readSecond := takeNumber_padded 2 t.second (by decide) (by omega)
  have readMicros := takeFraction_padded (n := t.nano / 1000) (c := 'Z') (by omega) rfl []
  have built := build_zero (t := t.truncated)
    ⟨⟨least, greatest⟩, date, hour, minute, second, by simp only [truncated]; omega⟩
  have parts : t.truncated =
      ⟨(t.year.toNat : Int), t.month, t.day, t.hour, t.minute, t.second, t.nano / 1000 * 1000⟩ := by
    rw [Int.toNat_of_nonneg least]
    rfl
  rw [parts] at built ⊢
  unfold parseStrict?
  dsimp only
  rw [text]
  -- each reader takes its own part and hands on the rest
  refine Option.bind_eq_some_iff.2 ⟨_, readYear _, ?_⟩
  refine Option.bind_eq_some_iff.2 ⟨_, takeChar_cons .., ?_⟩
  refine Option.bind_eq_some_iff.2 ⟨_, readMonth _, ?_⟩
  refine Option.bind_eq_some_iff.2 ⟨_, takeChar_cons .., ?_⟩
  refine Option.bind_eq_some_iff.2 ⟨_, readDay _, ?_⟩
  refine Option.bind_eq_some_iff.2 ⟨_, takeSeparator_T _, ?_⟩
  refine Option.bind_eq_some_iff.2 ⟨_, readHour _, ?_⟩
  refine Option.bind_eq_some_iff.2 ⟨_, takeChar_cons .., ?_⟩
  refine Option.bind_eq_some_iff.2 ⟨_, readMinute _, ?_⟩
  refine Option.bind_eq_some_iff.2 ⟨_, takeChar_cons .., ?_⟩
  refine Option.bind_eq_some_iff.2 ⟨_, readSecond _, ?_⟩
  refine Option.bind_eq_some_iff.2 ⟨_, readMicros, ?_⟩
  refine Option.bind_eq_some_iff.2 ⟨_, takeOffset_Z .., ?_⟩
  exact built

/-! ## Whole microseconds -/

/-- A moment that a text keeps: it is read back as it was. -/
def Kept (t : Timestamp) : Prop :=
  parseStrict? t.microsText = some t

theorem nano_truncated (t : Timestamp) : t.truncated.nano / 1000 = t.nano / 1000 :=
  Nat.mul_div_cancel _ (by decide)

theorem truncated_truncated (t : Timestamp) : t.truncated.truncated = t.truncated := by
  rw [truncated, nano_truncated]
  rfl

theorem Civil.truncated {t : Timestamp} (h : t.Civil) : t.truncated.Civil := by
  obtain ⟨year, date, hour, minute, second, nano⟩ := h
  refine ⟨year, date, hour, minute, second, ?_⟩
  have cut : t.truncated.nano ≤ t.nano := Nat.div_mul_le_self t.nano 1000
  omega

/-- A moment in whole microseconds is kept. -/
theorem Civil.kept_truncated {t : Timestamp} (h : t.Civil) : t.truncated.Kept := by
  rw [Kept, parseStrict?_microsText h.truncated, truncated_truncated]

end QueryDesk.Record.Timestamp
