import TabNotes.Proofs.Number.Digits
import TabNotes.Proofs.Time.Calendar
import TabNotes.Time.Stamp

/-! # Parts of moments

A moment is put together again from its date and its time of day (`ofParts?_parts`), and a number
that is written with enough digits is the value of these digits (`ofDigitChars_padded`). -/

namespace TabNotes.Time

open TabNotes.Number

variable {n width micro : Nat} {m : Moment}

/-! ### Padded numbers -/

theorem toList_padded (width n : Nat) :
    (padded width n).toList =
      List.replicate (width - (Nat.toDigits 10 n).length) '0' ++ Nat.toDigits 10 n := by
  rw [padded, String.toList_ofList]

theorem isDigit_of_mem_padded {c : Char} (h : c ∈ (padded width n).toList) : c.isDigit = true := by
  rw [toList_padded, List.mem_append, List.mem_replicate] at h
  rcases h with ⟨-, rfl⟩ | h
  · rfl
  · exact isDigit_of_mem_toDigits h

theorem length_padded (hwidth : 0 < width) (h : n < Nat.pow 10 width) :
    (padded width n).toList.length = width := by
  have hlength := length_toDigits_le hwidth h
  rw [toList_padded, List.length_append, List.length_replicate]
  omega

/-- Zeros in front do not change a number. -/
theorem ofDigitChars_padded (width n : Nat) :
    Nat.ofDigitChars 10 (padded width n).toList 0 = n := by
  have hzeros (k : Nat) : Nat.ofDigitChars 10 (List.replicate k '0') 0 = 0 := by
    induction k with
    | zero => rfl
    | succ k ih =>
        rw [List.replicate_succ, Nat.ofDigitChars_cons]
        exact ih
  rw [toList_padded, Nat.ofDigitChars_append, hzeros, Nat.ofDigitChars_ten_toDigits]

/-- A year of four digits needs no zeros. -/
theorem padded_of_four_digits (h : 1000 ≤ n) (h' : n < 10000) : padded 1 n = padded 4 n := by
  have hmost : (Nat.toDigits 10 n).length ≤ 4 := length_toDigits_le (by decide) h'
  have hleast : ¬ (Nat.toDigits 10 n).length ≤ 3 := by
    rw [Nat.length_toDigits_le_iff (by decide) (by decide)]
    omega
  have hlength : (Nat.toDigits 10 n).length = 4 := by omega
  rw [padded, padded, hlength]

/-! ### Dates and times of day -/

theorem Date.toList_text (width : Nat) (d : Date) :
    (d.text width).toList = (padded width d.year).toList ++
      ('-' :: ((padded 2 d.month).toList ++ ('-' :: (padded 2 d.day).toList))) := by
  simp [Date.text]

theorem Date.isDigit_or_of_mem_text {c : Char} {d : Date} (h : c ∈ (d.text width).toList) :
    c.isDigit = true ∨ c = '-' := by
  have hdigits (width n : Nat) : c ∈ (padded width n).toList → c.isDigit = true :=
    isDigit_of_mem_padded
  simp only [Date.toList_text, List.mem_append, List.mem_cons] at h
  grind

namespace Moment

theorem isValid_date (m : Moment) : m.date.isValid = true := by
  refine isValid_ofDayNumber (Nat.div_lt_of_lt_mul ?_)
  rw [Nat.mul_comm]
  exact m.inSpan

/-- The year of a moment has at most four digits, the month and the day have at most two. -/
theorem date_lt (m : Moment) :
    m.date.year < 10000 ∧ m.date.month < 100 ∧ m.date.day < 100 := by
  have hvalid := m.isValid_date
  have hlength := monthLength_le (isLeap m.date.year) m.date.month
  have hlast : lastYear = 9999 := rfl
  simp only [Date.isValid, Bool.and_eq_true, decide_eq_true_eq] at hvalid
  omega

theorem length_dateText (m : Moment) : (m.date.text 4).toList.length = 10 := by
  obtain ⟨hyear, hmonth, hday⟩ := m.date_lt
  simp only [Date.toList_text, List.length_append, List.length_cons,
    length_padded (by decide : 0 < 4) hyear, length_padded (by decide : 0 < 2) hmonth,
    length_padded (by decide : 0 < 2) hday]

theorem dayNumber_date (m : Moment) : m.date.dayNumber = m.clock / day :=
  dayNumber_ofDayNumber _

theorem hour_lt (m : Moment) : m.hour < 24 := by
  have hrest : m.clock % day < 86400000000 := Nat.mod_lt _ (by decide)
  simp only [hour, secondOfDay, second]
  omega

theorem minute_lt (m : Moment) : m.minute < 60 := Nat.mod_lt _ (by decide)

theorem sec_lt (m : Moment) : m.sec < 60 := Nat.mod_lt _ (by decide)

theorem micro_lt (m : Moment) : m.micro < second := Nat.mod_lt _ (by decide)

/-- The parts of a time of day have at most two digits each. -/
theorem time_lt (m : Moment) : m.hour < 100 ∧ m.minute < 100 ∧ m.sec < 100 :=
  ⟨Nat.lt_trans m.hour_lt (by decide), Nat.lt_trans m.minute_lt (by decide),
    Nat.lt_trans m.sec_lt (by decide)⟩

theorem toList_timeText (m : Moment) (sep : String) :
    (m.timeText sep).toList = (padded 2 m.hour).toList ++
      (sep.toList ++ ((padded 2 m.minute).toList ++ (sep.toList ++ (padded 2 m.sec).toList))) := by
  simp [Moment.timeText]

theorem isDigit_or_of_mem_timeText {c : Char} {sep : String}
    (h : c ∈ (m.timeText sep).toList) : c.isDigit = true ∨ c ∈ sep.toList := by
  have hdigits (width n : Nat) : c ∈ (padded width n).toList → c.isDigit = true :=
    isDigit_of_mem_padded
  simp only [toList_timeText, List.mem_append] at h
  grind

theorem length_timeText (m : Moment) (sep : String) :
    (m.timeText sep).toList.length = 6 + 2 * sep.toList.length := by
  obtain ⟨hhour, hminute, hsec⟩ := m.time_lt
  simp only [toList_timeText, List.length_append, length_padded (by decide : 0 < 2) hhour,
    length_padded (by decide : 0 < 2) hminute, length_padded (by decide : 0 < 2) hsec]
  omega

theorem secondOfDay_eq (m : Moment) : m.secondOfDay = m.hour * 3600 + m.minute * 60 + m.sec := by
  simp only [hour, minute, sec]
  omega

/-- The whole seconds of a clock are those of the days before and those of the day. -/
theorem clock_div_second (m : Moment) :
    m.clock / second = m.date.dayNumber * 86400 + m.secondOfDay := by
  rw [dayNumber_date, secondOfDay, show day = 86400000000 from rfl, second]
  omega

/-- A moment is put together again from its date and its time of day, with any part of a second. -/
theorem ofParts?_parts (m : Moment) (hmicro : micro < second) (offset : Option Int)
    (hspan : m.clock - m.micro + micro < clockSpan) :
    Moment.ofParts? m.date m.hour m.minute m.sec micro offset =
      some ⟨m.clock - m.micro + micro, offset, hspan⟩ := by
  have hclock : m.date.dayNumber * day + (m.hour * 3600 + m.minute * 60 + m.sec) * second + micro =
      m.clock - m.micro + micro := by
    have hday : day = 86400 * second := rfl
    have hdiv := Nat.div_add_mod' m.clock second
    rw [← secondOfDay_eq, hday, ← Nat.mul_assoc, ← Nat.add_mul, ← clock_div_second, Moment.micro]
    omega
  have hvalid : (m.date.isValid && decide (m.hour < 24) && decide (m.minute < 60) &&
      decide (m.sec < 60) && decide (micro < second)) = true := by
    simp [m.isValid_date, m.hour_lt, m.minute_lt, m.sec_lt, hmicro]
  have hcast : (m.date.dayNumber * day + (m.hour * 3600 + m.minute * 60 + m.sec) * second + micro :
      Int) = (m.clock - m.micro + micro : Nat) := by
    rw [← hclock]
    simp only [Int.natCast_add, Int.natCast_mul]
    rfl
  rw [ofParts?, if_pos hvalid, hcast, ofClock?, dif_pos ⟨by omega, by omega⟩]
  rfl

end Moment

end TabNotes.Time
