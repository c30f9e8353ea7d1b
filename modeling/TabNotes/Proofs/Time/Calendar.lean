import TabNotes.Time.Calendar

/-! # Days and dates

The date that is found for a day has as many days before it as the number of the day says
(`dayNumber_ofDayNumber`), and it exists up to the end of year 9999 (`isValid_ofDayNumber`).

A year is taken as `400 q + 100 c + 4 o + y + 1` with at most three full centuries `c`, 24 full
olympiads `o` and three full years `y`; the days before it and whether it is a leap year can be read
off from these. -/

namespace TabNotes.Time

variable {n q c o y : Nat}

/-! ### Years -/

/-- The days of a year. -/
def yearLength (year : Nat) : Nat := if isLeap year then 366 else 365

theorem daysBeforeYear_place (hc : c ≤ 3) (ho : o ≤ 24) (hy : y ≤ 3) :
    daysBeforeYear (400 * q + 100 * c + 4 * o + y + 1) =
      146097 * q + 36524 * c + 1461 * o + 365 * y := by
  have h4 : (400 * q + 100 * c + 4 * o + y) / 4 = 100 * q + 25 * c + o := by omega
  have h100 : (400 * q + 100 * c + 4 * o + y) / 100 = 4 * q + c := by omega
  have h400 : (400 * q + 100 * c + 4 * o + y) / 400 = q := by omega
  rw [daysBeforeYear, Nat.add_sub_cancel, h4, h100, h400]
  omega

theorem isLeap_place (hc : c ≤ 3) (ho : o ≤ 24) (hy : y ≤ 3) :
    isLeap (400 * q + 100 * c + 4 * o + y + 1) = true ↔ y = 3 ∧ (o = 24 → c = 3) := by
  simp only [isLeap, Bool.and_eq_true, Bool.or_eq_true, beq_iff_eq, bne_iff_ne]
  omega

/-- A day is found in a year and after some days of it; the last day of a year is day 365 only in
leap years. -/
theorem yearOfDay_eq (n : Nat) :
    ∃ q c o y rest, c ≤ 3 ∧ o ≤ 24 ∧ y ≤ 3 ∧
      yearOfDay n = (400 * q + 100 * c + 4 * o + y + 1, rest) ∧
        n = 146097 * q + 36524 * c + 1461 * o + 365 * y + rest ∧
          (rest < 365 ∨ rest = 365 ∧ y = 3 ∧ (o = 24 → c = 3)) := by
  refine ⟨_, _, _, _, _, ?_, ?_, ?_, rfl, ?_⟩ <;> omega

/-- The days before the year that is found and the days left over make up the number of the day. -/
theorem yearOfDay_spec (n : Nat) :
    daysBeforeYear (yearOfDay n).1 + (yearOfDay n).2 = n ∧
      (yearOfDay n).2 < yearLength (yearOfDay n).1 := by
  obtain ⟨q, c, o, y, rest, hc, ho, hy, heq, hn, hrest⟩ := yearOfDay_eq n
  rw [heq]
  refine ⟨by rw [daysBeforeYear_place hc ho hy, hn], ?_⟩
  unfold yearLength
  split
  · omega
  · rename_i hleap
    rw [isLeap_place hc ho hy] at hleap
    omega

/-! ### Months -/

theorem foldl_add_cons (length : Nat) (lengths : List Nat) :
    (length :: lengths).foldl (· + ·) 0 = length + lengths.foldl (· + ·) 0 := by
  rw [List.foldl_cons, Nat.add_comm, List.foldl_assoc]

/-- The month that is found holds the day, and the months before it are passed over. -/
theorem monthOfDay_spec (first : Nat) (lengths : List Nat) (h : n < lengths.foldl (· + ·) 0) :
    ∃ k, (monthOfDay first lengths n).1 = first + k ∧ k < lengths.length ∧
      (lengths.take k).foldl (· + ·) 0 + (monthOfDay first lengths n).2 = n ∧
        (monthOfDay first lengths n).2 < lengths.getD k 0 := by
  induction lengths generalizing first n with
  | nil => cases h
  | cons length lengths ih =>
      rw [monthOfDay]
      split
      · rename_i hlt
        exact ⟨0, rfl, by simp, by simp, hlt⟩
      · rename_i hle
        rw [foldl_add_cons] at h
        obtain ⟨k, hmonth, hk, hsum, hday⟩ := @ih (n - length) (first + 1) (by omega)
        refine ⟨k + 1, by omega, by simpa using hk, ?_, by simpa using hday⟩
        rw [List.take_succ_cons, foldl_add_cons]
        omega

theorem daysOfMonths (leap : Bool) :
    (monthLengths leap).foldl (· + ·) 0 = if leap then 366 else 365 := by
  cases leap <;> rfl

theorem monthLength_le (leap : Bool) (month : Nat) : monthLength leap month ≤ 31 := by
  have hall : ∀ length ∈ monthLengths leap, length ≤ 31 := by cases leap <;> decide
  rw [monthLength]
  split
  · omega
  · rw [List.getD_eq_getElem?_getD]
    cases hlength : (monthLengths leap)[month - 1]? with
    | none => exact Nat.zero_le _
    | some length => exact hall length (List.mem_of_getElem? hlength)

/-! ### Dates -/

/-- A day is found in a year, in a month of that year and at a place in that month. -/
theorem ofDayNumber_eq (n : Nat) :
    ∃ year k inMonth, Date.ofDayNumber n = ⟨year, k + 1, inMonth + 1⟩ ∧ year = (yearOfDay n).1 ∧
      k < 12 ∧ inMonth < (monthLengths (isLeap year)).getD k 0 ∧
        daysBeforeYear year + ((monthLengths (isLeap year)).take k).foldl (· + ·) 0 + inMonth =
          n := by
  obtain ⟨hyear, hrest⟩ := yearOfDay_spec n
  rw [yearLength, ← daysOfMonths] at hrest
  obtain ⟨k, hmonth, hk, hsum, hday⟩ := monthOfDay_spec 1 _ hrest
  refine ⟨_, k, _, ?_, rfl, hk, hday, by rw [Nat.add_assoc, hsum, hyear]⟩
  rw [Date.ofDayNumber]
  dsimp only
  rw [hmonth, Nat.add_comm]

/-- As many days come before the date of a day as its number says. -/
theorem dayNumber_ofDayNumber (n : Nat) : (Date.ofDayNumber n).dayNumber = n := by
  obtain ⟨year, k, inMonth, hdate, -, -, -, hsum⟩ := ofDayNumber_eq n
  rw [hdate, Date.dayNumber, daysBeforeMonth]
  exact hsum

theorem yearOfDay_bounds (h : n < dayCount) :
    1 ≤ (yearOfDay n).1 ∧ (yearOfDay n).1 ≤ lastYear := by
  have hcount : dayCount = 3652059 := rfl
  obtain ⟨q, c, o, y, rest, hc, ho, hy, heq, hn, -⟩ := yearOfDay_eq n
  rw [heq, lastYear]
  dsimp only
  omega

/-- Up to the end of year 9999 the date of a day exists. -/
theorem isValid_ofDayNumber (h : n < dayCount) : (Date.ofDayNumber n).isValid = true := by
  obtain ⟨hfirst, hlast⟩ := yearOfDay_bounds h
  obtain ⟨year, k, inMonth, hdate, hyear, hk, hday, -⟩ := ofDayNumber_eq n
  have hlength : monthLength (isLeap year) (k + 1) = (monthLengths (isLeap year)).getD k 0 := rfl
  rw [← hyear] at hfirst hlast
  simp only [hdate, Date.isValid, hlength, Bool.and_eq_true, decide_eq_true_eq]
  omega

end TabNotes.Time
