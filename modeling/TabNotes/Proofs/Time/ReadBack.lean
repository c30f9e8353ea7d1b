import TabNotes.Proofs.Text.Blank
import TabNotes.Proofs.Text.Replace
import TabNotes.Proofs.Time.IsoReading
import TabNotes.Proofs.Time.Utc

/-! # Reading back what was written

`isoUtc` writes the reading of a clock in UTC (`isoUtc_eq`), and its text is read with the offset
zero in place of the letter at its end (`ofText_momentChars`).  What comes back is the last whole
millisecond up to the moment, in years of four digits; that millisecond is written as the moment
is. -/

namespace TabNotes.Time

open TabNotes.Text

variable {here : LocalZone} {n : Nat} {c : Char} {m : Moment}

/-! ### Written moments -/

theorem Moment.utc_eq_self (hoffset : m.offset = some 0) (h : m.IsInCalendar) : m.utc h = m := by
  obtain ⟨clock, offset, inSpan⟩ := m
  obtain rfl : offset = some 0 := hoffset
  simp [Moment.utc, Moment.instant]

theorem Moment.clock_eq_instant (hoffset : m.offset = some 0) : (m.clock : Int) = m.instant := by
  rw [Moment.instant, hoffset]
  exact (Int.sub_zero _).symm

theorem Moment.settled_eq_self (hoffset : m.offset = some 0) : m.settled = m := by
  obtain ⟨clock, offset, inSpan⟩ := m
  obtain rfl : offset = some 0 := hoffset
  rfl

theorem isoUtc_eq {own : Int} (hown : m.offset = some own) (h : m.IsInCalendar) :
    isoUtc here m =
      .ok (String.ofList (momentChars (m.utc h) ((m.utc h).micro / 1000) ++ ['Z'])) := by
  rw [isoUtc, Moment.toOffset_zero hown h]
  refine congrArg Except.ok ?_
  rw [← String.toList_inj]
  simp [momentChars, clockChars]

/-- White space and the letter for UTC are no part of a date and a time of day. -/
theorem not_isBlank_of_mem_momentChars (h : c ∈ momentChars m n) : isBlank c = false ∧ c ≠ 'Z' := by
  rcases isDigit_or_of_mem_momentChars h with hdigit | hmark
  · refine ⟨isBlank_of_isDigit hdigit, ?_⟩
    rintro rfl
    exact absurd hdigit (by decide)
  · have hall : ['-', 'T', ':', '.'].all (fun c => !isBlank c && c != 'Z') = true := by decide
    simpa using List.all_eq_true.mp hall c hmark

/-- Written in UTC, a moment is read with the offset zero in place of the letter. -/
theorem ofText_momentChars (m : Moment) (n : Nat) :
    ofText (String.ofList (momentChars m n ++ ['Z'])) =
      (Moment.ofIso? (String.ofList (momentChars m n ++ "+00:00".toList))).map Moment.settled := by
  have hblank : ∀ c ∈ momentChars m n ++ ['Z'], isBlank c = false := by
    intro c hc
    rcases List.mem_append.mp hc with hc | hc
    · exact (not_isBlank_of_mem_momentChars hc).1
    · rw [List.mem_singleton.mp hc]
      decide
  have htrimmed : IsTrimmed (momentChars m n ++ ['Z']) :=
    ⟨fun c hc => hblank c (List.mem_of_mem_head? hc),
      fun c hc => hblank c (List.mem_of_mem_getLast? hc)⟩
  have htrim : trim (String.ofList (momentChars m n ++ ['Z'])) =
      String.ofList (momentChars m n ++ ['Z']) := by
    rw [trim, String.toList_ofList, trimChars_eq_self_iff.mpr htrimmed]
  have hne : (String.ofList (momentChars m n ++ ['Z']) == "") = false := by
    simp
  have hzone : replaceAll "Z" "+00:00" (String.ofList (momentChars m n ++ ['Z'])) =
      String.ofList (momentChars m n ++ "+00:00".toList) := by
    have hnone : 'Z' ∉ momentChars m n := fun hc => (not_isBlank_of_mem_momentChars hc).2 rfl
    have hreplace : replaceAllChars ['Z'] "+00:00".toList (momentChars m n ++ ['Z']) =
        momentChars m n ++ "+00:00".toList := by
      rw [replaceAllChars_singleton, List.flatMap_append, ← replaceAllChars_singleton,
        replaceAllChars_of_not_mem [] hnone]
      rfl
    rw [← hreplace, replaceAll]
    simp only [String.toList_ofList]
    rfl
  unfold ofText
  dsimp only
  rw [htrim, hne, if_neg (by simp), hzone]

/-! ### Whole milliseconds -/

namespace Moment

/-- The last whole millisecond up to a moment. -/
def toMillisecond (m : Moment) : Moment :=
  ⟨m.clock - m.clock % 1000, m.offset, Nat.lt_of_le_of_lt (Nat.sub_le _ _) m.inSpan⟩

theorem date_toMillisecond (m : Moment) : m.toMillisecond.date = m.date := by
  have hclock : (m.clock - m.clock % 1000) / day = m.clock / day := by
    rw [show day = 86400000000 from rfl]
    omega
  rw [date, date, toMillisecond, hclock]

theorem secondOfDay_toMillisecond (m : Moment) : m.toMillisecond.secondOfDay = m.secondOfDay := by
  rw [secondOfDay, secondOfDay, toMillisecond, show day = 86400000000 from rfl, second]
  dsimp only
  omega

theorem timeText_toMillisecond (m : Moment) (sep : String) :
    m.toMillisecond.timeText sep = m.timeText sep := by
  rw [timeText, timeText, hour, minute, sec, secondOfDay_toMillisecond]
  rfl

theorem micro_toMillisecond (m : Moment) : m.toMillisecond.micro = m.micro / 1000 * 1000 := by
  rw [micro, micro, toMillisecond, second]
  dsimp only
  omega

end Moment

theorem momentChars_toMillisecond (m : Moment) (n : Nat) :
    momentChars m.toMillisecond n = momentChars m n := by
  rw [momentChars, momentChars, clockChars, clockChars, Moment.date_toMillisecond,
    Moment.timeText_toMillisecond]

/-- A moment in UTC is read back to the millisecond when its year has four digits. -/
theorem ofText_momentChars_toMillisecond (hoffset : m.offset = some 0) :
    ofText (String.ofList (momentChars m (m.micro / 1000) ++ ['Z'])) =
      if 1000 ≤ m.date.year then some m.toMillisecond else none := by
  have hmicro := m.micro_lt
  rw [ofText_momentChars]
  split
  · rename_i hyear
    have hspan := m.toMillisecond.inSpan
    have hclock : m.clock - m.micro + m.micro / 1000 * 1000 = m.toMillisecond.clock := by
      rw [Moment.micro, Moment.toMillisecond, second]
      dsimp only
      omega
    rw [Moment.ofIso?_momentChars (by rw [second] at hmicro; omega) hyear,
      Moment.ofParts?_parts m (by omega) (some 0) (hclock ▸ hspan)]
    simp only [hclock, ← hoffset]
    exact congrArg some (Moment.settled_eq_self (m := m.toMillisecond) hoffset)
  · rename_i hyear
    rw [Moment.ofIso?_momentChars_of_lt _ (by omega)]
    rfl

/-- What `isoUtc` writes is read back to the millisecond when its year has four digits.

For every moment of a known clock that UTC shows, the millisecond that it lies in is written as the
moment is, whatever the local clock is.  The text is read as that millisecond in UTC from the year 1000 on; before that it is not
read at all, since the year is written without zeros in front. -/
theorem ofValue_isoUtc {own : Int} (hown : m.offset = some own) (h : m.IsInCalendar) :
    ∃ iso read, isoUtc here m = .ok iso ∧ read.offset = some 0 ∧
      read.instant = m.instant - m.instant % 1000 ∧
        ofValue here (.text iso) = .ok (if 1000 ≤ read.date.year then some read else none) ∧
          isoUtc here read = .ok iso := by
  have hinstant : (m.utc h).toMillisecond.instant = m.instant - m.instant % 1000 := by
    change (((m.instant.toNat - m.instant.toNat % 1000 : Nat) : Int) - 0) = _
    have := h.1
    omega
  have hcalendar : (m.utc h).toMillisecond.IsInCalendar := by
    rw [Moment.IsInCalendar, hinstant]
    obtain ⟨hfirst, hlast⟩ := h
    omega
  have hutc := Moment.utc_eq_self rfl hcalendar
  refine ⟨_, (m.utc h).toMillisecond, isoUtc_eq hown h, rfl, hinstant, ?_, ?_⟩
  · rw [Moment.date_toMillisecond, ← ofText_momentChars_toMillisecond rfl]
    rfl
  · rw [isoUtc_eq rfl hcalendar, hutc, momentChars_toMillisecond, Moment.micro_toMillisecond,
      Nat.mul_div_cancel _ (by decide)]

/-- A moment two hours ahead of UTC, on the first day of a month there, is read back as one of the
leap day before; the last second of the year 999 is not read. -/
theorem ofValue_isoUtc_years :
    let ahead : Moment := ⟨63844853445678901, some 7200000000, by decide⟩
    let early : Moment := ⟨31525372799000000, some 0, by decide⟩
    ahead.date = ⟨2024, 3, 1⟩ ∧ ahead.IsInCalendar ∧ early.IsInCalendar ∧
      isoUtc .utc ahead = .ok "2024-02-29T23:30:45.678Z" ∧
        (∃ read, ofValue .utc (.text "2024-02-29T23:30:45.678Z") = .ok (some read) ∧
          read.instant = ahead.instant - 901) ∧
          isoUtc .utc early = .ok "999-12-31T23:59:59.000Z" ∧
            ofValue .utc (.text "999-12-31T23:59:59.000Z") = .ok none := by
  intro ahead early
  have haheadOffset : ahead.offset = some 7200000000 := rfl
  have hearlyOffset : early.offset = some 0 := rfl
  have hahead : ahead.IsInCalendar := ⟨by decide, by decide⟩
  have hearly : early.IsInCalendar := ⟨by decide, by decide⟩
  have haheadIso : isoUtc .utc ahead = .ok "2024-02-29T23:30:45.678Z" := by decide +kernel
  have hearlyIso : isoUtc .utc early = .ok "999-12-31T23:59:59.000Z" := by decide +kernel
  obtain ⟨iso, read, hiso, hoffset, hinstant, hread, -⟩ :=
    ofValue_isoUtc haheadOffset hahead
  obtain ⟨iso', read', hiso', hoffset', hinstant', hread', -⟩ :=
    ofValue_isoUtc hearlyOffset hearly
  obtain rfl := Except.ok.inj (haheadIso.symm.trans hiso)
  obtain rfl := Except.ok.inj (hearlyIso.symm.trans hiso')
  have hyear : read.date.year = 2024 := by
    have hclock : read.clock = 63844846245678000 := by
      rw [← Int.natCast_inj, Moment.clock_eq_instant hoffset, hinstant]
      decide +kernel
    rw [Moment.date, hclock]
    decide +kernel
  have hyear' : read'.date.year = 999 := by
    have hclock : read'.clock = 31525372799000000 := by
      rw [← Int.natCast_inj, Moment.clock_eq_instant hoffset', hinstant']
      decide +kernel
    rw [Moment.date, hclock]
    decide +kernel
  rw [hyear, if_pos (by decide)] at hread
  rw [hyear', if_neg (by decide)] at hread'
  refine ⟨by decide +kernel, hahead, hearly, haheadIso, ⟨read, hread, ?_⟩, hearlyIso, hread'⟩
  rw [hinstant]
  decide +kernel

end TabNotes.Time
