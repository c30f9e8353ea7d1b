import TabNotes.Proofs.Text.Replace
import TabNotes.Proofs.Text.Search
import TabNotes.Proofs.Time.ReadBack
import TabNotes.Proofs.Time.Stamp

/-! # The second that a stamp names

The texts of a stamp are read as one reads dates and times of day: numbers between hyphens and
numbers between colons (`dateOf?`, `secondOf?`).  A date and a time of day name a second on their
clock, and one in UTC when it is known how far that clock is ahead (`utcSecond?`).  For a stamp this
is the second in which its moment lies, whether the local texts are read or the one in UTC
(`Stamp.of_one_instant`). -/

namespace TabNotes.Time

open TabNotes.Text TabNotes.Number

/-- The number that digits write. -/
def numberOf? (cs : List Char) : Option Nat :=
  if cs.isEmpty || !cs.all Char.isDigit then none else some (Nat.ofDigitChars 10 cs 0)

/-- Three numbers between separators. -/
def numbersOf? (sep : Char) (cs : List Char) : Option (Nat × Nat × Nat) :=
  match splitBy (· == sep) cs with
  | [first, next, last] => do
    let first ← numberOf? first
    let next ← numberOf? next
    let last ← numberOf? last
    return (first, next, last)
  | _ => none

/-- The date that a year, a month and a day name, if it exists. -/
def dateOf? (cs : List Char) : Option Date := do
  let (year, month, day) ← numbersOf? '-' cs
  if (Date.mk year month day).isValid then some ⟨year, month, day⟩ else none

/-- The second of the day that hours, minutes and seconds name. -/
def secondOf? (cs : List Char) : Option Nat := do
  let (hour, minute, sec) ← numbersOf? ':' cs
  if hour < 24 && minute < 60 && sec < 60 then some (hour * 3600 + minute * 60 + sec) else none

/-- The second in UTC that a date and a time of day name on a clock some seconds ahead, counted from
the start of year 1. -/
def utcSecond? (date time : List Char) (ahead : Int) : Option Int := do
  let date ← dateOf? date
  let inDay ← secondOf? time
  return (date.dayNumber * 86400 + inDay : Nat) - ahead

/-- The second that a date and a time of day in UTC name, up to a part of a second. -/
def isoSecond? (iso : List Char) : Option Int :=
  match cutAtChar 'T' iso with
  | (date, some clock) =>
    match cutAtChar '.' clock with
    | (time, some part) => if part.getLast? = some 'Z' then utcSecond? date time 0 else none
    | _ => none
  | _ => none

variable {here : LocalZone} {width width' width'' n a b c : Nat} {sep : Char} {d : Date}
  {m now : Moment}
  {zone : Option Int} {stamp : Stamp}

/-! ### Numbers, dates and times of day -/

theorem numberOf?_padded (width n : Nat) : numberOf? (padded width n).toList = some n := by
  have hne : (padded width n).toList ≠ [] := by
    rw [toList_padded]
    exact fun h => Nat.toDigits_ne_nil (List.append_eq_nil_iff.mp h).2
  have hdigits : (padded width n).toList.all Char.isDigit = true :=
    List.all_eq_true.mpr fun _ => isDigit_of_mem_padded
  rw [numberOf?, hdigits, List.isEmpty_eq_false_iff.mpr hne, ofDigitChars_padded]
  rfl

/-- Numbers are found again between the separators. -/
theorem numbersOf?_padded (hsep : sep.isDigit = false) :
    numbersOf? sep ((padded width a).toList ++
      (sep :: ((padded width' b).toList ++ (sep :: (padded width'' c).toList)))) =
        some (a, b, c) := by
  have hnone (width n : Nat) : ∀ d ∈ (padded width n).toList, (d == sep) = false := by
    intro d hd
    refine beq_false_of_ne ?_
    rintro rfl
    exact absurd (isDigit_of_mem_padded hd) (by simp [hsep])
  rw [numbersOf?, splitBy_append_cons (hnone _ _) (beq_self_eq_true sep),
    splitBy_append_cons (hnone _ _) (beq_self_eq_true sep), splitBy_of_not_isCut (hnone _ _)]
  simp [numberOf?_padded]

theorem dateOf?_text (h : d.isValid = true) : dateOf? (d.text width).toList = some d := by
  rw [dateOf?, Date.toList_text, numbersOf?_padded (by decide)]
  exact if_pos h

theorem secondOf?_timeText (m : Moment) :
    secondOf? (m.timeText ":").toList = some m.secondOfDay := by
  have hcolon : ":".toList = [':'] := rfl
  rw [secondOf?, Moment.toList_timeText, hcolon, List.singleton_append, List.singleton_append,
    numbersOf?_padded (by decide)]
  simp [m.hour_lt, m.minute_lt, m.sec_lt, m.secondOfDay_eq]

/-- A clock shows the second that its date and its time of day name. -/
theorem utcSecond?_text (m : Moment) (ahead : Int) :
    utcSecond? (m.date.text width).toList (m.timeText ":").toList ahead =
      some ((m.clock / second : Nat) - ahead) := by
  rw [utcSecond?, dateOf?_text m.isValid_date, secondOf?_timeText, m.clock_div_second]
  rfl

theorem isoSecond?_momentChars (m : Moment) (n : Nat) :
    isoSecond? (momentChars m n ++ ['Z']) = some ((m.clock / second : Nat) : Int) := by
  have hdate : 'T' ∉ (m.date.text 1).toList := fun h =>
    absurd (Date.isDigit_or_of_mem_text h) (by decide)
  have htime : '.' ∉ (m.timeText ":").toList := fun h =>
    absurd (Moment.isDigit_or_of_mem_timeText h) (by decide)
  have hcut : cutAtChar 'T' (momentChars m n ++ ['Z']) =
      ((m.date.text 1).toList, some (clockChars m n ++ ['Z'])) := by
    rw [momentChars, List.append_assoc]
    exact cutAtChar_append_cons hdate _
  have hcut' : cutAtChar '.' (clockChars m n ++ ['Z']) =
      ((m.timeText ":").toList, some ((padded 3 n).toList ++ ['Z'])) := by
    rw [clockChars, List.append_assoc]
    exact cutAtChar_append_cons htime _
  rw [isoSecond?, hcut]
  dsimp only
  rw [hcut']
  dsimp only
  rw [if_pos (by simp), utcSecond?_text, Int.sub_zero]

/-! ### Stamps -/

theorem replaceAll_timeText (m : Moment) :
    replaceAll ":" "-" (m.timeText ":") = m.timeText "-" := by
  have hnumber (width n : Nat) :
      (padded width n).toList.flatMap (fun d => if d = ':' then "-".toList else [d]) =
        (padded width n).toList := by
    have hnone : ':' ∉ (padded width n).toList := fun h =>
      absurd (isDigit_of_mem_padded h) (by decide)
    rw [← replaceAllChars_singleton, replaceAllChars_of_not_mem [] hnone]
  have hcolon : ":".toList = [':'] := rfl
  rw [← String.toList_inj, replaceAll, String.toList_ofList, hcolon, replaceAllChars_singleton,
    Moment.toList_timeText, Moment.toList_timeText]
  simp only [List.flatMap_append, hnumber]
  rfl

theorem isInCalendar_of_isoUtc {own : Int} {iso : String} (hown : now.offset = some own)
    (h : isoUtc here now = .ok iso) : now.IsInCalendar := by
  by_contra hout
  rw [isoUtc_of_not_isInCalendar hown hout] at h
  cases h

/-- On a clock some whole seconds ahead, a moment is shown as many seconds later. -/
theorem clock_ofClock {seconds : Int}
    (hthere : Moment.ofClock (now.instant + seconds * second) (some (seconds * second)) = .ok m) :
    ((m.clock / second : Nat) : Int) - seconds = now.instant / second := by
  have hclock := (Moment.ofClock_eq_ok_iff.mp hthere).1
  have hsecond : (second : Int) ≠ 0 := by decide
  rw [Int.natCast_ediv, hclock, Int.add_mul_ediv_right _ _ hsecond]
  omega

/-- A stamp depends on the reading of its moment in UTC alone. -/
theorem Stamp.of_congr {other : Moment} (h : other.toUtc here = now.toUtc here)
    (zone : Option Int) : Stamp.of here other zone = Stamp.of here now zone := by
  have hoffset (offset : Int) : other.toOffset here offset = now.toOffset here offset := by
    rw [Moment.toOffset, Moment.toOffset, h]
  have hshown : Stamp.shown here other zone = Stamp.shown here now zone := by
    cases zone with
    | some offset => exact hoffset offset
    | none => rw [Stamp.shown, Stamp.shown, Moment.toLocal, Moment.toLocal, h]
  rw [Stamp.of, Stamp.of, isoUtc, isoUtc, hshown, hoffset]

/-- The texts of a stamp name one instant, which is all of the moment that they depend on.

On a clock that is ahead by whole seconds, be it a given one or the local one, the text for file names
is the local date and time with hyphens for colons, and the local date and time name the second in UTC
that the text in UTC names: the one in which the moment lies.  The same instant on another clock has
the same stamp. -/
theorem Stamp.of_one_instant {own : Int} (hown : now.offset = some own) :
    (∀ (zone : Option Int) (seconds : Int) (stamp : Stamp),
      Stamp.distance here now zone = .ok (seconds * second) → Stamp.of here now zone = .ok stamp →
        stamp.fileName = stamp.localDate ++ "T" ++ replaceAll ":" "-" stamp.localTime ∧
          utcSecond? stamp.localDate.toList stamp.localTime.toList seconds =
            some (now.instant / second) ∧
          isoSecond? stamp.iso.toList = some (now.instant / second)) ∧
      ∀ (other : Moment) (own' : Int) (zone : Option Int), other.offset = some own' →
        other.instant = now.instant → Stamp.of here other zone = Stamp.of here now zone := by
  refine ⟨fun zone seconds stamp hzone h => ?_, fun other own' zone hother hinstant => ?_⟩
  · obtain ⟨there, iso, hthere, hiso, rfl⟩ := Stamp.of_eq_ok h
    have hin := isInCalendar_of_isoUtc hown hiso
    rw [Stamp.shown_eq hown hin, hzone] at hthere
    obtain rfl := Except.ok.inj (hiso.symm.trans (isoUtc_eq hown hin))
    refine ⟨by rw [replaceAll_timeText], ?_, ?_⟩
    · rw [utcSecond?_text, clock_ofClock hthere]
    · have hutc : ((now.utc hin).clock : Int) = now.instant := Int.toNat_of_nonneg hin.1
      rw [String.toList_ofList, isoSecond?_momentChars, Int.natCast_ediv, hutc]
  · have hutc : other.toUtc here = now.toUtc here := by
      rw [Moment.toUtc_of_offset hother, Moment.toUtc_of_offset hown, hinstant]
    exact Stamp.of_congr hutc zone

/-- Half an hour before the end of a leap day in UTC, given by clocks in UTC and ahead of it, and
shown on one behind, where it is the last second of the day before; so it is on such a local clock. -/
theorem Stamp.of_one_instant_leapDay :
    let ahead : Moment := ⟨63844849815500000, some 3600000000, by decide⟩
    let utc : Moment := ⟨63844846215500000, some 0, by decide⟩
    let zone : Option Int := some (-84616 * second)
    let stamp : Stamp :=
      ⟨"2024-02-29T23:30:15.500Z", "2024-02-28T23-59-59", "2024-02-28", "23:59:59"⟩
    Stamp.of .utc ahead zone = .ok stamp ∧ Stamp.of .utc utc zone = .ok stamp ∧
      Stamp.of (.fixed (-84616)) utc none = .ok stamp ∧
      utcSecond? stamp.localDate.toList stamp.localTime.toList (-84616) =
          some 63844846215 ∧
        isoSecond? stamp.iso.toList = some 63844846215 := by
  intro ahead utc zone stamp
  have hstamp : Stamp.of .utc ahead zone = .ok stamp := by decide +kernel
  have hahead : ahead.offset = some 3600000000 := rfl
  obtain ⟨hread, hsame⟩ := @Stamp.of_one_instant .utc _ _ hahead
  obtain ⟨-, hlocal, hiso⟩ := hread zone (-84616) stamp rfl hstamp
  have hsecond : ahead.instant / second = 63844846215 := by decide +kernel
  rw [hsecond] at hlocal hiso
  refine ⟨hstamp, ?_, by decide +kernel, hlocal, hiso⟩
  rw [hsame utc 0 zone rfl (by decide +kernel), hstamp]

end TabNotes.Time
