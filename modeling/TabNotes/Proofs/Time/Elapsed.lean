import Mathlib.Data.Rat.Floor
import Mathlib.Tactic.Linarith
import Mathlib.Tactic.FieldSimp
import Mathlib.Tactic.NormNum
import TabNotes.Proofs.Number.Digits
import TabNotes.Proofs.Text.Search
import TabNotes.Time.Elapsed

/-! # Ages in labels

Without rounding of quotients, a label is the wording of an age (`label_id`): of now, or of a count
of minutes, hours or days.  Each count is rounded by itself, and a unit is used from the first time
on whose count of the unit before is too large (`AgeUnit.start`).  There the count is at least one
and half a unit at most away from the time, so an age never falls behind that of a shorter time
(`Age.Suits.seconds_le`). -/

namespace TabNotes.Time

open TabNotes.Number TabNotes.Text

/-- The units of labels. -/
inductive AgeUnit where
  | minute
  | hour
  | day
deriving DecidableEq

namespace AgeUnit

def name : AgeUnit → String
  | minute => "minute"
  | hour => "hour"
  | day => "day"

/-- The length of a unit. -/
def seconds : AgeUnit → Nat
  | minute => 60
  | hour => 3600
  | day => 86400

/-- The largest count of a unit that does not come to one of the next. -/
def limit? : AgeUnit → Option Nat
  | minute => some 59
  | hour => some 23
  | day => none

/-- The length of a unit in microseconds. -/
def span (unit : AgeUnit) : Nat := unit.seconds * second

theorem span_pos (unit : AgeUnit) : 0 < unit.span := by
  cases unit <;> decide

end AgeUnit

/-- What a label says. -/
inductive Age where
  | justNow
  | ago (count : Nat) (unit : AgeUnit)
deriving DecidableEq

namespace Age

/-- The wording of an age: the unit is in the singular for a count of one only. -/
def text : Age → String
  | justNow => "just now"
  | ago count unit =>
    toString count ++ " " ++ unit.name ++ (if count = 1 then "" else "s") ++ " ago"

/-- The length of time that an age names. -/
def seconds : Age → Nat
  | justNow => 0
  | ago count unit => count * unit.seconds

end Age

variable {elapsed earlier : Int} {unit : AgeUnit} {age age' : Age}

/-! ### Exact counts -/

/-- The count of a unit in microseconds, rounded, halves up. -/
def countOf (unit : AgeUnit) (elapsed : Int) : Int :=
  (2 * elapsed + unit.span) / (2 * unit.span : Nat)

/-- A quotient rounded, halves up, by division of integers. -/
theorem floor_add_half (n : Int) {d : Nat} (hd : 0 < d) :
    ((n : Rat) / (d : Rat) + 1 / 2).floor = (2 * n + d) / (2 * d : Nat) := by
  have hne : (d : Rat) ≠ 0 := by exact_mod_cast hd.ne'
  have hquotient : (n : Rat) / (d : Rat) + 1 / 2 =
      ((2 * n + d : Int) : Rat) / ((2 * d : Nat) : Rat) := by
    push_cast
    field_simp
  rw [hquotient]
  exact Rat.floor_intCast_div_natCast _ _

theorem unitCount_id (unit : AgeUnit) (elapsed : Int) :
    unitCount id unit.seconds ((elapsed : Rat) / (second : Rat)) = countOf unit elapsed := by
  rw [countOf, ← floor_add_half _ unit.span_pos, AgeUnit.span, Nat.cast_mul, Rat.mul_comm,
    ← div_div]
  rfl

/-- A count is off by at most half a unit. -/
theorem countOf_bounds (unit : AgeUnit) (elapsed : Int) :
    2 * (countOf unit elapsed * unit.span) ≤ 2 * elapsed + unit.span ∧
      2 * elapsed < 2 * (countOf unit elapsed * unit.span) + unit.span := by
  have hpos : (0 : Int) < (2 * unit.span : Nat) := by
    have := unit.span_pos
    omega
  have hle := Int.ediv_mul_le (2 * elapsed + unit.span) hpos.ne'
  have hlt := Int.lt_ediv_add_one_mul_self (2 * elapsed + unit.span) hpos
  rw [← countOf, Nat.cast_mul, Nat.cast_ofNat, Int.mul_left_comm] at hle
  rw [← countOf, Int.add_mul, Nat.cast_mul, Nat.cast_ofNat, Int.mul_left_comm] at hlt
  omega

/-! ### Ages -/

/-- The age that an elapsed time comes to. -/
def Age.of (elapsed : Int) : Age :=
  if elapsed < 60 * second then justNow
  else if countOf .minute elapsed < 60 then ago (countOf .minute elapsed).toNat .minute
  else if countOf .hour elapsed < 24 then ago (countOf .hour elapsed).toNat .hour
  else ago (countOf .day elapsed).toNat .day

/-- From how many seconds on a unit is used: from the first that do not come to less. -/
def AgeUnit.start : AgeUnit → Nat
  | minute => 60
  | hour => 3570
  | day => 84600

/-- The age of an elapsed time that is not of now is in the unit that is used from then on, has a
count that is not zero and does not come to the next unit, and is off by at most half a unit. -/
structure Age.Suits (count : Nat) (unit : AgeUnit) (elapsed : Int) : Prop where
  start_le : (unit.start * second : Nat) ≤ elapsed
  le_limit : ∀ limit ∈ unit.limit?, count ≤ limit
  nearest : 2 * (count * unit.span : Int) ≤ 2 * elapsed + unit.span ∧
      2 * elapsed < 2 * (count * unit.span : Int) + unit.span

theorem countOf_nonneg (unit : AgeUnit) (h : 0 ≤ elapsed) : 0 ≤ countOf unit elapsed :=
  Int.ediv_nonneg (by omega) (by omega)

theorem Age.suits_countOf (hstart : (unit.start * second : Nat) ≤ elapsed)
    (hlimit : ∀ limit ∈ unit.limit?, countOf unit elapsed ≤ limit) :
    Age.Suits (countOf unit elapsed).toNat unit elapsed := by
  have helapsed : 0 ≤ elapsed := by omega
  have hcount := Int.toNat_of_nonneg (countOf_nonneg unit helapsed)
  refine ⟨hstart, fun limit h => ?_, ?_⟩
  · have := hlimit limit h
    omega
  · rw [hcount]
    exact countOf_bounds unit elapsed

/-- Hours are used once the minutes come to 60. -/
theorem start_hour_le (h : 60 ≤ countOf .minute elapsed) :
    (AgeUnit.hour.start * second : Nat) ≤ elapsed := by
  have hminutes := countOf_bounds .minute elapsed
  have hspan : AgeUnit.minute.span = 60000000 := rfl
  have hstart : AgeUnit.hour.start * second = 3570000000 := rfl
  rw [hspan] at hminutes
  rw [hstart]
  omega

/-- Days are used once the hours come to 24. -/
theorem start_day_le (h : 24 ≤ countOf .hour elapsed) :
    (AgeUnit.day.start * second : Nat) ≤ elapsed := by
  have hhours := countOf_bounds .hour elapsed
  have hspan : AgeUnit.hour.span = 3600000000 := rfl
  have hstart : AgeUnit.day.start * second = 84600000000 := rfl
  rw [hspan] at hhours
  rw [hstart]
  omega

theorem Age.of_cases (elapsed : Int) :
    (elapsed < 60 * second ∧ Age.of elapsed = .justNow) ∨
      60 * second ≤ elapsed ∧
        ∃ count unit, Age.of elapsed = .ago count unit ∧ Age.Suits count unit elapsed := by
  unfold Age.of
  split
  · rename_i hnow
    exact .inl ⟨hnow, rfl⟩
  · rename_i hlong
    refine .inr ⟨by omega, ?_⟩
    split
    · rename_i hminutes
      refine ⟨_, .minute, rfl, Age.suits_countOf ?_ ?_⟩
      · exact Int.not_lt.mp hlong
      · rintro _ ⟨⟩
        exact Int.le_of_lt_add_one hminutes
    · rename_i hminutes
      have hhour := start_hour_le (Int.not_lt.mp hminutes)
      split
      · rename_i hhours
        refine ⟨_, .hour, rfl, Age.suits_countOf hhour ?_⟩
        rintro _ ⟨⟩
        exact Int.le_of_lt_add_one hhours
      · rename_i hhours
        have hday := start_day_le (Int.not_lt.mp hhours)
        refine ⟨_, .day, rfl, Age.suits_countOf hday ?_⟩
        rintro _ ⟨⟩

namespace Age.Suits

variable {count count' : Nat} {unit' : AgeUnit}

theorem one_le (h : Suits count unit elapsed) : 1 ≤ count := by
  obtain ⟨hstart, -, -, hless⟩ := h
  cases unit <;>
    simp only [AgeUnit.start, AgeUnit.span, AgeUnit.seconds, second] at hstart hless <;> omega

/-- Of two times the longer one is not given the shorter age. -/
theorem seconds_le (h : Suits count unit earlier) (h' : Suits count' unit' elapsed)
    (hle : earlier ≤ elapsed) : (ago count unit).seconds ≤ (ago count' unit').seconds := by
  obtain ⟨hstart, hlimit, hmore, hless⟩ := h
  obtain ⟨hstart', hlimit', hmore', hless'⟩ := h'
  cases unit <;> cases unit' <;>
    simp only [Age.seconds, AgeUnit.start, AgeUnit.span, AgeUnit.seconds, AgeUnit.limit?, second,
      Option.mem_some, forall_eq'] at * <;> omega

end Age.Suits

/-! ### Labels -/

theorem countText_eq {count : Int} (h : 0 ≤ count) (unit : AgeUnit) :
    countText count unit.name = (Age.ago count.toNat unit).text := by
  obtain ⟨n, rfl⟩ := Int.eq_ofNat_of_zero_le h
  have htext : toString (n : Int) = toString n := rfl
  rw [countText, Age.text, htext]
  simp

/-- Exact labels are the wordings of the ages. -/
theorem label_id (elapsed : Int) : label id elapsed = (Age.of elapsed).text := by
  have hnow : ((elapsed : Rat) / (second : Rat) < 60) ↔ elapsed < 60 * second := by
    rw [div_lt_iff₀ (by norm_num [second])]
    norm_cast
  have hminutes : unitCount id 60 ((elapsed : Rat) / (second : Rat)) = countOf .minute elapsed :=
    unitCount_id .minute elapsed
  have hhours : unitCount id 3600 ((elapsed : Rat) / (second : Rat)) = countOf .hour elapsed :=
    unitCount_id .hour elapsed
  have hdays : unitCount id 86400 ((elapsed : Rat) / (second : Rat)) = countOf .day elapsed :=
    unitCount_id .day elapsed
  unfold label Age.of
  simp only [id_eq, hnow, hminutes, hhours, hdays]
  by_cases h : elapsed < 60 * second
  · rw [if_pos h, if_pos h]
    rfl
  · have helapsed : 0 ≤ elapsed := by omega
    have hnonneg (unit : AgeUnit) : 0 ≤ countOf unit elapsed := countOf_nonneg unit helapsed
    rw [if_neg h, if_neg h]
    split
    · exact countText_eq (hnonneg .minute) .minute
    · split
      · exact countText_eq (hnonneg .hour) .hour
      · exact countText_eq (hnonneg .day) .day

theorem Age.toList_text_ago (count : Nat) (unit : AgeUnit) :
    (ago count unit).text.toList =
      Nat.toDigits 10 count ++ ' ' ::
        (unit.name.toList ++ (if count = 1 then "" else "s").toList ++ " ago".toList) := by
  simp [text, Nat.toString_eq_repr, Nat.toList_repr]

theorem cutAtChar_text_ago (count : Nat) (unit : AgeUnit) :
    cutAtChar ' ' (Age.ago count unit).text.toList =
      (Nat.toDigits 10 count,
        some (unit.name.toList ++ (if count = 1 then "" else "s").toList ++ " ago".toList)) := by
  rw [Age.toList_text_ago]
  exact cutAtChar_append_cons (fun h => absurd (isDigit_of_mem_toDigits h) (by decide)) _

theorem Age.text_ago_ne_justNow (count : Nat) (unit : AgeUnit) :
    (ago count unit).text ≠ justNow.text := by
  intro h
  have hcut := cutAtChar_text_ago count unit
  rw [h] at hcut
  have hdigits : Nat.toDigits 10 count = "just".toList := (congrArg Prod.fst hcut).symm
  have hdigit : Char.isDigit 'j' = true :=
    isDigit_of_mem_toDigits (n := count) (by rw [hdigits]; decide)
  exact absurd hdigit (by decide)

/-- Different ages have different wordings. -/
theorem Age.text_injective (h : age.text = age'.text) : age = age' := by
  cases age with
  | justNow =>
      cases age' with
      | justNow => rfl
      | ago count unit => exact absurd h.symm (text_ago_ne_justNow count unit)
  | ago count unit =>
      cases age' with
      | justNow => exact absurd h (text_ago_ne_justNow count unit)
      | ago count' unit' =>
          have hcut := cutAtChar_text_ago count unit
          rw [h, cutAtChar_text_ago] at hcut
          obtain ⟨hdigits, hname⟩ := Prod.mk.inj hcut
          obtain rfl : count' = count := by
            rw [← ofAsciiDigits_toDigits count', hdigits, ofAsciiDigits_toDigits]
          have hunit : unit' = unit := by
            simp only [Option.some.injEq, List.append_cancel_right_eq] at hname
            cases unit <;> cases unit' <;> first | rfl | exact absurd hname (by decide)
          rw [hunit]

/-- The seconds that have passed from one moment to another. -/
def secondsBetween (moment now : Moment) : Rat :=
  ((now.instant - moment.instant : Int) : Rat) / (second : Rat)

theorem secondsBetween_lt_iff (moment now : Moment) (n : Nat) :
    secondsBetween moment now < n ↔ now.instant - moment.instant < n * second := by
  rw [secondsBetween, div_lt_iff₀ (by norm_num [second])]
  norm_cast

/-- A count of units is half a unit at most away from the time that has passed. -/
theorem Age.Suits.abs_sub_le {count : Nat} {moment now : Moment}
    (h : Suits count unit (now.instant - moment.instant)) :
    |((count * unit.seconds : Nat) : Rat) - secondsBetween moment now| ≤ unit.seconds / 2 := by
  obtain ⟨-, -, hmore, hless⟩ := h
  have hsecond : (0 : Rat) < second := by norm_num [second]
  have hpassed : ((now.instant - moment.instant : Int) : Rat) =
      secondsBetween moment now * second := by
    rw [secondsBetween, div_mul_cancel₀ _ hsecond.ne']
  have hmore' : (2 * (count * unit.seconds) : Rat) ≤
      2 * secondsBetween moment now + unit.seconds := by
    refine le_of_mul_le_mul_right ?_ hsecond
    rw [add_mul, mul_assoc 2 (secondsBetween moment now), ← hpassed, mul_assoc, mul_assoc]
    exact_mod_cast hmore
  have hless' : 2 * secondsBetween moment now <
      (2 * (count * unit.seconds) + unit.seconds : Rat) := by
    refine lt_of_mul_lt_mul_right ?_ hsecond.le
    rw [add_mul, mul_assoc 2 (secondsBetween moment now), ← hpassed, mul_assoc, mul_assoc]
    exact_mod_cast hless
  rw [abs_le]
  push_cast
  constructor <;> linarith

/-- The label of a moment by exact arithmetic. -/
def exactLabel (moment now : Moment) : String := label id (now.instant - moment.instant)

/-- With exact arithmetic, labels are accurate and never go back.

A label says that a moment was just now when less than 60 seconds have passed.  Otherwise it counts
minutes, hours or days; the count is not zero, does not come to one of the next unit and is half a
unit at most away from the time that has passed.  No earlier moment has a label for a shorter
time. -/
theorem exactLabel_accurate (moment now : Moment) :
    (exactLabel moment now = Age.justNow.text ↔ secondsBetween moment now < 60) ∧
      (60 ≤ secondsBetween moment now →
        ∃ count unit, exactLabel moment now = (Age.ago count unit).text ∧
          1 ≤ count ∧ (∀ limit ∈ unit.limit?, count ≤ limit) ∧
            |((count * unit.seconds : Nat) : Rat) - secondsBetween moment now| ≤
              unit.seconds / 2) ∧
        ∀ (earlier : Moment) (age age' : Age), earlier.instant ≤ moment.instant →
          exactLabel earlier now = age.text → exactLabel moment now = age'.text →
            age'.seconds ≤ age.seconds := by
  have hsixty : secondsBetween moment now < 60 ↔ now.instant - moment.instant < 60 * second :=
    secondsBetween_lt_iff moment now 60
  have hcases := Age.of_cases (now.instant - moment.instant)
  refine ⟨?_, fun hlong => ?_, fun earlier age age' hearlier h h' => ?_⟩
  · rw [exactLabel, label_id, hsixty]
    rcases hcases with ⟨hnow, hage⟩ | ⟨hlong, count, unit, hage, -⟩
    · simp [hage, hnow]
    · rw [hage]
      exact iff_of_false (Age.text_ago_ne_justNow count unit) (by omega)
  · rw [← not_lt, hsixty] at hlong
    rcases hcases with ⟨hnow, -⟩ | ⟨-, count, unit, hage, hsuits⟩
    · exact absurd hnow hlong
    · exact ⟨count, unit, by rw [exactLabel, label_id, hage], hsuits.one_le, hsuits.le_limit,
        hsuits.abs_sub_le⟩
  · rw [exactLabel, label_id] at h h'
    rw [← Age.text_injective h, ← Age.text_injective h']
    rcases hcases with ⟨-, hage⟩ | ⟨hlong, count, unit, hage, hsuits⟩
    · rw [hage]
      exact Nat.zero_le _
    · rcases Age.of_cases (now.instant - earlier.instant) with ⟨hnow, -⟩ | ⟨-, _, _, hage', hsuits'⟩
      · omega
      · rw [hage, hage']
        exact hsuits.seconds_le hsuits' (by omega)

/-- Fifty-nine and a half minutes are an hour already, and one microsecond less are 59 minutes. -/
theorem exactLabel_accurate_hour :
    let now : Moment := ⟨3570000000, some 0, by decide⟩
    let earlier : Moment := ⟨0, some 0, by decide⟩
    let moment : Moment := ⟨1, some 0, by decide⟩
    60 ≤ secondsBetween moment now ∧ earlier.instant ≤ moment.instant ∧
      exactLabel earlier now = "1 hour ago" ∧ exactLabel moment now = "59 minutes ago" ∧
        (Age.ago 59 .minute).seconds ≤ (Age.ago 1 .hour).seconds ∧
          ∃ count unit, exactLabel moment now = (Age.ago count unit).text ∧ 1 ≤ count := by
  intro now earlier moment
  obtain ⟨-, hlabel, hback⟩ := exactLabel_accurate moment now
  have hlong : 60 ≤ secondsBetween moment now := by
    rw [← not_lt]
    exact fun h => absurd ((secondsBetween_lt_iff moment now 60).mp h) (by decide)
  have hhour : exactLabel earlier now = "1 hour ago" := by
    rw [exactLabel, label_id]
    decide +kernel
  have hminutes : exactLabel moment now = "59 minutes ago" := by
    rw [exactLabel, label_id]
    decide +kernel
  obtain ⟨count, unit, htext, hone, -, -⟩ := hlabel hlong
  refine ⟨hlong, by decide, hhour, hminutes, ?_, count, unit, htext, hone⟩
  exact hback earlier (.ago 1 .hour) (.ago 59 .minute) (by decide)
    (hhour.trans (by decide +kernel)) (hminutes.trans (by decide +kernel))

end TabNotes.Time
