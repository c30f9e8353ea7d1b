import TabNotes.Proofs.Time.Positions

/-! # Reading written moments

A moment that is written to the millisecond with the offset zero is read part by part, each where it
stands (`Reading.date?_of_showsAt`, `Reading.moment?_of_showsAt`).  All of it comes back when the
year has four digits (`Moment.ofIso?_momentChars`); a shorter year is not read, since years are
written with the digits they have (`Moment.ofIso?_momentChars_of_lt`). -/

namespace TabNotes.Time

open TabNotes.Number

variable {r : Reading} {i n limit : Nat} {c : Char} {cs : List Char} {d : Date} {m : Moment}

/-! ### Written moments -/

/-- A time of day to the millisecond. -/
def clockChars (m : Moment) (n : Nat) : List Char :=
  (m.timeText ":").toList ++ '.' :: (padded 3 n).toList

/-- A date and a time of day to the millisecond. -/
def momentChars (m : Moment) (n : Nat) : List Char :=
  (m.date.text 1).toList ++ 'T' :: clockChars m n

theorem length_clockChars (m : Moment) (hn : n < 1000) : (clockChars m n).length = 12 := by
  rw [clockChars, List.length_append, m.length_timeText, List.length_cons,
    length_padded (by decide) hn]
  rfl

theorem isDigit_or_of_mem_clockChars (h : c ∈ clockChars m n) :
    c.isDigit = true ∨ c = ':' ∨ c = '.' := by
  rw [clockChars, List.mem_append, List.mem_cons] at h
  rcases h with h | rfl | h
  · exact (Moment.isDigit_or_of_mem_timeText h).imp_right fun h => .inl (List.mem_singleton.mp h)
  · exact .inr (.inr rfl)
  · exact .inl (isDigit_of_mem_padded h)

theorem isDigit_or_of_mem_momentChars (h : c ∈ momentChars m n) :
    c.isDigit = true ∨ c ∈ ['-', 'T', ':', '.'] := by
  rw [momentChars, List.mem_append, List.mem_cons] at h
  rcases h with h | rfl | h
  · exact (Date.isDigit_or_of_mem_text h).imp_right fun h => by simp [h]
  · exact .inr (by decide)
  · refine (isDigit_or_of_mem_clockChars h).imp_right fun h => ?_
    rcases h with rfl | rfl <;> decide

theorem toNat_lt_of_mem_momentChars (h : c ∈ momentChars m n ++ "+00:00".toList) :
    c.toNat < 128 := by
  rcases List.mem_append.mp h with h | h
  · rcases isDigit_or_of_mem_momentChars h with hdigit | hmark
    · exact Nat.lt_of_le_of_lt (Char.isDigit_iff_toNat.mp hdigit).2 (by decide)
    · have hall : ['-', 'T', ':', '.'].all (fun c => decide (c.toNat < 128)) = true := by decide
      exact of_decide_eq_true (List.all_eq_true.mp hall c hmark)
  · have hall : "+00:00".toList.all (fun c => decide (c.toNat < 128)) = true := by decide
    exact of_decide_eq_true (List.all_eq_true.mp hall c h)

namespace Reading

/-! ### Reading dates and times -/

/-- A date with a year of four digits is read where it stands. -/
theorem date?_of_showsAt (hyear : d.year < 10000) (hmonth : d.month < 100) (hday : d.day < 100)
    (hsize : r.bytes.size ≠ 7) (h : r.ShowsAt 0 (d.text 4).toList) :
    r.dateEnd = some 10 ∧ r.date? 10 = some d := by
  rw [Date.toList_text, showsAt_append, length_padded (by decide) hyear, showsAt_cons,
    showsAt_append, length_padded (by decide) hmonth, showsAt_cons] at h
  obtain ⟨hy, hfirst, hm, hsecond, hd⟩ := h
  have hhyphen : '-'.toNat = hyphen := rfl
  rw [hhyphen] at hfirst hsecond
  have hdigit : r.isDigitAt 5 = true := isDigitAt_padded (by decide) hmonth hm (j := 0) (by decide)
  have hweek : (r.at_ 5 == letterW) = false := by
    simp only [isDigitAt, Bool.and_eq_true, decide_eq_true_eq] at hdigit
    refine beq_false_of_ne ?_
    rw [letterW]
    omega
  constructor
  · simp [dateEnd, hsize, hfirst, hweek]
  · have hy' := digits?_padded (by decide) hyear hy
    have hm' := digits?_padded (by decide) hmonth hm
    have hd' := digits?_padded (by decide) hday hd
    simp [date?, hy', hfirst, hweek, hm', hsecond, hd']

theorem digitRun_eq_zero (h : r.isDigitAt i = false) (limit : Nat) : r.digitRun i limit = 0 := by
  cases limit with
  | zero => rfl
  | succ limit => rw [digitRun, if_neg (by simp [h])]

/-- A time of day with milliseconds is read up to what follows it. -/
theorem clockFrom?_of_showsAt (m : Moment) (hn : n < 1000)
    (h : r.ShowsAt i (clockChars m n)) (hafter : r.isDigitAt (i + 12) = false) :
    r.clockFrom? (i + 12) true 3 [] i =
      some ⟨m.hour, m.minute, m.sec, n * 1000, r.at_ (i + 12) != 0⟩ := by
  obtain ⟨hhour, hminute, hsec⟩ := m.time_lt
  have hcolons : ":".toList = [':'] := rfl
  rw [clockChars, Moment.toList_timeText, hcolons] at h
  simp only [List.append_assoc, List.cons_append, List.nil_append, showsAt_append, showsAt_cons,
    length_padded (by decide : 0 < 2) hhour, length_padded (by decide : 0 < 2) hminute,
    length_padded (by decide : 0 < 2) hsec, Nat.add_assoc, Nat.reduceAdd] at h
  obtain ⟨hh, hfirst, hmi, hsecond, hs, hpoint, hms⟩ := h
  have hh' := digits?_padded (by decide) hhour hh
  have hmi' := digits?_padded (by decide) hminute hmi
  have hs' := digits?_padded (by decide) hsec hs
  have hms' := digits?_padded (by decide) hn hms
  have hcolon : ':'.toNat = colon := rfl
  have hdot : '.'.toNat = point := rfl
  rw [hcolon] at hfirst hsecond
  rw [hdot] at hpoint
  have hfraction : r.fraction? (i + 9) (i + 12) = some (n * 1000, r.at_ (i + 12) != 0) := by
    simp [fraction?, hms', Nat.add_assoc, digitRun_eq_zero hafter]
  have hnext : (point == colon) = false := rfl
  simp [clockFrom?, hh', hmi', hs', hfirst, hsecond, hpoint, hnext, hfraction, Nat.add_assoc]

/-- The offset starts at the first sign. -/
theorem offsetStart_of_showsAt (h : r.ShowsAt i cs) (hcs : ∀ c ∈ cs, c ∉ ['+', '-', 'Z'])
    (hplus : r.at_ (i + cs.length) = plus) (hlimit : cs.length < limit) :
    r.offsetStart i limit = i + cs.length := by
  induction cs generalizing i limit with
  | nil =>
      obtain ⟨limit, rfl⟩ := Nat.exists_eq_succ_of_ne_zero (Nat.ne_of_gt hlimit)
      rw [List.length_nil, Nat.add_zero] at hplus
      simp [offsetStart, hplus]
  | cons c cs ih =>
      obtain ⟨limit, rfl⟩ := Nat.exists_eq_succ_of_ne_zero (Nat.ne_of_gt (Nat.zero_lt_of_lt hlimit))
      obtain ⟨hc, hmore⟩ := showsAt_cons.mp h
      have hsign : ∀ d ∈ ['+', '-', 'Z'], r.at_ i ≠ d.toNat := by
        intro d hd heq
        rw [hc, Char.toNat_inj] at heq
        exact hcs c List.mem_cons_self (heq ▸ hd)
      have hlength : i + (c :: cs).length = i + 1 + cs.length := by
        rw [List.length_cons]
        omega
      rw [hlength] at hplus ⊢
      have hback : r.offsetStart (i + 1) limit = i + 1 + cs.length :=
        ih hmore (fun d hd => hcs d (List.mem_cons_of_mem c hd)) hplus
          (Nat.lt_of_succ_lt_succ hlimit)
      have hfirst : r.at_ i ≠ plus := hsign '+' (by decide)
      have hsecond : r.at_ i ≠ hyphen := hsign '-' (by decide)
      have hthird : r.at_ i ≠ letterZ := hsign 'Z' (by decide)
      rw [offsetStart, if_neg (by simp [hfirst, hsecond, hthird]), hback]

/-- The offset zero is read where a text ends with it. -/
theorem offset?_zero (h : r.ShowsAt i "+00:00".toList) (hsize : r.bytes.size = i + 6)
    (hend : r.at_ (i + 6) = 0) : r.offset? i = some 0 := by
  have hchars : "+00:00".toList = '+' :: ((padded 2 0).toList ++ ':' :: (padded 2 0).toList) := by
    decide
  rw [hchars, showsAt_cons, showsAt_append, length_padded (by decide) (by decide),
    showsAt_cons] at h
  obtain ⟨hplus, hhours, hcolon, hminutes⟩ := h
  have hh := digits?_padded (by decide) (by decide) hhours
  have hm := digits?_padded (by decide) (by decide) hminutes
  have hcolon' : r.at_ (i + 3) = colon := hcolon
  have hday : day ≠ 0 := by decide
  simp [offset?, clockFrom?, hsize, hh, hm, hcolon', hend, hday, Nat.add_assoc]

/-- A time of day with milliseconds and the offset zero is read to the end of the text. -/
theorem moment?_of_showsAt (d : Date) (m : Moment) (hn : n < 1000)
    (h : r.ShowsAt i (clockChars m n ++ "+00:00".toList)) (hsize : r.bytes.size = i + 18)
    (hend : r.at_ (i + 18) = 0) :
    r.moment? d i = Moment.ofParts? d m.hour m.minute m.sec (n * 1000) (some 0) := by
  have hlength := length_clockChars m hn
  obtain ⟨htime, hzone⟩ := showsAt_append.mp h
  rw [hlength] at hzone
  have hplus : r.at_ (i + 12) = plus := (showsAt_cons.mp hzone).1
  have hafter : r.isDigitAt (i + 12) = false := by
    rw [isDigitAt, hplus]
    rfl
  have hsigns : ∀ c ∈ clockChars m n, c ∉ ['+', '-', 'Z'] := by
    intro c hc hsign
    have hdigit := isDigit_or_of_mem_clockChars hc
    simp only [List.mem_cons, List.not_mem_nil, or_false] at hsign
    rcases hsign with rfl | rfl | rfl <;> exact absurd hdigit (by decide)
  have hstart : r.offsetStart i (max 1 (r.bytes.size - i)) = i + (clockChars m n).length :=
    offsetStart_of_showsAt htime hsigns (by rw [hlength, hplus]) (by omega)
  rw [hlength] at hstart
  have hclock := clockFrom?_of_showsAt m hn htime hafter
  have hoffset := offset?_zero hzone (by omega) hend
  have hnext : (plus == letterZ) = false := rfl
  have hmore : ¬ r.bytes.size ≤ i + 12 := by omega
  simp [moment?, hstart, hclock, hplus, hnext, hoffset, hmore]

end Reading

/-! ### Whole moments -/

/-- The moment that a reading of enough characters gives. -/
def Reading.whole? (r : Reading) : Option Moment := do
  let stop ← r.dateEnd
  let date ← r.date? stop
  if stop < r.bytes.size then r.moment? date (stop + Reading.characterSize (r.at_ stop))
  else Moment.ofParts? date 0 0 0 0 none

theorem Moment.ofIso?_ofList (cs : List Char) :
    Moment.ofIso? (String.ofList cs) =
      if cs.length < 7 then none else (Reading.ofChars cs).whole? := by
  rw [Moment.ofIso?, String.length_ofList]
  rfl

/-- A moment in UTC whose year has four digits is read to the millisecond. -/
theorem Moment.ofIso?_momentChars (hn : n < 1000) (hyear : 1000 ≤ m.date.year) :
    Moment.ofIso? (String.ofList (momentChars m n ++ "+00:00".toList)) =
      Moment.ofParts? m.date m.hour m.minute m.sec (n * 1000) (some 0) := by
  obtain ⟨hlast, hmonth, hday⟩ := m.date_lt
  have hfour : momentChars m n = (m.date.text 4).toList ++ 'T' :: clockChars m n := by
    rw [momentChars, Date.text, padded_of_four_digits hyear hlast]
    rfl
  have hlength : (momentChars m n ++ "+00:00".toList).length = 29 := by
    rw [hfour]
    simp [m.length_dateText, length_clockChars m hn]
  have hascii : ∀ c ∈ momentChars m n ++ "+00:00".toList, c.toNat < 128 :=
    fun _ => toNat_lt_of_mem_momentChars
  have hsize := Reading.size_ofChars hascii
  have hend := Reading.at_ofChars_of_le hascii (i := 29) (by omega)
  have hshows := Reading.showsAt_ofChars hascii
  rw [Moment.ofIso?_ofList, if_neg (by omega)]
  generalize Reading.ofChars (momentChars m n ++ "+00:00".toList) = r at hsize hend hshows ⊢
  rw [hlength] at hsize
  rw [hfour, List.append_assoc, Reading.showsAt_append, m.length_dateText, List.cons_append,
    Reading.showsAt_cons] at hshows
  obtain ⟨hdate, hT, hclock⟩ := hshows
  obtain ⟨hstop, hread⟩ := Reading.date?_of_showsAt hlast hmonth hday (by omega) hdate
  have hone : Reading.characterSize (r.at_ 10) = 1 := by
    rw [show r.at_ 10 = 0x54 from hT]
    rfl
  have hmoment := Reading.moment?_of_showsAt m.date m hn hclock hsize hend
  simp [Reading.whole?, hstop, hread, hsize, hone, hmoment]

/-- A year of fewer digits is not read, since a hyphen stands among the first four characters. -/
theorem Moment.ofIso?_momentChars_of_lt (n : Nat) (hyear : m.date.year < 1000) :
    Moment.ofIso? (String.ofList (momentChars m n ++ "+00:00".toList)) = none := by
  have hdigits : (padded 1 m.date.year).toList.length < 4 := by
    have hlength := length_toDigits_le (by decide) (show m.date.year < Nat.pow 10 3 from hyear)
    rw [toList_padded, List.length_append, List.length_replicate]
    omega
  have hascii : ∀ c ∈ momentChars m n ++ "+00:00".toList, c.toNat < 128 :=
    fun _ => toNat_lt_of_mem_momentChars
  have hshows := Reading.showsAt_ofChars hascii
  rw [Moment.ofIso?_ofList]
  generalize Reading.ofChars (momentChars m n ++ "+00:00".toList) = r at hshows ⊢
  rw [momentChars, Date.toList_text, List.append_assoc, List.append_assoc, List.cons_append,
    Reading.showsAt_append, Reading.showsAt_cons] at hshows
  have hnone : r.digits? 0 4 = none := by
    refine Reading.digits?_eq_none hdigits ?_
    rw [Reading.isDigitAt, hshows.2.1]
    rfl
  have hdate (stop : Nat) : r.date? stop = none := by
    rw [Reading.date?, hnone]
    rfl
  simp [Reading.whole?, hdate]

end TabNotes.Time
