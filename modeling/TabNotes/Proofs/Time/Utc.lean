import TabNotes.Proofs.Runs
import TabNotes.Time.Coerce

/-! # Moments in UTC

A moment is written in UTC exactly when UTC shows it in a year from 1 to 9999
(`isoUtc_eq_error_iff`).  That is so for every moment that a number stands for
(`isInCalendar_of_ofValue`), but not for those that texts and other clocks show. -/

namespace TabNotes.Time

open TabNotes.Number

variable {here : LocalZone} {m : Moment} {fault : Fault}

/-- Whether UTC shows a moment in a year from 1 to 9999. -/
def Moment.IsInCalendar (m : Moment) : Prop := 0 ≤ m.instant ∧ m.instant < clockSpan

theorem toNat_lt_clockSpan {clock : Int} (h : 0 ≤ clock ∧ clock < clockSpan) :
    clock.toNat < clockSpan := by
  omega

theorem Moment.ofClock_of_inSpan {clock : Int} (offset : Option Int)
    (h : 0 ≤ clock ∧ clock < clockSpan) :
    Moment.ofClock clock offset = .ok ⟨clock.toNat, offset, toNat_lt_clockSpan h⟩ := by
  rw [Moment.ofClock, Moment.ofClock?, dif_pos h]

theorem Moment.ofClock_of_not_inSpan {clock : Int} (offset : Option Int)
    (h : ¬ (0 ≤ clock ∧ clock < clockSpan)) :
    Moment.ofClock clock offset = .error .dateOutOfRange := by
  rw [Moment.ofClock, Moment.ofClock?, dif_neg h]

theorem Moment.ofClock_clock (m : Moment) (offset : Option Int) :
    Moment.ofClock m.clock offset = .ok { m with offset := offset } := by
  have hspan := m.inSpan
  rw [Moment.ofClock_of_inSpan _ (by omega)]
  rfl

/-- The same instant on a clock in UTC. -/
def Moment.utc (m : Moment) (h : m.IsInCalendar) : Moment :=
  ⟨m.instant.toNat, some 0, toNat_lt_clockSpan h⟩

/-- A moment of a known clock is shown in UTC by its instant, wherever it is. -/
theorem Moment.toUtc_of_offset {own : Int} (hown : m.offset = some own) :
    m.toUtc here = Moment.ofClock m.instant (some 0) := by
  have hinstant : m.clock - own = m.instant := by rw [Moment.instant, hown, Option.getD_some]
  rw [Moment.toUtc, Moment.ownOffset, hown, ← hinstant]
  rfl

theorem Moment.toUtc_eq {own : Int} (hown : m.offset = some own) (h : m.IsInCalendar) :
    m.toUtc here = .ok (m.utc h) := by
  rw [Moment.toUtc_of_offset hown, Moment.ofClock_of_inSpan _ h]
  rfl

theorem Moment.toUtc_of_not_isInCalendar {own : Int} (hown : m.offset = some own)
    (h : ¬ m.IsInCalendar) : m.toUtc here = .error .dateOutOfRange := by
  rw [Moment.toUtc_of_offset hown, Moment.ofClock_of_not_inSpan _ h]

theorem Moment.toOffset_of_toUtc {utc : Moment} (h : m.toUtc here = .ok utc) (offset : Int) :
    m.toOffset here offset = Moment.ofClock (utc.clock + offset) (some offset) := by
  rw [Moment.toOffset, h]
  rfl

theorem Moment.toOffset_of_error (h : m.toUtc here = .error fault) (offset : Int) :
    m.toOffset here offset = .error fault := by
  rw [Moment.toOffset, h]
  rfl

/-- Where UTC shows a moment, it shows it once more. -/
theorem Moment.toOffset_zero {own : Int} (hown : m.offset = some own) (h : m.IsInCalendar) :
    m.toOffset here 0 = .ok (m.utc h) := by
  rw [Moment.toOffset_of_toUtc (Moment.toUtc_eq hown h), Int.add_zero, Moment.ofClock_clock]
  rfl

/-- A moment of a known clock is written in UTC when it is in the calendar. -/
theorem isoUtc_of_isInCalendar {own : Int} (hown : m.offset = some own) (h : m.IsInCalendar) :
    ∃ iso, isoUtc here m = .ok iso := by
  rw [isoUtc, Moment.toOffset_zero hown h]
  exact ⟨_, rfl⟩

theorem isoUtc_of_not_isInCalendar {own : Int} (hown : m.offset = some own) (h : ¬ m.IsInCalendar) :
    isoUtc here m = .error .dateOutOfRange := by
  rw [isoUtc, Moment.toOffset_of_error (Moment.toUtc_of_not_isInCalendar hown h)]
  rfl

theorem isoUtc_eq_error_iff {own : Int} (hown : m.offset = some own) :
    isoUtc here m = .error fault ↔ ¬ m.IsInCalendar ∧ fault = .dateOutOfRange := by
  by_cases hin : m.IsInCalendar
  · obtain ⟨iso, hiso⟩ := @isoUtc_of_isInCalendar here m own hown hin
    simp [hin, hiso]
  · simp [hin, isoUtc_of_not_isInCalendar hown hin, eq_comm]

/-! ### The local clock -/

theorem Moment.ofClock_eq_ok_iff {clock : Int} {offset : Option Int} :
    Moment.ofClock clock offset = .ok m ↔ (m.clock : Int) = clock ∧ m.offset = offset := by
  constructor
  · intro h
    by_cases hspan : 0 ≤ clock ∧ clock < clockSpan
    · rw [Moment.ofClock_of_inSpan _ hspan] at h
      cases h
      exact ⟨Int.toNat_of_nonneg hspan.1, rfl⟩
    · rw [Moment.ofClock_of_not_inSpan _ hspan] at h
      cases h
  · rintro ⟨rfl, rfl⟩
    exact Moment.ofClock_clock m m.offset

/-- A moment that the local clock shows is one of a known clock, which UTC shows as well. -/
theorem Moment.of_toLocal_eq_ok {there : Moment} (h : m.toLocal here = .ok there) :
    there.offset.isSome = true ∧ there.IsInCalendar := by
  obtain ⟨utc, -, h⟩ := bind_eq_ok_iff.mp h
  obtain ⟨offset, -, h⟩ := bind_eq_ok_iff.mp h
  obtain ⟨hclock, hoffset⟩ := Moment.ofClock_eq_ok_iff.mp h
  have hspan := utc.inSpan
  refine ⟨by rw [hoffset]; rfl, ?_⟩
  rw [Moment.IsInCalendar, Moment.instant, hoffset, hclock, Option.getD_some]
  omega

theorem Moment.toLocal_of_toUtc {utc : Moment} (h : m.toUtc here = .ok utc) :
    m.toLocal here = (here.offsetAt ((utc.clock / second : Nat) : Int)).bind fun offset =>
      Moment.ofClock (utc.clock + offset) (some offset) := by
  rw [Moment.toLocal, h]
  rfl

theorem Moment.toLocal_of_error (h : m.toUtc here = .error fault) :
    m.toLocal here = .error fault := by
  rw [Moment.toLocal, h]
  rfl

/-- The distance from UTC of the clock on which a stamp shows a moment of a known clock. -/
def Stamp.distance (here : LocalZone) (now : Moment) (zone : Option Int) : Except Fault Int :=
  match zone with
  | some offset => .ok offset
  | none => here.offsetAt (now.instant / second)

theorem Stamp.shown_eq {now : Moment} {own : Int} (hown : now.offset = some own)
    (h : now.IsInCalendar) (zone : Option Int) :
    Stamp.shown here now zone = (Stamp.distance here now zone).bind fun offset =>
      Moment.ofClock (now.instant + offset) (some offset) := by
  have hutc : ((now.utc h).clock : Int) = now.instant := Int.toNat_of_nonneg h.1
  cases zone with
  | some offset =>
      rw [Stamp.shown, Moment.toOffset_of_toUtc (Moment.toUtc_eq hown h), hutc]
      rfl
  | none =>
      rw [Stamp.shown, Moment.toLocal_of_toUtc (Moment.toUtc_eq hown h), Int.natCast_ediv, hutc]
      rfl

theorem Stamp.shown_of_not_isInCalendar {now : Moment} {own : Int} (hown : now.offset = some own)
    (h : ¬ now.IsInCalendar) (zone : Option Int) :
    Stamp.shown here now zone = .error .dateOutOfRange := by
  have hutc : now.toUtc here = .error .dateOutOfRange :=
    Moment.toUtc_of_not_isInCalendar hown h
  cases zone with
  | some offset => exact Moment.toOffset_of_error hutc offset
  | none => exact Moment.toLocal_of_error hutc

/-! ### Where the local clock shows UTC -/

theorem LocalZone.shownAt_utc (instant : Int) :
    LocalZone.utc.shownAt instant =
      if 0 ≤ instant ∧ instant < dayCount * LocalZone.daySeconds then .ok instant
      else .error (.yearOutOfRange (LocalZone.yearAt instant)) := by
  rw [LocalZone.shownAt, LocalZone.utc, Int.add_zero]

/-- On a clock in UTC readings have their instants, except on the first day of all, a day before which
there is no year. -/
theorem LocalZone.instantOf_utc {reading : Int} (h : 0 ≤ reading)
    (hlast : reading < dayCount * LocalZone.daySeconds) :
    LocalZone.utc.instantOf reading =
      if reading < LocalZone.daySeconds then .error (.yearOutOfRange 0) else .ok reading := by
  have hseconds : (LocalZone.daySeconds : Int) = 86400 := rfl
  have hshown : LocalZone.utc.shownAt reading = .ok reading := by
    rw [LocalZone.shownAt_utc, if_pos ⟨h, hlast⟩]
  simp only [LocalZone.instantOf, LocalZone.distanceAt, hshown, bind, Except.bind, pure, Except.pure,
    Int.sub_self, Int.sub_zero, if_true]
  by_cases hfirst : reading < LocalZone.daySeconds
  · have hyear : LocalZone.yearAt (reading - LocalZone.daySeconds) = 0 := by
      have hdays : (reading - LocalZone.daySeconds) / LocalZone.daySeconds = -1 := by
        rw [hseconds] at hfirst ⊢
        omega
      rw [LocalZone.yearAt, hdays]
      decide
    rw [LocalZone.shownAt_utc, if_neg (by omega), if_pos hfirst, hyear]
  · rw [LocalZone.shownAt_utc, if_pos (by omega), if_neg hfirst]
    simp only [Int.sub_self, if_true]

theorem LocalZone.offsetAt_utc (instant : Int) : LocalZone.utc.offsetAt instant = .ok 0 := by
  have hahead : LocalZone.utc.aheadAt instant = 0 := rfl
  rw [LocalZone.offsetAt, hahead, if_pos (by decide), Int.zero_mul]

/-- A moment of an unknown clock is shown in UTC by way of the instant of its reading. -/
theorem Moment.toUtc_of_none (hown : m.offset = none) :
    m.toUtc here = (here.instantOf ((m.clock / second : Nat) : Int)).bind fun instant =>
      (here.offsetAt instant).bind fun own => Moment.ofClock (m.clock - own) (some 0) := by
  rw [Moment.toUtc, Moment.ownOffset, hown]
  cases here.instantOf ((m.clock / second : Nat) : Int) <;> rfl

/-- A moment of an unknown clock is one of UTC where that is the local clock, but on the first day of
all. -/
theorem Moment.toLocal_utc (hown : m.offset = none) :
    m.toLocal .utc =
      if m.clock < day then .error (.yearOutOfRange 0) else .ok { m with offset := some 0 } := by
  have hspan := m.inSpan
  have hsecond : ((m.clock / second : Nat) : Int) < dayCount * LocalZone.daySeconds := by
    rw [clockSpan, day, ← Nat.mul_assoc] at hspan
    exact_mod_cast Nat.div_lt_of_lt_mul (Nat.mul_comm _ second ▸ hspan)
  have hfirst : ((m.clock / second : Nat) : Int) < LocalZone.daySeconds ↔ m.clock < day := by
    rw [day, Int.ofNat_lt, Nat.div_lt_iff_lt_mul (by decide), LocalZone.daySeconds]
  have hinstant := LocalZone.instantOf_utc (Int.natCast_nonneg _) hsecond
  have hutc : m.toUtc .utc = _ := Moment.toUtc_of_none hown
  rw [hinstant] at hutc
  by_cases hday : m.clock < day
  · rw [if_pos (hfirst.mpr hday)] at hutc
    rw [if_pos hday, Moment.toLocal_of_error hutc]
  · rw [if_neg fun h => hday (hfirst.mp h)] at hutc
    have hsame : m.toUtc .utc = .ok { m with offset := some 0 } := by
      rw [hutc, Except.bind, LocalZone.offsetAt_utc, Except.bind, Int.sub_zero,
        Moment.ofClock_clock]
    rw [if_neg hday, Moment.toLocal_of_toUtc hsame, LocalZone.offsetAt_utc, Except.bind,
      Int.add_zero, Moment.ofClock_clock]

/-! ### Moments that values stand for -/

theorem exists_offset_of_ofText {s : String} (h : ofText s = some m) :
    ∃ own, m.offset = some own := by
  unfold ofText at h
  dsimp only at h
  split at h
  · cases h
  · obtain ⟨n, -, rfl⟩ := Option.map_eq_some_iff.mp h
    exact ⟨_, rfl⟩

theorem isInCalendar_of_ofEpochMilliseconds {ms : Float} (h : ofEpochMilliseconds ms = some m) :
    m.offset = some 0 ∧ m.IsInCalendar := by
  unfold ofEpochMilliseconds Moment.ofClock? at h
  split at h
  · split at h
    · cases h
      refine ⟨rfl, ?_⟩
      rw [Moment.IsInCalendar, Moment.instant]
      simp
      omega
    · cases h
  · cases h

-- Unfolding the bound would count up to it.
attribute [local irreducible] overflowBound

theorem ofValue_int (here : LocalZone) (n : Int) :
    ofValue here (.int n) =
      match ofInt? n with
      | some ms => .ok (ofEpochMilliseconds ms)
      | none => .error .tooLargeForFloat := rfl

theorem ofValue_moment_of_offset {own : Int} (hown : m.offset = some own) :
    ofValue here (.moment m) = .ok (some m) := by
  change (match m.offset with
    | some _ => Except.ok (some m)
    | none => m.toLocal here >>= fun there => .ok (some there)) = _
  rw [hown]

theorem ofValue_moment_of_none (hown : m.offset = none) :
    ofValue here (.moment m) = (m.toLocal here).map some := by
  change (match m.offset with
    | some _ => Except.ok (some m)
    | none => m.toLocal here >>= fun there => .ok (some there)) = _
  rw [hown]
  cases m.toLocal here <;> rfl

theorem ofInt?_eq_none_iff {n : Int} : ofInt? n = none ↔ overflowBound ≤ n.natAbs := by
  unfold ofInt?
  split
  · rename_i h
    simp [h]
  · rename_i h
    simp [Nat.le_of_not_lt h]

/-- A number that stands for a moment stands for one of the clock in UTC. -/
theorem isInCalendar_of_ofValue {v : Value} (hv : (∃ n, v = .int n) ∨ ∃ ms, v = .float ms)
    (h : ofValue here v = .ok (some m)) : m.offset = some 0 ∧ m.IsInCalendar := by
  rcases hv with ⟨n, rfl⟩ | ⟨ms, rfl⟩
  · rw [ofValue_int] at h
    cases hms : ofInt? n with
    | some ms =>
        rw [hms] at h
        exact isInCalendar_of_ofEpochMilliseconds (Except.ok.inj h)
    | none =>
        rw [hms] at h
        cases h
  · exact isInCalendar_of_ofEpochMilliseconds (Except.ok.inj h)

theorem exists_offset_of_ofValue {v : Value} (h : ofValue here v = .ok (some m)) :
    ∃ own, m.offset = some own := by
  cases v with
  | moment n =>
      cases hown : n.offset with
      | some own =>
          rw [ofValue_moment_of_offset hown] at h
          cases h
          exact ⟨own, hown⟩
      | none =>
          rw [ofValue_moment_of_none hown] at h
          obtain ⟨m, hlocal, ⟨⟩⟩ := map_eq_ok_iff.mp h
          exact Option.isSome_iff_exists.mp (Moment.of_toLocal_eq_ok hlocal).1
  | int n => exact ⟨0, (isInCalendar_of_ofValue (.inl ⟨n, rfl⟩) h).1⟩
  | float ms => exact ⟨0, (isInCalendar_of_ofValue (.inr ⟨ms, rfl⟩) h).1⟩
  | text s => exact exists_offset_of_ofText (Except.ok.inj h)
  | _ => cases h

end TabNotes.Time
