import TabNotes.Proofs.Runs
import TabNotes.Time.Stamp

/-! # File names of stamps

The text of a stamp for file names holds digits, hyphens and the `T` between the date and the time,
so that it can stand in any name (`isName_fileName`). -/

namespace TabNotes.Time

variable {here : LocalZone} {now : Moment} {zone : Option Int} {stamp : Stamp} {s t : String}

/-- Nothing but digits, hyphens and the `T` between a date and a time. -/
def IsName (s : String) : Prop := ∀ c ∈ s.toList, c.isDigit = true ∨ c = '-' ∨ c = 'T'

theorem IsName.append (hs : IsName s) (ht : IsName t) : IsName (s ++ t) := by
  intro c hc
  rw [String.toList_append, List.mem_append] at hc
  exact hc.elim (hs c) (ht c)

theorem isName_padded (width n : Nat) : IsName (padded width n) := by
  intro c hc
  rw [padded, String.toList_ofList, List.mem_append, List.mem_replicate] at hc
  refine .inl ?_
  rcases hc with ⟨-, rfl⟩ | hc
  · rfl
  · exact Nat.isDigit_of_mem_toDigits (by decide) (by decide) hc

theorem isName_hyphen : IsName "-" := fun _ hc => .inr (.inl (List.mem_singleton.mp hc))

theorem isName_T : IsName "T" := fun _ hc => .inr (.inr (List.mem_singleton.mp hc))

theorem Date.isName_text (yearWidth : Nat) (d : Date) : IsName (d.text yearWidth) :=
  ((((isName_padded _ _).append isName_hyphen).append (isName_padded _ _)).append
    isName_hyphen).append (isName_padded _ _)

theorem Moment.isName_timeText (m : Moment) : IsName (m.timeText "-") :=
  ((((isName_padded _ _).append isName_hyphen).append (isName_padded _ _)).append
    isName_hyphen).append (isName_padded _ _)

/-- A stamp shows the moment on a clock, beside what `isoUtc` writes. -/
theorem Stamp.of_eq_ok (h : Stamp.of here now zone = .ok stamp) :
    ∃ there iso, Stamp.shown here now zone = .ok there ∧ isoUtc here now = .ok iso ∧
      stamp = ⟨iso, there.date.text 1 ++ "T" ++ there.timeText "-", there.date.text 1,
        there.timeText ":"⟩ := by
  obtain ⟨there, hthere, h⟩ := bind_eq_ok_iff.mp h
  obtain ⟨iso, hiso, h⟩ := bind_eq_ok_iff.mp h
  cases h
  exact ⟨there, iso, hthere, hiso, rfl⟩

theorem fileName_of_eq_ok (h : Stamp.of here now zone = .ok stamp) :
    ∃ there : Moment, stamp.fileName = there.date.text 1 ++ "T" ++ there.timeText "-" := by
  obtain ⟨there, iso, -, -, rfl⟩ := Stamp.of_eq_ok h
  exact ⟨there, rfl⟩

theorem isName_fileName (h : Stamp.of here now zone = .ok stamp) :
    IsName stamp.fileName ∧ 'T' ∈ stamp.fileName.toList := by
  obtain ⟨there, hname⟩ := fileName_of_eq_ok h
  rw [hname]
  exact ⟨((there.date.isName_text 1).append isName_T).append there.isName_timeText, by simp⟩

end TabNotes.Time
