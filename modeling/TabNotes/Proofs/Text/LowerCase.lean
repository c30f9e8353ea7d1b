import Mathlib.Data.List.Basic
import TabNotes.Text.LowerCase

/-! # Texts in lower case

What a capital sigma becomes depends on the characters around it; every other character becomes the
same everywhere.  `IsLowered` leaves open what a sigma becomes, so that a text in lower case can be
read from its end (`IsLowered.of_concat`).  By the rows of the map few characters become the same
one (`eq_or_eq_of_shifted_eq`), and most become no other one (`isMadeByLowering`).

No row covers an image of another one (`avoids_lowerShifts`).  A text in lower case therefore has
only characters that lower case leaves as they are (`isLower_of_mem_lowerChars`), and so has every
part of it. -/

namespace TabNotes.Text

variable {rows : List Shift} {row other : Shift} {n m k : Nat} {c d : Char}
  {before cs ds : List Char}

/-! ### Characters -/

theorem toNat_of_ofNat_eq (hd : 0 < d.toNat) (h : Char.ofNat n = d) : n = d.toNat := by
  subst h
  by_cases hvalid : n.isValidChar
  · have hchar : Char.ofNat n = Char.ofNatAux n hvalid := dif_pos hvalid
    rw [hchar]
    rfl
  · have hchar : Char.ofNat n = '\x00' := dif_neg hvalid
    rw [hchar] at hd
    exact absurd hd (by decide)

theorem Shift.eq_of_image?_eq (hk : 0 < k) (h : row.image? n = some k) :
    n = ((k : Int) - row.distance).toNat := by
  unfold Shift.image? at h
  split at h
  · have hn : ((n : Int) + row.distance).toNat = k := Option.some.inj h
    omega
  · cases h

/-- A character that comes out of a case map went in, or is the image of a row. -/
theorem eq_or_image?_of_shifted_eq (hd : 0 < d.toNat) (h : shifted rows c = d) :
    c = d ∨ ∃ row ∈ rows, row.image? c.toNat = some d.toNat := by
  unfold shifted at h
  split at h
  · rename_i n hn
    obtain ⟨row, hrow, himage⟩ := List.exists_of_findSome?_eq_some hn
    rw [toNat_of_ofNat_eq hd h] at himage
    exact .inr ⟨row, hrow, himage⟩
  · exact .inl h

/-- A character that only one other one becomes, by the rows of the map. -/
theorem eq_or_eq_of_shifted_eq {low high : Char} (hlow : 0 < low.toNat)
    (hrows : ∀ row ∈ lowerShifts,
      row.image? ((low.toNat : Int) - row.distance).toNat = some low.toNat →
        ((low.toNat : Int) - row.distance).toNat = high.toNat)
    (h : shifted lowerShifts c = low) : c = low ∨ c = high := by
  rcases eq_or_image?_of_shifted_eq hlow h with hc | ⟨row, hrow, himage⟩
  · exact .inl hc
  · have hpre := Shift.eq_of_image?_eq hlow himage
    rw [hpre] at himage
    exact .inr (Char.toNat_inj.mp (hpre.trans (hrows row hrow himage)))

/-- Whether lower case may turn some other character into the one with this code point; numbers that
are no code point count as 0. -/
def isMadeByLowering (n : Nat) : Bool :=
  n == 0 || n == 0x0307 || n == 0x03C2 ||
    lowerShifts.any fun row => row.image? ((n : Int) - row.distance).toNat == some n

theorem eq_of_shifted_eq (hd : isMadeByLowering d.toNat = false)
    (h : shifted lowerShifts c = d) : c = d := by
  simp only [isMadeByLowering, Bool.or_eq_false_iff, beq_eq_false_iff_ne, List.any_eq_false,
    beq_iff_eq] at hd
  obtain ⟨⟨⟨hzero, -⟩, -⟩, hrows⟩ := hd
  rcases eq_or_image?_of_shifted_eq (Nat.pos_of_ne_zero hzero) h with hc | ⟨row, hrow, himage⟩
  · exact hc
  · rw [Shift.eq_of_image?_eq (Nat.pos_of_ne_zero hzero) himage] at himage
    exact absurd himage (hrows row hrow)

/-- The code point at a row's distance from another one. -/
def Shift.moved (row : Shift) (n : Nat) : Nat := ((n : Int) + row.distance).toNat

/-- Whether the second row covers no image under the first one: the images lie above its code
points, below them or between them. -/
def Shift.avoids (row other : Shift) : Bool :=
  -- The kernel evaluates this for every pair of rows, hence the comparisons of plain numbers.
  Nat.blt other.last (row.moved row.first) || (Nat.blt (row.moved row.last) other.first ||
    (Nat.beq other.step 2 && ((Nat.beq row.step 2 || Nat.beq row.last row.first) &&
      Nat.beq ((row.moved row.first - other.first) % 2) 1)))

theorem Shift.image?_eq_none_of_avoids (havoids : row.avoids other = true)
    (h : row.image? n = some m) : other.image? m = none := by
  unfold Shift.image? at h ⊢
  split at h
  · rename_i hn
    have hm : ((n : Int) + row.distance).toNat = m := Option.some.inj h
    refine if_neg fun hcovered => ?_
    simp only [Shift.avoids, Shift.moved, Bool.or_eq_true, Bool.and_eq_true, Nat.blt_eq,
      Nat.beq_eq] at havoids
    obtain habove | hbelow | ⟨htwo, hstep, hodd⟩ := havoids
    · omega
    · omega
    · rw [htwo] at hcovered
      rcases hstep with hstep | hstep
      · rw [hstep] at hn
        omega
      · omega
  · cases h

theorem avoids_lowerShifts : (lowerShifts.all fun row => lowerShifts.all row.avoids) = true := by
  decide +kernel

/-- A character that lower case leaves as it is, wherever it stands. -/
def IsLower (c : Char) : Prop := c ≠ '\u03A3' ∧ lowerChar c = [c]

instance : DecidablePred IsLower := fun _ => inferInstanceAs (Decidable (_ ∧ _))

theorem isLower_of_shifted_eq_self (hsigma : c ≠ '\u03A3') (hi : c ≠ '\u0130')
    (h : shifted lowerShifts c = c) : IsLower c :=
  ⟨hsigma, by rw [lowerChar, if_neg (by simpa using hi), h]⟩

theorem isLower_shifted (hsigma : c ≠ '\u03A3') (hi : c ≠ '\u0130') :
    IsLower (shifted lowerShifts c) := by
  generalize hd : shifted lowerShifts c = d
  have hne : ∀ e : Char, isMadeByLowering e.toNat = false → c ≠ e → d ≠ e := by
    rintro e he hce rfl
    exact hce (eq_of_shifted_eq he hd)
  rcases Nat.eq_zero_or_pos d.toNat with hzero | hpos
  · obtain rfl : d = '\x00' := Char.toNat_inj.mp hzero
    decide +kernel
  · refine isLower_of_shifted_eq_self (hne _ (by decide +kernel) hsigma)
      (hne _ (by decide +kernel) hi) ?_
    rcases eq_or_image?_of_shifted_eq hpos hd with rfl | ⟨row, hrow, himage⟩
    · exact hd
    · have hnone : lowerShifts.findSome? (fun other => other.image? d.toNat) = none := by
        refine List.findSome?_eq_none_iff.mpr fun other hother => ?_
        exact Shift.image?_eq_none_of_avoids
          (List.all_eq_true.mp (List.all_eq_true.mp avoids_lowerShifts row hrow) other hother)
          himage
      rw [shifted, hnone]

/-! ### Texts -/

/-- What a character may become in a text. -/
inductive IsImage (c : Char) : List Char → Prop where
  | alone : IsImage c (lowerChar c)
  | finalSigma : IsImage c ['\u03C2']
  | sigma : IsImage c ['\u03C3']

/-- A text in lower case, up to the form of its sigmas. -/
inductive IsLowered : List Char → List Char → Prop where
  | nil : IsLowered [] []
  | concat {cs ds image : List Char} {c : Char} (h : IsLowered cs ds) (hc : IsImage c image) :
      IsLowered (cs ++ [c]) (ds ++ image)

theorem IsLowered.append_lowerCharsAfter (h : IsLowered cs ds) (before more : List Char) :
    IsLowered (cs ++ more) (ds ++ lowerCharsAfter before more) := by
  induction more generalizing before cs ds with
  | nil =>
      rw [lowerCharsAfter, List.append_nil, List.append_nil]
      exact h
  | cons c more ih =>
      rw [lowerCharsAfter, List.append_cons, ← List.append_assoc]
      refine ih (h.concat ?_) (c :: before)
      split
      · split
        · exact .finalSigma
        · exact .sigma
      · exact .alone

theorem isLowered_lowerChars (cs : List Char) : IsLowered cs (lowerChars cs) :=
  IsLowered.nil.append_lowerCharsAfter [] cs

/-- The last character of a text in lower case comes from the last one of the text, unless it is a
sigma or the dot of an i. -/
theorem IsLowered.of_concat {lowered : List Char} (h : IsLowered cs lowered)
    (hlowered : lowered = ds ++ [d]) (hd : d ∉ ['\u0307', '\u03C2', '\u03C3']) :
    ∃ stem c, cs = stem ++ [c] ∧ shifted lowerShifts c = d ∧ IsLowered stem ds := by
  cases h with
  | nil => simp at hlowered
  | @concat stem front image c h hc =>
      cases hc with
      | alone =>
          unfold lowerChar at hlowered
          split at hlowered
          · have hlast := congrArg List.getLast? hlowered
            simp only [List.getLast?_append, List.getLast?_singleton, List.getLast?_cons_cons,
              Option.some_or, Option.some.injEq] at hlast
            simp [← hlast] at hd
          · obtain ⟨rfl, hcd⟩ := List.append_inj' hlowered rfl
            exact ⟨stem, c, rfl, List.singleton_inj.mp hcd, h⟩
      | finalSigma =>
          obtain ⟨-, hsigma⟩ := List.append_inj' hlowered rfl
          simp [← List.singleton_inj.mp hsigma] at hd
      | sigma =>
          obtain ⟨-, hsigma⟩ := List.append_inj' hlowered rfl
          simp [← List.singleton_inj.mp hsigma] at hd

theorem exists_lowerCharsAfter_append (before cs ds : List Char) :
    ∃ front after, lowerCharsAfter before (cs ++ ds) = front ++ lowerCharsAfter after ds := by
  induction cs generalizing before with
  | nil => exact ⟨[], before, rfl⟩
  | cons c cs ih =>
      obtain ⟨front, after, h⟩ := ih (c :: before)
      rw [List.cons_append, lowerCharsAfter, h, ← List.append_assoc]
      exact ⟨_, after, rfl⟩

/-- A character that lower case makes of no other one stands in a text in lower case only where it
stood before. -/
theorem mem_of_mem_lowerCharsAfter (hd : isMadeByLowering d.toNat = false)
    (h : d ∈ lowerCharsAfter before cs) : d ∈ cs := by
  have hne : ∀ e : Char, isMadeByLowering e.toNat = true → d ≠ e := by
    rintro e he rfl
    exact absurd hd (by simp [he])
  induction cs generalizing before with
  | nil => exact h
  | cons c cs ih =>
      rw [lowerCharsAfter, List.mem_append] at h
      rcases h with h | h
      · split at h
        · split at h
          · exact absurd (List.mem_singleton.mp h) (hne '\u03C2' (by decide +kernel))
          · exact absurd (List.mem_singleton.mp h) (hne '\u03C3' (by decide +kernel))
        · unfold lowerChar at h
          split at h
          · rcases List.mem_pair.mp h with h | h
            · exact absurd h (hne 'i' (by decide +kernel))
            · exact absurd h (hne '\u0307' (by decide +kernel))
          · rw [eq_of_shifted_eq hd (List.mem_singleton.mp h).symm]
            exact List.mem_cons_self
      · exact List.mem_cons_of_mem c (ih h)

theorem mem_of_mem_lowerChars (hd : isMadeByLowering d.toNat = false) (h : d ∈ lowerChars cs) :
    d ∈ cs :=
  mem_of_mem_lowerCharsAfter hd h

/-- A text in lower case has nothing left to lower: sigmas of either form, the two characters that
the dotted i becomes, and images under the map. -/
theorem isLower_of_mem_lowerCharsAfter (h : c ∈ lowerCharsAfter before cs) : IsLower c := by
  induction cs generalizing before with
  | nil => cases h
  | cons d cs ih =>
      rw [lowerCharsAfter, List.mem_append] at h
      rcases h with h | h
      · split at h
        · split at h <;> rw [List.mem_singleton.mp h] <;> decide +kernel
        · rename_i hsigma
          unfold lowerChar at h
          split at h
          · rcases List.mem_pair.mp h with rfl | rfl <;> decide +kernel
          · rename_i hi
            rw [List.mem_singleton.mp h]
            exact isLower_shifted (by simpa using hsigma) (by simpa using hi)
      · exact ih h

theorem isLower_of_mem_lowerChars (h : c ∈ lowerChars cs) : IsLower c :=
  isLower_of_mem_lowerCharsAfter h

theorem lowerCharsAfter_of_isLower (h : ∀ c ∈ cs, IsLower c) : lowerCharsAfter before cs = cs := by
  induction cs generalizing before with
  | nil => rfl
  | cons c cs ih =>
      obtain ⟨hsigma, hc⟩ := h c List.mem_cons_self
      rw [lowerCharsAfter, if_neg (by simpa using hsigma), hc,
        ih fun d hd => h d (List.mem_cons_of_mem c hd)]
      rfl

theorem lowerChars_of_isLower (h : ∀ c ∈ cs, IsLower c) : lowerChars cs = cs :=
  lowerCharsAfter_of_isLower h

end TabNotes.Text
