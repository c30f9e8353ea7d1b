import Mathlib.Data.List.Induction
import TabNotes.Proofs.Time.Notation
import TabNotes.Time.Iso

/-! # What stands where in a reading

`ShowsAt` says that characters stand from a position of a reading on.  It follows appended texts
(`showsAt_append`), an ASCII text stands at the start of its reading (`showsAt_ofChars`), and digits
are read as the number that they write (`digits?_of_showsAt`). -/

namespace TabNotes.Time.Reading

variable {r : Reading} {i j n width : Nat} {c : Char} {cs ds : List Char}

/-- Characters stand from a position on. -/
def ShowsAt (r : Reading) (i : Nat) (cs : List Char) : Prop :=
  ∀ j (h : j < cs.length), r.at_ (i + j) = cs[j].toNat

theorem showsAt_append :
    r.ShowsAt i (cs ++ ds) ↔ r.ShowsAt i cs ∧ r.ShowsAt (i + cs.length) ds := by
  constructor
  · refine fun h => ⟨fun j hj => ?_, fun j hj => ?_⟩
    · rw [h j (by simp; omega), List.getElem_append_left hj]
    · rw [Nat.add_assoc, h (cs.length + j) (by simp; omega),
        List.getElem_append_right (Nat.le_add_right _ _)]
      simp
  · rintro ⟨hcs, hds⟩ j hj
    by_cases hlt : j < cs.length
    · rw [List.getElem_append_left hlt, hcs j hlt]
    · rw [List.length_append] at hj
      have hback := hds (j - cs.length) (by omega)
      rw [List.getElem_append_right (by omega), ← hback]
      congr 1
      omega

theorem showsAt_cons : r.ShowsAt i (c :: cs) ↔ r.at_ i = c.toNat ∧ r.ShowsAt (i + 1) cs := by
  have hone : r.ShowsAt i [c] ↔ r.at_ i = c.toNat := by
    constructor
    · exact fun h => h 0 (by simp)
    · intro h j hj
      obtain rfl : j = 0 := by simpa using hj
      exact h
  rw [← List.singleton_append, showsAt_append, hone]
  rfl

theorem ShowsAt.isDigitAt (h : r.ShowsAt i cs) (hdigits : ∀ c ∈ cs, c.isDigit = true)
    (hj : j < cs.length) : r.isDigitAt (i + j) = true := by
  have hrange := Char.isDigit_iff_toNat.mp (hdigits cs[j] (List.getElem_mem hj))
  rw [Reading.isDigitAt, h j hj]
  simpa using hrange

/-! ### Numbers -/

/-- Digits are read as the number that they write. -/
theorem digits?_of_showsAt (h : r.ShowsAt i cs) (hdigits : ∀ c ∈ cs, c.isDigit = true) :
    r.digits? i cs.length = some (Nat.ofDigitChars 10 cs 0) := by
  -- from the end of the text, as the reader goes
  induction cs using List.reverseRecOn with
  | nil => rfl
  | append_singleton cs c ih =>
      obtain ⟨hcs, hc⟩ := showsAt_append.mp h
      have hdigit : r.isDigitAt (i + cs.length) = true :=
        h.isDigitAt hdigits (by simp)
      rw [List.length_append, List.length_singleton, digits?, if_pos hdigit,
        ih hcs fun d hd => hdigits d (List.mem_append_left _ hd), (showsAt_cons.mp hc).1,
        Nat.ofDigitChars_append]
      rfl

/-- Where a digit is missing no number is read. -/
theorem digits?_eq_none (hj : j < n) (h : r.isDigitAt (i + j) = false) : r.digits? i n = none := by
  induction n with
  | zero => exact absurd hj (Nat.not_lt_zero j)
  | succ n ih =>
      rw [digits?]
      split
      · rename_i hdigit
        have hlt : j < n := by
          refine Nat.lt_of_le_of_ne (Nat.le_of_lt_succ hj) ?_
          rintro rfl
          rw [h] at hdigit
          cases hdigit
        rw [ih hlt, Option.map_none]
      · rfl

theorem digits?_padded (hwidth : 0 < width) (hn : n < Nat.pow 10 width)
    (h : r.ShowsAt i (padded width n).toList) : r.digits? i width = some n := by
  have hread := digits?_of_showsAt h fun c hc => isDigit_of_mem_padded hc
  rwa [length_padded hwidth hn, ofDigitChars_padded] at hread

theorem isDigitAt_padded (hwidth : 0 < width) (hn : n < Nat.pow 10 width)
    (h : r.ShowsAt i (padded width n).toList) (hj : j < width) : r.isDigitAt (i + j) = true :=
  h.isDigitAt (fun _ hc => isDigit_of_mem_padded hc) (by rwa [length_padded hwidth hn])

/-! ### ASCII texts -/

/-- The reading of a text. -/
def ofChars (cs : List Char) : Reading := ⟨(String.ofList cs).toUTF8⟩

theorem bytes_ofChars (h : ∀ c ∈ cs, c.toNat < 128) :
    (ofChars cs).bytes = (cs.map fun c => c.val.toUInt8).toByteArray := by
  have hone : ∀ c ∈ cs, String.utf8EncodeChar c = [c.val.toUInt8] := fun c hc =>
    String.utf8EncodeChar_eq_singleton
      (Char.utf8Size_eq_one_iff.mpr (UInt32.le_iff_toNat_le.mpr (Nat.le_of_lt_succ (h c hc))))
  change (String.ofList cs).toUTF8 = _
  rw [String.toUTF8_eq_toByteArray, String.toByteArray_ofList, List.utf8Encode, List.flatMap_def,
    List.map_congr_left hone, ← List.flatMap_def, List.map_eq_flatMap]

theorem size_ofChars (h : ∀ c ∈ cs, c.toNat < 128) : (ofChars cs).bytes.size = cs.length := by
  rw [bytes_ofChars h, List.size_toByteArray, List.length_map]

/-- An ASCII text stands at the start of its reading, one byte for each character. -/
theorem showsAt_ofChars (h : ∀ c ∈ cs, c.toNat < 128) : (ofChars cs).ShowsAt 0 cs := by
  intro j hj
  have hsize := size_ofChars h
  have hlt := h cs[j] (List.getElem_mem hj)
  rw [Nat.zero_add, at_, dif_pos (by rw [hsize]; exact hj)]
  simp only [bytes_ofChars h, List.getElem_toByteArray, List.getElem_map, UInt32.toNat_toUInt8]
  exact Nat.mod_eq_of_lt (Nat.lt_trans hlt (by decide))

theorem at_ofChars_of_le (h : ∀ c ∈ cs, c.toNat < 128) (hi : cs.length ≤ i) :
    (ofChars cs).at_ i = 0 := by
  rw [at_, dif_neg (by rw [size_ofChars h]; omega)]

end TabNotes.Time.Reading
