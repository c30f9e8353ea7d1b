import TabNotes.Number.Integer

/-! # The digits of a number

A number of at most `digitLimit` digits is read back from them (`readDigits_toString`). -/

namespace TabNotes.Number

variable {n k : Nat} {c : Char}

theorem isDigit_of_mem_toDigits (h : c ∈ Nat.toDigits 10 n) : c.isDigit = true :=
  Nat.isDigit_of_mem_toDigits (by decide) (by decide) h

theorem isDigit_of_mem_toString (h : c ∈ (toString n).toList) : c.isDigit = true :=
  isDigit_of_mem_toDigits (Nat.toList_repr ▸ h)

theorem length_toDigits_le (hk : 0 < k) (h : n < Nat.pow 10 k) :
    (Nat.toDigits 10 n).length ≤ k := by
  rw [Nat.pow_eq] at h
  exact (Nat.length_toDigits_le_iff (by decide) hk).mpr h

theorem ofAsciiDigits_toDigits (n : Nat) : ofAsciiDigits (Nat.toDigits 10 n) = n := by
  have hvalue : ofAsciiDigits (Nat.toDigits 10 n) = Nat.ofDigitChars 10 (Nat.toDigits 10 n) 0 := by
    rw [ofAsciiDigits, ofDigits, List.foldl_map]
    rfl
  rw [hvalue, Nat.ofDigitChars_ten_toDigits]

/-- A number of few enough digits is read as itself. -/
theorem readDigits_toString (h : n < Nat.pow 10 digitLimit) :
    readDigits (toString n).toList = .ok n := by
  have hlength : (Nat.toDigits 10 n).length ≤ digitLimit := length_toDigits_le (by decide) h
  rw [Nat.toString_eq_repr, Nat.toList_repr, readDigits, if_neg (by omega), ofAsciiDigits_toDigits]

end TabNotes.Number
