import Mathlib.Algebra.Group.Nat.Defs
import TabNotes.Number.Binary64
import TabNotes.Number.Integer

/-! # The size of whole doubles

A finite double is smaller than `2 ^ 1024`, and so the integer that a whole double equals always has
few enough digits to be written. -/

namespace TabNotes.Number

/-- The parts of a finite double are those of 53 bits and 11 bits. -/
theorem parts_finite_bounds {x : Float} {negative : Bool} {m : Nat} {e : Int}
    (h : parts x = .finite negative m e) : m < 2 ^ 53 ∧ e ≤ 971 := by
  simp only [parts, Nat.pow_eq] at h
  split at h
  · split at h <;> cases h
  · rename_i hbiased
    have hfraction : x.toBits.toNat % 2 ^ 52 < 2 ^ 52 := Nat.mod_lt _ (by decide)
    have hexponent : x.toBits.toNat / 2 ^ 52 % 2 ^ 11 < 2 ^ 11 := Nat.mod_lt _ (by decide)
    simp only [beq_iff_eq] at hbiased
    split at h
    · simp only [Parts.finite.injEq] at h
      omega
    · simp only [Parts.finite.injEq] at h
      omega

theorem natAbs_signed (negative : Bool) (n : Nat) : (signed negative n).natAbs = n := by
  unfold signed
  split <;> simp

theorem two_pow_le_ten_pow {k l : Nat} (h : k ≤ l) : 2 ^ k ≤ 10 ^ l :=
  Nat.le_trans (Nat.pow_le_pow_left (by decide) k) (Nat.pow_le_pow_right (by decide) h)

/-- The integer that a double equals has at most 1024 digits. -/
theorem natAbs_lt_of_toInt? {x : Float} {n : Int} (h : toInt? x = some n) {k : Nat} (hk : 1024 ≤ k) :
    n.natAbs < 10 ^ k := by
  unfold toInt? at h
  split at h
  · rename_i negative m e hparts
    obtain ⟨hm, he⟩ := parts_finite_bounds hparts
    split at h
    · obtain rfl := Option.some.inj h
      rw [natAbs_signed, Nat.pow_eq]
      calc m * 2 ^ e.toNat < 2 ^ 53 * 2 ^ e.toNat :=
            Nat.mul_lt_mul_of_pos_right hm (Nat.two_pow_pos _)
        _ = 2 ^ (53 + e.toNat) := (Nat.pow_add 2 53 e.toNat).symm
        _ ≤ 10 ^ k := two_pow_le_ten_pow (by omega)
    · split at h
      · obtain rfl := Option.some.inj h
        rw [natAbs_signed]
        calc m / Nat.pow 2 (-e).toNat ≤ m := Nat.div_le_self _ _
          _ < 2 ^ 53 := hm
          _ ≤ 10 ^ k := two_pow_le_ten_pow (by omega)
      · cases h
  · cases h

/-- Every whole double can be written as an integer. -/
theorem writeInteger_of_toInt? {x : Float} {n : Int} (h : toInt? x = some n) :
    writeInteger n = .ok (toString n) := by
  have hlt := natAbs_lt_of_toInt? h (show 1024 ≤ digitLimit by decide)
  rw [writeInteger, Nat.pow_eq, if_pos hlt]

end TabNotes.Number
