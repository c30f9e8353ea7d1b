import Mathlib.Data.List.TakeWhile
import TabNotes.Text.Surrogates

/-! # Texts that can be encoded

A text can be encoded exactly when none of its characters stands in for a surrogate
(`StandIns.fault?_eq_none_iff`), so texts in ASCII can.  Of several texts the first one that cannot
be encoded counts (`StandIns.check_eq_error_iff`). -/

namespace TabNotes.Text

/-! ### Letters and digits of ASCII -/

section characters

variable {c : Char}

theorem toNat_of_isAlpha (h : c.isAlpha = true) : 65 ≤ c.toNat ∧ c.toNat ≤ 122 := by
  have hcase : c.isUpper = true ∨ c.isLower = true := (Bool.or_eq_true _ _).mp h
  rcases hcase with hupper | hlower
  · have hrange : 'A'.val ≤ c.val ∧ c.val ≤ 'Z'.val := of_decide_eq_true hupper
    have hfirst : 65 ≤ c.toNat := hrange.1
    have hlast : c.toNat ≤ 90 := hrange.2
    omega
  · have hrange : decide ('a'.val ≤ c.val) = true ∧ decide (c.val ≤ 'z'.val) = true :=
      (Bool.and_eq_true _ _).mp hlower
    have hfirst : 97 ≤ c.toNat := of_decide_eq_true hrange.1
    have hlast : c.toNat ≤ 122 := of_decide_eq_true hrange.2
    omega

theorem toNat_lt_of_isAlphanum (h : c.isAlphanum = true) : c.toNat < 0x80 := by
  have hkind : c.isAlpha = true ∨ c.isDigit = true := (Bool.or_eq_true _ _).mp h
  rcases hkind with halpha | hdigit
  · have hrange := toNat_of_isAlpha halpha
    omega
  · have hrange : 48 ≤ c.toNat ∧ c.toNat ≤ 57 := Char.isDigit_iff_toNat.mp hdigit
    omega

end characters

/-! ### Encoding -/

namespace StandIns

variable {standIns : StandIns} {text : String} {texts : List String} {fault : Fault}

/-- A text without a fault has no characters left after those that stand for themselves. -/
theorem fault?_eq_none_iff :
    standIns.fault? text = none ↔ ∀ c ∈ text.toList, standIns.surrogateOf? c = none := by
  have hall : (∀ c ∈ text.toList, standIns.surrogateOf? c = none) ↔
      text.toList.dropWhile (fun c => (standIns.surrogateOf? c).isNone) = [] := by
    simp [List.dropWhile_eq_nil_iff]
  rw [hall, fault?]
  dsimp only
  cases hrest : text.toList.dropWhile (fun c => (standIns.surrogateOf? c).isNone) with
  | nil => simp
  | cons c rest =>
      obtain ⟨n, hn⟩ : ∃ n, standIns.surrogateOf? c = some n := by
        have hhead := List.head?_dropWhile_not (fun c => (standIns.surrogateOf? c).isNone) text.toList
        rw [hrest] at hhead
        simpa [Option.isSome_iff_exists] using hhead
      have hfirst : (c :: rest).takeWhile (fun c => !(standIns.surrogateOf? c).isNone) =
          c :: rest.takeWhile fun c => !(standIns.surrogateOf? c).isNone := by
        rw [List.takeWhile_cons_of_pos (by simp [hn])]
      rw [hfirst, List.filterMap_cons_some hn]
      split <;> simp_all

/-- What keeps a text from being encoded are surrogates. -/
theorem exists_surrogates_of_fault? (h : standIns.fault? text = some fault) :
    ∃ cause, fault = .surrogates cause := by
  unfold fault? at h
  dsimp only at h
  split at h
  · cases h
  · cases h
    exact ⟨_, rfl⟩
  · cases h
    exact ⟨_, rfl⟩

theorem fault?_of_isAscii (h : IsAscii text) : standIns.fault? text = none :=
  fault?_eq_none_iff.mpr fun c hc => standIns.surrogateOf?_of_isAscii c (h c hc)

theorem check_eq_error_iff :
    standIns.check texts = .error fault ↔ texts.findSome? standIns.fault? = some fault := by
  unfold check
  cases texts.findSome? standIns.fault? <;> simp

/-- What keeps texts from being encoded are surrogates. -/
theorem exists_surrogates_of_check (h : standIns.check texts = .error fault) :
    ∃ cause, fault = .surrogates cause := by
  obtain ⟨text, -, hfound⟩ := List.exists_of_findSome?_eq_some (check_eq_error_iff.mp h)
  exact exists_surrogates_of_fault? hfound

theorem check_eq_ok_iff :
    standIns.check texts = .ok () ↔ ∀ text ∈ texts, standIns.fault? text = none := by
  rw [← List.findSome?_eq_none_iff]
  unfold check
  cases texts.findSome? standIns.fault? <;> simp

end StandIns

end TabNotes.Text
