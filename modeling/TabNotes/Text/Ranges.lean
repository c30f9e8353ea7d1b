/-! # Tables of code points

A table lists the code points of a property as closed intervals.  `Ranges.holds` is membership in
one of them; `Shift` is one row of a case map, which moves every code point of a progression by the
same distance. -/

namespace TabNotes.Text

/-- Closed intervals of code points. -/
abbrev Ranges := List (Nat × Nat)

/-- Whether a character lies in one of the intervals. -/
def Ranges.holds (table : Ranges) (c : Char) : Bool :=
  table.any fun interval => interval.1 ≤ c.toNat && c.toNat ≤ interval.2

/-- The code points `first`, `first + step`, …, `last` all move by `distance`. -/
structure Shift where
  first : Nat
  last : Nat
  step : Nat
  distance : Int

/-- The image of a code point under one row, if the row covers it. -/
def Shift.image? (row : Shift) (n : Nat) : Option Nat :=
  if row.first ≤ n ∧ n ≤ row.last ∧ (n - row.first) % row.step = 0 then
    some ((n : Int) + row.distance).toNat
  else
    none

/-- The image of a character under the first row that covers it; any other character is kept. -/
def shifted (rows : List Shift) (c : Char) : Char :=
  match rows.findSome? fun row => row.image? c.toNat with
  | some n => Char.ofNat n
  | none => c

end TabNotes.Text
