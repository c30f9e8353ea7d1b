/-! # Double-precision numbers

A finite double is `m · 2^e` up to its sign, with natural `m` and integer `e`; `Float.parts` reads
the three from the bits.  On them rest the exact conversions: to integers, from integers and from
decimal notation.  `nearestDouble` rounds a rational to 53 significant bits. -/

namespace TabNotes.Number

/-- A double taken apart. -/
inductive Parts where
  | nan
  | infinite (negative : Bool)
  /-- The number `mantissa · 2^exponent`, negated if `negative`. -/
  | finite (negative : Bool) (mantissa : Nat) (exponent : Int)

/-- Reads sign, mantissa and exponent from the bits of a double. -/
def parts (x : Float) : Parts :=
  let bits := x.toBits.toNat
  let negative := bits / Nat.pow 2 63 == 1
  let biased : Nat := bits / Nat.pow 2 52 % Nat.pow 2 11
  let fraction : Nat := bits % Nat.pow 2 52
  if biased == 2047 then
    if fraction == 0 then .infinite negative else .nan
  else if biased == 0 then
    .finite negative fraction (-1074)
  else
    .finite negative (fraction + Nat.pow 2 52) ((biased : Int) - 1075)

/-- An integer with the sign of a double. -/
def signed (negative : Bool) (n : Nat) : Int :=
  if negative then -(n : Int) else n

/-- The integer that a double equals, if it equals one. -/
def toInt? (x : Float) : Option Int :=
  match parts x with
  | .finite negative m e =>
    if 0 ≤ e then some (signed negative (m * Nat.pow 2 e.toNat))
    else if m % Nat.pow 2 (-e).toNat == 0 then
      some (signed negative (m / Nat.pow 2 (-e).toNat))
    else none
  | _ => none

/-- The integer part of a finite double: what is after the point is dropped. -/
def truncated (negative : Bool) (m : Nat) (e : Int) : Int :=
  signed negative (if 0 ≤ e then m * Nat.pow 2 e.toNat else m / Nat.pow 2 (-e).toNat)

/-- Whether a number is neither infinite nor NaN. -/
def isFinite (x : Float) : Bool :=
  match parts x with
  | .finite .. => true
  | _ => false

/-- The least magnitude that rounds beyond the largest double. -/
def overflowBound : Nat := Nat.pow 2 1024 - Nat.pow 2 970

/-- The double nearest to an integer; none when the integer is too large. -/
def ofInt? (n : Int) : Option Float :=
  if n.natAbs < overflowBound then
    let x := Float.ofScientific n.natAbs false 0
    some (if n < 0 then -x else x)
  else
    none

/-- The double nearest to `digits · 10^exponent`. -/
def ofDecimal (digits : Nat) (exponent : Int) : Float :=
  let magnitude := exponent + (Nat.toDigits 10 digits).length
  if digits == 0 then 0
  else if magnitude > 400 then 1.0 / 0.0
  else if magnitude < -400 then 0
  else if exponent < 0 then Float.ofScientific digits true (-exponent).toNat
  else Float.ofScientific digits false exponent.toNat

/-- The integer nearest to a quotient of naturals; a half goes to the even neighbour. -/
def roundHalfEven (num den : Nat) : Nat :=
  let q := num / den
  let twice := 2 * (num % den)
  if twice < den then q
  else if den < twice then q + 1
  else if q % 2 == 0 then q else q + 1

/-- The number with 53 significant bits that is nearest to a non-negative rational; a half goes to
the even neighbour. -/
def nearestDouble (r : Rat) : Rat :=
  let num := r.num.toNat
  if num == 0 then 0
  else
    let e : Int := (Nat.log2 num : Int) - Nat.log2 r.den
    let shift : Int := 53 - e
    let up := num * Nat.pow 2 shift.toNat
    let down := r.den * Nat.pow 2 (-shift).toNat
    -- `up / down` has 53 or 54 bits before the point; one bit less is kept of 54.
    let kept :=
      if up / down < Nat.pow 2 53 then roundHalfEven up down
      else 2 * roundHalfEven up (2 * down)
    mkRat (kept * Nat.pow 2 (-shift).toNat : Nat) (Nat.pow 2 shift.toNat)

end TabNotes.Number
