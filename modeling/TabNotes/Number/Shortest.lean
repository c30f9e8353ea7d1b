import TabNotes.Number.Binary64

/-! # Shortest decimal text of a double

`shortest` finds, for a positive double, the decimal number with the fewest digits that reads back
as that double, and of several such numbers the one nearest to it.  For each digit count from one
on it looks at the two neighbours of the double on the decimal grid of that many digits.

`Notation` holds the choices of a written format; `floatText` uses the one of this library:
positional between `10^-4` and `10^16`, with `.0` after a whole number, else with a signed exponent
of at least two digits. -/

namespace TabNotes.Number

/-- A ratio of naturals, the denominator positive. -/
structure Ratio where
  num : Nat
  den : Nat

/-- The ratio `n · 2^e`. -/
def Ratio.scaled (n : Nat) (e : Int) : Ratio :=
  if 0 ≤ e then ⟨n * Nat.pow 2 e.toNat, 1⟩ else ⟨n, Nat.pow 2 (-e).toNat⟩

/-- How `c · 10^j` compares with a ratio. -/
def compareDecimal (c : Nat) (j : Int) (r : Ratio) : Ordering :=
  if 0 ≤ j then compare (c * Nat.pow 10 j.toNat * r.den) r.num
  else compare (c * r.den) (r.num * Nat.pow 10 (-j).toNat)

/-- The number of decimal digits of a natural. -/
def digitCount (n : Nat) : Nat := (Nat.toDigits 10 n).length

/-- The exponent `k` with `10^k ≤ r < 10^(k+1)`. -/
def decimalExponent (r : Ratio) : Int :=
  let k : Int := (digitCount r.num : Int) - digitCount r.den
  if compareDecimal 1 k r == .gt then k - 1 else k

/-- The reals that read as one double: between `low` and `high`, the ends included for an even
mantissa. -/
structure Interval where
  low : Ratio
  value : Ratio
  high : Ratio
  closed : Bool

/-- The interval of `m · 2^e`; below a power of two the spacing is half as wide. -/
def Interval.around (m : Nat) (e : Int) : Interval :=
  let low := if m == Nat.pow 2 52 && e > -1074 then 4 * m - 1 else 4 * m - 2
  ⟨.scaled low (e - 2), .scaled (4 * m) (e - 2), .scaled (4 * m + 2) (e - 2), m % 2 == 0⟩

/-- Whether `c · 10^j` reads back as the double of the interval. -/
def Interval.holds (i : Interval) (c : Nat) (j : Int) : Bool :=
  match compareDecimal c j i.low, compareDecimal c j i.high with
  | .gt, .lt => true
  | .eq, .lt | .gt, .eq => i.closed
  | _, _ => false

/-- The integer part of `r / 10^j`. -/
def gridFloor (r : Ratio) (j : Int) : Nat :=
  if 0 ≤ j then r.num / (r.den * Nat.pow 10 j.toNat) else r.num * Nat.pow 10 (-j).toNat / r.den

/-- The neighbour of the double on the grid of step `10^j` that reads back, the nearer of two. -/
def Interval.onGrid? (i : Interval) (j : Int) : Option Nat :=
  let c := gridFloor i.value j
  match i.holds c j, i.holds (c + 1) j with
  | true, true =>
    -- the midpoint of the neighbours is `(2c + 1) · 10^j / 2`
    match compareDecimal (2 * c + 1) j ⟨2 * i.value.num, i.value.den⟩ with
    | .gt => some c
    | .lt => some (c + 1)
    | .eq => some (if c % 2 == 0 then c else c + 1)
  | true, false => some c
  | false, true => some (c + 1)
  | false, false => none

/-- The first grid with a hit among those of `n`, `n + 1`, … digits; `k` is the decimal exponent. -/
def Interval.firstHit (i : Interval) (k : Int) : (fuel n : Nat) → Nat × Int
  | 0, n => (gridFloor i.value (k - n + 1), k - n + 1)
  | fuel + 1, n =>
    let j := k - n + 1
    match i.onGrid? j with
    | some c => (c, j)
    | none => i.firstHit k fuel (n + 1)

/-- The digits of the shortest decimal number that reads back as `m · 2^e`, without trailing zeros,
and the exponent of the first of them. -/
def shortest (m : Nat) (e : Int) : List Char × Int :=
  let i := Interval.around m e
  let (c, j) := i.firstHit (decimalExponent i.value) 17 1
  let digits := Nat.toDigits 10 c
  let kept := (digits.reverse.dropWhile (· == '0')).reverse
  (kept, j + digits.length - 1)

/-- The choices of a written format of doubles. -/
structure FloatFormat where
  /-- Exponents from here on are written out. -/
  positionalFrom : Int
  /-- Exponents below this one are positional. -/
  positionalBelow : Int
  /-- What follows a whole number in positional form. -/
  wholeEnding : List Char
  /-- The least number of digits of a written exponent. -/
  exponentWidth : Nat
  nan : String
  infinity : String

/-- Positional from `10^-4` to below `10^16`, whole numbers end in `.0`, exponents have two digits
at least. -/
def floatFormat : FloatFormat := ⟨-4, 16, ['.', '0'], 2, "nan", "inf"⟩

/-- An exponent with its sign, padded with zeros on the left. -/
def exponentText (width : Nat) (e : Int) : List Char :=
  let digits := Nat.toDigits 10 e.natAbs
  (if e < 0 then '-' else '+') :: List.replicate (width - digits.length) '0' ++ digits

/-- Digits with the first one at exponent `e`, in the given format. -/
def FloatFormat.write (f : FloatFormat) (digits : List Char) (e : Int) : List Char :=
  if f.positionalFrom ≤ e && e < f.positionalBelow then
    if e < 0 then
      '0' :: '.' :: List.replicate ((-e).toNat - 1) '0' ++ digits
    else
      let whole := e.toNat + 1
      let before := digits.take whole
      let after := digits.drop whole
      before ++ List.replicate (whole - before.length) '0' ++
        (if after.isEmpty then f.wholeEnding else '.' :: after)
  else
    let mantissa :=
      match digits with
      | d :: d' :: ds => d :: '.' :: d' :: ds
      | ds => ds
    mantissa ++ 'e' :: exponentText f.exponentWidth e

/-- The text of a double. -/
def floatText (x : Float) : String :=
  match parts x with
  | .nan => floatFormat.nan
  | .infinite negative => if negative then "-" ++ floatFormat.infinity else floatFormat.infinity
  | .finite negative m e =>
    let body :=
      if m == 0 then '0' :: floatFormat.wholeEnding
      else
        let (digits, k) := shortest m e
        floatFormat.write digits k
    String.ofList (if negative then '-' :: body else body)

end TabNotes.Number
