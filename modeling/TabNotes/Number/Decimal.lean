import TabNotes.Number.Binary64
import TabNotes.Number.Integer

/-! # Numbers in decimal notation

`Numeral.take` reads the longest numeral at the start of a text: an integer part without needless
zeros, then perhaps a point with digits, then perhaps an exponent.  A point or an exponent mark
without digits after it is not part of the numeral. -/

namespace TabNotes.Number

open TabNotes.Text

/-- A numeral: sign, the digits before and after the point, and the exponent. -/
structure Numeral where
  negative : Bool
  whole : List Char
  fraction : List Char
  exponent : Option Int

namespace Numeral

/-- Whether the numeral is written as an integer. -/
def isInteger (n : Numeral) : Bool := n.fraction.isEmpty && n.exponent.isNone

/-- The integer written before the point; refused when it has too many digits. -/
def toInteger (n : Numeral) : Except Fault Int := do
  let size ← readDigits n.whole
  return signed n.negative size

/-- The double nearest to the numeral. -/
def toFloat (n : Numeral) : Float :=
  let x := ofDecimal (ofAsciiDigits (n.whole ++ n.fraction))
    (n.exponent.getD 0 - n.fraction.length)
  if n.negative then -x else x

/-- The digits at the start of a text and what follows. -/
def takeAsciiDigits (cs : List Char) : List Char × List Char :=
  (cs.takeWhile Char.isDigit, cs.dropWhile Char.isDigit)

/-- The fraction at the start of a text: a point and at least one digit. -/
def takeFraction (cs : List Char) : List Char × List Char :=
  match cs with
  | '.' :: rest =>
    match takeAsciiDigits rest with
    | ([], _) => ([], cs)
    | taken => taken
  | _ => ([], cs)

/-- The exponent at the start of a text: its mark, perhaps a sign, and at least one digit. -/
def takeExponent (cs : List Char) : Option Int × List Char :=
  match cs with
  | e :: rest =>
    if e == 'e' || e == 'E' then
      let (negative, body) := takeSign rest
      match takeAsciiDigits body with
      | ([], _) => (none, cs)
      | (digits, after) => (some (signed negative (ofAsciiDigits digits)), after)
    else (none, cs)
  | [] => (none, cs)

/-- The numeral at the start of a text and what follows, if there is one. -/
def take (cs : List Char) : Option (Numeral × List Char) :=
  let (negative, body) :=
    match cs with
    | '-' :: rest => (true, rest)
    | _ => (false, cs)
  let (whole, rest) :=
    match body with
    | '0' :: rest => (['0'], rest)
    | _ => takeAsciiDigits body
  if whole.isEmpty then none
  else
    let (fraction, rest) := takeFraction rest
    let (exponent, rest) := takeExponent rest
    some (⟨negative, whole, fraction, exponent⟩, rest)

end Numeral

/-- Reads the text of a double, the names of the infinities and NaN among them. -/
def readFloat? (s : String) : Option Float :=
  if s == "nan" then some (0.0 / 0.0)
  else if s == "inf" then some (1.0 / 0.0)
  else if s == "-inf" then some (-1.0 / 0.0)
  else
    match Numeral.take s.toList with
    | some (n, []) => some n.toFloat
    | _ => none

end TabNotes.Number
