import TabNotes.Fault
import TabNotes.Text.Blank
import TabNotes.Text.Digit
import TabNotes.Text.Quoted

/-! # Integers as text

`readInteger` reads decimal digits of any script with a sign, white space around them and single
underscores between them.  Texts of more than `digitLimit` digits are refused, in both directions,
leading zeros counted when reading. -/

namespace TabNotes.Number

open TabNotes.Text

/-- The most digits that are converted between text and integer. -/
def digitLimit : Nat := 4300

/-- The number that decimal digits write. -/
def ofDigits (digits : List Nat) : Nat :=
  digits.foldl (fun n d => 10 * n + d) 0

/-- The number of digits `0` to `9`; other characters count as zero. -/
def ofAsciiDigits (digits : List Char) : Nat :=
  ofDigits (digits.map fun c => c.toNat - '0'.toNat)

/-- The number that a run of digits `0` to `9` writes, unless the run is too long. -/
def readDigits (digits : List Char) : Except Fault Nat :=
  if digits.length > digitLimit then .error (.tooManyDigits digits.length)
  else .ok (ofAsciiDigits digits)

/-- The text of an integer, unless it is too long. -/
def writeInteger (n : Int) : Except Fault String :=
  if n.natAbs < Nat.pow 10 digitLimit then .ok (toString n) else .error .tooLongToWrite

/-- White space around an integer; of the ASCII characters only the layout ones and the space. -/
def isNumberBlank (c : Char) : Bool :=
  if c.toNat < 0x7F then c == ' ' || (0x09 ≤ c.toNat && c.toNat ≤ 0x0D) else isBlank c

/-- The digits at the start of a text, with single underscores between them, and what follows;
none when an underscore is out of place. -/
def takeDigits (afterDigit : Bool) : List Char → Option (List Nat × List Char)
  | [] => some ([], [])
  | c :: cs =>
    match digitValue? c with
    | some d => (takeDigits true cs).map fun (ds, rest) => (d :: ds, rest)
    | none =>
      if c == '_' then
        match afterDigit, cs with
        | true, d :: _ => if (digitValue? d).isSome then takeDigits false cs else none
        | _, _ => none
      else
        some ([], c :: cs)

/-- The sign at the start of a text, true for minus, and what follows. -/
def takeSign : List Char → Bool × List Char
  | '-' :: cs => (true, cs)
  | '+' :: cs => (false, cs)
  | cs => (false, cs)

/-- How much of a refused text a message shows. -/
def shownLength : Nat := 200

/-- Reads an integer from a text. -/
def readInteger (s : String) : Except Fault Int :=
  let refused : Except Fault Int :=
    .error (.notAnInteger (String.ofList ((quoted s).toList.take shownLength)))
  let (negative, body) := takeSign (s.toList.dropWhile isNumberBlank)
  match takeDigits false body with
  | none => refused
  | some (digits, rest) =>
    if digits.isEmpty then refused
    else if digits.length > digitLimit then .error (.tooManyDigits digits.length)
    else if rest.all isNumberBlank then
      let n : Int := ofDigits digits
      .ok (if negative then -n else n)
    else refused

end TabNotes.Number
