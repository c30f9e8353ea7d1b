import TabNotes.Number.Decimal
import TabNotes.Text.Hexadecimal
import TabNotes.Text.Surrogates
import TabNotes.Value.Basic

/-! # Reading JSON

`Json.read` reads a JSON document as a value.  Beyond the standard it takes `NaN`, `Infinity` and
`-Infinity`; of equal keys the last one gives the value and the first one the place.  A surrogate
without a partner is read as the character that stands in for it.  A fault names the reason and the
place where reading stopped.

Each open bracket takes a level of recursion, of which an interpreter has only so many: `nesting` says
how many brackets can be open at a time.

The reader works on the text that is left and reports places by how many characters are left, which
`Json.place` turns into line, column and offset. -/

namespace TabNotes.Json

open TabNotes.Number TabNotes.Text

/-- Why reading stopped: a reason with the number of characters left, or a number out of bounds. -/
inductive Stop where
  | unreadable (reason : String) (left : Nat)
  | fault (cause : Fault)

/-- What reading returns: a result and the text that is left. -/
abbrev Result (α : Type) := Except Stop (α × List Char)

/-- Stops for a reason at the start of a text. -/
def stopAt {α : Type} (reason : String) (cs : List Char) : Except Stop α :=
  .error (.unreadable reason cs.length)

/-- White space between the parts of a document. -/
def isLayout (c : Char) : Bool := c == ' ' || c == '\t' || c == '\n' || c == '\r'

/-- The text without its leading white space. -/
def skipLayout (cs : List Char) : List Char := cs.dropWhile isLayout

/-! ### Texts -/

/-- The number of four hexadecimal digits. -/
def unit? (a b c d : Char) : Option Nat := do
  return (← hexPair? a b) * 0x100 + (← hexPair? c d)

/-- The character that a backslash and a letter stand for. -/
def plainEscape? (c : Char) : Option Char :=
  match c with
  | '"' => some '"'
  | '\\' => some '\\'
  | '/' => some '/'
  | 'b' => some '\x08'
  | 'f' => some '\x0c'
  | 'n' => some '\n'
  | 'r' => some '\r'
  | 't' => some '\t'
  | _ => none

/-- Stops in a text without an end, which `opening` follows the opening quote of. -/
def stopUnterminated {α : Type} (opening : List Char) : Except Stop α :=
  .error (.unreadable "Unterminated string starting at" (opening.length + 1))

/-- Stops at an escape whose digits are `digits` and what follows them. -/
def stopAtUnit {α : Type} (digits : List Char) : Except Stop α :=
  .error (.unreadable "Invalid \\uXXXX escape" (digits.length + 1))

/-- Reads a text up to its closing quote as code points and UTF-16 units; `opening` is what follows
the opening quote. -/
def readUnits (opening : List Char) : List Char → Result (List Nat)
  | [] => stopUnterminated opening
  | '"' :: rest => .ok ([], rest)
  | '\\' :: 'u' :: a :: b :: c :: d :: rest =>
    match rest.isEmpty, unit? a b c d with
    | false, some n => (readUnits opening rest).map fun (units, left) => (n :: units, left)
    | _, _ => stopAtUnit (a :: b :: c :: d :: rest)
  | '\\' :: 'u' :: rest => stopAtUnit rest
  | '\\' :: e :: rest =>
    match plainEscape? e with
    | none => .error (.unreadable "Invalid \\escape" (rest.length + 2))
    | some c => (readUnits opening rest).map fun (units, left) => (c.toNat :: units, left)
  | c :: rest =>
    if c == '\\' then stopUnterminated opening
    else if c.toNat ≤ 0x1F then
      .error (.unreadable "Invalid control character at" (rest.length + 1))
    else (readUnits opening rest).map fun (units, left) => (c.toNat :: units, left)

/-- The character of a unit that is in no pair. -/
def charOfUnit (standIns : StandIns) (n : Nat) : Char :=
  if isSurrogate n then standIns.charOf n else Char.ofNat n

/-- Joins surrogate pairs to characters. -/
def joinUnits (standIns : StandIns) : List Nat → List Char
  | [] => []
  | [n] => [charOfUnit standIns n]
  | high :: low :: rest =>
    if 0xD800 ≤ high ∧ high < 0xDC00 ∧ 0xDC00 ≤ low ∧ low < 0xE000 then
      Char.ofNat (0x10000 + (high - 0xD800) * 0x400 + (low - 0xDC00)) :: joinUnits standIns rest
    else charOfUnit standIns high :: joinUnits standIns (low :: rest)

/-- Reads a text after its opening quote. -/
def readText (standIns : StandIns) (cs : List Char) : Result String :=
  (readUnits cs cs).map fun (units, rest) => (String.ofList (joinUnits standIns units), rest)

/-- The characters that a text writes as two escapes, wherever they stand. -/
def writtenPairs : List Char → List Char
  | [] => []
  | c :: rest =>
    match c :: rest with
    | '\\' :: 'u' :: a :: b :: c :: d :: '\\' :: 'u' :: e :: f :: g :: h :: _ =>
      match unit? a b c d, unit? e f g h with
      | some high, some low => joinUnits (.ofBlock 0) [high, low] ++ writtenPairs rest
      | _, _ => writtenPairs rest
    | _ => writtenPairs rest

/-- Characters that can stand in for the surrogates in texts that are read: the texts hold them
neither plainly nor as escapes. -/
def standInsFor (texts : List String) : StandIns :=
  .notIn (texts ++ texts.map fun text => String.ofList (writtenPairs text.toList))

/-! ### Values -/

/-- The words that stand for a value. -/
def words : List (String × Value) :=
  [("null", .null), ("true", .bool true), ("false", .bool false), ("NaN", .float (0.0 / 0.0)),
    ("Infinity", .float (1.0 / 0.0)), ("-Infinity", .float (-1.0 / 0.0))]

/-- The word at the start of a text and what follows. -/
def takeWord (cs : List Char) : Option (Value × List Char) :=
  words.findSome? fun (word, value) =>
    if word.toList.isPrefixOf cs then some (value, cs.drop word.toList.length) else none

/-- Reads a word or a number. -/
def readScalar (cs : List Char) : Result Value :=
  match takeWord cs with
  | some found => .ok found
  | none =>
    match Numeral.take cs with
    | none => stopAt "Expecting value" cs
    | some (numeral, rest) =>
      if numeral.isInteger then
        match numeral.toInteger with
        | .ok n => .ok (.int n, rest)
        | .error cause => .error (.fault cause)
      else .ok (.float numeral.toFloat, rest)

mutual

/-- Reads a value; `fuel` bounds the steps, of which each takes at least one character, and `nesting`
the brackets that are opened. -/
def readValue (standIns : StandIns) (nesting fuel : Nat) (cs : List Char) : Result Value :=
  match fuel, cs with
  | 0, cs => stopAt "Expecting value" cs
  | _ + 1, '"' :: rest => (readText standIns rest).map fun (s, left) => (.text s, left)
  | fuel + 1, '{' :: rest =>
    match nesting, skipLayout rest with
    | 0, _ => .error (.fault (.tooManyBrackets .object))
    | _ + 1, '}' :: rest => .ok (.map [], rest)
    | nesting + 1, rest =>
      (readMembers standIns nesting fuel [] rest).map fun (entries, left) => (.map entries, left)
  | fuel + 1, '[' :: rest =>
    match nesting, skipLayout rest with
    | 0, _ => .error (.fault (.tooManyBrackets .array))
    | _ + 1, ']' :: rest => .ok (.ofList [], rest)
    | nesting + 1, rest =>
      (readItems standIns nesting fuel rest).map fun (items, left) => (.ofList items, left)
  | _ + 1, cs => readScalar cs

/-- Reads the items of a list up to its closing bracket. -/
def readItems (standIns : StandIns) (nesting fuel : Nat) (cs : List Char) :
    Except Stop (List Value × List Char) :=
  match fuel with
  | 0 => stopAt "Expecting value" cs
  | fuel + 1 => do
    let (item, rest) ← readValue standIns nesting fuel cs
    match skipLayout rest with
    | ']' :: rest => return ([item], rest)
    | ',' :: rest =>
      let (items, rest) ← readItems standIns nesting fuel (skipLayout rest)
      return (item :: items, rest)
    | rest => stopAt "Expecting ',' delimiter" rest

/-- Reads the members of an object up to its closing brace, after the given ones. -/
def readMembers (standIns : StandIns) (nesting fuel : Nat) (before : Entries) (cs : List Char) :
    Except Stop (Entries × List Char) :=
  match fuel, cs with
  | 0, cs => stopAt "Expecting value" cs
  | fuel + 1, '"' :: rest => do
    let (key, rest) ← readText standIns rest
    match skipLayout rest with
    | ':' :: rest =>
      let (value, rest) ← readValue standIns nesting fuel (skipLayout rest)
      let members := Entries.put before (.text key) value
      match skipLayout rest with
      | '}' :: rest => return (members, rest)
      | ',' :: rest => readMembers standIns nesting fuel members (skipLayout rest)
      | rest => stopAt "Expecting ',' delimiter" rest
    | rest => stopAt "Expecting ':' delimiter" rest
  | _ + 1, cs => stopAt "Expecting property name enclosed in double quotes" cs

end

/-! ### Documents -/

/-- The place that lies `left` characters before the end of a document. -/
def place (document : List Char) (reason : String) (left : Nat) : JsonFault :=
  let offset := document.length - left
  let before := document.take offset
  { reason := reason
    line := before.count '\n' + 1
    column := (before.reverse.takeWhile (· != '\n')).length + 1
    offset := offset }

/-- Reads a document; nothing but white space may follow the value. -/
def read (standIns : StandIns) (nesting : Nat) (s : String) : Except Fault Value :=
  let document := s.toList
  let result : Except Stop (Value × List Char) := do
    match document with
    | '\ufeff' :: _ => stopAt "Unexpected UTF-8 BOM (decode using utf-8-sig)" document
    | _ =>
      let (value, rest) ←
        readValue standIns nesting (2 * document.length + 2) (skipLayout document)
      match skipLayout rest with
      | [] => return (value, [])
      | rest => stopAt "Extra data" rest
  match result with
  | .ok (value, _) => .ok value
  | .error (.unreadable reason left) => .error (.json (place document reason left))
  | .error (.fault cause) => .error cause

end TabNotes.Json
