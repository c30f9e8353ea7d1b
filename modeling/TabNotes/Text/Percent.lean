import TabNotes.Text.Hexadecimal
import TabNotes.Text.Utf8

/-! # Percent encoding

`Percent.encode` writes a text in UTF-8 with every byte as `%XX`, except for the characters that may
stand in a part of a URI.  `Percent.decode?` reads the escapes back: each run of ASCII characters is
a run of bytes that has to be UTF-8 by itself. -/

namespace TabNotes.Text.Percent

/-- The characters that stand for themselves: ASCII letters and digits and `-_.!~*'()`. -/
def isUnreserved (c : Char) : Bool :=
  c.isAlphanum || ['-', '_', '.', '!', '~', '*', '\'', '(', ')'].contains c

/-- A byte as an escape. -/
def escapeByte (b : Nat) : List Char := ['%', hexDigit true (b / 16), hexDigit true (b % 16)]

/-- A character as it stands in a part of a URI. -/
def encodeChar (c : Char) : List Char :=
  if isUnreserved c then [c] else (Utf8.encodeChar c).flatMap escapeByte

/-- A text as it stands in a part of a URI. -/
def encode (s : String) : String := String.ofList (s.toList.flatMap encodeChar)

/-- Whether a text has an escape. -/
def hasEscape : List Char → Bool
  | '%' :: a :: b :: cs => (hexPair? a b).isSome || hasEscape (a :: b :: cs)
  | _ :: cs => hasEscape cs
  | [] => false

/-- Whether a text has a percent sign that starts no escape. -/
def hasStrayPercent : List Char → Bool
  | '%' :: a :: b :: cs => (hexPair? a b).isNone || hasStrayPercent (a :: b :: cs)
  | c :: cs => c == '%' || hasStrayPercent cs
  | [] => false

/-- The bytes of a run of ASCII characters; a percent sign that starts no escape stands for
itself. -/
def runBytes : List Char → List Nat
  | '%' :: a :: b :: cs =>
    match hexPair? a b with
    | some n => n :: runBytes cs
    | none => '%'.toNat :: runBytes (a :: b :: cs)
  | c :: cs => c.toNat :: runBytes cs
  | [] => []

/-- The text that a run of ASCII characters stands for, if its bytes are UTF-8. -/
def decodeRun? (run : List Char) : Option (List Char) := (Utf8.decode (runBytes run)).toOption

/-- Whether a character is in ASCII. -/
def isAscii (c : Char) : Bool := c.toNat < 0x80

/-- Reads the escapes of a text; `run` holds the ASCII characters just passed, the last one
first. -/
def decodeAfter? (run : List Char) : List Char → Option (List Char)
  | [] => decodeRun? run.reverse
  | c :: cs =>
    if isAscii c then decodeAfter? (c :: run) cs
    else do
      let before ← decodeRun? run.reverse
      let rest ← decodeAfter? [] cs
      return before ++ c :: rest

/-- The text with its escapes read, if the bytes of every run of ASCII characters are UTF-8. -/
def decode? (cs : List Char) : Option (List Char) := decodeAfter? [] cs

end TabNotes.Text.Percent
