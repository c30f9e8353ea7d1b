/-! # White space

The characters that count as blank everywhere in the library: the Unicode white space characters
together with the four information separators U+001C to U+001F.  `trim` cuts them from both ends of
a text. -/

namespace TabNotes.Text

/-- The white space characters. -/
def isBlank (c : Char) : Bool :=
  let n := c.toNat
  (0x09 ≤ n && n ≤ 0x0D) || (0x1C ≤ n && n ≤ 0x20) || n == 0x85 || n == 0xA0 || n == 0x1680 ||
    (0x2000 ≤ n && n ≤ 0x200A) || n == 0x2028 || n == 0x2029 || n == 0x202F || n == 0x205F ||
    n == 0x3000

/-- The text without its leading white space. -/
def dropBlanks (cs : List Char) : List Char :=
  cs.dropWhile isBlank

/-- The text without its trailing white space. -/
def dropTrailingBlanks : List Char → List Char
  | [] => []
  | c :: cs =>
    match dropTrailingBlanks cs with
    | [] => if isBlank c then [] else [c]
    | kept => c :: kept

/-- The text without the white space at its two ends. -/
def trimChars (cs : List Char) : List Char :=
  dropTrailingBlanks (dropBlanks cs)

/-- The string without the white space at its two ends. -/
def trim (s : String) : String :=
  String.ofList (trimChars s.toList)

/-- Whether a string holds nothing but white space. -/
def allBlank (s : String) : Bool :=
  s.toList.all isBlank

/-- A line break in running text: `\r\n`, `\r` and `\n` are all read as `\n`. -/
def unifyLineBreaks : List Char → List Char
  | [] => []
  | '\r' :: '\n' :: cs => '\n' :: unifyLineBreaks cs
  | '\r' :: cs => '\n' :: unifyLineBreaks cs
  | c :: cs => c :: unifyLineBreaks cs

end TabNotes.Text
