import TabNotes.Fault

/-! # UTF-8

`Utf8.encode` writes a character as one to four bytes and `Utf8.decode` reads bytes back.  Decoding
is strict: the shortest form only, no surrogates, nothing above U+10FFFF.  A fault names the first
offending bytes. -/

namespace TabNotes.Text.Utf8

/-- The bytes of a character. -/
def encodeChar (c : Char) : List Nat :=
  let n := c.toNat
  if n < 0x80 then [n]
  else if n < 0x800 then [0xC0 + n / 0x40, 0x80 + n % 0x40]
  else if n < 0x10000 then [0xE0 + n / 0x1000, 0x80 + n / 0x40 % 0x40, 0x80 + n % 0x40]
  else [0xF0 + n / 0x40000, 0x80 + n / 0x1000 % 0x40, 0x80 + n / 0x40 % 0x40, 0x80 + n % 0x40]

/-- The bytes of a text. -/
def encode (cs : List Char) : List Nat := cs.flatMap encodeChar

/-- What is wrong at the start of some bytes. -/
inductive Defect where
  | badStart
  /-- The byte after `good` proper ones does not continue the character. -/
  | badContinuation (good : Nat)
  /-- The bytes end within a character. -/
  | cutShort

/-- The bytes of a character that remain to be read after its first one, with the range allowed for
the next of them and the value read so far. -/
structure Lead where
  missing : Nat
  low : Nat
  high : Nat
  value : Nat

/-- What the first byte of a character of several bytes asks for. -/
def Lead.of? (b : Nat) : Option Lead :=
  if 0xC2 ≤ b ∧ b < 0xE0 then some ⟨1, 0x80, 0xBF, b - 0xC0⟩
  else if b = 0xE0 then some ⟨2, 0xA0, 0xBF, 0⟩
  else if b = 0xED then some ⟨2, 0x80, 0x9F, b - 0xE0⟩
  else if 0xE0 < b ∧ b < 0xF0 then some ⟨2, 0x80, 0xBF, b - 0xE0⟩
  else if b = 0xF0 then some ⟨3, 0x90, 0xBF, 0⟩
  else if 0xF0 < b ∧ b < 0xF4 then some ⟨3, 0x80, 0xBF, b - 0xF0⟩
  else if b = 0xF4 then some ⟨3, 0x80, 0x8F, 4⟩
  else none

/-- Reads `missing` continuation bytes after `good` bytes; the first lies between `low` and
`high`. -/
def takeContinuation : (missing good low high value : Nat) → List Nat →
    Except Defect (Nat × List Nat)
  | 0, _, _, _, value, rest => .ok (value, rest)
  | _ + 1, _, _, _, _, [] => .error .cutShort
  | missing + 1, good, low, high, value, b :: rest =>
    if low ≤ b ∧ b ≤ high then
      takeContinuation missing (good + 1) 0x80 0xBF (value * 0x40 + (b - 0x80)) rest
    else .error (.badContinuation good)

/-- Reads the first character of some bytes; returns also the number of its bytes and the bytes
after it. -/
def decodeFirst (b : Nat) (rest : List Nat) : Except Defect (Char × Nat × List Nat) :=
  if b < 0x80 then .ok (Char.ofNat b, 1, rest)
  else
    match Lead.of? b with
    | none => .error .badStart
    | some lead =>
      (takeContinuation lead.missing 1 lead.low lead.high lead.value rest).map
        fun (n, left) => (Char.ofNat n, lead.missing + 1, left)

/-- The fault for a defect at a position with `left` bytes from there on. -/
def Defect.fault (position left : Nat) (byte : Nat) : Defect → EncodingFault
  | badStart => ⟨some byte, position, position, "invalid start byte"⟩
  | badContinuation good =>
    ⟨if good == 1 then some byte else none, position, position + good - 1,
      "invalid continuation byte"⟩
  | cutShort =>
    ⟨if left == 1 then some byte else none, position, position + left - 1,
      "unexpected end of data"⟩

/-- Reads characters from bytes, of which the first has the given position; `fuel` bounds the number
of characters. -/
def decodeFrom : (fuel position : Nat) → List Nat → Except EncodingFault (List Char)
  | 0, _, _ => .ok []
  | _ + 1, _, [] => .ok []
  | fuel + 1, position, b :: rest =>
    match decodeFirst b rest with
    | .error defect => .error (defect.fault position (rest.length + 1) b)
    | .ok (c, size, left) => do
      let cs ← decodeFrom fuel (position + size) left
      return c :: cs

/-- Reads a text from bytes. -/
def decode (bytes : List Nat) : Except EncodingFault (List Char) :=
  decodeFrom bytes.length 0 bytes

end TabNotes.Text.Utf8
