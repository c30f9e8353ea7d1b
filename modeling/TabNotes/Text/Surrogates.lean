import TabNotes.Fault

/-! # Surrogates without a partner

A surrogate is no character: it is one half of a pair that stands for a character.  A JSON document
can all the same write a half by itself, which no encoding has bytes for.  In the texts of a run such
a surrogate is a character that stands in for it, of those that these texts hold for nothing else. -/

namespace TabNotes.Text

/-- Whether a text is made of ASCII characters. -/
def IsAscii (text : String) : Prop := ∀ c ∈ text.toList, c.toNat < 0x80

instance (text : String) : Decidable (IsAscii text) := List.decidableBAll _ _

/-- Whether a number is that of a surrogate. -/
def isSurrogate (n : Nat) : Bool := 0xD800 ≤ n && n < 0xE000

/-- The characters that stand in for surrogates without a partner; those of ASCII do not. -/
structure StandIns where
  charOf : Nat → Char
  surrogateOf? : Char → Option Nat
  surrogateOf?_charOf : ∀ n, isSurrogate n = true → surrogateOf? (charOf n) = some n
  surrogateOf?_of_isAscii : ∀ c, c.toNat < 0x80 → surrogateOf? c = none

namespace StandIns

/-- Why a text cannot be encoded in UTF-8, if it cannot: the first surrogates in a row that it
holds. -/
def fault? (standIns : StandIns) (text : String) : Option Fault :=
  let isPlain (c : Char) : Bool := (standIns.surrogateOf? c).isNone
  let before := (text.toList.takeWhile isPlain).length
  let found := (text.toList.dropWhile isPlain).takeWhile fun c => !isPlain c
  match found.filterMap standIns.surrogateOf? with
  | [] => none
  | [n] => some (.surrogates ⟨some n, before, before⟩)
  | ns => some (.surrogates ⟨none, before, before + ns.length - 1⟩)

/-- Makes sure that texts can be encoded, one after the other. -/
def check (standIns : StandIns) (texts : List String) : Except Fault Unit :=
  match texts.findSome? standIns.fault? with
  | some cause => .error cause
  | none => .ok ()

/-! ### Stand-ins for private use

The last two planes of characters are for private use: their characters are no letters, digits or
spaces, as surrogates are none. -/

/-- The first character of a block of private characters. -/
def blockStart (i : Fin 64) : Nat := 0xF0000 + 0x800 * i

theorem toNat_ofNat_block (i : Fin 64) {n : Nat} (h : isSurrogate n = true) :
    (Char.ofNat (blockStart i + (n - 0xD800))).toNat = blockStart i + (n - 0xD800) := by
  have hrange : 0xD800 ≤ n ∧ n < 0xE000 := by simpa [isSurrogate] using h
  have hvalid : (blockStart i + (n - 0xD800)).isValidChar := by
    refine .inr ⟨?_, ?_⟩
    · rw [blockStart]
      omega
    · rw [blockStart]
      omega
  rw [Char.ofNat, dif_pos hvalid]
  rfl

/-- The stand-ins of a block, in the order of the surrogates. -/
def ofBlock (i : Fin 64) : StandIns where
  charOf n := Char.ofNat (blockStart i + (n - 0xD800))
  surrogateOf? c :=
    if blockStart i ≤ c.toNat ∧ c.toNat < blockStart i + 0x800 then
      some (c.toNat - blockStart i + 0xD800)
    else none
  surrogateOf?_charOf n h := by
    have hrange : 0xD800 ≤ n ∧ n < 0xE000 := by simpa [isSurrogate] using h
    rw [toNat_ofNat_block i h, if_pos (by omega)]
    congr 1
    omega
  surrogateOf?_of_isAscii c h := by
    have hstart : 0xF0000 ≤ blockStart i := Nat.le_add_right _ _
    rw [if_neg (by omega)]

/-- Stand-ins that some texts do not hold, if a block is left for them. -/
def notIn (texts : List String) : StandIns :=
  let isFree (i : Fin 64) : Bool :=
    texts.all fun text => text.toList.all fun c => ((ofBlock i).surrogateOf? c).isNone
  ofBlock (((List.finRange 64).reverse.find? isFree).getD 0)

end StandIns

end TabNotes.Text
