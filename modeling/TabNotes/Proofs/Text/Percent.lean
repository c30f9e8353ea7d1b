import TabNotes.Proofs.Text.Utf8
import TabNotes.Text.Percent

/-! # Percent encoding is read back

`textBytes` are the bytes of a text in UTF-8 with all its escapes read.  Decoding reads run by run,
but comes to the same: it gives the text that has these bytes, if there is one
(`decode?_eq_some_iff`), since a character beyond ASCII is no part of an escape and shares no byte
with another character.  A character may be spelled as itself or by an escape for each of its bytes
(`IsSpelling`), so that what stands in a part of a URI is read back as the text it was made from
(`decode?_encode`). -/

namespace TabNotes.Text.Percent

variable {a b c d : Char} {n : Nat} {cs ds : List Char}

/-! ### Characters -/

theorem isUnreserved_iff : isUnreserved c = true ↔
    c.isAlphanum = true ∨ c ∈ ['-', '_', '.', '!', '~', '*', '\'', '(', ')'] := by
  rw [isUnreserved, Bool.or_eq_true, List.contains_iff_mem]

theorem ne_of_isUnreserved (h : isUnreserved c = true) (hd : isUnreserved d = false) :
    c ≠ d := by
  rintro rfl
  rw [h] at hd
  cases hd

/-- A hexadecimal digit of an escape: a digit or a capital letter up to F. -/
def isEscapeDigit (c : Char) : Bool := c ∈ "0123456789ABCDEF".toList

theorem isEscapeDigit_hexDigit : ∀ n < 16, isEscapeDigit (hexDigit true n) = true := by decide

theorem hexValue?_hexDigit : ∀ n < 16, hexValue? (hexDigit true n) = some n := by decide

theorem hexPair?_hexDigit {b : Nat} (hb : b < 0x100) :
    hexPair? (hexDigit true (b / 16)) (hexDigit true (b % 16)) = some b := by
  have hhigh := hexValue?_hexDigit (b / 16) (by omega)
  have hlow := hexValue?_hexDigit (b % 16) (by omega)
  rw [hexPair?, hhigh, hlow]
  dsimp only
  rw [Nat.div_add_mod]

theorem ne_percent_hexDigit : ∀ n < 16, hexDigit true n ≠ '%' := by decide

theorem isAscii_of_isHexDigit (h : isHexDigit c = true) : isAscii c = true := by
  rw [isAscii, decide_eq_true_eq]
  unfold isHexDigit hexValue? at h
  split at h
  · rename_i hdigit
    exact Nat.lt_of_le_of_lt (Char.isDigit_iff_toNat.mp hdigit).2 (by decide)
  · split at h
    · rename_i hlower
      rw [Bool.and_eq_true, decide_eq_true_eq, decide_eq_true_eq] at hlower
      exact Nat.lt_of_le_of_lt (UInt32.le_iff_toNat_le.mp hlower.2) (by decide)
    · split at h
      · rename_i hupper
        rw [Bool.and_eq_true, decide_eq_true_eq, decide_eq_true_eq] at hupper
        exact Nat.lt_of_le_of_lt (UInt32.le_iff_toNat_le.mp hupper.2) (by decide)
      · cases h

/-- An encoded text holds escapes and characters that are left alone, and nothing else. -/
theorem not_mem_encodeChar (hd : isUnreserved d = false) (hne : d ≠ '%')
    (hdigit : isEscapeDigit d = false) (c : Char) : d ∉ encodeChar c := by
  intro hmem
  unfold encodeChar at hmem
  split at hmem
  · rename_i hplain
    rw [List.mem_singleton] at hmem
    exact ne_of_isUnreserved hplain hd hmem.symm
  · obtain ⟨b, hb, hdb⟩ := List.mem_flatMap.mp hmem
    have hbyte := Utf8.lt_of_mem_encodeChar hb
    simp only [escapeByte, List.mem_cons, List.not_mem_nil, or_false] at hdb
    rcases hdb with h | h | h
    · exact hne h
    · rw [h, isEscapeDigit_hexDigit _ (by omega)] at hdigit
      cases hdigit
    · rw [h, isEscapeDigit_hexDigit _ (by omega)] at hdigit
      cases hdigit

/-! ### Escapes in a text -/

/-- A text that goes on as an escape does after its percent sign. -/
def BeginsWithPair (cs : List Char) : Prop :=
  ∃ a b more, cs = a :: b :: more ∧ isHexDigit a = true ∧ isHexDigit b = true

/-- A text with an escape in it. -/
def HasEscape (cs : List Char) : Prop :=
  ∃ before after, cs = before ++ '%' :: after ∧ BeginsWithPair after

/-- A text with a percent sign that starts no escape. -/
def HasMalformedEscape (cs : List Char) : Prop :=
  ∃ before after, cs = before ++ '%' :: after ∧ ¬ BeginsWithPair after

theorem isSome_hexPair?_iff :
    (hexPair? a b).isSome = true ↔ isHexDigit a = true ∧ isHexDigit b = true := by
  rw [isHexDigit, isHexDigit, hexPair?]
  cases hexValue? a with
  | none => simp
  | some h =>
      cases hexValue? b with
      | none => simp
      | some l => simp

theorem beginsWithPair_cons_cons_iff :
    BeginsWithPair (a :: b :: cs) ↔ (hexPair? a b).isSome = true := by
  rw [isSome_hexPair?_iff]
  constructor
  · rintro ⟨_, _, _, ⟨⟩, hdigits⟩
    exact hdigits
  · rintro hdigits
    exact ⟨a, b, cs, rfl, hdigits⟩

theorem not_beginsWithPair_nil : ¬ BeginsWithPair [] := by
  rintro ⟨_, _, _, ⟨⟩, -⟩

theorem not_beginsWithPair_singleton : ¬ BeginsWithPair [a] := by
  rintro ⟨_, _, _, ⟨⟩, -⟩

/-- A percent sign with something after it stands at the start of a text, or in the rest. -/
theorem exists_percent_cons_iff {P : List Char → Prop} :
    (∃ before after, c :: cs = before ++ '%' :: after ∧ P after) ↔
      (c = '%' ∧ P cs) ∨ ∃ before after, cs = before ++ '%' :: after ∧ P after := by
  constructor
  · rintro ⟨before, after, heq, hafter⟩
    cases before with
    | nil =>
        obtain ⟨rfl, rfl⟩ := List.cons.inj heq
        exact .inl ⟨rfl, hafter⟩
    | cons d before =>
        obtain ⟨rfl, rfl⟩ := List.cons.inj heq
        exact .inr ⟨before, after, rfl, hafter⟩
  · rintro (⟨rfl, hcs⟩ | ⟨before, after, rfl, hafter⟩)
    · exact ⟨[], cs, rfl, hcs⟩
    · exact ⟨c :: before, after, rfl, hafter⟩

theorem not_exists_percent_nil {P : List Char → Prop} :
    ¬ ∃ before after, ([] : List Char) = before ++ '%' :: after ∧ P after := by
  rintro ⟨before, after, heq, -⟩
  simp at heq

theorem hasEscape_cons_iff :
    hasEscape (c :: cs) = true ↔ (c = '%' ∧ BeginsWithPair cs) ∨ hasEscape cs = true := by
  match cs with
  | [] => simp [hasEscape, not_beginsWithPair_nil]
  | [a] => simp [hasEscape, not_beginsWithPair_singleton]
  | a :: b :: cs =>
      rw [beginsWithPair_cons_cons_iff]
      by_cases hc : c = '%'
      · simp [hasEscape, hc]
      · simp [hasEscape, hc]

theorem hasStrayPercent_cons_iff : hasStrayPercent (c :: cs) = true ↔
    (c = '%' ∧ ¬ BeginsWithPair cs) ∨ hasStrayPercent cs = true := by
  match cs with
  | [] => simp [hasStrayPercent, not_beginsWithPair_nil]
  | [a] => simp [hasStrayPercent, not_beginsWithPair_singleton]
  | a :: b :: cs =>
      rw [beginsWithPair_cons_cons_iff]
      by_cases hc : c = '%'
      · simp [hasStrayPercent, hc]
      · simp [hasStrayPercent, hc]

theorem hasEscape_iff : hasEscape cs = true ↔ HasEscape cs := by
  induction cs with
  | nil => exact iff_of_false (by simp [hasEscape]) not_exists_percent_nil
  | cons c cs ih => rw [hasEscape_cons_iff, HasEscape, exists_percent_cons_iff, ih, HasEscape]

theorem hasStrayPercent_iff : hasStrayPercent cs = true ↔ HasMalformedEscape cs := by
  induction cs with
  | nil => exact iff_of_false (by simp [hasStrayPercent]) not_exists_percent_nil
  | cons c cs ih =>
      rw [hasStrayPercent_cons_iff, HasMalformedEscape, exists_percent_cons_iff, ih,
        HasMalformedEscape]

instance (cs : List Char) : Decidable (HasEscape cs) := decidable_of_iff _ hasEscape_iff

instance (cs : List Char) : Decidable (HasMalformedEscape cs) :=
  decidable_of_iff _ hasStrayPercent_iff

/-- A percent sign starts an escape or is malformed. -/
theorem not_mem_of_no_escape (hescape : ¬ HasEscape cs) (hmalformed : ¬ HasMalformedEscape cs) :
    '%' ∉ cs := by
  intro hmem
  obtain ⟨before, after, rfl⟩ := List.append_of_mem hmem
  by_cases hafter : BeginsWithPair after
  · exact hescape ⟨before, after, rfl, hafter⟩
  · exact hmalformed ⟨before, after, rfl, hafter⟩

/-! ### The bytes of a text -/

/-- The bytes of a text in UTF-8 with its escapes read; a percent sign that starts no escape stands
for itself. -/
def textBytes : List Char → List Nat
  | '%' :: a :: b :: cs =>
    match hexPair? a b with
    | some n => n :: textBytes cs
    | none => Utf8.encodeChar '%' ++ textBytes (a :: b :: cs)
  | c :: cs => Utf8.encodeChar c ++ textBytes cs
  | [] => []

theorem textBytes_escape (h : hexPair? a b = some n) (cs : List Char) :
    textBytes ('%' :: a :: b :: cs) = n :: textBytes cs := by
  rw [textBytes, h]

theorem textBytes_cons (h : c = '%' → ¬ BeginsWithPair cs) :
    textBytes (c :: cs) = Utf8.encodeChar c ++ textBytes cs := by
  match cs with
  | [] => simp [textBytes]
  | [a] => simp [textBytes]
  | a :: b :: cs =>
      by_cases hc : c = '%'
      · have hnone : hexPair? a b = none := by
          simpa [beginsWithPair_cons_cons_iff] using h hc
        rw [hc, textBytes, hnone]
      · simp [textBytes, hc]

/-- A text read from left to right: escapes, and characters that start none. -/
theorem escapes_induction {motive : List Char → Prop} (nil : motive [])
    (escape : ∀ a b n cs, hexPair? a b = some n → motive cs → motive ('%' :: a :: b :: cs))
    (char : ∀ c cs, (c = '%' → ¬ BeginsWithPair cs) → motive cs → motive (c :: cs))
    (cs : List Char) : motive cs := by
  fun_induction textBytes cs with
  | case1 a b cs n hpair ih => exact escape a b n cs hpair ih
  | case2 a b cs hpair ih =>
      refine char '%' (a :: b :: cs) (fun _ => ?_) ih
      rw [beginsWithPair_cons_cons_iff, hpair]
      simp
  | case3 c cs hpair ih =>
      refine char c cs ?_ ih
      rintro hc ⟨a, b, more, hcs, -⟩
      exact hpair a b more hc hcs
  | case4 => exact nil

/-! ### Runs -/

theorem runBytes_cons (h : c = '%' → ¬ BeginsWithPair cs) :
    runBytes (c :: cs) = c.toNat :: runBytes cs := by
  match cs with
  | [] => simp [runBytes]
  | [a] => simp [runBytes]
  | a :: b :: cs =>
      by_cases hc : c = '%'
      · have hnone : hexPair? a b = none := by
          simpa [beginsWithPair_cons_cons_iff] using h hc
        rw [hc, runBytes, hnone]
      · simp [runBytes, hc]

/-- In ASCII, bytes and characters are the same. -/
theorem textBytes_of_isAscii (h : ∀ c ∈ cs, isAscii c = true) : textBytes cs = runBytes cs := by
  induction cs using escapes_induction with
  | nil => rfl
  | escape a b n cs hpair ih =>
      rw [textBytes_escape hpair, runBytes, hpair, ih fun c hc => h c (by simp [hc])]
  | char c cs hpair ih =>
      have hascii : c.toNat < 0x80 := of_decide_eq_true (h c List.mem_cons_self)
      rw [textBytes_cons hpair, runBytes_cons hpair, Utf8.encodeChar_of_ascii hascii,
        ih fun d hd => h d (List.mem_cons_of_mem c hd), List.singleton_append]

theorem BeginsWithPair.of_append_cons (hd : isHexDigit d = false)
    (h : BeginsWithPair (cs ++ d :: ds)) : BeginsWithPair cs := by
  obtain ⟨a, b, more, hcs, ha, hb⟩ := h
  match cs with
  | [] =>
      rw [(List.cons.inj hcs).1, ha] at hd
      cases hd
  | [e] =>
      rw [(List.cons.inj (List.cons.inj hcs).2).1, hb] at hd
      cases hd
  | e :: f :: cs =>
      obtain ⟨hea, hcs⟩ := List.cons.inj hcs
      exact ⟨e, f, cs, rfl, hea ▸ ha, (List.cons.inj hcs).1 ▸ hb⟩

/-- A character beyond ASCII is no part of an escape. -/
theorem textBytes_append_cons (hd : isAscii d = false) (cs ds : List Char) :
    textBytes (cs ++ d :: ds) = textBytes cs ++ (Utf8.encodeChar d ++ textBytes ds) := by
  have hdigit : isHexDigit d = false := by
    refine Bool.eq_false_iff.mpr fun hdigit => ?_
    rw [isAscii_of_isHexDigit hdigit] at hd
    cases hd
  induction cs using escapes_induction with
  | nil =>
      refine textBytes_cons ?_
      rintro rfl
      cases hd
  | escape a b n cs hpair ih =>
      rw [List.cons_append, List.cons_append, List.cons_append, textBytes_escape hpair,
        textBytes_escape hpair, ih, List.cons_append]
  | char c cs hpair ih =>
      have hstill : c = '%' → ¬ BeginsWithPair (cs ++ d :: ds) := fun hc hpairs =>
        hpair hc (hpairs.of_append_cons hdigit)
      rw [List.cons_append, textBytes_cons hstill, textBytes_cons hpair, ih, List.append_assoc]

/-! ### Decoding -/

theorem decodeRun?_eq_some_iff (h : ∀ c ∈ cs, isAscii c = true) :
    decodeRun? cs = some ds ↔ Utf8.encode ds = textBytes cs := by
  rw [textBytes_of_isAscii h, ← Utf8.decode_eq_ok_iff, decodeRun?]
  cases Utf8.decode (runBytes cs) <;> simp [Except.toOption]

theorem decodeAfter?_eq_some_iff {run : List Char} (h : ∀ c ∈ run, isAscii c = true) :
    decodeAfter? run cs = some ds ↔ Utf8.encode ds = textBytes (run.reverse ++ cs) := by
  induction cs generalizing run ds with
  | nil =>
      rw [decodeAfter?, List.append_nil]
      exact decodeRun?_eq_some_iff fun c hc => h c (List.mem_reverse.mp hc)
  | cons c cs ih =>
      rw [decodeAfter?]
      cases hc : isAscii c with
      | true =>
          rw [if_pos rfl, ih (List.forall_mem_cons.mpr ⟨hc, h⟩)]
          simp
      | false =>
          rw [if_neg (by simp), textBytes_append_cons hc, Utf8.encode_eq_append_iff]
          have hrun : ∀ c ∈ run.reverse, isAscii c = true := fun c hc =>
            h c (List.mem_reverse.mp hc)
          have hnil : ∀ c ∈ ([] : List Char), isAscii c = true := by simp
          simp only [Option.bind_eq_bind, Option.bind_eq_some_iff, Option.pure_def,
            Option.some.injEq, decodeRun?_eq_some_iff hrun, ih hnil]
          constructor
          · rintro ⟨before, hbefore, after, hafter, rfl⟩
            exact ⟨before, after, rfl, hbefore, hafter⟩
          · rintro ⟨before, after, rfl, hbefore, hafter⟩
            exact ⟨before, hbefore, after, hafter, rfl⟩

/-- What a text stands for, with its escapes read, is the text of which it holds the bytes. -/
theorem decode?_eq_some_iff : decode? cs = some ds ↔ Utf8.encode ds = textBytes cs :=
  decodeAfter?_eq_some_iff (by simp)

/-! ### Spellings -/

/-- What may stand for a character in an encoded text: the character itself, unless it is a percent
sign, or an escape for each of its bytes. -/
inductive IsSpelling (c : Char) : List Char → Prop where
  | plain (h : c ≠ '%') : IsSpelling c [c]
  | escaped : IsSpelling c ((Utf8.encodeChar c).flatMap escapeByte)

theorem isSpelling_encodeChar (c : Char) : IsSpelling c (encodeChar c) := by
  unfold encodeChar
  split
  · rename_i h
    exact .plain (ne_of_isUnreserved h (by decide))
  · exact .escaped

theorem beginsWithPair_hexDigits {byte : Nat} (h : byte < 0x100) (cs : List Char) :
    BeginsWithPair (hexDigit true (byte / 16) :: hexDigit true (byte % 16) :: cs) := by
  rw [beginsWithPair_cons_cons_iff, hexPair?_hexDigit h]
  rfl

theorem hasMalformedEscape_cons_iff : HasMalformedEscape (c :: cs) ↔
    (c = '%' ∧ ¬ BeginsWithPair cs) ∨ HasMalformedEscape cs :=
  exists_percent_cons_iff

theorem not_hasMalformedEscape_escapes {bytes : List Nat} (hbytes : ∀ b ∈ bytes, b < 0x100)
    (h : ¬ HasMalformedEscape cs) : ¬ HasMalformedEscape (bytes.flatMap escapeByte ++ cs) := by
  induction bytes with
  | nil => exact h
  | cons byte bytes ih =>
      have hbyte := hbytes byte List.mem_cons_self
      have hmore := ih fun b hb => hbytes b (List.mem_cons_of_mem byte hb)
      have hhigh : hexDigit true (byte / 16) ≠ '%' := ne_percent_hexDigit _ (by omega)
      have hlow : hexDigit true (byte % 16) ≠ '%' := ne_percent_hexDigit _ (by omega)
      rw [List.flatMap_cons, escapeByte, List.append_assoc, List.cons_append, List.cons_append,
        List.cons_append, List.nil_append, hasMalformedEscape_cons_iff,
        hasMalformedEscape_cons_iff, hasMalformedEscape_cons_iff]
      simp [hhigh, hlow, hmore, beginsWithPair_hexDigits hbyte]

theorem IsSpelling.not_hasMalformedEscape {piece : List Char} (hpiece : IsSpelling c piece)
    (h : ¬ HasMalformedEscape cs) : ¬ HasMalformedEscape (piece ++ cs) := by
  cases hpiece with
  | plain hc =>
      rw [List.singleton_append, hasMalformedEscape_cons_iff]
      simp [hc, h]
  | escaped => exact not_hasMalformedEscape_escapes (fun b => Utf8.lt_of_mem_encodeChar) h

theorem textBytes_escapes {bytes : List Nat} (hbytes : ∀ b ∈ bytes, b < 0x100) (cs : List Char) :
    textBytes (bytes.flatMap escapeByte ++ cs) = bytes ++ textBytes cs := by
  induction bytes with
  | nil => rfl
  | cons byte bytes ih =>
      rw [List.flatMap_cons, escapeByte, List.append_assoc, List.cons_append, List.cons_append,
        List.cons_append, List.nil_append,
        textBytes_escape (hexPair?_hexDigit (hbytes byte List.mem_cons_self)),
        ih fun b hb => hbytes b (List.mem_cons_of_mem byte hb), List.cons_append]

theorem IsSpelling.textBytes_append {piece : List Char} (h : IsSpelling c piece) (cs : List Char) :
    textBytes (piece ++ cs) = Utf8.encodeChar c ++ textBytes cs := by
  cases h with
  | plain hc => exact textBytes_cons fun h => absurd h hc
  | escaped => exact textBytes_escapes (fun b => Utf8.lt_of_mem_encodeChar) cs

/-- A text that is spelled character by character has no malformed escape, and its bytes are those
of the text that it spells. -/
theorem textBytes_flatMap {spell : Char → List Char} (h : ∀ c ∈ cs, IsSpelling c (spell c)) :
    ¬ HasMalformedEscape (cs.flatMap spell) ∧ textBytes (cs.flatMap spell) = Utf8.encode cs := by
  induction cs with
  | nil => exact ⟨not_exists_percent_nil, rfl⟩
  | cons c cs ih =>
      obtain ⟨hmalformed, hbytes⟩ := ih fun d hd => h d (List.mem_cons_of_mem c hd)
      have hc := h c List.mem_cons_self
      refine ⟨hc.not_hasMalformedEscape hmalformed, ?_⟩
      rw [List.flatMap_cons, hc.textBytes_append, hbytes, Utf8.encode_cons]

/-- Every text is read back from how it stands in a part of a URI. -/
theorem decode?_encode (s : String) : decode? (encode s).toList = some s.toList := by
  rw [encode, String.toList_ofList, decode?_eq_some_iff]
  exact (textBytes_flatMap fun c _ => isSpelling_encodeChar c).2.symm

end TabNotes.Text.Percent
