import Mathlib.Data.List.DropRight
import TabNotes.Proofs.Text.Percent
import TabNotes.Proofs.Text.Replace
import TabNotes.Tab.Title

/-! # Titles that were encoded

A title that was made by encoding a text, as a part of a URI or as a form does it, is cleaned like
the text itself; of any other title either all escapes are read or none (`cleanTitle_encode`).
Whether a title is decoded is guessed from how it looks, but the guess matters only for one with a
malformed escape: where nothing looks encoded, there is nothing to decode
(`decodeTitle_of_bytes`). -/

namespace TabNotes.Tab

open TabNotes.Text TabNotes.Text.Percent

variable {c : Char} {cs ds : List Char}

/-- A text without white space at its start, and without one run of number signs there and the white
space after it; the run stays when nothing else is left. -/
def withoutHeading (s : String) : String :=
  let trimmed := dropBlanks s.toList
  let body := dropBlanks (trimmed.dropWhile (· == '#'))
  String.ofList (if body.isEmpty then trimmed else body)

/-- A title with plus signs read as spaces. -/
def spaced (cs : List Char) : List Char := cs.map fun c => if c == '+' then ' ' else c

/-- A title with a plus sign or an escape. -/
def LooksEncoded (cs : List Char) : Prop := '+' ∈ cs ∨ HasEscape cs

instance (cs : List Char) : Decidable (LooksEncoded cs) := instDecidableOr

/-- A text as forms encode it, with plus signs for spaces. -/
def formEncode (s : String) : String := replaceAll "%20" "+" (Percent.encode s)

/-! ### Headings -/

theorem ofList_dropHeading (s : String) :
    String.ofList (dropHeading s.toList) = withoutHeading s := by
  have htwice : dropBlanks (dropBlanks s.toList) = dropBlanks s.toList :=
    List.dropWhile_idempotent isBlank s.toList
  rw [dropHeading, withoutHeading]
  dsimp only
  generalize dropBlanks s.toList = trimmed at htwice ⊢
  split
  · simp
  · rename_i hmark
    have hbody : trimmed.dropWhile (· == '#') = trimmed := by
      cases trimmed with
      | nil => rfl
      | cons c cs =>
          rw [List.dropWhile_cons_of_neg]
          simpa using fun hc => hmark cs (by rw [hc])
    rw [hbody, htwice, ite_self]

/-! ### Plus signs -/

theorem spaced_cons (c : Char) (cs : List Char) :
    spaced (c :: cs) = (if c == '+' then ' ' else c) :: spaced cs := rfl

theorem spaced_of_not_mem (h : '+' ∉ cs) : spaced cs = cs := by
  induction cs with
  | nil => rfl
  | cons c cs ih =>
      rw [List.mem_cons, not_or] at h
      rw [spaced_cons, ih h.2, if_neg (by simpa using Ne.symm h.1)]

theorem spaced_flatMap (spell : Char → List Char) (cs : List Char) :
    spaced (cs.flatMap spell) = cs.flatMap fun c => spaced (spell c) :=
  List.map_flatMap

/-- Neither plus signs nor spaces are hexadecimal digits. -/
theorem beginsWithPair_spaced_iff : BeginsWithPair (spaced cs) ↔ BeginsWithPair cs := by
  have hdigit : ∀ c, isHexDigit (if c == '+' then ' ' else c) = isHexDigit c := by
    intro c
    by_cases hc : c = '+'
    · rw [hc]
      decide
    · rw [if_neg (by simpa using hc)]
  match cs with
  | [] => rfl
  | [a] => simp [spaced, not_beginsWithPair_singleton]
  | a :: b :: cs =>
      rw [spaced_cons, spaced_cons, beginsWithPair_cons_cons_iff, beginsWithPair_cons_cons_iff,
        isSome_hexPair?_iff, isSome_hexPair?_iff, hdigit, hdigit]

theorem hasMalformedEscape_spaced_iff :
    HasMalformedEscape (spaced cs) ↔ HasMalformedEscape cs := by
  have hpercent : ∀ c, (if c == '+' then ' ' else c) = '%' ↔ c = '%' := by
    intro c
    by_cases hc : c = '+'
    · rw [hc]
      decide
    · rw [if_neg (by simpa using hc)]
  induction cs with
  | nil => rfl
  | cons c cs ih =>
      rw [spaced_cons, hasMalformedEscape_cons_iff, hasMalformedEscape_cons_iff, hpercent,
        beginsWithPair_spaced_iff]
      exact or_congr Iff.rfl ih

/-! ### Decoding -/

theorem decodeTitle_eq (cs : List Char) : decodeTitle cs =
    if cs.contains '+' || hasEscape cs then
      if hasStrayPercent (spaced cs) then spaced cs else (decode? (spaced cs)).getD (spaced cs)
    else cs := rfl

theorem looksEncoded_iff : (cs.contains '+' || hasEscape cs) = true ↔ LooksEncoded cs := by
  rw [Bool.or_eq_true, List.contains_iff_mem, hasEscape_iff, LooksEncoded]

theorem textBytes_of_not_mem (h : '%' ∉ cs) : textBytes cs = Utf8.encode cs := by
  have hplain : ∀ c ∈ cs, IsSpelling c [c] := by
    intro c hc
    refine .plain ?_
    rintro rfl
    exact h hc
  simpa using (textBytes_flatMap hplain).2

/-- A title without malformed escapes is the text whose bytes it holds, whether it looks encoded or
not. -/
theorem decodeTitle_of_bytes (hmalformed : ¬ HasMalformedEscape cs)
    (hbytes : Utf8.encode ds = textBytes (spaced cs)) : decodeTitle cs = ds := by
  rw [decodeTitle_eq]
  by_cases hlooks : LooksEncoded cs
  · have hstray : ¬ hasStrayPercent (spaced cs) = true := by
      rwa [hasStrayPercent_iff, hasMalformedEscape_spaced_iff]
    rw [if_pos (looksEncoded_iff.mpr hlooks), if_neg hstray, decode?_eq_some_iff.mpr hbytes]
    rfl
  · rw [if_neg (mt looksEncoded_iff.mp hlooks)]
    rw [LooksEncoded, not_or] at hlooks
    rw [spaced_of_not_mem hlooks.1,
      textBytes_of_not_mem (not_mem_of_no_escape hlooks.2 hmalformed)] at hbytes
    exact (Utf8.encode_injective hbytes).symm

theorem decodeTitle_of_not_decodable (hlooks : LooksEncoded cs)
    (h : HasMalformedEscape cs ∨ ∀ ds, Utf8.encode ds ≠ textBytes (spaced cs)) :
    decodeTitle cs = spaced cs := by
  rw [decodeTitle_eq, if_pos (looksEncoded_iff.mpr hlooks)]
  by_cases hstray : hasStrayPercent (spaced cs) = true
  · rw [if_pos hstray]
  · have hnone : decode? (spaced cs) = none := by
      rw [hasStrayPercent_iff, hasMalformedEscape_spaced_iff] at hstray
      refine Option.eq_none_iff_forall_ne_some.mpr fun ds hds => ?_
      exact h.resolve_left hstray ds (decode?_eq_some_iff.mp hds)
    rw [if_neg hstray, hnone]
    rfl

theorem decodeTitle_of_not_looksEncoded (h : ¬ LooksEncoded cs) : decodeTitle cs = cs := by
  rw [decodeTitle_eq, if_neg (mt looksEncoded_iff.mp h)]

/-! ### Encoding -/

/-- A character as forms encode it. -/
def encodeFormChar (c : Char) : List Char := if c = ' ' then ['+'] else encodeChar c

theorem spaced_encodeChar (c : Char) : spaced (encodeChar c) = encodeChar c :=
  spaced_of_not_mem (not_mem_encodeChar (by decide) (by decide) (by decide) c)

/-- Once plus signs are read as spaces, forms spell every character, too. -/
theorem isSpelling_spaced_encodeFormChar (c : Char) : IsSpelling c (spaced (encodeFormChar c)) := by
  unfold encodeFormChar
  split
  · rename_i hc
    rw [hc]
    exact .plain (by decide)
  · rw [spaced_encodeChar]
    exact isSpelling_encodeChar c

/-- No escape but that of a space is written as a plus sign. -/
theorem replaceAllChars_escapeByte {byte : Nat} (hbyte : byte < 0x100) (hne : byte ≠ 0x20)
    (cs : List Char) :
    replaceAllChars ['%', '2', '0'] ['+'] (escapeByte byte ++ cs) =
      escapeByte byte ++ replaceAllChars ['%', '2', '0'] ['+'] cs := by
  have hpair := hexPair?_hexDigit hbyte
  have hhigh := ne_percent_hexDigit (byte / 16) (by omega)
  have hlow := ne_percent_hexDigit (byte % 16) (by omega)
  rw [escapeByte]
  generalize hexDigit true (byte / 16) = a at hpair hhigh ⊢
  generalize hexDigit true (byte % 16) = b at hpair hlow ⊢
  have hspace : ['%', '2', '0'].isPrefixOf ('%' :: a :: b :: cs) = false := by
    rw [Bool.eq_false_iff, ne_eq, List.isPrefixOf_iff_prefix]
    rintro ⟨more, hmore⟩
    obtain ⟨rfl, rfl, -⟩ : '2' = a ∧ '0' = b ∧ more = cs := by simpa using hmore
    exact hne (Option.some.inj (hpair.symm.trans (by decide)))
  rw [List.cons_append, List.cons_append, List.cons_append, List.nil_append,
    replaceAllChars_cons_of_not_begins hspace,
    replaceAllChars_cons_of_not_begins (isPrefixOf_cons_eq_false fun h => absurd h hhigh),
    replaceAllChars_cons_of_not_begins (isPrefixOf_cons_eq_false fun h => absurd h hlow)]
  rfl

theorem replaceAllChars_escapes {bytes : List Nat} (hbytes : ∀ b ∈ bytes, b < 0x100 ∧ b ≠ 0x20)
    (cs : List Char) :
    replaceAllChars ['%', '2', '0'] ['+'] (bytes.flatMap escapeByte ++ cs) =
      bytes.flatMap escapeByte ++ replaceAllChars ['%', '2', '0'] ['+'] cs := by
  induction bytes with
  | nil => rfl
  | cons byte bytes ih =>
      obtain ⟨hbyte, hne⟩ := hbytes byte List.mem_cons_self
      rw [List.flatMap_cons, List.append_assoc, replaceAllChars_escapeByte hbyte hne,
        ih fun b hb => hbytes b (List.mem_cons_of_mem byte hb), List.append_assoc]

theorem replaceAllChars_encodeChar (c : Char) (cs : List Char) :
    replaceAllChars ['%', '2', '0'] ['+'] (encodeChar c ++ cs) =
      encodeFormChar c ++ replaceAllChars ['%', '2', '0'] ['+'] cs := by
  unfold encodeFormChar
  split
  · rename_i hc
    have hspace : encodeChar c = ['%', '2', '0'] := by
      rw [hc]
      decide
    rw [hspace, replaceAllChars_append (by simp)]
  · rename_i hc
    unfold encodeChar
    split
    · rename_i hplain
      rw [List.singleton_append, List.singleton_append, replaceAllChars_cons_of_not_begins]
      exact isPrefixOf_cons_eq_false fun h => absurd h (ne_of_isUnreserved hplain (by decide))
    · refine replaceAllChars_escapes (fun b hb => ⟨Utf8.lt_of_mem_encodeChar hb, ?_⟩) cs
      rintro rfl
      exact hc (Char.toNat_inj.mp (Utf8.eq_of_mem_encodeChar hb (by decide)))

theorem toList_formEncode (s : String) :
    (formEncode s).toList = s.toList.flatMap encodeFormChar := by
  have hchars : ∀ cs : List Char, replaceAllChars ['%', '2', '0'] ['+'] (cs.flatMap encodeChar) =
      cs.flatMap encodeFormChar := by
    intro cs
    induction cs with
    | nil => rfl
    | cons c cs ih => rw [List.flatMap_cons, replaceAllChars_encodeChar, ih, List.flatMap_cons]
  have hencode : (Percent.encode s).toList = s.toList.flatMap encodeChar := String.toList_ofList
  rw [formEncode, replaceAll, String.toList_ofList, hencode]
  exact hchars _

theorem decodeTitle_encode (s : String) : decodeTitle (Percent.encode s).toList = s.toList := by
  have hspell : ∀ c ∈ s.toList, IsSpelling c (encodeChar c) := fun c _ => isSpelling_encodeChar c
  obtain ⟨hmalformed, hbytes⟩ := textBytes_flatMap hspell
  rw [Percent.encode, String.toList_ofList]
  refine decodeTitle_of_bytes hmalformed ?_
  rw [spaced_flatMap, List.flatMap_congr fun c _ => spaced_encodeChar c, hbytes]

theorem decodeTitle_formEncode (s : String) : decodeTitle (formEncode s).toList = s.toList := by
  have hspell : ∀ c ∈ s.toList, IsSpelling c (spaced (encodeFormChar c)) :=
    fun c _ => isSpelling_spaced_encodeFormChar c
  obtain ⟨hmalformed, hbytes⟩ := textBytes_flatMap hspell
  rw [← spaced_flatMap] at hmalformed hbytes
  rw [toList_formEncode]
  exact decodeTitle_of_bytes (mt hasMalformedEscape_spaced_iff.mpr hmalformed) hbytes.symm

/-- A text that was encoded is cleaned like the text itself.  A title is cleaned like the text of
which it holds the bytes; when it looks encoded but has a malformed escape or no text has these
bytes, like itself with spaces for plus signs; and when it does not look encoded, like itself. -/
theorem cleanTitle_encode (s title : String) :
    cleanTitle (Percent.encode s) = withoutHeading s ∧
    cleanTitle (formEncode s) = withoutHeading s ∧
    (∀ text : String, ¬ HasMalformedEscape title.toList →
      Utf8.encode text.toList = textBytes (spaced title.toList) →
        cleanTitle title = withoutHeading text) ∧
    (LooksEncoded title.toList →
      (HasMalformedEscape title.toList ∨
        ∀ cs, Utf8.encode cs ≠ textBytes (spaced title.toList)) →
        cleanTitle title = withoutHeading (String.ofList (spaced title.toList))) ∧
    (¬ LooksEncoded title.toList → cleanTitle title = withoutHeading title) := by
  have hclean : ∀ title text : String, decodeTitle title.toList = text.toList →
      cleanTitle title = withoutHeading text := by
    intro title text h
    rw [cleanTitle, h, ofList_dropHeading]
  refine ⟨?_, ?_, ?_, ?_, ?_⟩
  · exact hclean _ s (decodeTitle_encode s)
  · exact hclean _ s (decodeTitle_formEncode s)
  · intro text hmalformed hbytes
    exact hclean title text (decodeTitle_of_bytes hmalformed hbytes)
  · intro hlooks h
    refine hclean title _ ?_
    rw [decodeTitle_of_not_decodable hlooks h, String.toList_ofList]
  · intro hlooks
    exact hclean title title (decodeTitle_of_not_looksEncoded hlooks)

/-- One title for each case: bytes of a text, bytes of no text, and a percent sign that nothing else
takes for an encoding. -/
theorem cleanTitle_encode_titles :
    cleanTitle "%23+caf%C3%A9" = "café" ∧ cleanTitle "%C3+%23" = "%C3 %23" ∧
      cleanTitle "# 100%" = "100%" := by
  obtain ⟨-, -, hbytes, -, -⟩ := cleanTitle_encode "" "%23+caf%C3%A9"
  obtain ⟨-, -, -, hnoBytes, -⟩ := cleanTitle_encode "" "%C3+%23"
  obtain ⟨-, -, -, -, hplain⟩ := cleanTitle_encode "" "# 100%"
  have hnone : ∀ cs, Utf8.encode cs ≠ textBytes (spaced "%C3+%23".toList) := by
    intro cs hcs
    have hdecode := Utf8.decode_eq_ok_iff.mpr hcs
    have herror : (Utf8.decode (textBytes (spaced "%C3+%23".toList))).toOption = none := by
      decide +kernel
    rw [hdecode] at herror
    cases herror
  refine ⟨?_, ?_, ?_⟩
  · rw [hbytes "# café" (by decide +kernel) (by decide +kernel)]
    decide +kernel
  · rw [hnoBytes (by decide +kernel) (.inr hnone)]
    decide +kernel
  · rw [hplain (by decide +kernel)]
    decide +kernel

end TabNotes.Tab
