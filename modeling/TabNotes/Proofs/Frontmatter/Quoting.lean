import TabNotes.Frontmatter.Block
import TabNotes.Proofs.Text.Replace

/-! # Quoted texts

A text is quoted as its characters, each after a backslash where it needs one, between double quotes
(`toList_quoteScalar`); line breaks of all kinds have become `\n` before.  `unquote` reads such a
text back (`unquote_quotedText`). -/

namespace TabNotes.Frontmatter

open TabNotes.Text

/-! ### Reading -/

/-- The characters before a quote at the end of a text.  A backslash stands before another one, a
quote or an `n` for a line break, and nowhere else. -/
def unescape : List Char → Option (List Char)
  | ['"'] => some []
  | '\\' :: '\\' :: cs => (unescape cs).map ('\\' :: ·)
  | '\\' :: '"' :: cs => (unescape cs).map ('"' :: ·)
  | '\\' :: 'n' :: cs => (unescape cs).map ('\n' :: ·)
  | c :: cs => if c = '\\' ∨ c = '"' then none else (unescape cs).map (c :: ·)
  | [] => none

/-- The text in double quotes. -/
def unquote : List Char → Option String
  | '"' :: cs => (unescape cs).map String.ofList
  | _ => none

/-! ### Writing -/

/-- A character between double quotes. -/
def escapeChar (c : Char) : List Char :=
  if c = '\\' then ['\\', '\\'] else if c = '"' then ['\\', '"'] else if c = '\n' then ['\\', 'n']
  else [c]

/-- A text in double quotes. -/
def quotedText (s : String) : List Char := '"' :: (s.toList.flatMap escapeChar ++ ['"'])

theorem unescape_cons_of_ne {c : Char} (hslash : c ≠ '\\') (hquote : c ≠ '"') (cs : List Char) :
    unescape (c :: cs) = (unescape cs).map (c :: ·) := by
  rw [unescape, if_neg (by simp [hslash, hquote])]
  · rintro rfl _
    exact absurd rfl hquote
  · rintro _ rfl _
    exact absurd rfl hslash
  · rintro _ rfl _
    exact absurd rfl hslash
  · rintro _ rfl _
    exact absurd rfl hslash

theorem unescape_escapeChar (c : Char) (cs : List Char) :
    unescape (escapeChar c ++ cs) = (unescape cs).map (c :: ·) := by
  unfold escapeChar
  split
  · rename_i h
    rw [h]
    rfl
  · rename_i hslash
    split
    · rename_i h
      rw [h]
      rfl
    · rename_i hquote
      split
      · rename_i h
        rw [h]
        rfl
      · exact unescape_cons_of_ne hslash hquote cs

/-- Every text is read back from its quoted form. -/
theorem unquote_quotedText (s : String) : unquote (quotedText s) = some s := by
  have hbody : ∀ cs : List Char, unescape (cs.flatMap escapeChar ++ ['"']) = some cs := by
    intro cs
    induction cs with
    | nil => rfl
    | cons c cs ih => rw [List.flatMap_cons, List.append_assoc, unescape_escapeChar, ih, Option.map_some]
  rw [quotedText, unquote, hbody, Option.map_some, String.ofList_toList]

theorem not_mem_quotedText (s : String) : '\n' ∉ quotedText s := by
  have hchar : ∀ c, '\n' ∉ escapeChar c := by
    intro c
    unfold escapeChar
    split
    · decide
    · split
      · decide
      · split
        · decide
        · rename_i h
          rw [List.mem_singleton]
          exact Ne.symm h
  rw [quotedText, List.mem_cons, List.mem_append, List.mem_flatMap]
  rintro (h | ⟨c, -, h⟩ | h)
  · exact absurd h (by decide)
  · exact hchar c h
  · exact absurd h (by decide)

/-! ### Quoting by replacing -/

/-- A character once backslashes and quotes have one before them. -/
def slashed (c : Char) : List Char :=
  if c = '\\' then ['\\', '\\'] else if c = '"' then ['\\', '"'] else [c]

theorem replaceAllChars_slashed (cs : List Char) :
    replaceAllChars ['"'] ['\\', '"'] (replaceAllChars ['\\'] ['\\', '\\'] cs) = cs.flatMap slashed := by
  rw [replaceAllChars_singleton, replaceAllChars_singleton, List.flatMap_assoc]
  refine congrArg (cs.flatMap ·) (funext fun c => ?_)
  unfold slashed
  by_cases hslash : c = '\\'
  · rw [if_pos hslash, if_pos hslash]
    rfl
  · rw [if_neg hslash, if_neg hslash, List.flatMap_singleton]

theorem replaceAllChars_newline (cs : List Char) :
    replaceAllChars ['\n'] ['\\', 'n'] (cs.flatMap slashed) = cs.flatMap escapeChar := by
  rw [replaceAllChars_singleton, List.flatMap_assoc]
  refine congrArg (cs.flatMap ·) (funext fun c => ?_)
  unfold slashed escapeChar
  by_cases hslash : c = '\\'
  · rw [if_pos hslash, if_pos hslash]
    rfl
  · by_cases hquote : c = '"'
    · rw [if_neg hslash, if_neg hslash, if_pos hquote, if_pos hquote]
      rfl
    · rw [if_neg hslash, if_neg hslash, if_neg hquote, if_neg hquote, List.flatMap_singleton]

theorem slashed_of_ne {c : Char} (h : c ≠ '\r') : '\r' ∉ slashed c := by
  unfold slashed
  split
  · decide
  · split
    · decide
    · rw [List.mem_singleton]
      exact Ne.symm h

theorem head?_flatMap_slashed {cs : List Char} (h : cs.head? ≠ some '\n') :
    (cs.flatMap slashed).head? ≠ some '\n' := by
  cases cs with
  | nil => simp
  | cons c cs =>
      rw [List.flatMap_cons]
      unfold slashed
      split
      · simp
      · split
        · simp
        · simpa using h

/-- Backslashes before backslashes and quotes do not touch line breaks. -/
theorem unifyLineBreaks_flatMap_slashed (cs : List Char) :
    unifyLineBreaks (cs.flatMap slashed) = (unifyLineBreaks cs).flatMap slashed := by
  fun_induction unifyLineBreaks cs with
  | case1 => rfl
  | case2 cs ih =>
      have hflat : ('\r' :: '\n' :: cs).flatMap slashed = '\r' :: '\n' :: cs.flatMap slashed := rfl
      rw [hflat, unifyLineBreaks, ih]
      rfl
  | case3 cs hnext ih =>
      have hflat : ('\r' :: cs).flatMap slashed = '\r' :: cs.flatMap slashed := rfl
      have hhead : cs.head? ≠ some '\n' := by
        intro h
        obtain ⟨more, hmore⟩ := List.head?_eq_some_iff.mp h
        exact hnext more hmore
      rw [hflat, unifyLineBreaks_cr_cons (head?_flatMap_slashed hhead), ih]
      rfl
  | case4 c cs hpair hcr ih =>
      rw [List.flatMap_cons, unifyLineBreaks_append_of_not_mem (slashed_of_ne hcr), ih,
        List.flatMap_cons]

/-- A quoted text shows the text with all its line breaks read as `\n`. -/
theorem toList_quoteScalar (s : String) :
    (quoteScalar s).toList = quotedText (String.ofList (unifyLineBreaks s.toList)) := by
  simp only [quoteScalar, replaceAll, String.toList_append, String.toList_ofList]
  rw [show "\\".toList = ['\\'] from rfl, show "\\\\".toList = ['\\', '\\'] from rfl,
    show "\"".toList = ['"'] from rfl, show "\\\"".toList = ['\\', '"'] from rfl,
    show "\r\n".toList = ['\r', '\n'] from rfl, show "\r".toList = ['\r'] from rfl,
    show "\n".toList = ['\n'] from rfl, show "\\n".toList = ['\\', 'n'] from rfl,
    replaceAllChars_slashed, replaceAllChars_breaks, unifyLineBreaks_flatMap_slashed,
    replaceAllChars_newline, quotedText, String.toList_ofList]
  rfl

end TabNotes.Frontmatter
