import TabNotes.Proofs.Frontmatter.Quoting
import TabNotes.Proofs.Number.Digits
import TabNotes.Proofs.Text.Search

/-! # Reading frontmatter blocks

`readBlock` reads a block line by line.  The first line is the ruler `---`, and so is the line that
ends the block.  A line between them is `name: scalar`, `name: []`, or `name:` with at least one
line `  - scalar` for an item below it.  `readBlock_of_lines` says that a block of the lines that
`fieldLines` writes for fields is read as those fields. -/

namespace TabNotes.Frontmatter

open TabNotes.Text TabNotes.Number

/-- What a scalar says. -/
inductive Scalar where
  | text (s : String)
  | count (n : Nat)
  | flag (b : Bool)

/-- What a field says. -/
inductive Reading where
  | scalar (s : Scalar)
  | list (items : List Scalar)

/-! ### The reader -/

/-- The line before all fields and after them. -/
def ruler : List Char := "---".toList

def readScalar (cs : List Char) : Option Scalar :=
  if cs = "true".toList then some (.flag true)
  else if cs = "false".toList then some (.flag false)
  else if cs ≠ [] ∧ cs.all Char.isDigit = true then some (.count (Nat.ofDigitChars 10 cs 0))
  else (unquote cs).map .text

/-- The name in the line of a field and what it says, nothing when its items are to follow. -/
def readHead (line : List Char) : Option (String × Option Reading) :=
  match cutAt [':'] line with
  | some (name, []) => some (String.ofList name, none)
  | some (name, ' ' :: value) =>
    if value = "[]".toList then some (String.ofList name, some (.list []))
    else (readScalar value).map fun s => (String.ofList name, some (.scalar s))
  | _ => none

/-- What is found from a line on: items of the field before it, fields, and the lines after the
block. -/
structure Found where
  items : List Scalar
  fields : List (String × Reading)
  rest : List (List Char)

/-- Adds the field of a line, which has the items below it exactly if it says nothing itself. -/
def Found.addField (found : Found) (head : String × Option Reading) : Option Found :=
  match head.2, found.items with
  | some reading, [] => some ⟨[], (head.1, reading) :: found.fields, found.rest⟩
  | none, item :: items => some ⟨[], (head.1, .list (item :: items)) :: found.fields, found.rest⟩
  | _, _ => none

/-- Reads the lines after the first one. -/
def readLines : List (List Char) → Option Found
  | [] => none
  | line :: lines =>
    if line = ruler then some ⟨[], [], lines⟩
    else do
      let found ← readLines lines
      match line with
      | ' ' :: ' ' :: '-' :: ' ' :: cs => do
        let item ← readScalar cs
        return { found with items := item :: found.items }
      | line => do
        let head ← readHead line
        found.addField head

/-- Reads a text that is a block as a whole. -/
def readBlock (s : String) : Option (List (String × Reading)) :=
  match splitBy (· == '\n') s.toList with
  | first :: lines =>
    if first = ruler then
      match readLines lines with
      | some ⟨[], fields, [[]]⟩ => some fields
      | _ => none
    else none
  | [] => none

/-! ### The lines of fields -/

/-- How a scalar is written. -/
def Scalar.chars : Scalar → List Char
  | text s => quotedText s
  | count n => Nat.toDigits 10 n
  | flag b => if b then "true".toList else "false".toList

def itemLine (item : Scalar) : List Char := ' ' :: ' ' :: '-' :: ' ' :: item.chars

/-- The lines of a field. -/
def fieldLines (name : String) : Reading → List (List Char)
  | .scalar s => [name.toList ++ ':' :: ' ' :: s.chars]
  | .list [] => [name.toList ++ ':' :: ' ' :: "[]".toList]
  | .list (item :: items) => (name.toList ++ [':']) :: (item :: items).map itemLine

/-- Each line with the break after it. -/
def joinLines (lines : List (List Char)) : List Char := lines.flatMap (· ++ ['\n'])

theorem joinLines_cons (line : List Char) (lines : List (List Char)) :
    joinLines (line :: lines) = line ++ ['\n'] ++ joinLines lines := rfl

theorem joinLines_append (lines more : List (List Char)) :
    joinLines (lines ++ more) = joinLines lines ++ joinLines more := List.flatMap_append

/-- A break before each line but the first one ends the line above it. -/
theorem joinLines_cons_map {α : Type} (write : α → List Char) (line : List Char) (items : List α) :
    joinLines (line :: items.map write) =
      line ++ (items.flatMap fun item => '\n' :: write item) ++ ['\n'] := by
  induction items generalizing line with
  | nil => simp [joinLines]
  | cons item items ih => simp [joinLines_cons line, ih (write item)]

theorem intercalate_append_singleton {lines : List (List Char)} (h : lines ≠ []) :
    ['\n'].intercalate lines ++ ['\n'] = joinLines lines := by
  induction lines with
  | nil => exact absurd rfl h
  | cons line lines ih =>
      cases lines with
      | nil => simp [joinLines]
      | cons next lines =>
          rw [joinLines_cons, ← ih (by simp)]
          simp [List.intercalate]

/-! ### Scalars -/

/-- Every scalar is read back from how it is written. -/
theorem readScalar_chars (s : Scalar) : readScalar s.chars = some s := by
  cases s with
  | text s =>
      have hunquote := unquote_quotedText s
      rw [readScalar, Scalar.chars, if_neg (by simp [quotedText]), if_neg (by simp [quotedText]),
        if_neg (by simp [quotedText]), hunquote, Option.map_some]
  | count n =>
      have hdigits : (Nat.toDigits 10 n).all Char.isDigit = true :=
        List.all_eq_true.mpr fun c hc => isDigit_of_mem_toDigits hc
      have hne (word : List Char) (hword : word.all Char.isDigit = false) :
          Nat.toDigits 10 n ≠ word := by
        rintro rfl
        rw [hdigits] at hword
        cases hword
      rw [readScalar, Scalar.chars, if_neg (hne _ (by decide)), if_neg (hne _ (by decide)),
        if_pos ⟨Nat.toDigits_ne_nil, hdigits⟩, Nat.ofDigitChars_ten_toDigits]
  | flag b => cases b <;> rfl

theorem not_mem_chars (s : Scalar) : '\n' ∉ s.chars := by
  cases s with
  | text s => exact not_mem_quotedText s
  | count n => exact fun h => absurd (isDigit_of_mem_toDigits h) (by decide)
  | flag b => cases b <;> decide

theorem chars_ne_brackets (s : Scalar) : s.chars ≠ "[]".toList := by
  intro h
  have hread := readScalar_chars s
  rw [h] at hread
  exact absurd hread (by cases s <;> simp [readScalar, unquote])

/-! ### Lines -/

section lines

variable {name : String}

theorem not_mem_of_isFieldName (h : isFieldName name = true) {c : Char}
    (hc : isNameCharacter c = false) : c ∉ name.toList := by
  rw [isFieldName, Bool.and_eq_true, List.all_eq_true] at h
  intro hmem
  rw [h.2 c hmem] at hc
  cases hc

theorem cutAt_colon (h : isFieldName name = true) (value : List Char) :
    cutAt [':'] (name.toList ++ ':' :: value) = some (name.toList, value) :=
  cutAt_singleton_of_not_mem (not_mem_of_isFieldName h (by decide))

theorem readHead_scalar (h : isFieldName name = true) (s : Scalar) :
    readHead (name.toList ++ ':' :: ' ' :: s.chars) = some (name, some (.scalar s)) := by
  rw [readHead, cutAt_colon h]
  simp only [if_neg (chars_ne_brackets s), readScalar_chars, Option.map_some, String.ofList_toList]

theorem readHead_brackets (h : isFieldName name = true) :
    readHead (name.toList ++ ':' :: ' ' :: "[]".toList) = some (name, some (.list [])) := by
  rw [readHead, cutAt_colon h]
  simp only [if_true, String.ofList_toList]

theorem readHead_items (h : isFieldName name = true) :
    readHead (name.toList ++ [':']) = some (name, none) := by
  rw [readHead, cutAt_colon h]
  simp only [String.ofList_toList]

/-- The line of a field is no ruler, and no item either. -/
theorem readLines_head (h : isFieldName name = true) (value : List Char) (lines : List (List Char)) :
    readLines ((name.toList ++ ':' :: value) :: lines) =
      (readLines lines).bind fun found =>
        (readHead (name.toList ++ ':' :: value)).bind found.addField := by
  have hruler : name.toList ++ ':' :: value ≠ ruler := by
    intro heq
    have hmem : ':' ∈ ruler := heq ▸ List.mem_append_right _ List.mem_cons_self
    exact absurd hmem (by decide)
  rw [readLines, if_neg hruler]
  refine bind_congr fun found => ?_
  split
  · rename_i cs heq
    have hspace : ' ' ∉ name.toList := not_mem_of_isFieldName h (by decide)
    cases hname : name.toList with
    | nil =>
        rw [hname] at heq
        cases heq
    | cons c more =>
        rw [hname] at heq hspace
        obtain rfl : c = ' ' := (List.cons.inj heq).1
        exact absurd List.mem_cons_self hspace
  · rfl

theorem readLines_itemLine (item : Scalar) (lines : List (List Char)) :
    readLines (itemLine item :: lines) =
      (readLines lines).map fun found => { found with items := item :: found.items } := by
  rw [readLines, if_neg (by simp [itemLine, ruler]), itemLine]
  simp only [readScalar_chars]
  cases readLines lines <;> rfl

theorem readLines_items {lines : List (List Char)} {found : Found}
    (h : readLines lines = some found) (items : List Scalar) :
    readLines (items.map itemLine ++ lines) = some { found with items := items ++ found.items } := by
  induction items with
  | nil => exact h
  | cons item items ih =>
      rw [List.map_cons, List.cons_append, readLines_itemLine, ih]
      rfl

/-- The lines of a field are read as that field. -/
theorem readLines_fieldLines (h : isFieldName name = true) (r : Reading) {lines : List (List Char)}
    {fields : List (String × Reading)} {rest : List (List Char)}
    (hlines : readLines lines = some ⟨[], fields, rest⟩) :
    readLines (fieldLines name r ++ lines) = some ⟨[], (name, r) :: fields, rest⟩ := by
  cases r with
  | scalar s =>
      rw [fieldLines, List.singleton_append, readLines_head h, hlines, readHead_scalar h]
      rfl
  | list items =>
      cases items with
      | nil =>
          rw [fieldLines, List.singleton_append, readLines_head h, hlines, readHead_brackets h]
          rfl
      | cons item items =>
          rw [fieldLines, List.cons_append, readLines_head h, readLines_items hlines,
            readHead_items h, List.append_nil]
          rfl

theorem not_mem_fieldLines (h : isFieldName name = true) (r : Reading) :
    ∀ line ∈ fieldLines name r, '\n' ∉ line := by
  have hname : '\n' ∉ name.toList := not_mem_of_isFieldName h (by decide)
  intro line hline
  cases r with
  | scalar s =>
      rw [fieldLines, List.mem_singleton] at hline
      simp [hline, hname, not_mem_chars s]
  | list items =>
      cases items with
      | nil =>
          rw [fieldLines, List.mem_singleton] at hline
          simp [hline, hname]
      | cons item items =>
          rw [fieldLines, List.mem_cons, List.mem_map] at hline
          rcases hline with rfl | ⟨i, -, rfl⟩
          · simp [hname]
          · simp [itemLine, not_mem_chars i]

end lines

/-! ### Blocks -/

theorem readLines_fields {fields : List (String × Reading)}
    (h : ∀ f ∈ fields, isFieldName f.1 = true) (rest : List (List Char)) :
    readLines (fields.flatMap (fun f => fieldLines f.1 f.2) ++ ruler :: rest) =
      some ⟨[], fields, rest⟩ := by
  induction fields with
  | nil => rw [List.flatMap_nil, List.nil_append, readLines, if_pos rfl]
  | cons f fields ih =>
      rw [List.flatMap_cons, List.append_assoc]
      exact readLines_fieldLines (h f (by simp)) f.2 (ih fun g hg => h g (by simp [hg]))

theorem splitBy_joinLines {lines : List (List Char)} (h : ∀ line ∈ lines, '\n' ∉ line) :
    splitBy (· == '\n') (joinLines lines) = lines ++ [[]] := by
  induction lines with
  | nil => rfl
  | cons line lines ih =>
      have hline : ∀ c ∈ line, (c == '\n') = false := by
        intro c hc
        refine beq_false_of_ne ?_
        rintro rfl
        exact h line (by simp) hc
      rw [joinLines_cons, List.append_assoc, List.singleton_append, splitBy_append_cons hline rfl,
        ih fun l hl => h l (by simp [hl]), List.cons_append]

/-- The lines of fields between two rulers are read as the fields. -/
theorem readBlock_of_lines {fields : List (String × Reading)} {s : String}
    (h : ∀ f ∈ fields, isFieldName f.1 = true)
    (hs : s.toList = joinLines (ruler :: (fields.flatMap (fun f => fieldLines f.1 f.2) ++ [ruler]))) :
    readBlock s = some fields := by
  have hlines : ∀ line ∈ ruler :: (fields.flatMap (fun f => fieldLines f.1 f.2) ++ [ruler]),
      '\n' ∉ line := by
    intro line hline
    rw [List.mem_cons, List.mem_append, List.mem_flatMap, List.mem_singleton] at hline
    rcases hline with rfl | ⟨f, hf, hline⟩ | rfl
    · decide
    · exact not_mem_fieldLines (h f hf) f.2 line hline
    · decide
  rw [readBlock, hs, splitBy_joinLines hlines]
  simp only [List.cons_append, List.append_assoc, List.nil_append, if_true, readLines_fields h]

end TabNotes.Frontmatter
