/-! # Searching and replacing

Substring search on character lists.  `cutAt pat cs` cuts at the leftmost occurrence of `pat`;
`occursIn` and `replaceAll` follow it.  `splitBy` cuts at every character of a class. -/

namespace TabNotes.Text

/-- The text before the leftmost occurrence of `pat` and the text after that occurrence. -/
def cutAt (pat : List Char) : List Char → Option (List Char × List Char)
  | [] => if pat.isEmpty then some ([], []) else none
  | c :: cs =>
    if pat.isPrefixOf (c :: cs) then
      some ([], (c :: cs).drop pat.length)
    else
      (cutAt pat cs).map fun cut => (c :: cut.1, cut.2)

/-- The two sides of a cut, put together around the pattern, are the whole text. -/
theorem cutAt_eq_some {pat cs before after : List Char} (h : cutAt pat cs = some (before, after)) :
    cs = before ++ pat ++ after := by
  induction cs generalizing before after with
  | nil =>
    unfold cutAt at h
    split at h
    · simp_all
    · cases h
  | cons c cs ih =>
    unfold cutAt at h
    split at h
    · rename_i hp
      obtain ⟨rest, hrest⟩ := List.isPrefixOf_iff_prefix.1 hp
      simp only [Option.some.injEq, Prod.mk.injEq] at h
      obtain ⟨rfl, rfl⟩ := h
      rw [← hrest]
      simp
    · cases hcut : cutAt pat cs with
      | none => simp [hcut] at h
      | some cut =>
        simp only [hcut, Option.map_some, Option.some.injEq, Prod.mk.injEq] at h
        obtain ⟨rfl, rfl⟩ := h
        have := @ih cut.1 cut.2 hcut
        simp [this]

/-- What follows a cut is shorter than the text by at least the pattern. -/
theorem length_after_cutAt {pat cs before after : List Char}
    (h : cutAt pat cs = some (before, after)) : after.length + pat.length ≤ cs.length := by
  have := congrArg List.length (cutAt_eq_some h)
  simp only [List.length_append] at this
  omega

/-- Whether `pat` occurs in the text. -/
def occursIn (pat : String) (s : String) : Bool :=
  (cutAt pat.toList s.toList).isSome

/-- Drops `skip` characters, and from there on replaces every occurrence of a non-empty `pat`, from
the left and without overlap, by `new`. -/
def replaceFrom (pat new : List Char) : (skip : Nat) → List Char → List Char
  | _, [] => []
  | skip + 1, _ :: cs => replaceFrom pat new skip cs
  | 0, c :: cs =>
    if pat.isPrefixOf (c :: cs) then new ++ replaceFrom pat new (pat.length - 1) cs
    else c :: replaceFrom pat new 0 cs

/-- Every occurrence of a non-empty `pat`, from the left and without overlap, replaced by `new`. -/
def replaceAllChars (pat new cs : List Char) : List Char := replaceFrom pat new 0 cs

/-- `replaceAllChars` on strings. -/
def replaceAll (pat new s : String) : String :=
  String.ofList (replaceAllChars pat.toList new.toList s.toList)

/-- The pieces of a text between the characters of a class: one more piece than cuts. -/
def splitBy (isCut : Char → Bool) : List Char → List (List Char)
  | [] => [[]]
  | c :: cs =>
    match splitBy isCut cs with
    | [] => [[c]]
    | piece :: pieces => if isCut c then [] :: piece :: pieces else (c :: piece) :: pieces

/-- The pieces of a string between the occurrences of one character. -/
def splitOnChar (sep : Char) (s : String) : List String :=
  (splitBy (· == sep) s.toList).map String.ofList

/-- Whether a string begins with another one. -/
def beginsWith (start s : String) : Bool :=
  start.toList.isPrefixOf s.toList

/-- Whether a string ends with another one. -/
def endsWith (ending s : String) : Bool :=
  ending.toList.isSuffixOf s.toList

/-- The text before the leftmost `c` and, if there is one, the text after it. -/
def cutAtChar (c : Char) (cs : List Char) : List Char × Option (List Char) :=
  match cutAt [c] cs with
  | some (before, after) => (before, some after)
  | none => (cs, none)

/-- The text after the rightmost `c`, or all of it. -/
def afterLast (c : Char) (cs : List Char) : List Char :=
  (cs.reverse.takeWhile (· != c)).reverse

end TabNotes.Text
