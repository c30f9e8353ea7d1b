import TabNotes.Proofs.Obsidian.NotePath

/-! # Places as users enter them

What users enter is checked apart from what an export uses: the check joins the segments of a path
and demands the ending of a Markdown file, an export cleans the path and adds the ending.  On a path
that the check accepts the two agree (`cleanPath_of_accepted`).  So an export uses the place that the
check shows, and the check takes that place as it stands (`ofPreferences_of_accepted`). -/

namespace TabNotes.Obsidian

open TabNotes.Text

variable {vault path : String} {v p : Value}

/-! ### Paths -/

/-- The note path that is checked for a trimmed text. -/
def pathToCheck (path : String) : String :=
  if path = "" then Preferences.defaultNotePath else path

/-- Both sides take the default path for a blank one. -/
theorem trim_pathToUse (v : Value) : trim (pathToUse v) = pathToCheck (trim v.textOrEmpty) := by
  have hdefault : trim Preferences.defaultNotePath = Preferences.defaultNotePath := by decide
  cases v with
  | text s =>
      rw [pathToUse, pathToCheck, Value.textOrEmpty]
      by_cases hblank : allBlank s = true
      · rw [if_pos hblank, if_pos (trim_eq_empty_iff.mpr hblank), hdefault]
      · rw [if_neg hblank, if_neg (mt trim_eq_empty_iff.mp hblank)]
  | _ => exact hdefault

theorem pathFault?_eq_none_iff : pathFault? path = none ↔
    path ≠ "" ∧ isMarkdownPath path = true ∧ hasDotSegment path = false ∧
      path.toList.all isPathCharacter = true := by
  unfold pathFault?
  by_cases hempty : path = ""
  · simp [hempty]
  · by_cases hmarkdown : isMarkdownPath path = true
    · by_cases hdots : hasDotSegment path = true
      · simp [hempty, hmarkdown, hdots]
      · simp [hempty, hmarkdown, hdots]
    · simp [hempty, hmarkdown]

/-- The joined segments are a path in a vault when nothing is wrong with them. -/
theorem isNotePath_of_accepted (h : pathFault? (joinSegments path) = none) :
    IsNotePath (joinSegments path) := by
  obtain ⟨hne, hmarkdown, hdots, -⟩ := pathFault?_eq_none_iff.mp h
  exact (isJoined_joinSegments hne).isNotePath hmarkdown hdots

/-- Cleaning finds the ending in place, and no segment to refuse. -/
theorem cleanPath_of_accepted (h : pathFault? (joinSegments (trim path)) = none) :
    cleanPath path = joinSegments (trim path) := by
  obtain ⟨hne, hmarkdown, hdots, -⟩ := pathFault?_eq_none_iff.mp h
  have hempty : (joinSegments (trim path) == "") = false := beq_false_of_ne hne
  simp [cleanPath, hempty, hmarkdown, hdots]

/-! ### Places -/

theorem ofTrimmed_of_isVaultName (hempty : vault ≠ "") (hname : isVaultName vault = true)
    (path : String) :
    Check.ofTrimmed vault path =
      ⟨vault, joinSegments (pathToCheck path), pathFault? (joinSegments (pathToCheck path))⟩ := by
  simp [Check.ofTrimmed, pathToCheck, hempty, hname]

/-- A check without a fault that shows a vault has found its name and its path in order. -/
theorem isVaultName_of_accepted (hfault : (Check.ofTrimmed vault path).fault = none)
    (hvault : (Check.ofTrimmed vault path).vault ≠ "") :
    vault ≠ "" ∧ isVaultName vault = true := by
  by_cases hempty : vault = ""
  · by_cases hpath : path = ""
    · simp [Check.ofTrimmed, hempty, hpath] at hvault
    · simp [Check.ofTrimmed, hempty, hpath] at hvault
  · refine ⟨hempty, ?_⟩
    cases hname : isVaultName vault with
    | false => simp [Check.ofTrimmed, hempty, hname] at hfault
    | true => rfl

/-- A place with a vault that the check accepts is the one that an export uses, under whatever other
preferences, and the check accepts it again as it shows it. -/
theorem ofPreferences_of_accepted (haccepted : (Check.of v p).fault = none)
    (hvault : (Check.of v p).vault ≠ "") :
    let check := Check.of v p
    (∀ entries : Entries, (Value.map entries).get "obsidianVault" = v →
      (Value.map entries).get "obsidianNotePath" = p →
        Place.ofPreferences (.map entries) = .ok ⟨check.vault, check.notePath⟩) ∧
    Place.isUsable ⟨check.vault, check.notePath⟩ = true ∧
    Check.of (.text check.vault) (.text check.notePath) = ⟨check.vault, check.notePath, none⟩ := by
  obtain ⟨hempty, hname⟩ := isVaultName_of_accepted haccepted hvault
  have hcheck := ofTrimmed_of_isVaultName hempty hname (trim p.textOrEmpty)
  rw [← trim_pathToUse p] at hcheck
  have hfault : pathFault? (joinSegments (trim (pathToUse p))) = none := by
    rw [Check.of, hcheck] at haccepted
    dsimp only at haccepted
    exact haccepted
  have hnotePath := isNotePath_of_accepted hfault
  have htrimmed : trim (joinSegments (trim (pathToUse p))) = joinSegments (trim (pathToUse p)) := by
    rw [trim, trimChars_eq_self_iff.mpr hnotePath.isTrimmed, String.ofList_toList]
  rw [Check.of, hcheck]
  refine ⟨?_, ?_, ?_⟩
  · rintro entries rfl rfl
    rw [ofPreferences_eq, cleanPath_of_accepted hfault]
  · simp [Place.isUsable, hempty, hnotePath.ne_empty]
  · have hagain : pathToCheck (joinSegments (trim (pathToUse p))) =
        joinSegments (trim (pathToUse p)) := if_neg hnotePath.ne_empty
    rw [Check.of, Value.textOrEmpty, Value.textOrEmpty, trim_trim, htrimmed,
      ofTrimmed_of_isVaultName hempty hname, hagain, hnotePath.joinSegments_eq, hfault]

/-- A path with backslashes, white space around its segments and an ending in upper case. -/
theorem ofPreferences_of_accepted_backslashes :
    let vault := Value.text " Work Notes\t"
    let path := Value.text ("\\daily\\ " ++ Preferences.timestampMark ++ ".MD \\")
    Place.ofPreferences (.record [("obsidianVault", vault), ("obsidianNotePath", path)]) =
        .ok ⟨"Work Notes", "daily/" ++ Preferences.timestampMark ++ ".MD"⟩ ∧
      Check.of (.text "Work Notes") (.text ("daily/" ++ Preferences.timestampMark ++ ".MD")) =
        ⟨"Work Notes", "daily/" ++ Preferences.timestampMark ++ ".MD", none⟩ := by
  intro vault path
  have hfault : (Check.of vault path).fault = none := by decide +kernel
  have hvault : (Check.of vault path).vault = "Work Notes" := by decide +kernel
  have hpath : (Check.of vault path).notePath =
      "daily/" ++ Preferences.timestampMark ++ ".MD" := by decide +kernel
  obtain ⟨hused, -, hagain⟩ := ofPreferences_of_accepted hfault (by rw [hvault]; decide)
  rw [hvault, hpath] at hused hagain
  exact ⟨hused [(.text "obsidianVault", vault), (.text "obsidianNotePath", path)] rfl rfl, hagain⟩

end TabNotes.Obsidian
