import TabNotes.Proofs.Obsidian.NotePath

/-! # Segments of dots

Cleaning looks for `.` and `..` after it has put the ending in place, so that the last segment is
seen with its ending and never taken for one of them.  A path cannot be used when it has no segment
or has such a segment before the last one; else it is the joined segments with the ending
(`cleanPath_eq_empty_iff_isUnusable`).  White space around the whole path is also
white space around its first and last segments, and counts no more than that
(`segments_trim`). -/

namespace TabNotes.Obsidian

open TabNotes.Text

variable {path : String} {isCut : Char → Bool} {c : Char} {cs : List Char}

/-- A segment that leads nowhere or up. -/
def IsDots (segment : String) : Prop := segment = "." ∨ segment = ".."

instance (segment : String) : Decidable (IsDots segment) := instDecidableOr

/-- A path that ends in `.md`, with the letters in either case. -/
def HasMarkdownEnding (path : String) : Prop :=
  ∃ ending ∈ markdownEndings, ending.toList <:+ path.toList

instance (path : String) : Decidable (HasMarkdownEnding path) := decidable_of_iff _ isMarkdownPath_iff

/-! ### White space around a path -/

theorem isBlank_of_isSeparator (h : isSeparator c = true) : isBlank c = false := by
  rcases (by simpa [isSeparator] using h : c = '/' ∨ c = '\\') with rfl | rfl <;> decide

theorem map_trimChars_splitBy_dropBlanks (h : ∀ c, isBlank c = true → isCut c = false)
    (cs : List Char) :
    (splitBy isCut (dropBlanks cs)).map trimChars = (splitBy isCut cs).map trimChars := by
  induction cs with
  | nil => rfl
  | cons c cs ih =>
      by_cases hc : isBlank c = true
      · obtain ⟨piece, pieces, hcs, hcons⟩ := splitBy_cons_of_not_isCut (h c hc) cs
        rw [dropBlanks, List.dropWhile_cons_of_pos hc, ← dropBlanks, ih, hcons, hcs, List.map_cons,
          List.map_cons, trimChars_cons_of_isBlank hc]
      · rw [dropBlanks, List.dropWhile_cons_of_neg hc]

theorem map_trimChars_splitBy_dropTrailingBlanks (h : ∀ c, isBlank c = true → isCut c = false)
    (cs : List Char) :
    (splitBy isCut (dropTrailingBlanks cs)).map trimChars = (splitBy isCut cs).map trimChars := by
  induction cs using List.reverseRecOn with
  | nil => rfl
  | append_singleton cs c ih =>
      rw [dropTrailingBlanks_concat]
      by_cases hc : isBlank c = true
      · obtain ⟨pieces, piece, hcs, hconcat⟩ := splitBy_concat_of_not_isCut (h c hc) cs
        rw [if_pos hc, ih, hconcat, hcs, List.map_append, List.map_append, List.map_singleton,
          List.map_singleton, trimChars_concat_of_isBlank hc]
      · rw [if_neg hc]

/-- White space around a path is white space around its segments. -/
theorem segments_trim (path : String) : segments (trim path) = segments path := by
  have hcut : ∀ c, isBlank c = true → isSeparator c = false := by
    intro c hc
    by_contra hseparator
    rw [isBlank_of_isSeparator (by simpa using hseparator)] at hc
    cases hc
  have hpieces : (splitBy isSeparator (trim path).toList).map trimChars =
      (splitBy isSeparator path.toList).map trimChars := by
    rw [trim, String.toList_ofList, trimChars, map_trimChars_splitBy_dropTrailingBlanks hcut,
      map_trimChars_splitBy_dropBlanks hcut]
  have hstrings := congrArg (List.map String.ofList) hpieces
  rw [List.map_map, List.map_map] at hstrings
  rw [segments, segments]
  exact congrArg (List.filter (· != "")) hstrings

theorem joinSegments_trim (path : String) : joinSegments (trim path) = joinSegments path := by
  rw [joinSegments, joinSegments, segments_trim]

theorem toList_joinSegments (path : String) :
    (joinSegments path).toList = ['/'].intercalate ((segments path).map String.toList) :=
  String.toList_intercalate

theorem joinSegments_eq_empty_iff : joinSegments path = "" ↔ segments path = [] := by
  constructor
  · intro hempty
    by_contra hne
    obtain ⟨first, more, hsegments⟩ := List.exists_cons_of_ne_nil hne
    have hfirst : first ∈ segments path := by simp [hsegments]
    have hjoined : ['/'].intercalate ((segments path).map String.toList) = [] := by
      rw [← toList_joinSegments, hempty]
      rfl
    rw [hsegments, List.map_cons] at hjoined
    cases hmore : more.map String.toList with
    | nil => simp [hmore, (isSegment_of_mem_segments hfirst).ne_nil] at hjoined
    | cons next more => simp [hmore, List.intercalate_cons_cons] at hjoined
  · intro hnil
    rw [joinSegments, hnil]
    rfl

/-! ### The ending of the last segment -/

/-- A path with the ending of a Markdown file. -/
def withMarkdownEnding (path : String) : String :=
  if HasMarkdownEnding path then path else path ++ markdownEnding

theorem hasMarkdownEnding_withMarkdownEnding (path : String) :
    HasMarkdownEnding (withMarkdownEnding path) := by
  unfold withMarkdownEnding
  split
  · assumption
  · refine ⟨markdownEnding, by decide, ?_⟩
    rw [String.toList_append]
    exact List.suffix_append _ _

theorem getLast?_ne_of_hasMarkdownEnding (h : HasMarkdownEnding path) :
    path.toList.getLast? ≠ some '.' := by
  obtain ⟨ending, hending, front, hpath⟩ := h
  have hletter : ∀ ending ∈ markdownEndings,
      ending.toList ≠ [] ∧ ending.toList.getLast? ≠ some '.' := by decide
  obtain ⟨hne, hlast⟩ := hletter ending hending
  rw [← hpath, List.getLast?_append_of_ne_nil front hne]
  exact hlast

theorem not_isDots_of_getLast? {segment : String} (h : segment.toList.getLast? ≠ some '.') :
    ¬ IsDots segment := by
  rintro (rfl | rfl) <;> exact h rfl

/-- With the ending in place, the segments are the same up to the last one, which is none of
dots. -/
theorem exists_last_withMarkdownEnding {front : List String} {last : String}
    (h : segments path = front ++ [last]) :
    ∃ file : String, IsSegment file.toList ∧ ¬ IsDots file ∧
      (withMarkdownEnding (joinSegments path)).toList =
        ['/'].intercalate ((front ++ [file]).map String.toList) := by
  have hmem : last ∈ segments path := by simp [h]
  have hlast : IsSegment last.toList := isSegment_of_mem_segments hmem
  have hjoined := toList_joinSegments path
  rw [h, List.map_append, List.map_singleton] at hjoined
  obtain ⟨file, hfile, htext⟩ : ∃ file : String, IsSegment file.toList ∧
      (withMarkdownEnding (joinSegments path)).toList =
        ['/'].intercalate (front.map String.toList ++ [file.toList]) := by
    unfold withMarkdownEnding
    split
    · exact ⟨last, hlast, hjoined⟩
    · refine ⟨last ++ markdownEnding, ?_, ?_⟩
      · rw [String.toList_append]
        exact hlast.append_markdownEnding
      · rw [String.toList_append, String.toList_append, hjoined, intercalate_concat_append]
  refine ⟨file, hfile, not_isDots_of_getLast? ?_, by rw [htext]; simp⟩
  have hend := getLast?_ne_of_hasMarkdownEnding
    (hasMarkdownEnding_withMarkdownEnding (joinSegments path))
  have hsplit := intercalate_concat_append ['/'] (front.map String.toList) [] file.toList
  rw [List.nil_append] at hsplit
  rwa [htext, ← hsplit, List.getLast?_append_of_ne_nil _ hfile.ne_nil] at hend

/-! ### Paths that are refused -/

theorem hasDotSegment_iff {names : List String} (hne : names ≠ [])
    (hnames : ∀ name ∈ names, IsSegment name.toList)
    (h : path.toList = ['/'].intercalate (names.map String.toList)) :
    hasDotSegment path = true ↔ ∃ name ∈ names, IsDots name := by
  have hsplit : splitOnChar '/' path = names := by
    rw [splitOnChar_of_isJoined (by simpa using hne) (by simpa using hnames) h, List.map_map]
    simp
  rw [hasDotSegment, hsplit, List.any_eq_true]
  simp [IsDots]

/-- A path that cannot be used: without segments, or with one of dots before the last one. -/
def IsUnusable (path : String) : Prop :=
  segments path = [] ∨ ∃ segment ∈ (segments path).dropLast, IsDots segment

instance (path : String) : Decidable (IsUnusable path) := instDecidableOr

/-- What cleaning refuses, in terms of the segments as they were entered. -/
theorem isUnusable_iff : IsUnusable path ↔
    joinSegments path = "" ∨ hasDotSegment (withMarkdownEnding (joinSegments path)) = true := by
  rcases List.eq_nil_or_concat (segments path) with hnil | ⟨front, last, hsegments⟩
  · exact iff_of_true (.inl hnil) (.inl (joinSegments_eq_empty_iff.mpr hnil))
  · rw [List.concat_eq_append] at hsegments
    obtain ⟨file, hfile, hdots, htext⟩ := exists_last_withMarkdownEnding hsegments
    have hnames : ∀ name ∈ front ++ [file], IsSegment name.toList := by
      intro name hname
      rcases List.mem_append.mp hname with hname | hname
      · have hmem : name ∈ segments path := by simp [hsegments, hname]
        exact isSegment_of_mem_segments hmem
      · rwa [List.mem_singleton.mp hname]
    rw [hasDotSegment_iff (by simp) hnames htext, joinSegments_eq_empty_iff]
    simp [IsUnusable, hsegments, or_and_right, exists_or, hdots]

theorem cleanPath_eq (path : String) : cleanPath path =
    if IsUnusable path then "" else withMarkdownEnding (joinSegments path) := by
  have hending : ∀ joined, (if isMarkdownPath joined then joined else joined ++ markdownEnding) =
      withMarkdownEnding joined := by
    intro joined
    simp [withMarkdownEnding, HasMarkdownEnding, ← isMarkdownPath_iff]
  rw [cleanPath]
  dsimp only
  rw [joinSegments_trim, hending]
  by_cases hempty : joinSegments path = ""
  · simp [isUnusable_iff, hempty]
  · simp [isUnusable_iff, hempty]

/-- A path gives nothing exactly when it cannot be used; else it gives its segments between slashes,
with the ending of a Markdown file unless they have it. -/
theorem cleanPath_eq_empty_iff_isUnusable (path : String) :
    (cleanPath path = "" ↔ IsUnusable path) ∧
    (¬ IsUnusable path → cleanPath path =
      if HasMarkdownEnding (String.intercalate "/" (segments path)) then
        String.intercalate "/" (segments path)
      else String.intercalate "/" (segments path) ++ ".md") := by
  have hne : withMarkdownEnding (joinSegments path) ≠ "" := by
    intro hempty
    have hending := hasMarkdownEnding_withMarkdownEnding (joinSegments path)
    rw [hempty] at hending
    exact absurd hending (by decide)
  rw [cleanPath_eq]
  by_cases hunusable : IsUnusable path
  · exact ⟨by simp [hunusable], fun h => absurd hunusable h⟩
  · rw [if_neg hunusable]
    exact ⟨iff_of_false hne hunusable, fun _ => rfl⟩

/-- A last segment of dots becomes the name of a file. -/
theorem cleanPath_dots_at_end :
    segments "notes\\ .. " = ["notes", ".."] ∧ cleanPath "notes\\ .. " = "notes/...md" := by
  have hsegments : segments "notes\\ .. " = ["notes", ".."] := by decide
  have husable : ¬ IsUnusable "notes\\ .. " := by decide
  refine ⟨hsegments, ?_⟩
  rw [(cleanPath_eq_empty_iff_isUnusable "notes\\ .. ").2 husable, hsegments]
  decide +kernel

end TabNotes.Obsidian
