import TabNotes.Obsidian.Plan
import TabNotes.Proofs.Note.Context
import TabNotes.Proofs.Text.Blank
import TabNotes.Proofs.Text.LowerCase
import TabNotes.Proofs.Text.Replace
import TabNotes.Proofs.Text.Search
import TabNotes.Proofs.Time.Stamp

/-! # Paths that stay in a vault

`IsNotePath` says that a path names a Markdown file inside a vault: it starts there, none of its
names leads up, and none is blank or has white space around it.  Cleaning gives such a path, or none
(`isNotePath_cleanPath`), and leaves one as it is (`IsNotePath.cleanPath_eq`).  The time of the
export is put into the path only after that, and keeps it inside the vault
(`IsNotePath.stampedPath`). -/

namespace TabNotes.Obsidian

open TabNotes.Text TabNotes.Time TabNotes.Note

variable {path : String}

/-- The spellings of the ending of a Markdown file. -/
def markdownEndings : List String := [".md", ".mD", ".Md", ".MD"]

/-- A path from a vault down to a Markdown file in it. -/
structure IsNotePath (path : String) : Prop where
  ne_empty : path ≠ ""
  no_backslash : '\\' ∉ path.toList
  isMarkdown : ∃ ending ∈ markdownEndings, ending.toList <:+ path.toList
  names : ∀ name ∈ splitOnChar '/' path,
    name ≠ "" ∧ IsTrimmed name.toList ∧ name ≠ "." ∧ name ≠ ".."

/-! ### Endings -/

/-- A text in lower case ends in `.md` when the text itself does, with the letters in either
case. -/
theorem isMarkdownPath_iff :
    isMarkdownPath path = true ↔ ∃ ending ∈ markdownEndings, ending.toList <:+ path.toList := by
  rw [isMarkdownPath, endsWith, List.isSuffixOf_iff_suffix, lower, String.toList_ofList]
  constructor
  · rintro ⟨front, h⟩
    have hmd : lowerChars path.toList = front ++ ['.'] ++ ['m'] ++ ['d'] := by
      rw [← h]
      simp [markdownEnding]
    obtain ⟨stem, d, hstem, hd, hlowered⟩ := (isLowered_lowerChars _).of_concat hmd (by decide)
    obtain ⟨stem, m, rfl, hm, hlowered⟩ := hlowered.of_concat rfl (by decide)
    obtain ⟨stem, dot, rfl, hdot, -⟩ := hlowered.of_concat rfl (by decide)
    have hd := @eq_or_eq_of_shifted_eq d 'd' 'D' (by decide) (by decide +kernel) hd
    have hm := @eq_or_eq_of_shifted_eq m 'm' 'M' (by decide) (by decide +kernel) hm
    obtain rfl : dot = '.' := eq_of_shifted_eq (by decide +kernel) hdot
    rw [hstem]
    rcases hm with rfl | rfl <;> rcases hd with rfl | rfl <;> simp [markdownEndings]
  · rintro ⟨ending, hending, front, hpath⟩
    obtain ⟨front', after, h⟩ := exists_lowerCharsAfter_append [] front ending.toList
    refine ⟨front', ?_⟩
    rw [← hpath, lowerChars, h]
    simp only [markdownEndings, List.mem_cons, List.not_mem_nil, or_false] at hending
    rcases hending with rfl | rfl | rfl | rfl <;> rfl

/-! ### Joined segments -/

/-- A segment of a path: no separator in it, and no white space around it. -/
structure IsSegment (cs : List Char) : Prop where
  ne_nil : cs ≠ []
  isTrimmed : IsTrimmed cs
  no_separator : ∀ c ∈ cs, isSeparator c = false

/-- The segments of a path joined by slashes. -/
def IsJoined (path : String) : Prop :=
  ∃ pieces : List (List Char), pieces ≠ [] ∧ (∀ piece ∈ pieces, IsSegment piece) ∧
    path.toList = ['/'].intercalate pieces

theorem isSegment_of_mem_segments {s : String} (h : s ∈ segments path) : IsSegment s.toList := by
  obtain ⟨hmem, hne⟩ := List.mem_filter.mp h
  obtain ⟨piece, hpiece, rfl⟩ := List.mem_map.mp hmem
  rw [String.toList_ofList]
  refine ⟨?_, isTrimmed_trimChars piece, fun c hc => ?_⟩
  · rintro hnil
    simp [hnil] at hne
  · exact not_isCut_of_mem_splitBy hpiece c ((trimChars_isInfix piece).subset hc)

theorem isJoined_joinSegments (h : joinSegments path ≠ "") : IsJoined (joinSegments path) := by
  refine ⟨(segments path).map String.toList, ?_, ?_, ?_⟩
  · intro hnil
    rw [List.map_eq_nil_iff] at hnil
    exact h (by rw [joinSegments, hnil]; rfl)
  · intro piece hpiece
    obtain ⟨s, hs, rfl⟩ := List.mem_map.mp hpiece
    exact isSegment_of_mem_segments hs
  · rw [joinSegments, String.toList_intercalate]
    rfl

theorem mem_intercalate {sep c : Char} {pieces : List (List Char)}
    (h : c ∈ [sep].intercalate pieces) : c = sep ∨ ∃ piece ∈ pieces, c ∈ piece := by
  induction pieces with
  | nil => cases h
  | cons piece pieces ih =>
      cases pieces with
      | nil => exact .inr ⟨piece, by simp, by simpa using h⟩
      | cons next pieces =>
          rw [List.intercalate_cons_cons, List.mem_append, List.mem_append] at h
          rcases h with (h | h) | h
          · exact .inr ⟨piece, List.mem_cons_self, h⟩
          · exact .inl (List.mem_singleton.mp h)
          · exact (ih h).imp_right fun ⟨p, hp, hc⟩ => ⟨p, List.mem_cons_of_mem piece hp, hc⟩

theorem splitOnChar_of_isJoined {pieces : List (List Char)} (hne : pieces ≠ [])
    (hpieces : ∀ piece ∈ pieces, IsSegment piece) (h : path.toList = ['/'].intercalate pieces) :
    splitOnChar '/' path = pieces.map String.ofList := by
  rw [splitOnChar, h, splitBy_intercalate hne]
  intro piece hpiece hmem
  exact absurd ((hpieces piece hpiece).no_separator '/' hmem) (by decide)

theorem IsSegment.append_markdownEnding {cs : List Char} (h : IsSegment cs) :
    IsSegment (cs ++ markdownEnding.toList) := by
  refine ⟨by simp [h.ne_nil], ⟨?_, ?_⟩, ?_⟩
  · rw [List.head?_append_of_ne_nil cs h.ne_nil]
    exact h.isTrimmed.1
  · intro c hc
    rw [List.getLast?_append_of_ne_nil cs (by decide)] at hc
    obtain rfl : 'd' = c := Option.some.inj hc
    rfl
  · intro c hc
    rcases List.mem_append.mp hc with hc | hc
    · exact h.no_separator c hc
    · have hending : markdownEnding.toList.all (!isSeparator ·) = true := by decide
      simpa using List.all_eq_true.mp hending c hc

/-- An ending goes to the last segment. -/
theorem IsJoined.append_markdownEnding (h : IsJoined path) : IsJoined (path ++ markdownEnding) := by
  obtain ⟨pieces, hne, hpieces, hpath⟩ := h
  obtain ⟨front, last, rfl⟩ := (List.eq_nil_or_concat' pieces).resolve_left hne
  refine ⟨front ++ [last ++ markdownEnding.toList], by simp, ?_, ?_⟩
  · intro piece hpiece
    rcases List.mem_append.mp hpiece with hpiece | hpiece
    · exact hpieces piece (List.mem_append_left [last] hpiece)
    · rw [List.mem_singleton.mp hpiece]
      exact (hpieces last (by simp)).append_markdownEnding
  · rw [String.toList_append, hpath, intercalate_concat_append]

theorem IsJoined.isNotePath (h : IsJoined path) (hmarkdown : isMarkdownPath path = true)
    (hdots : hasDotSegment path = false) : IsNotePath path := by
  obtain ⟨pieces, hne, hpieces, hpath⟩ := h
  have hending := isMarkdownPath_iff.mp hmarkdown
  refine ⟨?_, ?_, hending, fun name hname => ?_⟩
  · rintro rfl
    revert hending
    decide
  · intro hmem
    rw [hpath] at hmem
    rcases mem_intercalate hmem with hsep | ⟨piece, hpiece, hc⟩
    · exact absurd hsep (by decide)
    · exact absurd ((hpieces piece hpiece).no_separator _ hc) (by decide)
  · have hdot := List.any_eq_false.mp hdots name hname
    simp only [Bool.or_eq_true, beq_iff_eq, not_or] at hdot
    rw [splitOnChar_of_isJoined hne hpieces hpath] at hname
    obtain ⟨piece, hpiece, rfl⟩ := List.mem_map.mp hname
    have hsegment := hpieces piece hpiece
    refine ⟨?_, by rw [String.toList_ofList]; exact hsegment.isTrimmed, hdot⟩
    rw [ne_eq, String.ofList_eq_empty_iff]
    exact hsegment.ne_nil

/-! ### Cleaning -/

/-- A path that can be used is that of the joined segments, with an ending if they have none. -/
theorem cleanPath_of_ne_empty (h : cleanPath path ≠ "") :
    joinSegments (trim path) ≠ "" ∧ hasDotSegment (cleanPath path) = false ∧
      cleanPath path = if isMarkdownPath (joinSegments (trim path)) then joinSegments (trim path)
        else joinSegments (trim path) ++ markdownEnding := by
  generalize hjoined : joinSegments (trim path) = joined
  have hclean : cleanPath path =
      if joined == "" then ""
      else if hasDotSegment (if isMarkdownPath joined then joined else joined ++ markdownEnding)
        then "" else if isMarkdownPath joined then joined else joined ++ markdownEnding := by
    rw [← hjoined]
    rfl
  rw [hclean] at h ⊢
  by_cases hempty : (joined == "") = true
  · rw [if_pos hempty] at h
    exact absurd rfl h
  · rw [if_neg hempty] at h ⊢
    by_cases hdots : hasDotSegment
        (if isMarkdownPath joined then joined else joined ++ markdownEnding) = true
    · rw [if_pos hdots] at h
      exact absurd rfl h
    · rw [if_neg hdots]
      exact ⟨by simpa using hempty, by simpa using hdots, rfl⟩

theorem isNotePath_cleanPath (h : cleanPath path ≠ "") : IsNotePath (cleanPath path) := by
  obtain ⟨hne, hdots, hclean⟩ := cleanPath_of_ne_empty h
  have hjoined := isJoined_joinSegments hne
  by_cases hmarkdown : isMarkdownPath (joinSegments (trim path)) = true
  · rw [if_pos hmarkdown] at hclean
    rw [hclean] at hdots ⊢
    exact hjoined.isNotePath hmarkdown hdots
  · rw [if_neg hmarkdown] at hclean
    rw [hclean] at hdots ⊢
    refine hjoined.append_markdownEnding.isNotePath (isMarkdownPath_iff.mpr ?_) hdots
    refine ⟨markdownEnding, by decide, ?_⟩
    rw [String.toList_append]
    exact List.suffix_append _ _

theorem cleanPathOf_text (s : String) : cleanPathOf (.text s) = cleanPath s := rfl

namespace IsNotePath

variable (h : IsNotePath path)
include h

/-- The pieces of the path between its slashes. -/
theorem of_mem_splitBy {piece : List Char} (hpiece : piece ∈ splitBy (· == '/') path.toList) :
    IsSegment piece ∧ piece ≠ ['.'] ∧ piece ≠ ['.', '.'] := by
  have hname := h.names (String.ofList piece) (List.mem_map_of_mem hpiece)
  rw [String.toList_ofList, ← String.toList_inj.ne, ← String.toList_inj.ne, ← String.toList_inj.ne,
    String.toList_ofList] at hname
  obtain ⟨hne, htrimmed, hdot, hdots⟩ := hname
  refine ⟨⟨hne, htrimmed, fun c hc => ?_⟩, hdot, hdots⟩
  have hslash : (c == '/') = false := not_isCut_of_mem_splitBy hpiece c hc
  have hbackslash : c ≠ '\\' := by
    rintro rfl
    exact h.no_backslash (subset_of_mem_splitBy hpiece hc)
  simp [isSeparator, hslash, hbackslash]

theorem isTrimmed : IsTrimmed path.toList := by
  constructor
  · obtain ⟨piece, pieces, hpieces⟩ :=
      List.exists_cons_of_ne_nil (splitBy_ne_nil (· == '/') path.toList)
    have hpiece := (h.of_mem_splitBy (by rw [hpieces]; exact List.mem_cons_self)).1
    have hpath := intercalate_splitBy '/' path.toList
    rw [hpieces] at hpath
    have hhead : path.toList.head? = piece.head? := by
      rw [← hpath]
      cases pieces with
      | nil => simp
      | cons next pieces =>
          rw [List.intercalate_cons_cons, List.append_assoc,
            List.head?_append_of_ne_nil piece hpiece.ne_nil]
    rw [hhead]
    exact hpiece.isTrimmed.1
  · obtain ⟨ending, hending, front, hpath⟩ := h.isMarkdown
    have hlast : ∀ ending ∈ markdownEndings, ∃ c, ending.toList.getLast? = some c ∧
        isBlank c = false := by
      simp only [markdownEndings, List.forall_mem_cons]
      exact ⟨⟨'d', rfl, rfl⟩, ⟨'D', rfl, rfl⟩, ⟨'d', rfl, rfl⟩, ⟨'D', rfl, rfl⟩, by simp⟩
    obtain ⟨c, hc, hblank⟩ := hlast ending hending
    have hne : ending.toList ≠ [] := by
      intro hnil
      rw [hnil] at hc
      cases hc
    rw [← hpath, List.getLast?_append_of_ne_nil front hne, hc]
    simpa using hblank

theorem segments_eq : segments path = (splitBy (· == '/') path.toList).map String.ofList := by
  have hseparator : ∀ c ∈ path.toList, isSeparator c = (c == '/') := by
    intro c hc
    have hbackslash : c ≠ '\\' := by
      rintro rfl
      exact h.no_backslash hc
    simp [isSeparator, hbackslash]
  have htrim : ∀ piece ∈ splitBy (· == '/') path.toList,
      String.ofList (trimChars piece) = String.ofList piece := by
    intro piece hpiece
    rw [trimChars_eq_self_iff.mpr (h.of_mem_splitBy hpiece).1.isTrimmed]
  rw [segments, splitBy_congr hseparator, List.map_congr_left htrim, List.filter_eq_self]
  intro name hname
  simpa using (h.names name hname).1

theorem joinSegments_eq : joinSegments path = path := by
  have hpieces : ((splitBy (· == '/') path.toList).map String.ofList).map String.toList =
      splitBy (· == '/') path.toList := by
    simp
  rw [← String.toList_inj, joinSegments, h.segments_eq, String.toList_intercalate, hpieces]
  exact intercalate_splitBy '/' path.toList

theorem hasDotSegment_eq : hasDotSegment path = false := by
  refine List.any_eq_false.mpr fun name hname => ?_
  obtain ⟨-, -, hdot, hdots⟩ := h.names name hname
  simp [hdot, hdots]

/-- A path inside a vault is clean. -/
theorem cleanPath_eq : cleanPath path = path := by
  have htrim : trim path = path := by
    rw [trim, trimChars_eq_self_iff.mpr h.isTrimmed, String.ofList_toList]
  have hempty : (path == "") = false := beq_false_of_ne h.ne_empty
  have hmarkdown := isMarkdownPath_iff.mpr h.isMarkdown
  rw [cleanPath, htrim, h.joinSegments_eq]
  simp [hempty, hmarkdown, h.hasDotSegment_eq]

end IsNotePath

/-! ### The time of the export -/

section Stamped

variable {stamp : String}

/-- The text of a path, with the time of the export in it. -/
def stamped (stamp : String) (cs : List Char) : List Char :=
  replaceAllChars Preferences.timestampMark.toList stamp.toList cs

theorem timestampMark_ne_nil : Preferences.timestampMark.toList ≠ [] := by decide

theorem isBlank_of_isName (hname : IsName stamp) :
    ∀ c ∈ stamp.toList, isBlank c = false ∧ isSeparator c = false := by
  intro c hc
  rcases hname c hc with hdigit | rfl | rfl
  · refine ⟨isBlank_of_isDigit hdigit, ?_⟩
    have hslash : c ≠ '/' := by
      rintro rfl
      exact absurd hdigit (by decide)
    have hbackslash : c ≠ '\\' := by
      rintro rfl
      exact absurd hdigit (by decide)
    simp [isSeparator, hslash, hbackslash]
  · decide
  · decide

/-- A segment with the time of the export in it is one. -/
theorem IsSegment.stamped {cs : List Char} (h : IsSegment cs) (hname : IsName stamp)
    (hT : 'T' ∈ stamp.toList) : IsSegment (stamped stamp cs) := by
  have hpat := timestampMark_ne_nil
  have hnew := List.ne_nil_of_mem hT
  have hchars := isBlank_of_isName hname
  refine ⟨?_, ⟨fun c hc => ?_, fun c hc => ?_⟩, fun c hc => ?_⟩
  · rw [Obsidian.stamped, ne_eq, replaceAllChars_eq_nil_iff hpat hnew]
    exact h.ne_nil
  · rcases head?_replaceAllChars hpat hnew cs hc with hc | hc
    · exact h.isTrimmed.1 c hc
    · exact (hchars c (List.mem_of_mem_head? hc)).1
  · rcases getLast?_replaceAllChars hpat hnew cs hc with hc | hc
    · exact h.isTrimmed.2 c hc
    · exact (hchars c (List.mem_of_mem_getLast? hc)).1
  · rcases mem_replaceAllChars hpat hc with hc | hc
    · exact h.no_separator c hc
    · exact (hchars c hc).2

/-- A text with the time of the export in it is the same text, or holds the letter of the time. -/
theorem stamped_eq_or_mem (hT : 'T' ∈ stamp.toList) (cs : List Char) :
    stamped stamp cs = cs ∨ 'T' ∈ stamped stamp cs := by
  rcases replaceAllChars_eq_self_or_infix timestampMark_ne_nil cs with h | h
  · exact .inl h
  · exact .inr (h.subset hT)

/-- The ending of a path stays when the time of the export is put into it. -/
theorem suffix_stamped {ending cs : List Char} (hdot : ending.head? = some '.')
    (hmark : '\x7b' ∉ ending) (h : ending <:+ cs) : ending <:+ stamped stamp cs := by
  obtain ⟨front, rfl⟩ := h
  cases ending with
  | nil => cases hdot
  | cons c letters =>
      obtain rfl : c = '.' := Option.some.inj hdot
      rw [List.mem_cons, not_or] at hmark
      rw [stamped, replaceAllChars_append_cons timestampMark_ne_nil (by decide)]
      have hletters : replaceAllChars Preferences.timestampMark.toList stamp.toList letters =
          letters := replaceAllChars_of_not_mem _ hmark.2
      rw [hletters]
      exact List.suffix_append _ _

/-- A path inside a vault stays inside when the time of the export is put into it. -/
theorem IsNotePath.stampedPath (h : IsNotePath path) (hname : IsName stamp)
    (hT : 'T' ∈ stamp.toList) : IsNotePath (stampedPath path stamp) := by
  have htext : (Obsidian.stampedPath path stamp).toList = stamped stamp path.toList :=
    String.toList_ofList
  have hpieces : (Obsidian.stampedPath path stamp).toList =
      ['/'].intercalate ((splitBy (· == '/') path.toList).map (stamped stamp)) := by
    rw [htext, ← intercalate_splitBy '/' path.toList]
    rw [stamped, replaceAllChars_intercalate timestampMark_ne_nil (by decide),
      intercalate_splitBy]
    rfl
  have hne : (splitBy (· == '/') path.toList).map (stamped stamp) ≠ [] := by
    rw [ne_eq, List.map_eq_nil_iff]
    exact splitBy_ne_nil _ _
  have hsegments : ∀ piece ∈ (splitBy (· == '/') path.toList).map (stamped stamp),
      IsSegment piece := by
    intro piece hpiece
    obtain ⟨cs, hcs, rfl⟩ := List.mem_map.mp hpiece
    exact (h.of_mem_splitBy hcs).1.stamped hname hT
  refine IsJoined.isNotePath ⟨_, hne, hsegments, hpieces⟩ (isMarkdownPath_iff.mpr ?_) ?_
  · obtain ⟨ending, hending, hsuffix⟩ := h.isMarkdown
    have hspelling : ∀ ending ∈ markdownEndings,
        ending.toList.head? = some '.' ∧ '\x7b' ∉ ending.toList := by decide
    obtain ⟨hdot, hmark⟩ := hspelling ending hending
    exact ⟨ending, hending, htext ▸ suffix_stamped hdot hmark hsuffix⟩
  · refine List.any_eq_false.mpr fun name hmem => ?_
    rw [splitOnChar_of_isJoined hne hsegments hpieces] at hmem
    obtain ⟨piece, hpiece, rfl⟩ := List.mem_map.mp hmem
    obtain ⟨cs, hcs, rfl⟩ := List.mem_map.mp hpiece
    obtain ⟨-, hdot, hdots⟩ := h.of_mem_splitBy hcs
    have hnodots : stamped stamp cs ≠ ['.'] ∧ stamped stamp cs ≠ ['.', '.'] := by
      rcases stamped_eq_or_mem hT cs with hsame | hmem
      · rw [hsame]
        exact ⟨hdot, hdots⟩
      · constructor
        · intro heq
          simp [heq] at hmem
        · intro heq
          simp [heq] at hmem
    simp only [Bool.or_eq_true, beq_iff_eq, not_or, ← String.toList_inj, String.toList_ofList]
    exact hnodots

end Stamped

/-! ### Plans -/

theorem notePath_planFor (r : Request) (isTooLong : Bool) :
    (planFor r isTooLong).notePath = r.file := by
  unfold planFor
  split
  · split <;> rfl
  · rfl

/-- The request for a note in a vault. -/
def Place.request (p : Place) (stamp : String) (markdown : Value) (clipboard : Bool) : Request :=
  ⟨stampedPath p.notePath stamp, p.vault, markdown.textOrEmpty, clipboard, true, false⟩

theorem ne_empty_of_isUsable {place : Place} (h : place.isUsable = true) :
    place.notePath ≠ "" := by
  intro hpath
  simp [Place.isUsable, hpath] at h

/-- Settings that are enabled, with the path of the notes and the text of the vault that a plan
takes from them. -/
structure IsEnabled (settings : Value) (path vault : String) : Prop where
  enabled : ∃ v, settings.field "enabled" = .ok v ∧ v.isTrue = true
  path : (settings.get "notePath").orElse (.text "") = .text path
  vault : parameterText (settings.get "vault") = .ok vault

/-- After enabled settings, a plan fails only for its limit. -/
theorem planOf_eq {settings : Value} {vault : String} (h : IsEnabled settings path vault)
    (markdown : Value) (stamp : String) (clipboard : Bool) (limit : Value) :
    planOf markdown (.text stamp) settings clipboard limit =
      (isBeyond limit (Place.request ⟨vault, path⟩ stamp markdown clipboard).totalLength).map
        (planFor (Place.request ⟨vault, path⟩ stamp markdown clipboard)) := by
  obtain ⟨v, hfield, htrue⟩ := h.enabled
  have hrequest : Request.ofValues (settings.get "vault") (.text (Obsidian.stampedPath path stamp))
      markdown clipboard true false = .ok (Place.request ⟨vault, path⟩ stamp markdown clipboard) := by
    rw [Request.ofValues, h.vault]
    rfl
  rw [planOf, hfield]
  simp only [bind, Except.bind]
  rw [if_pos htrue, h.path]
  simp only [Value.asText, pure, Except.pure]
  rw [hrequest]
  dsimp only
  cases isBeyond limit (Place.request ⟨vault, path⟩ stamp markdown clipboard).totalLength with
  | error fault => rfl
  | ok isTooLong => rfl

theorem Place.isEnabled_settings {place : Place} (h : place.isUsable = true) :
    IsEnabled place.settings place.notePath place.vault where
  enabled := ⟨.bool place.isUsable, rfl, h⟩
  path := by
    have htrue : (Value.text place.notePath).isTrue = true := by
      simpa [Value.isTrue] using ne_empty_of_isUsable h
    exact if_pos htrue
  vault := rfl

/-- Where notes can go, a plan fails only for its limit. -/
theorem planOf_settings {place : Place} (h : place.isUsable = true) (markdown : Value)
    (stamp : String) (clipboard : Bool) (limit : Value) :
    planOf markdown (.text stamp) place.settings clipboard limit =
      (isBeyond limit (place.request stamp markdown clipboard).totalLength).map
        (planFor (place.request stamp markdown clipboard)) :=
  planOf_eq (Place.isEnabled_settings h) markdown stamp clipboard limit

/-- The note path that a preference asks for: the default one if it is blank or no text. -/
def pathToUse (v : Value) : String :=
  match v with
  | .text s => if allBlank s then Preferences.defaultNotePath else s
  | _ => Preferences.defaultNotePath

theorem ofPreferences_eq (entries : Entries) :
    Place.ofPreferences (.map entries) =
      .ok ⟨trim ((Value.map entries).get "obsidianVault").textOrEmpty,
        cleanPath (pathToUse ((Value.map entries).get "obsidianNotePath"))⟩ := rfl

/-- Preferences give a place, and a path inside its vault if notes can go there. -/
theorem exists_place (entries : Entries) :
    ∃ place, Place.ofPreferences (.map entries) = .ok place ∧
      place.vault = trim ((Value.map entries).get "obsidianVault").textOrEmpty ∧
      (place.isUsable = true → IsNotePath place.notePath) := by
  have hplace := ofPreferences_eq entries
  generalize pathToUse ((Value.map entries).get "obsidianNotePath") = path at hplace
  have hclean : cleanPath path ≠ "" → IsNotePath (cleanPath path) := isNotePath_cleanPath
  generalize cleanPath path = clean at hplace hclean
  exact ⟨⟨_, clean⟩, hplace, rfl, fun h => hclean (ne_empty_of_isUsable h)⟩

/-- Whatever the preferences are, a note for which there is a place gets a path inside its vault,
and cleaning a path that it has cleaned changes nothing. -/
theorem isNotePath_notePath (entries : Entries) :
    ∃ place, Place.ofPreferences (.map entries) = .ok place ∧
      (place.isUsable = true →
        ∀ here now zone stamp, Stamp.of here now zone = .ok stamp → ∀ markdown clipboard,
          (∀ limit plan, planOf markdown (.text stamp.fileName) place.settings clipboard limit =
              .ok plan → IsNotePath plan.notePath) ∧
            ∀ limit : Int, ∃ plan,
              planOf markdown (.text stamp.fileName) place.settings clipboard (.int limit) =
                .ok plan) ∧
      ∀ v, cleanPathOf v ≠ "" → cleanPathOf (.text (cleanPathOf v)) = cleanPathOf v := by
  obtain ⟨place, hplace, -, hpath⟩ := exists_place entries
  refine ⟨place, hplace, fun husable here now zone stamp hstamp markdown clipboard => ⟨?_, ?_⟩, ?_⟩
  · intro limit plan hplan
    rw [planOf_settings husable] at hplan
    obtain ⟨isTooLong, -, rfl⟩ := map_eq_ok_iff.mp hplan
    obtain ⟨hname, hT⟩ := isName_fileName hstamp
    rw [notePath_planFor]
    exact (hpath husable).stampedPath hname hT
  · intro limit
    rw [planOf_settings husable]
    exact ⟨_, rfl⟩
  · intro v hv
    cases v with
    | text s =>
        rw [cleanPathOf_text] at hv ⊢
        exact (isNotePath_cleanPath hv).cleanPath_eq
    | _ => exact absurd rfl hv

theorem isNotePath_notePath_default :
    ∃ plan, planOf (.text "# Tabs") (.text newMillenniumStamp.fileName)
        (Place.settings ⟨"Notes", Preferences.defaultNotePath⟩) false (.int 60000) = .ok plan ∧
      plan.notePath = "tabSidian/tab-export-2000-01-01T00-00-00.md" ∧ IsNotePath plan.notePath := by
  have hclean : cleanPath Preferences.defaultNotePath = Preferences.defaultNotePath := by
    decide +kernel
  have hplace : Place.ofPreferences (.map [(.text "obsidianVault", .text "Notes")]) =
      .ok ⟨"Notes", Preferences.defaultNotePath⟩ := by
    rw [← hclean]
    rfl
  obtain ⟨place, hof, hsafe, -⟩ :=
    isNotePath_notePath [(.text "obsidianVault", .text "Notes")]
  rw [hplace] at hof
  obtain rfl := Except.ok.inj hof
  obtain ⟨hpath, hplan⟩ :=
    hsafe rfl .utc newMillennium none newMillenniumStamp rfl (.text "# Tabs") false
  obtain ⟨plan, hplan⟩ := hplan 60000
  refine ⟨plan, hplan, ?_, hpath _ plan hplan⟩
  rw [planOf_settings rfl] at hplan
  obtain ⟨isTooLong, -, rfl⟩ := map_eq_ok_iff.mp hplan
  rw [notePath_planFor]
  rfl

end TabNotes.Obsidian
