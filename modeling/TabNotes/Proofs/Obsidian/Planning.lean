import TabNotes.Proofs.Obsidian.LinkReading
import TabNotes.Proofs.Obsidian.NotePath

/-! # A plan keeps the note

`Plan.Keeps` says what a plan owes the note of a request: it gives up only a note that is not on the
clipboard and whose link is too long, and a link that it opens holds the whole note or leaves all of
it to the clipboard.  The plan of every request keeps its note (`keeps_plan`), and planning after
settings makes the plan of one request (`planOf_keeps`). -/

namespace TabNotes.Obsidian

open TabNotes.Text

variable {r : Request} {limit : Int} {settings : Value} {path vault : String}

/-- The parameter of a link under a name. -/
def parameter? (link name : String) : Option String :=
  (readLink link).bind fun parameters => parameters.lookup name

/-- What a plan under a limit owes the note of a request. -/
structure Plan.Keeps (plan : Plan) (r : Request) (limit : Int) : Prop where
  notePath : plan.notePath = r.file
  /-- Only a note that is nowhere else and does not fit is given up. -/
  link?_eq_none_iff : plan.link? = none ↔ r.clipboard = false ∧ limit < r.totalLength
  of_given_up : plan.link? = none →
    plan.reason? = some "url_too_long" ∧ plan.totalLength? = some r.totalLength
  totalLength : ∀ link, plan.link? = some link →
    plan.reason? = none ∧ plan.totalLength? = some link.length
  read : ∀ link, plan.link? = some link → (readLink link).isSome = true
  /-- A link without a file has the empty path. -/
  file : ∀ link, plan.link? = some link →
    parameter? link "file" = if r.file = "" then none else some r.file
  content : ∀ link, plan.link? = some link →
    parameter? link "content" = some r.content ∧ link.length ≤ limit ∨
      parameter? link "content" = none ∧
        (r.content = "" ∨ r.clipboard = true ∧ parameter? link "clipboard" = some "true")
  left_out : r.clipboard = true → r.content ≠ "" →
    ∀ link, plan.link? = some link → parameter? link "content" = none → limit < r.totalLength

/-! ### Requests -/

theorem isSome_readLink (r : Request) : (readLink r.link).isSome = true := by
  rw [readLink_eq_shown]
  rfl

theorem parameter?_file (r : Request) :
    parameter? r.link "file" = if r.file = "" then none else some r.file := by
  rw [parameter?, readLink_eq_shown, Option.bind_some, (lookup_shown r).1]
  by_cases hfile : r.file = ""
  · rw [if_pos hfile, if_neg (not_not.mpr hfile)]
  · rw [if_neg hfile, if_pos hfile]

theorem parameter?_clipboard (h : r.clipboard = true) :
    parameter? r.link "clipboard" = some "true" := by
  rw [parameter?, readLink_eq_shown, Option.bind_some, (lookup_shown r).2.2.2.1, if_pos h]

theorem parameter?_content (h : r.content ≠ "") :
    parameter? r.link "content" = some r.content := by
  rw [parameter?, readLink_eq_shown, Option.bind_some, (lookup_shown r).2.2.2.2.2, if_pos h]

theorem parameter?_content_of_empty (h : r.content = "") :
    parameter? r.link "content" = none := by
  rw [parameter?, readLink_eq_shown, Option.bind_some, (lookup_shown r).2.2.2.2.2,
    if_neg (not_not.mpr h)]

/-- A link that is not too long holds the whole note. -/
theorem keeps_of_fits (h : r.totalLength ≤ limit) :
    (Plan.openLink r.link r.file).Keeps r limit where
  notePath := rfl
  link?_eq_none_iff := by
    have hlong : ¬limit < r.totalLength := by omega
    simp [Plan.link?, hlong]
  of_given_up hnone := by cases hnone
  totalLength := by
    rintro link ⟨⟩
    exact ⟨rfl, rfl⟩
  read := by
    rintro link ⟨⟩
    exact isSome_readLink r
  file := by
    rintro link ⟨⟩
    exact parameter?_file r
  content := by
    rintro link ⟨⟩
    by_cases hempty : r.content = ""
    · exact .inr ⟨parameter?_content_of_empty hempty, .inl hempty⟩
    · exact .inl ⟨parameter?_content hempty, h⟩
  left_out := by
    rintro - hcontent link ⟨⟩ hnone
    rw [parameter?_content hcontent] at hnone
    cases hnone

/-- A link that would be too long leaves the note to the clipboard, where there is one. -/
theorem keeps_of_clipboard (hclipboard : r.clipboard = true) (hlong : limit < r.totalLength) :
    (Plan.openLink { r with content := "" }.link r.file).Keeps r limit where
  notePath := rfl
  link?_eq_none_iff := by simp [Plan.link?, hclipboard]
  of_given_up hnone := by cases hnone
  totalLength := by
    rintro link ⟨⟩
    exact ⟨rfl, rfl⟩
  read := by
    rintro link ⟨⟩
    exact isSome_readLink { r with content := "" }
  file := by
    rintro link ⟨⟩
    exact parameter?_file { r with content := "" }
  content := by
    rintro link ⟨⟩
    exact .inr ⟨parameter?_content_of_empty rfl,
      .inr ⟨hclipboard, parameter?_clipboard hclipboard⟩⟩
  left_out := fun _ _ _ _ _ => hlong

/-- A note that is nowhere else is given up with the length of its link. -/
theorem keeps_of_given_up (hclipboard : r.clipboard = false) (hlong : limit < r.totalLength) :
    (Plan.tooLong r.file r.totalLength).Keeps r limit where
  notePath := rfl
  link?_eq_none_iff := by simp [Plan.link?, hclipboard, hlong]
  of_given_up _ := ⟨rfl, rfl⟩
  totalLength := by rintro link ⟨⟩
  read := by rintro link ⟨⟩
  file := by rintro link ⟨⟩
  content := by rintro link ⟨⟩
  left_out := fun _ _ _ _ _ => hlong

/-- The plan of a request keeps its note. -/
theorem keeps_plan (r : Request) (limit : Int) : (plan r limit).Keeps r limit := by
  unfold plan planFor
  by_cases hlong : limit < r.totalLength
  · rw [if_pos (decide_eq_true hlong)]
    by_cases hclipboard : r.clipboard = true
    · rw [if_pos hclipboard]
      exact keeps_of_clipboard hclipboard hlong
    · rw [if_neg hclipboard]
      exact keeps_of_given_up (by simpa using hclipboard) hlong
  · rw [if_neg (by simpa using hlong)]
    exact keeps_of_fits (by omega)

/-! ### Settings -/

/-- The path of a Markdown file is not lost when the time of the export is put into it. -/
theorem stampedPath_ne_empty (h : isMarkdownPath path = true) (stamp : String) :
    stampedPath path stamp ≠ "" := by
  obtain ⟨ending, hending, hsuffix⟩ := isMarkdownPath_iff.mp h
  have hspelling : ∀ ending ∈ markdownEndings,
      ending.toList.head? = some '.' ∧ '\x7b' ∉ ending.toList := by decide
  obtain ⟨hdot, hmark⟩ := hspelling ending hending
  have hstamped : ending.toList <:+ stamped stamp path.toList := suffix_stamped hdot hmark hsuffix
  intro hempty
  have hnil : stamped stamp path.toList = [] := by
    have htext : (stampedPath path stamp).toList = stamped stamp path.toList := String.toList_ofList
    rw [← htext, hempty]
    rfl
  rw [hnil, List.suffix_nil] at hstamped
  rw [hstamped] at hdot
  cases hdot

/-- Whatever the note and the limit are, enabled settings give a plan that keeps the note: it gives
up only a note that is not on the clipboard and whose link is too long, and every link that it opens
names the file and holds the whole note or leaves all of it to the clipboard. -/
theorem planOf_keeps (h : IsEnabled settings path vault) (markdown stamp : String)
    (clipboard : Bool) (limit : Int) :
    ∃ plan, planOf (.text markdown) (.text stamp) settings clipboard (.int limit) = .ok plan ∧
      plan.Keeps (Place.request ⟨vault, path⟩ stamp (.text markdown) clipboard) limit ∧
      (isMarkdownPath path = true → ∀ link, plan.link? = some link →
        parameter? link "file" = some (stampedPath path stamp)) := by
  have hkeeps := keeps_plan (Place.request ⟨vault, path⟩ stamp (.text markdown) clipboard) limit
  refine ⟨_, planOf_eq h (.text markdown) stamp clipboard (.int limit), hkeeps, ?_⟩
  intro hmarkdown link hlink
  rw [hkeeps.file link hlink]
  exact if_neg (stampedPath_ne_empty hmarkdown stamp)

/-- A link of as many characters as the limit is opened, and one more is too long. -/
theorem planOf_keeps_at_the_limit :
    (∃ plan link, planOf (.text "é\n") (.text "1999") (Place.settings ⟨"Notes", "a.md"⟩) false
        (.int 69) = .ok plan ∧
      plan.link? = some link ∧ parameter? link "content" = some "é\n") ∧
    ∃ plan, planOf (.text "é\n") (.text "1999") (Place.settings ⟨"Notes", "a.md"⟩) false
        (.int 68) = .ok plan ∧
      plan.link? = none ∧ plan.totalLength? = some 69 := by
  have henabled : IsEnabled (Place.settings ⟨"Notes", "a.md"⟩) "a.md" "Notes" :=
    Place.isEnabled_settings rfl
  have hlength : (Place.request ⟨"Notes", "a.md"⟩ "1999" (.text "é\n") false).totalLength = 69 := by
    decide +kernel
  refine ⟨?_, ?_⟩
  · obtain ⟨plan, hplan, hkeeps, -⟩ := planOf_keeps henabled "é\n" "1999" false 69
    cases hlink : plan.link? with
    | none =>
        have hlong := (hkeeps.link?_eq_none_iff.mp hlink).2
        exact absurd hlong (by rw [hlength]; decide)
    | some link =>
        refine ⟨plan, link, hplan, hlink, ?_⟩
        rcases hkeeps.content link hlink with ⟨hcontent, -⟩ | ⟨-, hempty | ⟨hclipboard, -⟩⟩
        · exact hcontent
        · exact absurd hempty (by decide)
        · cases hclipboard
  · obtain ⟨plan, hplan, hkeeps, -⟩ := planOf_keeps henabled "é\n" "1999" false 68
    have hnone := hkeeps.link?_eq_none_iff.mpr ⟨rfl, by rw [hlength]; decide⟩
    have htotal := (hkeeps.of_given_up hnone).2
    rw [hlength] at htotal
    exact ⟨plan, hplan, hnone, htotal⟩

end TabNotes.Obsidian
