import TabNotes.CommandLine.Run
import TabNotes.Preset
import TabNotes.Proofs.CommandLine.Reading
import TabNotes.Proofs.Template.PartialMarks

/-! # Templates that are refused

Three callers act on the errors of a review: an editor shows them, the preview is not made, and the
command that reviews a template file ends with status 4.  All three refuse the same templates
(`refused_iff_not_passesReview`): those that do not parse, and those in which the text of a tag hides
a partial. -/

namespace TabNotes.CommandLine

open TabNotes.Files TabNotes.Template TabNotes.Text

variable {s : Surroundings} {template : String}

/-- A template that parses and in which no tag hides a partial. -/
def PassesReview (template : String) : Prop :=
  (∃ ts, Template.parse template defaultDepth = .ok ts) ∧
    ∀ text ∈ tagTexts template.toList, ¬ HidesPartial text

theorem errors_review_text_eq_nil_iff :
    (review (.text template)).errors = [] ↔ PassesReview template :=
  errors_reviewText_eq_nil_iff

/-! ### Previews -/

/-- Where a preview would be for a template with errors. -/
def refusedPreview : String := "Fix template errors to preview output."

theorem append_ne_of_not_prefix {start text : String} (h : ¬ start.toList <+: text.toList)
    (rest : String) : start ++ rest ≠ text := by
  rintro rfl
  rw [String.toList_append] at h
  exact h (List.prefix_append _ _)

/-- No template fault is worded like that. -/
theorem message_ne_refusedPreview (cause : TemplateFault) : cause.message ≠ refusedPreview := by
  have hclose : ¬ "Unexpected closing tag for \"".toList <+: refusedPreview.toList := by decide
  have hdeep : ¬ "Sections are nested deeper than ".toList <+: refusedPreview.toList := by decide
  have hopen : ¬ "Section \"".toList <+: refusedPreview.toList := by decide
  have htoken : ¬ "Unsupported token: ".toList <+: refusedPreview.toList := by decide
  cases cause with
  | malformed cause =>
      cases cause with
      | unexpectedClose name =>
          exact fun h => append_ne_of_not_prefix hclose (name ++ "\".") (h ▸ String.append_assoc.symm)
      | tooDeep limit =>
          exact fun h => append_ne_of_not_prefix hdeep (toString limit ++ " levels.")
            (h ▸ String.append_assoc.symm)
      | notClosed name =>
          exact fun h => append_ne_of_not_prefix hopen (name ++ "\" was not closed.")
            (h ▸ String.append_assoc.symm)
      | _ => decide
  | functionValue => decide
  | unsupportedToken shown => exact append_ne_of_not_prefix htoken shown

theorem diagnose_refused_iff (template context : Value) :
    diagnose template context = .ok ⟨review template, "", some refusedPreview⟩ ↔
      (review template).errors ≠ [] := by
  unfold diagnose
  dsimp only
  by_cases herrors : (review template).errors = []
  · rw [herrors, List.isEmpty_nil, if_pos rfl]
    simp only [ne_eq, not_true, iff_false]
    split
    · simp
    · simpa using message_ne_refusedPreview _
    · simp
  · rw [if_neg (by simpa using herrors)]
    exact ⟨fun _ => herrors, fun _ => rfl⟩

/-! ### The command -/

theorem isAscii_ready : IsAscii "Template ready." := by
  decide

section template

variable {source : String} {p : Path} {t : Traces}
  (hpath : (Path.ofText source).expandHome s.homeOf = some p)
  (hread : t.files.readText s.workingDirectory p = .ok template)
include hpath hread

theorem run_readTemplate :
    (Session.complainOf isTemplateFileFault unreadableTemplate
      (Session.pathOf s source >>= Session.readText s)).run.run t = (.ok template, t) := by
  have hpathOf : Session.pathOf s source = pure p := by
    rw [Session.pathOf, hpath]
  have hreadText : (Session.readText s p).run.run t =
      (Session.ofResult (t.files.readText s.workingDirectory p)).run.run t := rfl
  rw [Session.complainOf, run_tryCatch, hpathOf, pure_bind, hreadText, hread]
  rfl

/-- A template file that is read is reported on and left as it is. -/
theorem run_runValidate :
    (runValidate s source).run.run t =
      (.ok (if (review (.text template)).errors.isEmpty then 0 else 4),
        ⟨t.printed ++ if (review (.text template)).errors.isEmpty then ["Template ready."] else [],
          t.reported ++ ((review (.text template)).errors.map fun fault => "error: " ++ fault.message) ++
            ((review (.text template)).warnings.map fun warning => "warn: " ++ warning.message),
          t.files⟩) := by
  have hsource := run_readTemplate hpath hread
  unfold runValidate
  simp only [run_bind, hsource, run_forM_report]
  have hready := s.output.fault?_of_isAscii _ isAscii_ready
  cases (review (.text template)).errors.isEmpty with
  | true =>
      rw [if_pos rfl, run_bind, run_print_of_fault?_eq_none hready]
      rfl
  | false =>
      simp only [Bool.false_eq_true, if_false, List.append_nil]
      rfl

end template

/-- A command line that has a template file reviewed. -/
def ReviewsFile (s : Surroundings) (arguments : List String) (files : Tree) (template : String) :
    Prop :=
  ∃ a source p, readArguments s arguments = .ok a ∧ a.command = some "validate" ∧
    given? a.source = some source ∧ (Path.ofText source).expandHome s.homeOf = some p ∧
    files.readText s.workingDirectory p = .ok template

theorem run_of_reviewsFile {arguments : List String} {files : Tree}
    (h : ReviewsFile s arguments files template) :
    (run s arguments files).1 =
      .status (if (review (.text template)).errors.isEmpty then 0 else 4) := by
  obtain ⟨a, source, p, hread, hcommand, hsource, hpath, htext⟩ := h
  have hrun : (runCommand s a).run.run ⟨[], [], files⟩ =
      (runValidate s source).run.run ⟨[], [], files⟩ := by
    rw [runCommand, hcommand, hsource]
    rfl
  rw [run, hread]
  dsimp only
  rw [hrun, run_runValidate hpath htext]
  rfl

/-! ### All callers -/

/-- The review has errors, the preview is refused and the command ends with status 4 for the same
templates. -/
theorem refused_iff_not_passesReview (template : String) :
    ((review (.text template)).errors = [] ↔ PassesReview template) ∧
      (∀ context, diagnose (.text template) context =
        .ok ⟨review (.text template), "", some refusedPreview⟩ ↔ ¬ PassesReview template) ∧
      ∀ s arguments files, ReviewsFile s arguments files template →
        ((run s arguments files).1 = .status 0 ↔ PassesReview template) ∧
        ((run s arguments files).1 = .status 4 ↔ ¬ PassesReview template) := by
  have hpasses := @errors_review_text_eq_nil_iff template
  refine ⟨hpasses, fun context => ?_, fun s arguments files h => ?_⟩
  · rw [diagnose_refused_iff, ne_eq, hpasses]
  · rw [run_of_reviewsFile h, ← hpasses]
    cases (review (.text template)).errors <;> simp

/-- A template of one comment, which holds the mark of a partial. -/
def partialInComment : String := "\x7b\x7b! \x7b\x7b> \x7d\x7d"

theorem parse_partialInComment :
    Template.parse partialInComment defaultDepth = .ok [.comment] := by
  rw [parse_eq_ok_iff]
  refine (?_ : Reads defaultDepth none 0 _ (literal [] ++ ([.comment] ++ literal [])) [])
  exact .leaf rfl rfl (.finish rfl)

/-- A template file with such a comment is refused although it parses. -/
theorem refused_partialInComment :
    Template.parse partialInComment defaultDepth = .ok [.comment] ∧
      (review (.text partialInComment)).errors ≠ [] ∧
      (run (.bare [] sampleNow) ["validate", "note"]
        ⟨[(["note"], .file (Tree.bytesOf partialInComment))]⟩).1 = .status 4 := by
  have htexts : tagTexts partialInComment.toList = ["! \x7b\x7b> ".toList] :=
    (tagTexts_eq_cons rfl rfl).trans (congrArg _ (tagTexts_eq_nil rfl))
  have hrefused : ¬ PassesReview partialInComment := by
    rintro ⟨-, hhidden⟩
    rw [htexts] at hhidden
    exact hhidden _ List.mem_cons_self (by decide)
  have hfile : ReviewsFile (.bare [] sampleNow) ["validate", "note"]
      ⟨[(["note"], .file (Tree.bytesOf partialInComment))]⟩ partialInComment :=
    ⟨⟨["validate", "note"], none, none, none, none, false, false⟩, "note", ⟨.here, ["note"]⟩,
      rfl, rfl, rfl, rfl, rfl⟩
  obtain ⟨hreview, -, hrun⟩ := refused_iff_not_passesReview partialInComment
  exact ⟨parse_partialInComment, fun h => hrefused (hreview.mp h), (hrun _ _ _ hfile).2.mpr hrefused⟩

end TabNotes.CommandLine
