import TabNotes.Proofs.Note.Faults
import TabNotes.Proofs.Preferences
import TabNotes.Proofs.Template.NamedKeys
import TabNotes.Proofs.Template.PlainFrames

/-! # Fields that do not depend on each other

The data for the templates of fields is plain, so that such a template fails only where it cannot be
parsed, and the default one is rendered then.  So the text of a field depends on nothing in the
preferences but the template that is used for it (`exists_fieldTexts`), and the block is always
there: `composeUnder_independent` gives it by the lines of its fields. -/

namespace TabNotes

variable {α β : Type} {first : Report α} {next : α → Report β} {a : α} {b : β}
  {told told' : List Notice}

/-! ### Reports that succeed -/

/-- A report that reaches a result and gives the listed notices, whatever was told before. -/
def Tells (report : Report α) (a : α) (told : List Notice) : Prop :=
  ∀ notices, report.run.run notices = (.ok a, notices ++ told)

theorem tells_pure (a : α) : Tells (pure a) a [] := by
  intro notices
  rw [List.append_nil]
  rfl

theorem tells_ofResult {result : Except Fault α} (h : result = .ok a) :
    Tells (Report.ofResult result) a [] := by
  rw [h]
  exact tells_pure a

theorem tells_bind (h : Tells first a told) (hnext : Tells (next a) b told') :
    Tells (first >>= next) b (told ++ told') := by
  intro notices
  rw [run_bind, h notices]
  dsimp only
  rw [hnext, List.append_assoc]

/-- A result that is there is passed on without a notice. -/
theorem tells_ofResult_bind {result : Except Fault α} (h : result = .ok a)
    (hnext : Tells (next a) b told) : Tells (Report.ofResult result >>= next) b told := by
  rw [h]
  exact hnext

theorem Tells.map (h : Tells first a told) (f : α → β) :
    Tells (first >>= fun a => pure (f a)) (f a) told := by
  intro notices
  rw [run_bind, h notices]
  rfl

theorem Tells.outcome (h : Tells first a told) : first.outcome = (.ok a, told) := h []

end TabNotes

namespace TabNotes.Frontmatter

open TabNotes.Text TabNotes.Template TabNotes.Number TabNotes.Time TabNotes.Tab TabNotes.Note
  TabNotes.Preferences

/-! ### Templates of fields -/

/-- How a field is made from a template. -/
structure FieldTemplate where
  /-- The preference that gives the template. -/
  preference : String
  default : String
  /-- The template that a value of the preference stands for. -/
  ofValue : Value → String
  /-- The field for the text of the template. -/
  write : String → String

/-- The template of a field that has one. -/
def Field.template? : Field → Option FieldTemplate
  | .title => some ⟨"frontmatterTitleTemplate", defaultTitle, resolveTitle,
      fun s => quoteScalar (trim s)⟩
  | .tags => some ⟨"frontmatterTagsTemplate", defaultTags, resolveList defaultTags,
      fun s => listText (splitList s)⟩
  | .collections => some ⟨"frontmatterCollectionsTemplate", defaultCollections,
      resolveList defaultCollections, fun s => listText (splitList s)⟩
  | _ => none

variable {entries entries' : Entries} {f g : Field} {t : FieldTemplate} {template s : String}

theorem parse_defaultTitle :
    parse defaultTitle defaultDepth = .ok [.text "Tab export ", .escaped "export.localDate"] := by
  rw [parse_eq_ok_iff]
  refine (?_ : Reads defaultDepth none 0 _ (literal "Tab export ".toList ++
    ([.escaped "export.localDate"] ++ literal [])) [])
  exact .leaf rfl rfl (.finish rfl)

/-- Every default template can be parsed. -/
theorem exists_parse_default (h : f.template? = some t) :
    ∃ ts, parse t.default defaultDepth = .ok ts := by
  cases f with
  | title =>
      cases h
      exact ⟨_, parse_defaultTitle⟩
  | tags | collections =>
      cases h
      exact ⟨_, parse_of_not_tagOpen (by decide)⟩
  | _ => cases h

/-- The template of a field under preferences. -/
def templateUnder (entries : Entries) (t : FieldTemplate) : String :=
  t.ofValue ((Value.map entries).get t.preference)

/-- A text that cannot be parsed is taken as it is, since blank texts can be. -/
theorem templateUnder_eq {fault : SyntaxFault} (h : f.template? = some t)
    (htext : (Value.map entries).get t.preference = .text s)
    (hparse : parse s defaultDepth = .error fault) : templateUnder entries t = s := by
  rw [templateUnder, htext]
  cases f with
  | title =>
      cases h
      have hblank : allBlank s ≠ true := by
        intro hblank
        have hbrace : ¬ tagOpen <:+: s.toList := by
          intro hinfix
          have hmem : '{' ∈ s.toList := hinfix.subset (by decide)
          exact absurd (List.all_eq_true.mp hblank _ hmem) (by decide)
        rw [parse_of_not_tagOpen hbrace] at hparse
        cases hparse
      exact if_neg hblank
  | tags | collections =>
      cases h
      rfl
  | _ => cases h

/-- The template that a field is written with: the default one where the given one cannot be
parsed. -/
def usedTemplate (default template : String) : String :=
  match parse template defaultDepth with
  | .ok _ => template
  | .error _ => default

/-- What is wrong with a template that cannot be parsed. -/
def templateFault? (template : String) : Option TemplateFault :=
  match parse template defaultDepth with
  | .ok _ => none
  | .error fault => some (.malformed fault)

/-- In a plain context the template that is used is rendered, and only one that cannot be parsed
gives a notice. -/
theorem tells_renderField {default : String} {data : Value} (hdata : IsPlain data)
    (hdefault : ∃ ts, parse default defaultDepth = .ok ts) (template : String) :
    ∃ s, render (usedTemplate default template) data = .ok s ∧
      Tells (renderField (.text template) default data) s
        ((templateFault? template).map .fieldTemplateFailed).toList := by
  rw [usedTemplate, templateFault?]
  cases hparse : parse template defaultDepth with
  | ok ts =>
      obtain ⟨s, hs⟩ := render_of_isPlain hdata hparse
      refine ⟨s, hs, fun notices => ?_⟩
      rw [renderField, run_orDefault, ← render, hs, Option.map_none, Option.toList_none,
        List.append_nil]
  | error fault =>
      obtain ⟨ts, hts⟩ := hdefault
      obtain ⟨s, hs⟩ := render_of_isPlain hdata hts
      refine ⟨s, hs, fun notices => ?_⟩
      rw [renderField, run_orDefault, ← render, render_eq_error data hparse, hs]
      rfl

/-! ### Fields -/

/-- The settings that preferences give. -/
def settingsUnder (entries : Entries) : Settings :=
  ⟨resolveNames ((Value.map entries).get "frontmatterFieldNames"),
    resolveEnabled ((Value.map entries).get "frontmatterEnabledFields"),
    .text (resolveTitle ((Value.map entries).get "frontmatterTitleTemplate")),
    .text (resolveList defaultTags ((Value.map entries).get "frontmatterTagsTemplate")),
    .text (resolveList defaultCollections
      ((Value.map entries).get "frontmatterCollectionsTemplate"))⟩

/-- Whether a field is written under preferences. -/
def isOnUnder (entries : Entries) (f : Field) : Bool :=
  resolveEnabledField ((Value.map entries).get "frontmatterEnabledFields") f

/-- The name of a field under preferences. -/
def nameUnder (entries : Entries) (f : Field) : String :=
  resolveName ((Value.map entries).get "frontmatterFieldNames") f

/-- The template that is used for a field under preferences, if it has one. -/
def usedUnder (entries : Entries) (f : Field) : Option String :=
  f.template?.map fun t => usedTemplate t.default (templateUnder entries t)

/-- What is wrong with the template of a field, if it cannot be parsed. -/
def faultUnder? (entries : Entries) (f : Field) : Option TemplateFault :=
  f.template?.bind fun t => templateFault? (templateUnder entries t)

/-- The data for the templates of a note. -/
def noteData (stamp : Stamp) (window : Window) (tabCount : Nat) : Value :=
  frontmatterData (exportValue stamp tabCount) window.toValue tabCount

theorem source_of_noteData (stamp : Stamp) (window : Window) (tabCount : Nat) :
    Source.of (noteData stamp window tabCount) = .ok (noteSource stamp window tabCount) := rfl

/-- The data of a note is plain if the number of its window and the number of its tabs are not too
long to be written. -/
theorem isPlain_noteData {window : Window} {tabCount : Nat} (stamp : Stamp)
    (hid : ∀ n, window.id = some n → ¬ IsLongInteger n) (hcount : ¬ IsLongInteger tabCount) :
    IsPlain (noteData stamp window tabCount) := by
  have hwindow : IsPlain window.toValue := by
    refine isPlain_record ?_
    simp only [List.forall_mem_cons]
    refine ⟨?_, .text _, .bool _, .bool _, by simp⟩
    cases hn : window.id with
    | none => exact .null
    | some n => exact .int (hid n hn)
  have hexport : IsPlain (exportValue stamp tabCount) := by
    refine isPlain_record ?_
    simp only [stampFields, List.cons_append, List.nil_append, List.forall_mem_cons]
    exact ⟨.text _, .text _, .text _, .text _, .int hcount, by simp⟩
  refine isPlain_record ?_
  simp only [List.forall_mem_cons]
  exact ⟨hexport, hwindow, .int hcount, by simp⟩

theorem fieldText_eq (h : f.template? = some t) (entries : Entries) (source : Source) :
    fieldText (settingsUnder entries) source f =
      renderField (.text (templateUnder entries t)) t.default source.data >>= fun s =>
        pure (t.write s) := by
  cases f <;> cases h <;> rfl

section source

variable {stamp : Stamp} {window : Window} {tabCount : Nat}

/-- A field without a template is there whatever the settings are. -/
theorem exists_fieldText (h : f.template? = none) (hcount : ¬ IsLongInteger tabCount) :
    ∃ text, ∀ settings,
      Tells (fieldText settings (noteSource stamp window tabCount) f) text [] := by
  cases f with
  | title | tags | collections => cases h
  | date | time | exportedAt | incognito => exact ⟨_, fun settings => tells_pure _⟩
  | tabCount =>
      have hresult : ∀ settings, fieldText settings (noteSource stamp window tabCount) .tabCount =
          Report.ofResult (((Value.int tabCount).orElse (.int 0)).toInteger >>= writeInteger) :=
        fun settings => rfl
      cases hwritten : writeInteger tabCount with
      | error fault => exact absurd (writeInteger_eq_error_iff.mp hwritten).2 hcount
      | ok text =>
          refine ⟨text, fun settings => ?_⟩
          rw [hresult]
          exact tells_ofResult (bind_eq_ok_iff.mpr ⟨_, toInteger_count tabCount, hwritten⟩)

/-- Whether the text of a field is the given one for the template that is used, with a notice for a
template that cannot be parsed. -/
def IsFieldText (source : Source) (f : Field) (text : Option String → String) : Prop :=
  ∀ entries, Tells (fieldText (settingsUnder entries) source f) (text (usedUnder entries f))
    ((faultUnder? entries f).map .fieldTemplateFailed).toList

theorem isFieldText_of_template (htemplate : f.template? = some t)
    (hid : ∀ n, window.id = some n → ¬ IsLongInteger n) (hcount : ¬ IsLongInteger tabCount) :
    IsFieldText (noteSource stamp window tabCount) f fun used =>
      t.write ((render (used.getD "") (noteData stamp window tabCount)).toOption.getD "") := by
  intro entries
  obtain ⟨s, hs, htells⟩ := tells_renderField (isPlain_noteData stamp hid hcount)
    (exists_parse_default htemplate) (templateUnder entries t)
  rw [fieldText_eq htemplate, usedUnder, faultUnder?, htemplate, Option.map_some]
  dsimp only [Option.getD_some, Option.bind_some]
  rw [hs]
  exact htells.map t.write

/-- The text of a field depends on nothing in the preferences but the template that is used. -/
theorem exists_fieldTexts (stamp : Stamp) (hid : ∀ n, window.id = some n → ¬ IsLongInteger n)
    (hcount : ¬ IsLongInteger tabCount) :
    ∃ text : Field → Option String → String,
      ∀ f, IsFieldText (noteSource stamp window tabCount) f (text f) := by
  refine Classical.skolem.mp fun f => ?_
  cases htemplate : f.template? with
  | some t => exact ⟨_, isFieldText_of_template htemplate hid hcount⟩
  | none =>
      obtain ⟨text, htext⟩ := exists_fieldText htemplate hcount
      refine ⟨fun _ => text, fun entries => ?_⟩
      rw [faultUnder?, htemplate]
      exact htext _

end source

/-- The enabled fields are given by their names and texts, with the notices of each. -/
theorem tells_enabledFields {source : Source} {text : Field → String}
    {told : Field → List Notice}
    (h : ∀ f, Tells (fieldText (settingsUnder entries) source f) (text f) (told f))
    (fs : List Field) :
    Tells (enabledFields (settingsUnder entries) source fs)
      ((fs.filter (isOnUnder entries)).map fun f => (nameUnder entries f, text f))
      ((fs.filter (isOnUnder entries)).flatMap told) := by
  induction fs with
  | nil => exact tells_pure []
  | cons f fs ih =>
      have hon : (settingsUnder entries).isEnabled (.text f.key) = .ok (isOnUnder entries f) :=
        isEnabled_eq rfl f
      have hname : (settingsUnder entries).fieldName (.text f.key) =
          .ok (.text (nameUnder entries f)) := fieldName_eq rfl f
      rw [enabledFields]
      refine tells_ofResult_bind hon ?_
      cases hf : isOnUnder entries f with
      | false =>
          rw [List.filter_cons_of_neg (by simp [hf]), if_neg (by simp)]
          exact ih
      | true =>
          rw [List.filter_cons_of_pos hf, List.flatMap_cons, List.map_cons, if_pos rfl]
          exact tells_ofResult_bind hname (tells_bind (h f)
            (ih.map fun others => (nameUnder entries f, text f) :: others))

/-! ### The block -/

/-- The block that preferences give for some data, with the notices. -/
def composeUnder (entries : Entries) (data : Value) : Except Fault String × List Notice :=
  (Report.ofResult (Settings.ofPreferences (.map entries)) >>= compose data).outcome

/-- The lines that are written for a field alone. -/
def linesUnder (entries : Entries) (data : Value) (f : Field) : Except Fault String := do
  let settings ← Settings.ofPreferences (.map entries)
  let source ← Source.of data
  let fields ← (enabledFields settings source [f]).outcome.1
  return String.join (fields.map fun field => fieldLine field.1 field.2 ++ "\n")

/-- The block with the given lines of its fields, which is empty if there are none. -/
def blockOfLines (lines : Field → String) : String :=
  if Field.all.all fun f => lines f == "" then ""
  else "---\n" ++ String.join (Field.all.map lines) ++ "---\n"

/-- The block that preferences give for some data, and the lines of its fields. -/
structure IsBlockUnder (entries : Entries) (data : Value) (block : String)
    (lines : Field → String) : Prop where
  composed : (composeUnder entries data).1 = .ok block
  lines_eq : ∀ f, linesUnder entries data f = .ok (lines f)
  block_eq : block = blockOfLines lines

/-- What is wrong with the templates of the enabled fields, in the order of the fields. -/
def faultsUnder (entries : Entries) : List TemplateFault :=
  (Field.all.filter (isOnUnder entries)).filterMap (faultUnder? entries)

theorem blockText_eq_join {fields : List (String × String)} (h : fields ≠ []) :
    blockText fields =
      "---\n" ++ String.join (fields.map fun field => fieldLine field.1 field.2 ++ "\n") ++
        "---\n" := by
  rw [← String.toList_inj, toList_blockText h, joinLines_cons, joinLines_append]
  simp [joinLines, ruler, String.toList_join, List.flatMap_map]

/-- The block of the enabled fields has the lines of each of them. -/
theorem blockText_filter (isOn : Field → Bool) (name text : Field → String) :
    blockText ((Field.all.filter isOn).map fun f => (name f, text f)) =
      blockOfLines fun f => if isOn f then fieldLine (name f) (text f) ++ "\n" else "" := by
  have hjoin : ∀ fs : List Field,
      String.join (fs.map fun f => if isOn f then fieldLine (name f) (text f) ++ "\n" else "") =
        String.join ((fs.filter isOn).map fun f => fieldLine (name f) (text f) ++ "\n") := by
    intro fs
    induction fs with
    | nil => rfl
    | cons f fs ih =>
        cases hf : isOn f with
        | false => simp [hf, ih]
        | true => simp [hf, ih]
  have hnone : (Field.all.all fun f =>
      (if isOn f then fieldLine (name f) (text f) ++ "\n" else "") == "") = true ↔
        Field.all.filter isOn = [] := by
    rw [List.all_eq_true, List.filter_eq_nil_iff]
    refine forall₂_congr fun f _ => ?_
    cases isOn f <;> simp
  rw [blockOfLines]
  by_cases hempty : Field.all.filter isOn = []
  · rw [if_pos (hnone.mpr hempty), hempty]
    rfl
  · rw [if_neg (mt hnone.mp hempty), hjoin, blockText_eq_join (by simpa using hempty),
      List.map_map]
    rfl

section block

variable {source : Source} {data : Value} {text : Field → Option String → String}

/-- The lines of a field, by the text that it has for a template. -/
def linesWith (text : Field → Option String → String) (entries : Entries) (f : Field) : String :=
  if isOnUnder entries f then
    fieldLine (nameUnder entries f) (text f (usedUnder entries f)) ++ "\n"
  else ""

section texts

variable (h : ∀ f, IsFieldText source f (text f)) (hsource : Source.of data = .ok source)
include h hsource

/-- Preferences give a block by the texts of the fields, with a notice for each enabled field whose
template cannot be parsed. -/
theorem composeUnder_eq (entries : Entries) :
    composeUnder entries data = (.ok (blockOfLines (linesWith text entries)),
      (faultsUnder entries).map .fieldTemplateFailed) := by
  have hnotices : (Field.all.filter (isOnUnder entries)).flatMap
      (fun f => ((faultUnder? entries f).map Notice.fieldTemplateFailed).toList) =
        (faultsUnder entries).map .fieldTemplateFailed := by
    rw [faultsUnder, List.map_filterMap, List.filterMap_eq_flatMap_toList]
  have hblock := (tells_enabledFields (fun f => h f entries) Field.all).map blockText
  rw [blockText_filter, hnotices] at hblock
  have hcompose : Tells (compose data (settingsUnder entries)) _ _ :=
    tells_ofResult_bind hsource hblock
  exact (tells_ofResult_bind (ofPreferences_map entries) hcompose).outcome

theorem linesUnder_eq (entries : Entries) (f : Field) :
    linesUnder entries data f = .ok (linesWith text entries f) := by
  have hfields := (tells_enabledFields (fun f => h f entries) [f]).outcome
  rw [linesUnder, ofPreferences_map, hsource]
  show (enabledFields (settingsUnder entries) source [f]).outcome.1 >>= _ = _
  rw [hfields, linesWith]
  cases hf : isOnUnder entries f with
  | false => simp [hf, bind, Except.bind, pure, Except.pure]
  | true => simp [hf, bind, Except.bind, pure, Except.pure]

/-- A block by the lines of its fields. -/
theorem isBlockUnder (entries : Entries) :
    IsBlockUnder entries data (blockOfLines (linesWith text entries)) (linesWith text entries) where
  composed := by rw [composeUnder_eq h hsource]
  lines_eq := linesUnder_eq h hsource entries
  block_eq := rfl

end texts

/-! ### Preferences that differ in one template -/

theorem get_eq_of_agreeExcept {key name : String} (h : AgreeExcept key entries entries')
    (hname : name ≠ key) : (Value.map entries').get name = (Value.map entries).get name := by
  have hget : ∀ entries : Entries, (Value.map entries).get name =
      (Entries.get? entries name).getD .null := fun _ => rfl
  rw [hget, hget, h name hname]

/-- The preferences that give templates are those of different fields. -/
theorem eq_of_preference_eq {t' : FieldTemplate} (h : f.template? = some t)
    (h' : g.template? = some t') (heq : t'.preference = t.preference) : g = f := by
  cases f <;> cases h <;> cases g <;> cases h'
  all_goals first
    | rfl
    | exact absurd heq (by decide)

/-- Such preferences have the same lines for every field but the one with the template, and for it
too if the templates that are used agree. -/
theorem linesWith_congr (h : f.template? = some t)
    (hagree : AgreeExcept t.preference entries entries') (g : Field)
    (hg : g ≠ f ∨ usedUnder entries' f = usedUnder entries f) :
    linesWith text entries' g = linesWith text entries g := by
  have hother : "frontmatterFieldNames" ≠ t.preference ∧
      "frontmatterEnabledFields" ≠ t.preference := by
    cases f <;> cases h <;> decide
  have hused : usedUnder entries' g = usedUnder entries g := by
    rcases eq_or_ne g f with rfl | hne
    · exact hg.resolve_left (fun hne => hne rfl)
    · unfold usedUnder templateUnder
      cases hother : g.template? with
      | none => rfl
      | some t' =>
          have hpreference : t'.preference ≠ t.preference :=
            fun heq => hne (eq_of_preference_eq h hother heq)
          rw [Option.map_some, Option.map_some, get_eq_of_agreeExcept hagree hpreference]
  unfold linesWith isOnUnder nameUnder
  rw [hused, get_eq_of_agreeExcept hagree hother.1, get_eq_of_agreeExcept hagree hother.2]

end block

/-- Whatever the preferences are, there is a block, with one notice for each enabled field whose
template cannot be parsed, in the order of the fields.  Preferences that differ in the template of
one field only give blocks with the same lines of every other field, and the same block if one has a
template that cannot be parsed and the other one the default.  The bound on the number of tabs leaves
out no list of tabs that fits into memory. -/
theorem composeUnder_independent {window : Window} {tabCount : Nat}
    (hid : ∀ n, window.id = some n → ¬ IsLongInteger n) (hcount : ¬ IsLongInteger tabCount)
    (stamp : Stamp) (entries : Entries) :
    ∃ block lines, IsBlockUnder entries (noteData stamp window tabCount) block lines ∧
      (composeUnder entries (noteData stamp window tabCount)).2.map Notice.message =
        (faultsUnder entries).map (fun cause =>
          "warn: frontmatter template failed (" ++ cause.message ++ "); using default") ∧
      ∀ f t, f.template? = some t → ∀ entries', AgreeExcept t.preference entries entries' →
        ∃ block' lines', IsBlockUnder entries' (noteData stamp window tabCount) block' lines' ∧
          (∀ g, g ≠ f → lines' g = lines g) ∧
          ∀ s fault, (Value.map entries).get t.preference = .text s →
            parse s defaultDepth = .error fault → templateUnder entries' t = t.default →
            block' = block := by
  have hsource := source_of_noteData stamp window tabCount
  obtain ⟨text, htext⟩ := exists_fieldTexts stamp hid hcount
  refine ⟨_, _, isBlockUnder htext hsource entries, ?_, fun f t htemplate entries' hagree => ?_⟩
  · rw [composeUnder_eq htext hsource, List.map_map]
    rfl
  · refine ⟨_, _, isBlockUnder htext hsource entries', fun g hg => ?_, ?_⟩
    · exact linesWith_congr htemplate hagree g (.inl hg)
    · intro s fault hs hparse hdefault
      obtain ⟨ts, hts⟩ := exists_parse_default htemplate
      have hused : usedUnder entries' f = usedUnder entries f := by
        rw [usedUnder, usedUnder, htemplate, Option.map_some, Option.map_some, hdefault,
          templateUnder_eq htemplate hs hparse, usedTemplate, usedTemplate, hparse, hts]
      have hlines : linesWith text entries' = linesWith text entries :=
        funext fun g => linesWith_congr htemplate hagree g (.inr hused)
      rw [hlines]

/-- A template with a section that is not closed. -/
def unclosed : String := "\x7b\x7b#oops\x7d\x7d"

theorem parse_unclosed : parse unclosed defaultDepth = .error (.notClosed "oops") := by
  have hcut : cutAt tagOpen unclosed.toList = some ([], "#oops\x7d\x7d".toList) := rfl
  have htag : readTag "#oops\x7d\x7d".toList = .ok (.opening false "oops", []) := rfl
  have hinside : parseRest defaultDepth (some "oops") 1 [] = .error (.notClosed "oops") := by
    rw [parseRest_eq]
    rfl
  rw [parse_eq_map_parseRest, parseRest_eq, hcut]
  simp only [htag]
  rw [if_neg (by decide), if_neg (by decide), hinside]
  rfl

/-- Preferences with such a template for the title; they do not write the tags, whose template is
not closed either. -/
def unclosedPreferences : Entries :=
  [(.text "frontmatterTitleTemplate", .text unclosed),
    (.text "frontmatterTagsTemplate", .text unclosed),
    (.text "frontmatterEnabledFields", .record [("tags", .bool false)])]

def plainWindow : Window := ⟨some 1, "Work", true, false⟩

/-- The title is reported, and the block is that of preferences without a title. -/
theorem composeUnder_independent_unclosed :
    let data := noteData newMillenniumStamp plainWindow 2
    ∃ block, (composeUnder unclosedPreferences data).1 = .ok block ∧
      (composeUnder unclosedPreferences data).2.map Notice.message =
        ["warn: frontmatter template failed (Section \"oops\" was not closed.); using default"] ∧
      (composeUnder unclosedPreferences.tail data).1 = .ok block := by
  intro data
  have hid : ∀ n, plainWindow.id = some n → ¬ IsLongInteger n := by
    rintro _ ⟨⟩
    exact not_isLongInteger_of_lt (by decide)
  have hcount : ¬ IsLongInteger (2 : Nat) := not_isLongInteger_of_lt (by decide)
  have hfilter : Field.all.filter (isOnUnder unclosedPreferences) =
      [.title, .date, .time, .exportedAt, .tabCount, .incognito, .collections] := rfl
  have htitle : faultUnder? unclosedPreferences .title = some (.malformed (.notClosed "oops")) := by
    show templateFault? unclosed = _
    rw [templateFault?, parse_unclosed]
  have hcollections : faultUnder? unclosedPreferences .collections = none := by
    show templateFault? "" = none
    rw [templateFault?, parse_of_not_tagOpen (by decide)]
  have hfaults : faultsUnder unclosedPreferences = [.malformed (.notClosed "oops")] := by
    rw [faultsUnder, hfilter]
    simp only [List.filterMap_cons, htitle, hcollections]
    rfl
  have hagree : AgreeExcept "frontmatterTitleTemplate" unclosedPreferences
      unclosedPreferences.tail := by
    intro other hother
    have hkey : ("frontmatterTitleTemplate" == other) = false := beq_false_of_ne (Ne.symm hother)
    rw [unclosedPreferences, Entries.get?, hkey]
    rfl
  obtain ⟨block, lines, hblock, hnotices, hothers⟩ :=
    composeUnder_independent hid hcount newMillenniumStamp unclosedPreferences
  obtain ⟨block', lines', hblock', -, hsame⟩ := hothers .title _ rfl _ hagree
  obtain rfl := hsame unclosed _ rfl parse_unclosed rfl
  rw [hfaults] at hnotices
  exact ⟨_, hblock.composed, hnotices, hblock'.composed⟩

end TabNotes.Frontmatter
