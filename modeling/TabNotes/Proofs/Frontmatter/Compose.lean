import Mathlib.Data.List.Basic
import Mathlib.Data.List.Forall2
import TabNotes.Note.Context
import TabNotes.Proofs.Frontmatter.BlockReader
import TabNotes.Proofs.Frontmatter.Items
import TabNotes.Proofs.Runs
import TabNotes.Proofs.Template.Output
import TabNotes.Proofs.Template.Reading
import TabNotes.Proofs.Text.Blank

/-! # What a frontmatter block says

`readingOf` says what each field of a block should say.  `readBlock_compose` states that a block
that is composed under settings from preferences is read as exactly its enabled fields: no text that
a template or a window gives can end a scalar, a field or the block. -/

namespace TabNotes.Frontmatter

open TabNotes.Text TabNotes.Template TabNotes.Number TabNotes.Tab TabNotes.Note

/-! ### Settings from preferences -/

section settings

variable {preferences : Value} {settings : Settings}

theorem isFieldName_resolveName (names : Value) (f : Field) :
    isFieldName (resolveName names f) = true := by
  rw [resolveName]
  split
  · assumption
  · cases f <;> decide

theorem parts_of_ofPreferences (h : Settings.ofPreferences preferences = .ok settings) :
    ∃ names flags : Value, settings.fieldNames = resolveNames names ∧
      settings.enabled = resolveEnabled flags := by
  unfold Settings.ofPreferences at h
  obtain ⟨tags, -, h⟩ := bind_eq_ok_iff.mp h
  cases h
  exact ⟨_, _, rfl, rfl⟩

/-- Whether a field is written is what the preferences say. -/
theorem isEnabled_eq {flags : Value} (h : settings.enabled = resolveEnabled flags) (f : Field) :
    settings.isEnabled (.text f.key) = .ok (resolveEnabledField flags f) := by
  unfold Settings.isEnabled
  rw [h]
  cases f <;> rfl

theorem isEnabled_of_ofPreferences (h : Settings.ofPreferences preferences = .ok settings) :
    ∃ isOn : Field → Bool, ∀ f, settings.isEnabled (.text f.key) = .ok (isOn f) := by
  obtain ⟨names, flags, -, hflags⟩ := parts_of_ofPreferences h
  exact ⟨resolveEnabledField flags, isEnabled_eq hflags⟩

/-- The name of a field is the one that the preferences give. -/
theorem fieldName_eq {names : Value} (h : settings.fieldNames = resolveNames names) (f : Field) :
    settings.fieldName (.text f.key) = .ok (.text (resolveName names f)) := by
  have hvalue : Settings.valueOf settings.fieldNames (.text f.key) =
      .ok (.text (resolveName names f)) := by
    rw [h]
    cases f <;> rfl
  have htrue : (Value.text (resolveName names f)).isTrue = true := by
    have hname := isFieldName_resolveName names f
    rw [isFieldName, Bool.and_eq_true] at hname
    exact hname.1
  unfold Settings.fieldName
  rw [bind_eq_ok_iff]
  refine ⟨_, hvalue, ?_⟩
  rw [if_pos htrue]
  rfl

/-- Every field has a name under settings from preferences. -/
theorem fieldName_of_ofPreferences (h : Settings.ofPreferences preferences = .ok settings) :
    ∃ name : Field → String, ∀ f, isFieldName (name f) = true ∧
      settings.fieldName (.text f.key) = .ok (.text (name f)) := by
  obtain ⟨names, flags, hnames, -⟩ := parts_of_ofPreferences h
  exact ⟨resolveName names, fun f => ⟨isFieldName_resolveName names f, fieldName_eq hnames f⟩⟩

end settings

/-! ### What fields say -/

/-- A text with all its line breaks read as `\n`. -/
def unifyBreaks (s : String) : String := String.ofList (unifyLineBreaks s.toList)

/-- The rendered template of a field, or the default one where the template fails. -/
def renderedField (template : Value) (default : String) (data : Value) : Except Fault String :=
  match renderValue template data with
  | .error (.template _) => render default data
  | result => result

/-- What a field says. -/
def readingOf (settings : Settings) (exported : Value) (window : Window) (tabCount : Nat) :
    Field → Except Fault Reading :=
  let data := frontmatterData exported window.toValue tabCount
  let shown (name : String) := Scalar.text (unifyBreaks (exported.get name).textOrEmpty)
  fun
  | .title => do
    let title ← renderedField settings.titleTemplate defaultTitle data
    return .scalar (.text (unifyBreaks (trim title)))
  | .date => return .scalar (shown "localDate")
  | .time => return .scalar (shown "localTime")
  | .exportedAt => return .scalar (shown "iso")
  | .tabCount => return .scalar (.count tabCount)
  | .incognito => return .scalar (.flag window.incognito)
  | .tags => do
    let tags ← renderedField settings.tagsTemplate defaultTags data
    return .list ((splitList tags).map .text)
  | .collections => do
    let collections ← renderedField settings.collectionsTemplate defaultCollections data
    return .list ((splitList collections).map .text)

/-! ### How fields are written -/

/-- A text that, as the value of a field, is written in the lines of a reading. -/
def Writes (text : String) (r : Reading) : Prop :=
  ∀ name, (fieldLine name text).toList ++ ['\n'] = joinLines (fieldLines name r)

theorem writes_scalar {text : String} {s : Scalar} (h : text.toList = s.chars) :
    Writes text (.scalar s) := by
  intro name
  have hbegins : beginsWith "\n" text = false := by
    rw [beginsWith, h]
    cases hchars : s.chars with
    | nil => rfl
    | cons c cs =>
        have hc : '\n' ≠ c := by
          rintro rfl
          exact not_mem_chars s (hchars ▸ List.mem_cons_self)
        simp [List.isPrefixOf, hc]
  rw [fieldLine, hbegins, if_neg (by simp), fieldLines, String.toList_append, String.toList_append, h]
  simp [joinLines]

theorem writes_quoteScalar (s : String) : Writes (quoteScalar s) (.scalar (.text (unifyBreaks s))) :=
  writes_scalar (toList_quoteScalar s)

/-- Items without carriage returns are written in a line each, below the name. -/
theorem writes_listText {items : List String} (h : ∀ item ∈ items, '\r' ∉ item.toList) :
    Writes (listText items) (.list (items.map .text)) := by
  intro name
  cases items with
  | nil =>
      have hline : fieldLine name (listText []) = name ++ ": " ++ "[]" := rfl
      rw [hline, List.map_nil, fieldLines]
      simp [joinLines]
  | cons item items =>
      have htext : (listText (item :: items)).toList =
          (item :: items).flatMap fun i => '\n' :: itemLine (.text i) := by
        rw [listText, if_neg (by simp), String.toList_join, List.flatMap_map]
        refine List.flatMap_congr fun i hi => ?_
        rw [String.toList_append, toList_quoteScalar, unifyLineBreaks_of_not_mem (h i hi),
          String.ofList_toList]
        rfl
      have hbegins : beginsWith "\n" (listText (item :: items)) = true := by
        rw [beginsWith, htext]
        rfl
      have hlines : fieldLines name (.list ((item :: items).map .text)) =
          (name.toList ++ [':']) :: (item :: items).map fun i => itemLine (.text i) := by
        rw [List.map_cons, fieldLines, ← List.map_cons, List.map_map]
        rfl
      rw [fieldLine, hbegins, if_pos rfl, String.toList_append, htext, String.toList_append, hlines,
        joinLines_cons_map]
      rfl

theorem not_mem_splitList (rendered : String) : ∀ item ∈ splitList rendered, '\r' ∉ item.toList :=
  fun _ hitem hmem => ((isItem_of_mem_splitList hitem).whole '\r' hmem).2.1 rfl

/-! ### Running the fields -/

theorem renderedField_of_run {template data : Value} {default s : String} {notices notices' : List Notice}
    (h : (renderField template default data).run.run notices = (.ok s, notices')) :
    renderedField template default data = .ok s := by
  rw [renderField, run_orDefault] at h
  unfold renderedField
  split at h
  · rename_i cause hrender
    rw [hrender]
    exact congrArg Prod.fst h
  · rename_i hrender
    split
    · rename_i cause htemplate
      exact absurd htemplate (hrender cause)
    · exact congrArg Prod.fst h

/-- A value that is written as a text, null as the empty one. -/
def IsTextOrNull (v : Value) : Prop := v = .null ∨ ∃ s, v = .text s

theorem scalar_of_isTextOrNull {v : Value} (h : IsTextOrNull v) :
    scalar v = .ok (quoteScalar v.textOrEmpty) := by
  rcases h with rfl | ⟨s, rfl⟩ <;> rfl

/-- The entries of the export that fields show. -/
def shownEntries : List String := ["localDate", "localTime", "iso"]

section fields

variable {settings : Settings} {entries : Entries} {window : Window} {tabCount : Nat}

/-- The source of a block, as it is found in the data for templates. -/
def sourceOf (entries : Entries) (window : Window) (tabCount : Nat) : Source :=
  ⟨frontmatterData (.map entries) window.toValue tabCount, (Value.map entries).orElse (.map []),
    window.toValue⟩

theorem source_of_frontmatterData (entries : Entries) (window : Window) (tabCount : Nat) :
    Source.of (frontmatterData (.map entries) window.toValue tabCount) =
      .ok (sourceOf entries window tabCount) := rfl

theorem field_orElse (entries : Entries) (name : String) :
    ((Value.map entries).orElse (.map [])).field name = .ok ((Value.map entries).get name) := by
  cases entries <;> rfl

theorem writes_exportedEntry {name text : String} {notices notices' : List Notice}
    (hentry : IsTextOrNull ((Value.map entries).get name))
    (h : (exportedEntry (sourceOf entries window tabCount) name).run.run notices =
      (.ok text, notices')) :
    Writes text (.scalar (.text (unifyBreaks ((Value.map entries).get name).textOrEmpty))) := by
  have hresult : (exportedEntry (sourceOf entries window tabCount) name).run.run notices =
      (.ok (quoteScalar ((Value.map entries).get name).textOrEmpty), notices) := by
    rw [exportedEntry, run_ofResult, sourceOf, field_orElse, ← scalar_of_isTextOrNull hentry]
    rfl
  rw [hresult] at h
  cases h
  exact writes_quoteScalar _

theorem writeInteger_eq_ok {n : Int} {s : String} (h : writeInteger n = .ok s) : s = toString n := by
  unfold writeInteger at h
  split at h
  · exact (Except.ok.inj h).symm
  · cases h

/-- The number of tabs is taken as it is, zero too. -/
theorem toInteger_count (n : Nat) :
    ((Value.int n).orElse (.int 0)).toInteger = .ok (n : Int) := by
  cases n <;> rfl

theorem writes_tabCount {text : String} {notices notices' : List Notice}
    (h : (fieldText settings (sourceOf entries window tabCount) .tabCount).run.run notices =
      (.ok text, notices')) :
    Writes text (.scalar (.count tabCount)) := by
  have hresult : (fieldText settings (sourceOf entries window tabCount) .tabCount).run.run notices =
      (((Value.int tabCount).orElse (.int 0)).toInteger >>= writeInteger, notices) := rfl
  rw [hresult] at h
  obtain ⟨n, hn, hwritten⟩ := bind_eq_ok_iff.mp (Prod.mk.inj h).1
  obtain rfl : tabCount = n := Except.ok.inj ((toInteger_count tabCount).symm.trans hn)
  obtain rfl := writeInteger_eq_ok hwritten
  exact writes_scalar Nat.toList_repr

theorem writes_incognito {text : String} {notices notices' : List Notice}
    (h : (fieldText settings (sourceOf entries window tabCount) .incognito).run.run notices =
      (.ok text, notices')) :
    Writes text (.scalar (.flag window.incognito)) := by
  have hresult : (fieldText settings (sourceOf entries window tabCount) .incognito).run.run notices =
      (.ok (if window.incognito then "true" else "false"), notices) := rfl
  rw [hresult] at h
  cases h
  exact writes_scalar (by cases window.incognito <;> rfl)

/-- A field whose text is there is written in the lines of what it says. -/
theorem writes_fieldText (hexported : ∀ name ∈ shownEntries, IsTextOrNull ((Value.map entries).get name))
    {f : Field} {text : String} {notices notices' : List Notice}
    (h : (fieldText settings (sourceOf entries window tabCount) f).run.run notices =
      (.ok text, notices')) :
    ∃ r, readingOf settings (.map entries) window tabCount f = .ok r ∧ Writes text r := by
  cases f with
  | title =>
      obtain ⟨title, _, hrun, h⟩ := run_bind_eq_ok_iff.mp h
      cases h
      refine ⟨_, ?_, writes_quoteScalar (trim title)⟩
      exact congrArg (· >>= _) (renderedField_of_run hrun)
  | date => exact ⟨_, rfl, writes_exportedEntry (hexported _ (by simp [shownEntries])) h⟩
  | time => exact ⟨_, rfl, writes_exportedEntry (hexported _ (by simp [shownEntries])) h⟩
  | exportedAt => exact ⟨_, rfl, writes_exportedEntry (hexported _ (by simp [shownEntries])) h⟩
  | tabCount => exact ⟨_, rfl, writes_tabCount h⟩
  | incognito => exact ⟨_, rfl, writes_incognito h⟩
  | tags =>
      obtain ⟨tags, _, hrun, h⟩ := run_bind_eq_ok_iff.mp h
      cases h
      refine ⟨_, ?_, writes_listText (not_mem_splitList tags)⟩
      exact congrArg (· >>= _) (renderedField_of_run hrun)
  | collections =>
      obtain ⟨collections, _, hrun, h⟩ := run_bind_eq_ok_iff.mp h
      cases h
      refine ⟨_, ?_, writes_listText (not_mem_splitList collections)⟩
      exact congrArg (· >>= _) (renderedField_of_run hrun)

/-- A field with its name and text, which is written in the lines of what the field says. -/
def IsWritten (settings : Settings) (entries : Entries) (window : Window) (tabCount : Nat)
    (name : Field → String) (f : Field) (written : String × String) : Prop :=
  written.1 = name f ∧
    ∃ r, readingOf settings (.map entries) window tabCount f = .ok r ∧ Writes written.2 r

/-- The enabled fields are written, in their order. -/
theorem isWritten_enabledFields {isOn : Field → Bool} {name : Field → String}
    (hexported : ∀ name ∈ shownEntries, IsTextOrNull ((Value.map entries).get name))
    (hon : ∀ f, settings.isEnabled (.text f.key) = .ok (isOn f))
    (hname : ∀ f, settings.fieldName (.text f.key) = .ok (.text (name f))) {fs : List Field}
    {fields : List (String × String)} {notices notices' : List Notice}
    (h : (enabledFields settings (sourceOf entries window tabCount) fs).run.run notices =
      (.ok fields, notices')) :
    List.Forall₂ (IsWritten settings entries window tabCount name) (fs.filter isOn) fields := by
  induction fs generalizing fields notices with
  | nil =>
      cases h
      exact .nil
  | cons f fs ih =>
      rw [enabledFields] at h
      obtain ⟨on, hon', h⟩ := run_ofResult_bind_eq_ok_iff.mp h
      obtain rfl : isOn f = on := Except.ok.inj ((hon f).symm.trans hon')
      cases hf : isOn f with
      | false =>
          rw [hf, if_neg (by simp)] at h
          rw [List.filter_cons_of_neg (by simp [hf])]
          exact ih h
      | true =>
          rw [hf, if_pos rfl] at h
          obtain ⟨shown, hshown, h⟩ := run_ofResult_bind_eq_ok_iff.mp h
          obtain rfl : Value.text (name f) = shown := Except.ok.inj ((hname f).symm.trans hshown)
          obtain ⟨text, _, htext, h⟩ := run_bind_eq_ok_iff.mp h
          obtain ⟨others, _, hothers, h⟩ := run_bind_eq_ok_iff.mp h
          cases h
          rw [List.filter_cons_of_pos hf]
          exact .cons ⟨rfl, writes_fieldText hexported htext⟩ (ih hothers)

end fields

/-! ### The block -/

theorem toList_blockText {fields : List (String × String)} (h : fields ≠ []) :
    (blockText fields).toList =
      joinLines (ruler :: (fields.map (fun f => (fieldLine f.1 f.2).toList) ++ [ruler])) := by
  rw [blockText, if_neg (by simpa using h), String.toList_append, String.toList_intercalate,
    show "\n".toList = ['\n'] from rfl, intercalate_append_singleton (by simp)]
  simp [ruler, Function.comp_def]

theorem blockText_eq_empty_iff {fields : List (String × String)} :
    blockText fields = "" ↔ fields = [] := by
  constructor
  · intro h
    cases fields with
    | nil => rfl
    | cons field fields =>
        have hlist := toList_blockText (List.cons_ne_nil field fields)
        rw [h] at hlist
        cases hlist
  · rintro rfl
    rfl

section block

variable {settings : Settings} {entries : Entries} {window : Window} {tabCount : Nat}
  {name : Field → String} {fs : List Field} {fields : List (String × String)}

theorem exists_reading (h : List.Forall₂ (IsWritten settings entries window tabCount name) fs fields) :
    ∃ reading : Field → Reading,
      ∀ f ∈ fs, readingOf settings (.map entries) window tabCount f = .ok (reading f) := by
  refine ⟨fun f => ((readingOf settings (.map entries) window tabCount f).toOption).getD (.list []),
    fun f hf => ?_⟩
  induction h with
  | nil => cases hf
  | cons hwritten _ ih =>
      rcases List.mem_cons.mp hf with rfl | hf
      · obtain ⟨-, r, hr, -⟩ := hwritten
        simp only [hr]
        rfl
      · exact ih hf

/-- Fields that are written have the lines of what they say. -/
theorem joinLines_fields {reading : Field → Reading}
    (h : List.Forall₂ (IsWritten settings entries window tabCount name) fs fields)
    (hreading : ∀ f ∈ fs, readingOf settings (.map entries) window tabCount f = .ok (reading f)) :
    joinLines (fields.map fun f => (fieldLine f.1 f.2).toList) =
      joinLines ((fs.map fun f => (name f, reading f)).flatMap fun f => fieldLines f.1 f.2) := by
  induction h with
  | nil => rfl
  | @cons f written fs fields hwritten _ ih =>
      obtain ⟨hname, r, hr, hwrites⟩ := hwritten
      obtain rfl : r = reading f := Except.ok.inj (hr.symm.trans (hreading f (by simp)))
      rw [List.map_cons, joinLines_cons, List.map_cons, List.flatMap_cons, joinLines_append,
        ih fun g hg => hreading g (by simp [hg]), hname, hwrites]

/-- The block of fields that are written is read as what they say. -/
theorem readBlock_blockText {reading : Field → Reading}
    (h : List.Forall₂ (IsWritten settings entries window tabCount name) fs fields)
    (hreading : ∀ f ∈ fs, readingOf settings (.map entries) window tabCount f = .ok (reading f))
    (hname : ∀ f, isFieldName (name f) = true) (hne : fields ≠ []) :
    readBlock (blockText fields) = some (fs.map fun f => (name f, reading f)) := by
  refine readBlock_of_lines ?_ ?_
  · intro written hwritten
    obtain ⟨f, -, rfl⟩ := List.mem_map.mp hwritten
    exact hname f
  · rw [toList_blockText hne, joinLines_cons, joinLines_append, joinLines_fields h hreading,
      ← joinLines_append, ← joinLines_cons]

end block

/-- A block that is composed under settings from preferences is empty if no field is enabled, and is
read as the enabled fields otherwise. -/
theorem readBlock_compose {preferences : Value} {settings : Settings} {entries : Entries}
    {window : Window} {tabCount : Nat} {s : String} {notices : List Notice}
    (hsettings : Settings.ofPreferences preferences = .ok settings)
    (hexported : ∀ name ∈ shownEntries, IsTextOrNull ((Value.map entries).get name))
    (h : (compose (frontmatterData (.map entries) window.toValue tabCount) settings).outcome =
      (.ok s, notices)) :
    ∃ (isOn : Field → Bool) (name : Field → String) (reading : Field → Reading),
      (∀ f, settings.isEnabled (.text f.key) = .ok (isOn f)) ∧
      (∀ f, settings.fieldName (.text f.key) = .ok (.text (name f))) ∧
      (∀ f, isOn f = true →
        readingOf settings (.map entries) window tabCount f = .ok (reading f)) ∧
      (s = "" ↔ ∀ f, isOn f = false) ∧
      (s ≠ "" → readBlock s = some ((Field.all.filter isOn).map fun f => (name f, reading f))) := by
  obtain ⟨isOn, hon⟩ := isEnabled_of_ofPreferences hsettings
  obtain ⟨name, hname⟩ := fieldName_of_ofPreferences hsettings
  obtain ⟨source, hsource, h⟩ := run_ofResult_bind_eq_ok_iff.mp h
  obtain rfl : sourceOf entries window tabCount = source := Except.ok.inj hsource
  obtain ⟨fields, _, hfields, h⟩ := run_bind_eq_ok_iff.mp h
  cases h
  have hwritten := isWritten_enabledFields hexported hon (fun f => (hname f).2) hfields
  obtain ⟨reading, hreading⟩ := exists_reading hwritten
  have hmem : ∀ f, f ∈ Field.all.filter isOn ↔ isOn f = true := by
    intro f
    rw [List.mem_filter, and_iff_right]
    cases f <;> decide
  have hnone : fields = [] ↔ ∀ f, isOn f = false := by
    rw [← List.length_eq_zero_iff, ← hwritten.length_eq, List.length_eq_zero_iff,
      List.eq_nil_iff_forall_not_mem]
    simp only [hmem, Bool.not_eq_true]
  refine ⟨isOn, name, reading, hon, fun f => (hname f).2, fun f hf => hreading f ((hmem f).mpr hf),
    blockText_eq_empty_iff.trans hnone, fun hne => ?_⟩
  refine readBlock_blockText hwritten hreading (fun f => (hname f).1) fun hnil => ?_
  exact hne (blockText_eq_empty_iff.mpr hnil)

/-- Preferences that write two fields: the window's title, under the name `---`, and whether the
window is private. -/
def rulerPreferences : Value :=
  .record [
    ("frontmatterFieldNames", .record [("title", .text "---")]),
    ("frontmatterEnabledFields", .record [("date", .bool false), ("time", .bool false),
      ("exportedAt", .bool false), ("tabCount", .bool false), ("tags", .bool false),
      ("collections", .bool false)]),
    ("frontmatterTitleTemplate", .text (rawTag "window.title"))]

def rulerSettings : Settings :=
  ⟨resolveNames (rulerPreferences.get "frontmatterFieldNames"),
    resolveEnabled (rulerPreferences.get "frontmatterEnabledFields"), .text (rawTag "window.title"),
    .text defaultTags, .text defaultCollections⟩

/-- A window whose title has three lines. -/
def rulerWindow : Window := ⟨none, " \"\r\n---\r\\n", true, false⟩

theorem run_renderField_ruler :
    (renderField rulerSettings.titleTemplate defaultTitle
      (frontmatterData (.map []) rulerWindow.toValue 0)).run.run [] = (.ok rulerWindow.title, []) := by
  have hparse : parse (rawTag "window.title") defaultDepth = .ok [.raw "window.title"] := by
    rw [parse_eq_ok_iff]
    refine (?_ : Reads defaultDepth none 0 _ (literal [] ++ ([.raw "window.title"] ++ literal [])) [])
    exact .leaf rfl rfl (.finish rfl)
  have hrender : render (rawTag "window.title") (frontmatterData (.map []) rulerWindow.toValue 0) =
      .ok rulerWindow.title := by
    rw [render_eq, hparse]
    rfl
  rw [renderField, run_orDefault, rulerSettings, ← render, hrender]

/-- A line of the title that is a ruler ends neither the field nor the block. -/
theorem readBlock_compose_ruler :
    ∃ s, Settings.ofPreferences rulerPreferences = .ok rulerSettings ∧
      (compose (frontmatterData (.map []) rulerWindow.toValue 0) rulerSettings).outcome =
        (.ok s, []) ∧
      readBlock s = some [("---", .scalar (.text "\"\n---\n\\n")),
        ("window_incognito", .scalar (.flag false))] := by
  have hsettings : Settings.ofPreferences rulerPreferences = .ok rulerSettings := rfl
  have hempty : ∀ name ∈ shownEntries, IsTextOrNull ((Value.map []).get name) :=
    fun _ _ => .inl rfl
  let fields := [("---", quoteScalar (trim rulerWindow.title)), ("window_incognito", "false")]
  have hcompose : (compose (frontmatterData (.map []) rulerWindow.toValue 0) rulerSettings).outcome =
      (.ok (blockText fields), []) := by
    refine run_ofResult_bind_eq_ok_iff.mpr ⟨_, source_of_frontmatterData [] rulerWindow 0, ?_⟩
    refine run_bind_eq_ok_iff.mpr ⟨fields, [], ?_, rfl⟩
    refine run_ofResult_bind_eq_ok_iff.mpr ⟨true, rfl, ?_⟩
    refine run_ofResult_bind_eq_ok_iff.mpr ⟨.text "---", rfl, ?_⟩
    exact run_bind_eq_ok_iff.mpr
      ⟨_, [], run_bind_eq_ok_iff.mpr ⟨_, [], run_renderField_ruler, rfl⟩, rfl⟩
  obtain ⟨isOn, name, reading, hon, hname, hreading, -, hread⟩ :=
    readBlock_compose hsettings hempty hcompose
  have hisOn : isOn = fun f => decide (f ∈ [Field.title, .incognito]) := by
    funext f
    have hf : rulerSettings.isEnabled (.text f.key) =
        .ok (decide (f ∈ [Field.title, .incognito])) := by
      cases f <;> rfl
    exact Except.ok.inj ((hon f).symm.trans hf)
  subst hisOn
  have htitleName : name .title = "---" :=
    Value.text.inj (Except.ok.inj ((hname .title).symm.trans rfl))
  have hincognitoName : name .incognito = "window_incognito" :=
    Value.text.inj (Except.ok.inj ((hname .incognito).symm.trans rfl))
  have hrendered : readingOf rulerSettings (.map []) rulerWindow 0 .title =
      .ok (.scalar (.text (unifyBreaks (trim rulerWindow.title)))) :=
    congrArg (· >>= _) (renderedField_of_run run_renderField_ruler)
  have htitle : reading .title = .scalar (.text (unifyBreaks (trim rulerWindow.title))) :=
    Except.ok.inj ((hreading .title rfl).symm.trans hrendered)
  have hshown : unifyBreaks (trim rulerWindow.title) = "\"\n---\n\\n" := by decide
  have hincognito : reading .incognito = .scalar (.flag false) :=
    Except.ok.inj ((hreading .incognito rfl).symm.trans rfl)
  have hfields : (Field.all.filter fun f => decide (f ∈ [Field.title, .incognito])) =
      [.title, .incognito] := rfl
  have hblock := hread (by decide)
  rw [hfields, List.map_cons, List.map_cons, List.map_nil, htitleName, hincognitoName, htitle,
    hincognito, hshown] at hblock
  exact ⟨_, hsettings, hcompose, hblock⟩

end TabNotes.Frontmatter
