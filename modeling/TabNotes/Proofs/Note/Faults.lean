import TabNotes.Proofs.Frontmatter.Compose
import TabNotes.Proofs.Note.Derivation
import TabNotes.Proofs.Note.Fallback

/-! # What stops a note

A note under settings from preferences fails for the value of something that it is made from, or
because its moment lies outside of the calendar, or because the time of a tab's last access cannot
be shown.  `outcome_format_eq_error_iff` says when it fails for the last two. -/

namespace TabNotes

variable {α β : Type} {result : Except Fault α}

/-- A result whose faults are those of values. -/
def FailsByValue (result : Except Fault α) : Prop :=
  ∀ fault, result = .error fault → fault.kind.isValueKind = true

theorem failsByValue_ok (a : α) : FailsByValue (.ok a : Except Fault α) := by
  rintro _ ⟨⟩

theorem failsByValue_bind {next : α → Except Fault β} (h : FailsByValue result)
    (hnext : ∀ a, result = .ok a → FailsByValue (next a)) : FailsByValue (result >>= next) := by
  intro fault hfault
  rcases bind_eq_error_iff.mp hfault with hfault | ⟨a, ha, hfault⟩
  · exact h fault hfault
  · exact hnext a ha fault hfault

theorem Template.FailsAsTemplate.failsByValue (h : Template.FailsAsTemplate result) :
    FailsByValue result := by
  intro fault hfault
  rcases h fault hfault with ⟨cause, rfl⟩ | hdigits
  · cases cause <;> rfl
  · cases fault with
    | tooManyDigits count => rfl
    | tooLongToWrite => rfl
    | _ => exact absurd hdigits id

/-! ### Reports -/

/-- A report whose faults are those of values, whatever it has told before. -/
def ReportsByValue (r : Report α) : Prop := ∀ notices, FailsByValue (r.run.run notices).1

theorem reportsByValue_pure (a : α) : ReportsByValue (pure a : Report α) :=
  fun _ => failsByValue_ok a

theorem reportsByValue_ofResult (h : FailsByValue result) :
    ReportsByValue (Report.ofResult result) := fun _ => h

theorem reportsByValue_bind {r : Report α} {next : α → Report β} (h : ReportsByValue r)
    (hnext : ∀ a, ReportsByValue (next a)) : ReportsByValue (r >>= next) := by
  intro notices fault hfault
  have hfirst := h notices
  rw [run_bind] at hfault
  rcases hrun : r.run.run notices with ⟨other | a, left⟩
  · rw [hrun] at hfault hfirst
    cases hfault
    exact hfirst fault rfl
  · rw [hrun] at hfault
    exact hnext a left fault hfault

theorem reportsByValue_ok_bind {a : α} {next : α → Report β} (h : ReportsByValue (next a)) :
    ReportsByValue (Report.ofResult (.ok a) >>= next) := h

theorem reportsByValue_orDefault {notice : TemplateFault → Notice}
    {result fallback : Except Fault α} (h : FailsByValue result) (hfallback : FailsByValue fallback) :
    ReportsByValue (Report.orDefault notice result fallback) := by
  intro notices
  rw [run_orDefault]
  split
  · exact hfallback
  · exact h

theorem outcome_ofResult_bind_eq_error_iff {next : α → Report β} {fault : Fault} :
    (Report.ofResult result >>= next).outcome.1 = .error fault ↔
      result = .error fault ∨ ∃ a, result = .ok a ∧ (next a).outcome.1 = .error fault := by
  rw [← bind_eq_error_iff]
  cases result <;> exact Iff.rfl

/-- What comes after a report does not add faults other than those of values. -/
theorem outcome_bind_eq_error_iff {r : Report α} {next : α → Report β} {fault : Fault}
    (hnext : ∀ a, ReportsByValue (next a)) (hkind : fault.kind.isValueKind = false) :
    (r >>= next).outcome.1 = .error fault ↔ r.outcome.1 = .error fault := by
  rw [Report.outcome, Report.outcome, run_bind]
  rcases r.run.run [] with ⟨other | a, notices⟩
  · constructor
    · rintro ⟨⟩
      rfl
    · rintro ⟨⟩
      rfl
  · constructor
    · intro h
      rw [hnext a notices fault h] at hkind
      cases hkind
    · rintro ⟨⟩

end TabNotes

/-! ### The frontmatter block -/

namespace TabNotes.Frontmatter

open TabNotes.Template TabNotes.Note TabNotes.Tab TabNotes.Time TabNotes.Number

variable {preferences : Value} {settings : Settings} {entries : Entries} {window : Window}
  {tabCount : Nat}

theorem failsByValue_renderValue (template data : Value) :
    FailsByValue (renderValue template data) := by
  cases template with
  | text s => exact (failsAsTemplate_render s data).failsByValue
  | _ =>
      rintro _ ⟨⟩
      rfl

theorem reportsByValue_renderField (template : Value) (default : String) (data : Value) :
    ReportsByValue (renderField template default data) :=
  reportsByValue_orDefault (failsByValue_renderValue template data)
    (failsAsTemplate_render default data).failsByValue

theorem failsByValue_writeInteger (n : Int) : FailsByValue (writeInteger n) := by
  intro fault h
  unfold writeInteger at h
  split at h
  · cases h
  · cases h
    rfl

/-- The source of a block, as it is found in the data of a note. -/
def noteSource (stamp : Stamp) (window : Window) (tabCount : Nat) : Source :=
  ⟨frontmatterData (exportValue stamp tabCount) window.toValue tabCount,
    exportValue stamp tabCount, window.toValue⟩

theorem reportsByValue_fieldText (settings : Settings) (stamp : Stamp) (window : Window)
    (tabCount : Nat) (f : Field) :
    ReportsByValue (fieldText settings (noteSource stamp window tabCount) f) := by
  cases f with
  | title =>
      exact reportsByValue_bind (reportsByValue_renderField _ _ _) fun _ => reportsByValue_pure _
  | date | time | exportedAt | incognito => exact reportsByValue_ofResult (failsByValue_ok _)
  | tabCount =>
      have hresult : fieldText settings (noteSource stamp window tabCount) .tabCount =
          Report.ofResult (((Value.int tabCount).orElse (.int 0)).toInteger >>= writeInteger) := rfl
      rw [hresult, toInteger_count]
      refine reportsByValue_ofResult (failsByValue_bind (failsByValue_ok _) fun n _ => ?_)
      exact failsByValue_writeInteger n
  | tags | collections =>
      exact reportsByValue_bind (reportsByValue_renderField _ _ _) fun _ => reportsByValue_pure _

theorem reportsByValue_enabledFields (h : Settings.ofPreferences preferences = .ok settings)
    (stamp : Stamp) (window : Window) (tabCount : Nat) (fields : List Field) :
    ReportsByValue (enabledFields settings (noteSource stamp window tabCount) fields) := by
  obtain ⟨isOn, hon⟩ := isEnabled_of_ofPreferences h
  obtain ⟨name, hname⟩ := fieldName_of_ofPreferences h
  induction fields with
  | nil => exact reportsByValue_pure []
  | cons f fields ih =>
      rw [enabledFields, hon]
      refine reportsByValue_ok_bind ?_
      split
      · rw [(hname f).2]
        refine reportsByValue_ok_bind ?_
        refine reportsByValue_bind (reportsByValue_fieldText settings stamp window tabCount f)
          fun text => ?_
        refine reportsByValue_bind ih fun others => ?_
        exact reportsByValue_ok_bind (reportsByValue_pure _)
      · exact ih

theorem reportsByValue_compose (h : Settings.ofPreferences preferences = .ok settings)
    (stamp : Stamp) (window : Window) (tabCount : Nat) :
    ReportsByValue (compose (frontmatterData (exportValue stamp tabCount) window.toValue tabCount)
      settings) := by
  have hsource : Source.of (frontmatterData (exportValue stamp tabCount) window.toValue tabCount) =
      .ok (noteSource stamp window tabCount) := rfl
  rw [compose, hsource]
  refine reportsByValue_ok_bind ?_
  exact reportsByValue_bind (reportsByValue_enabledFields h stamp window tabCount Field.all)
    fun fields => reportsByValue_pure _

end TabNotes.Frontmatter

/-! ### The note -/

namespace TabNotes.Note

open TabNotes.Template TabNotes.Time TabNotes.Tab TabNotes.Frontmatter

theorem failsByValue_resolveNow (clock : Clock) {v : Value} (h : v = .null ∨ ∃ s, v = .text s) :
    FailsByValue (resolveNow clock v) := by
  rcases h with rfl | ⟨s, rfl⟩
  · exact failsByValue_ok clock.now
  · refine failsByValue_bind (failsByValue_ok (ofText s)) fun m? _ => ?_
    cases m? with
    | some m => exact failsByValue_ok m
    | none =>
        rintro _ ⟨⟩
        rfl

theorem reportsByValue_formatContext (context : Context) (template : Value) :
    ReportsByValue (formatContext context template) :=
  reportsByValue_bind
    (reportsByValue_orDefault (failsAsTemplate_render _ _).failsByValue
      (failsAsTemplate_render _ _).failsByValue)
    fun _ => reportsByValue_pure _

/-- Whether UTC or the local clock shows a moment in no year from 1 to 9999. -/
def IsOutside (here : LocalZone) (now : Moment) : Prop :=
  ¬ now.IsInCalendar ∨ ∃ offset, here.offsetAt (now.instant / second) = .ok offset ∧
    ¬ (0 ≤ now.instant + offset ∧ now.instant + offset < clockSpan)

theorem failsByValue_offsetAt (here : LocalZone) (instant : Int) :
    FailsByValue (here.offsetAt instant) := by
  intro fault h
  unfold LocalZone.offsetAt at h
  dsimp only at h
  split at h
  · cases h
  · cases h
    rfl

/-- The local clock shows a moment unless that lies outside, or for the fault of a value. -/
theorem shown_eq_error_iff {here : LocalZone} {now : Moment} {own : Int} {fault : Fault}
    (hown : now.offset = some own) (hkind : fault.kind.isValueKind = false) :
    Stamp.shown here now none = .error fault ↔ IsOutside here now ∧ fault = .dateOutOfRange := by
  by_cases hin : now.IsInCalendar
  · rw [Stamp.shown_eq hown hin, Stamp.distance, IsOutside, or_iff_right (not_not_intro hin)]
    cases hoffset : here.offsetAt (now.instant / second) with
    | error other =>
        simp only [Except.bind, Except.error.injEq, reduceCtorEq, false_and, exists_false,
          iff_false]
        rintro rfl
        rw [failsByValue_offsetAt _ _ _ hoffset] at hkind
        cases hkind
    | ok offset =>
        simp only [Except.bind, Except.ok.injEq, exists_eq_left']
        by_cases hspan : 0 ≤ now.instant + offset ∧ now.instant + offset < clockSpan
        · simp [Moment.ofClock_of_inSpan _ hspan, hspan]
        · simp [Moment.ofClock_of_not_inSpan _ hspan, hspan, eq_comm]
  · rw [Stamp.shown_of_not_isInCalendar hown hin]
    simp [IsOutside, hin, eq_comm]

/-- A stamp is missing for a moment that lies outside, or for the fault of a value. -/
theorem stampOf_eq_error_iff {here : LocalZone} {now : Moment} {own : Int} {fault : Fault}
    (hown : now.offset = some own) (hkind : fault.kind.isValueKind = false) :
    Stamp.of here now none = .error fault ↔ IsOutside here now ∧ fault = .dateOutOfRange := by
  rw [← shown_eq_error_iff hown hkind, Stamp.of, bind_eq_error_iff]
  constructor
  · rintro (h | ⟨there, hthere, h⟩)
    · exact h
    · -- what is shown on the local clock is written in UTC as well
      have hin : now.IsInCalendar := by
        by_contra hout
        rw [Stamp.shown_of_not_isInCalendar hown hout] at hthere
        cases hthere
      obtain ⟨iso, hiso⟩ := @isoUtc_of_isInCalendar here now own hown hin
      rw [hiso] at h
      cases h
  · exact .inl

/-- What stops the note of some tabs, except for the faults of values. -/
inductive StopsNote (clock : Clock) (when : Value) (tabs : List Value) : Fault → Prop where
  /-- The moment of the note lies outside of the calendar. -/
  | moment {now : Moment} (hnow : resolveNow clock when = .ok now)
      (hout : IsOutside clock.here now) : StopsNote clock when tabs .dateOutOfRange
  /-- The time of a tab's last access cannot be shown. -/
  | access {now : Moment} {stamp : Stamp} {fault : Fault} (hnow : resolveNow clock when = .ok now)
      (hstamp : Stamp.of clock.here now none = .ok stamp)
      (hstop : FirstStop clock.here tabs fault) : StopsNote clock when tabs fault

section note

variable {clock : Clock} {tabs : List Value} {options : Options} {fault : Fault}

theorem stopsNote_iff {when : Value} :
    StopsNote clock when tabs fault ↔ ∃ now, resolveNow clock when = .ok now ∧
      ((IsOutside clock.here now ∧ fault = .dateOutOfRange) ∨
        ∃ stamp, Stamp.of clock.here now none = .ok stamp ∧ FirstStop clock.here tabs fault) := by
  constructor
  · rintro (⟨hnow, hout⟩ | ⟨hnow, hstamp, hstop⟩)
    · exact ⟨_, hnow, .inl ⟨hout, rfl⟩⟩
    · exact ⟨_, hnow, .inr ⟨_, hstamp, hstop⟩⟩
  · rintro ⟨now, hnow, ⟨hout, rfl⟩ | ⟨stamp, hstamp, hstop⟩⟩
    · exact .moment hnow hout
    · exact .access hnow hstamp hstop

/-- Under settings from preferences and with an index of groups a note is stopped by its moment, by
a tab or by a value. -/
theorem outcome_format_eq_error_iff (hclock : clock.now.offset.isSome = true)
    (hnow : options.now = .null ∨ ∃ s, options.now = .text s) (hzone : options.zone = .null)
    {settings : Settings} {preferences : Value} (hsettings : settingsOf options = .ok settings)
    (hpreferences : Settings.ofPreferences preferences = .ok settings)
    {groups : GroupIndex} (hgroups : GroupIndex.of options.groups = .ok groups)
    (hkind : fault.kind.isValueKind = false) (template : Value) :
    (format clock tabs template options).outcome.1 = .error fault ↔
      StopsNote clock options.now tabs fault := by
  rw [format,
    outcome_bind_eq_error_iff (fun context => reportsByValue_formatContext context template) hkind]
  have hzoneOf : zoneOf options.zone = .ok none := by
    rw [hzone]
    rfl
  have hresolves : resolveNow clock options.now ≠ .error fault := by
    intro h
    rw [failsByValue_resolveNow clock hnow fault h] at hkind
    cases hkind
  rw [Context.of, outcome_ofResult_bind_eq_error_iff, or_iff_right hresolves, stopsNote_iff]
  refine exists_congr fun now => and_congr_right fun hresolved => ?_
  have hoffset := offset_isSome_of_resolveNow hclock hresolved
  obtain ⟨own, hown⟩ := Option.isSome_iff_exists.mp hoffset
  simp only [outcome_ofResult_bind_eq_error_iff, hzoneOf, hsettings, hgroups, reduceCtorEq,
    false_or, Except.ok.injEq, exists_eq_left', stampOf_eq_error_iff hown hkind,
    viewsFrom_eq_error_iff hoffset]
  refine or_congr_right (exists_congr fun stamp => and_congr_right fun _ => ⟨?_, .inl⟩)
  rintro (hstop | ⟨views, -, hcompose⟩)
  · exact hstop
  · have hframe := reportsByValue_bind
      (reportsByValue_compose hpreferences stamp (Window.of options.window tabs) views.length)
      fun frontmatter => reportsByValue_pure
        (Context.mk stamp (Window.of options.window tabs) (.of views) frontmatter)
    rw [hframe [] fault hcompose] at hkind
    cases hkind

end note

end TabNotes.Note
