import TabNotes.Note.Format
import TabNotes.Proofs.Note.Context
import TabNotes.Proofs.Template.DigitLimits
import TabNotes.Proofs.Template.RoundTrip

/-! # Falling back to the default template

A note whose template fails is formatted with the default template.  The fallback takes every fault
of the template itself, but not the fault of an integer that has too many digits to be read or
written: `outcome_formatValues_text` gives the outcome for every template, and says which of them
stop the export. -/

namespace TabNotes.Template

theorem hitsLimit_render_iff (template : String) (context : Value) :
    HitsLimit (render template context) ↔
      ∃ ts, parse template defaultDepth = .ok ts ∧ MeetsLimit ts [context] := by
  rw [render_eq]
  cases h : parse template defaultDepth with
  | error fault =>
      constructor
      · rintro ⟨_, ⟨⟩, hfault⟩
        exact absurd hfault id
      · rintro ⟨ts, hts, -⟩
        cases hts
  | ok ts =>
      have hw := ((parse_eq_ok_iff.mp h).normal (by decide)).1
      simp only [hitsLimit_output_iff ts hw, Except.ok.injEq, exists_eq_left']

theorem failsAsTemplate_render (template : String) (context : Value) :
    FailsAsTemplate (render template context) := by
  rw [render_eq]
  cases h : parse template defaultDepth with
  | error fault =>
      rintro _ ⟨⟩
      exact .inl ⟨_, rfl⟩
  | ok ts => exact failsAsTemplate_output ts ((parse_eq_ok_iff.mp h).normal (by decide)).1 [context]

end TabNotes.Template

namespace TabNotes.Note

open TabNotes.Text TabNotes.Number TabNotes.Template TabNotes.Time TabNotes.Tab TabNotes.Frontmatter

theorem run_formatContext (context : Context) (format : Value) (notices : List Notice) :
    (formatContext context format).run.run notices =
      match render (resolveFormat format) context.toValue with
      | .ok markdown => (.ok ⟨markdown, context.stamp⟩, notices)
      | .error (.template cause) =>
        ((render Preferences.defaultFormat context.toValue).map (⟨·, context.stamp⟩),
          notices ++ [.noteTemplateFailed cause])
      | .error fault => (.error fault, notices) := by
  rw [formatContext, run_bind, run_orDefault]
  cases render (resolveFormat format) context.toValue with
  | ok markdown => rfl
  | error fault =>
      cases fault with
      | template cause => cases render Preferences.defaultFormat context.toValue <;> rfl
      | _ => rfl

theorem outcome_formatValues {clock : Clock} {tabs options : Value} {settings : Option Settings}
    {context : Context} {notices : List Notice}
    (h : (Context.ofValues clock tabs options settings).outcome = (.ok context, notices))
    (format : Value) :
    (formatValues clock tabs format options settings).outcome =
      match render (resolveFormat format) context.toValue with
      | .ok markdown => (.ok ⟨markdown, context.stamp⟩, notices)
      | .error (.template cause) =>
        ((render Preferences.defaultFormat context.toValue).map (⟨·, context.stamp⟩),
          notices ++ [.noteTemplateFailed cause])
      | .error fault => (.error fault, notices) := by
  rw [Report.outcome] at h
  rw [Report.outcome, formatValues, run_bind, h]
  exact run_formatContext context format notices

/-! ### The default template -/

theorem parse_defaultFormat : parse Preferences.defaultFormat defaultDepth =
    .ok [.raw "frontmatter", .text "\n", .block "tabs" [.text "## ", .escaped "title", .text "\n[",
      .escaped "url", .text "](", .escaped "url", .text ")\n\n"]] := by
  rw [parse_eq_ok_iff]
  refine (?_ : Reads defaultDepth none 0 _ (literal [] ++ ([.raw "frontmatter"] ++
    (literal ['\n'] ++ section? false "tabs" (literal "## ".toList ++ ([.escaped "title"] ++
      (literal "\n[".toList ++ ([.escaped "url"] ++ (literal "](".toList ++ ([.escaped "url"] ++
        literal ")\n\n".toList)))))) :: literal []))) [])
  refine .leaf rfl rfl (.opening rfl rfl (by decide) (by decide) ?_ (.finish rfl))
  exact .leaf rfl rfl (.leaf rfl rfl (.leaf rfl rfl (.close rfl rfl)))

/-! ### A position of too many digits -/

section position

variable {digits : String}

theorem isDigit_of_isPosition (h : isPosition digits = true) :
    ∀ c ∈ digits.toList, c.isDigit = true := by
  rw [isPosition, Bool.and_eq_true, List.all_eq_true] at h
  exact h.2

/-- In every context such a position in the list of tabs comes to a limit. -/
theorem nameMeetsLimit_position (context : Context) (hdigits : isPosition digits = true)
    (hlong : digitLimit < digits.toList.length) :
    NameMeetsLimit ("tabs." ++ digits) [context.toValue] := by
  have hpath : splitOnChar '.' ("tabs." ++ digits) = ["tabs", digits] := by
    have hnone : ∀ c ∈ digits.toList, (c == '.') = false := by
      intro c hc
      refine beq_false_of_ne fun hdot => ?_
      exact absurd (isDigit_of_isPosition hdigits c hc) (by rw [hdot]; decide)
    have hname : ("tabs." ++ digits).toList = "tabs".toList ++ '.' :: digits.toList := by simp
    rw [splitOnChar, hname, splitBy_append_cons (by simp) rfl, splitBy_of_not_isCut hnone]
    simp
  refine ⟨fun h => ?_, [], context.toValue, [], rfl, by simp, ?_⟩
  · have hlength := congrArg (·.toList.length) h
    simp at hlength
  · rw [hpath]
    exact ⟨["tabs"], digits, [], _, _, rfl, rfl, hdigits, hlong⟩

theorem isVariableName_position (hdigits : isPosition digits = true) :
    IsVariableName ("tabs." ++ digits) := by
  have hdigit := isDigit_of_isPosition hdigits
  have hlist : ("tabs." ++ digits).toList = "tabs.".toList ++ digits.toList := String.toList_append
  have hne : digits.toList ≠ [] := by
    intro hnil
    rw [String.toList_eq_nil_iff] at hnil
    rw [hnil] at hdigits
    exact absurd hdigits (by decide)
  refine ⟨⟨fun h => ?_, ⟨?_, ?_⟩, fun h => ?_⟩, ?_⟩
  · rw [← String.toList_eq_nil_iff, hlist] at h
    simp at h
  · rw [hlist]
    rintro c hc
    obtain rfl : 't' = c := Option.some.inj hc
    decide
  · rw [hlist, List.getLast?_append_of_ne_nil _ hne]
    intro c hc
    exact isBlank_of_isDigit (hdigit c (List.mem_of_getLast? hc))
  · have hmem : '}' ∈ ("tabs." ++ digits).toList := h.subset (by decide)
    rw [hlist, List.mem_append] at hmem
    rcases hmem with hmem | hmem
    · exact absurd hmem (by decide)
    · exact absurd (hdigit _ hmem) (by decide)
  · rw [hlist]
    rintro c hc
    obtain rfl : 't' = c := Option.some.inj hc
    decide

theorem resolveFormat_valueTag (name : String) :
    resolveFormat (.text (valueTag name)) = valueTag name := by
  have hlist : (valueTag name).toList = tagOpen ++ (name.toList ++ tagClose) := by
    simp [valueTag, tagOpen, tagClose]
  have hblank : allBlank (valueTag name) = false := by
    rw [allBlank, hlist]
    rfl
  have hold : isOldFormat (valueTag name) = false := by
    have hoccurs : occursIn "\x7b\x7b" (valueTag name) = true := by
      rw [occursIn, hlist]
      rfl
    rw [isOldFormat, hoccurs]
    rfl
  simp only [resolveFormat, upgradeFormat, hblank, hold, if_false, Bool.false_eq_true]

/-- A template with such a position is read, and comes to a limit in every context. -/
theorem meetsLimit_position (context : Context) (hdigits : isPosition digits = true)
    (hlong : digitLimit < digits.toList.length) :
    ∃ ts, parse (resolveFormat (.text (valueTag (padded ("tabs." ++ digits))))) defaultDepth = .ok ts ∧
      MeetsLimit ts [context.toValue] := by
  have hnormal : Normal 64 [.escaped ("tabs." ++ digits)] := by
    refine ⟨?_, by simp [nesting, Token.nesting]⟩
    rw [AllWritten]
    exact ⟨isVariableName_position hdigits, fun h => absurd h id, trivial⟩
  have hparse := parse_textOf_of_normal hnormal
  have htext : textOf [.escaped ("tabs." ++ digits)] = valueTag (padded ("tabs." ++ digits)) := by
    simp [textOf, Token.textOf, gap]
  rw [htext] at hparse
  rw [resolveFormat_valueTag]
  exact ⟨_, hparse, .inl (.inl (nameMeetsLimit_position context hdigits hlong))⟩

end position

/-! ### The outcome of an export -/

/-- An export with the default template renders it: a fault would have come again from the
fallback. -/
theorem render_defaultFormat_of_outcome {clock : Clock} {tabs options : Value}
    {settings : Option Settings} {standard : Formatted} {notices : List Notice}
    (h : (formatValues clock tabs .null options settings).outcome = (.ok standard, notices)) :
    ∃ context : Context,
      (Context.ofValues clock tabs options settings).outcome = (.ok context, notices) ∧
      render Preferences.defaultFormat context.toValue = .ok standard.markdown ∧
      standard.stamp = context.stamp := by
  obtain ⟨context, notices', hcontext, hstandard⟩ := run_bind_eq_ok_iff.mp h
  rw [run_formatContext, show resolveFormat .null = Preferences.defaultFormat from rfl] at hstandard
  cases hrender : render Preferences.defaultFormat context.toValue with
  | ok markdown =>
      rw [hrender] at hstandard
      cases hstandard
      exact ⟨context, hcontext, hrender, rfl⟩
  | error fault =>
      rw [hrender] at hstandard
      cases fault <;> cases hstandard

/-- The outcome of an export with a template, next to that of the same export with the default one.
The export stops exactly when its template comes to a limit. -/
theorem outcome_formatValues_text {clock : Clock} {tabs options : Value}
    {settings : Option Settings} {standard : Formatted} {notices : List Notice}
    (h : (formatValues clock tabs .null options settings).outcome = (.ok standard, notices)) :
    ∃ context : Context,
      (Context.ofValues clock tabs options settings).outcome = (.ok context, notices) ∧
      ∀ template : String,
        let rendered := render (resolveFormat (.text template)) context.toValue
        let outcome := (formatValues clock tabs (.text template) options settings).outcome
        (∀ markdown, rendered = .ok markdown →
          outcome = (.ok ⟨markdown, standard.stamp⟩, notices)) ∧
        (∀ cause, rendered = .error (.template cause) →
          outcome = (.ok standard, notices ++ [.noteTemplateFailed cause])) ∧
        (∀ fault, outcome.1 = .error fault →
          rendered = .error fault ∧ IsDigitFault fault ∧ outcome.2 = notices) ∧
        ((∃ fault, outcome.1 = .error fault) ↔
          ∃ ts, parse (resolveFormat (.text template)) defaultDepth = .ok ts ∧
            MeetsLimit ts [context.toValue]) := by
  obtain ⟨context, hcontext, hmarkdown, hstamp⟩ := render_defaultFormat_of_outcome h
  refine ⟨context, hcontext, fun template => ?_⟩
  have hlimit := hitsLimit_render_iff (resolveFormat (.text template)) context.toValue
  have hfails := failsAsTemplate_render (resolveFormat (.text template)) context.toValue
  dsimp only
  rw [outcome_formatValues hcontext, hmarkdown, ← hstamp, ← hlimit]
  cases hrendered : render (resolveFormat (.text template)) context.toValue with
  | ok markdown =>
      refine ⟨?_, ?_, ?_, ?_⟩
      · rintro _ ⟨⟩
        rfl
      · rintro _ ⟨⟩
      · rintro _ ⟨⟩
      · simp [not_hitsLimit_ok]
  | error fault =>
      cases fault with
      | template cause =>
          refine ⟨?_, ?_, ?_, ?_⟩
          · rintro _ ⟨⟩
          · rintro _ ⟨⟩
            rfl
          · rintro _ ⟨⟩
          · constructor
            · rintro ⟨_, ⟨⟩⟩
            · rintro ⟨_, ⟨⟩, h⟩
              exact absurd h id
      | _ =>
          have hdigits := (hfails _ hrendered).resolve_left (by rintro ⟨_, ⟨⟩⟩)
          refine ⟨?_, ?_, ?_, ?_⟩
          · rintro _ ⟨⟩
          · rintro _ ⟨⟩
          · rintro fault ⟨⟩
            exact ⟨rfl, hdigits, rfl⟩
          · exact ⟨fun _ => ⟨_, rfl, hdigits⟩, fun _ => ⟨_, rfl⟩⟩

/-- One tab is exported with the default template, but not with a position of 4301 zeros. -/
theorem outcome_formatValues_zeros :
    let tabs := Value.ofList [.record [("title", .text "A"), ("url", .text "https://a.org/?q")]]
    let zeros := String.ofList (List.replicate (digitLimit + 1) '0')
    (formatValues atNewMillennium tabs .null .null (some noFields)).outcome =
      (.ok ⟨"\n## A\n[https://a.org/?q](https://a.org/?q)\n\n", newMillenniumStamp⟩, []) ∧
    ∃ fault, IsDigitFault fault ∧
      (formatValues atNewMillennium tabs (.text (valueTag (padded ("tabs." ++ zeros)))) .null
        (some noFields)).outcome = (.error fault, []) := by
  intro tabs zeros
  have hviews : viewsFrom .utc [] newMillennium 0 [.record [("title", .text "A"),
      ("url", .text "https://a.org/?q")]] = .ok _ := rfl
  have hcontext : (Context.ofValues atNewMillennium tabs .null (some noFields)).outcome = (.ok _, []) :=
    outcome_ofValues_eq_ok_iff.mpr ⟨_, { Options.none with settings := some noFields }, rfl, rfl,
      outcome_contextOf_eq_ok_iff.mpr
        ⟨newMillennium, none, newMillenniumStamp, noFields, [], _, "", rfl, rfl, rfl, rfl, rfl,
          hviews, rfl, rfl⟩⟩
  have hstandard : (formatValues atNewMillennium tabs .null .null (some noFields)).outcome =
      (.ok ⟨"\n## A\n[https://a.org/?q](https://a.org/?q)\n\n", newMillenniumStamp⟩, []) := by
    rw [outcome_formatValues hcontext, show resolveFormat .null = Preferences.defaultFormat from rfl,
      render_eq, parse_defaultFormat]
    rfl
  have hdigits : isPosition zeros = true := by
    generalize digitLimit = k at zeros
    simp [isPosition, zeros, List.replicate_succ]
  have hlong : digitLimit < zeros.toList.length := by simp [zeros]
  obtain ⟨context, -, hall⟩ := outcome_formatValues_text hstandard
  obtain ⟨-, -, hfault, hstops⟩ := hall (valueTag (padded ("tabs." ++ zeros)))
  obtain ⟨fault, herror⟩ := hstops.mpr (meetsLimit_position context hdigits hlong)
  obtain ⟨-, hdigitFault, hnotices⟩ := hfault fault herror
  exact ⟨hstandard, fault, hdigitFault, Prod.ext herror hnotices⟩

end TabNotes.Note
