import Mathlib.Tactic.Choose
import TabNotes.Proofs.CommandLine.Arguments
import TabNotes.Proofs.Runs

/-! # Sessions that only read

`OnlyReads` says that the result of a session depends on the file tree alone, and that the session
leaves the tree as it is and prints nothing; a session that does not report anything either is
`Silent`.  Two sessions are the `SameReading` when they have the same result over every tree; they
may report different lines.  `sameReading_prepare` says that of the preparation of one note at two
moments, when the arguments say which moment the note is from. -/

namespace TabNotes.CommandLine

open TabNotes.Files TabNotes.Time TabNotes.Note

variable {α β : Type} {x y : Session α}

/-- A session without effects except for lines that it reports; it does not stop as a success. -/
structure OnlyReads (x : Session α) (result : Tree → Except Stop α) : Prop where
  run : ∀ t : Traces, ∃ lines,
    x.run.run t = (result t.files, { t with reported := t.reported ++ lines })
  no_success : ∀ files, result files ≠ .error (.status 0)

/-- Two sessions that read the same. -/
def SameReading (x y : Session α) : Prop := ∃ result, OnlyReads x result ∧ OnlyReads y result

/-! ### Silent sessions -/

/-- The result of a session that begins on a tree with nothing printed or reported. -/
def resultOver (x : Session α) (files : Tree) : Except Stop α := (x.run.run ⟨[], [], files⟩).1

/-- A session that leaves nothing behind; it does not stop as a success. -/
structure Silent (x : Session α) : Prop where
  run : ∀ t, x.run.run t = (resultOver x t.files, t)
  no_success : ∀ files, resultOver x files ≠ .error (.status 0)

namespace Silent

theorem pure (a : α) : Silent (Pure.pure a : Session α) :=
  ⟨fun _ => rfl, fun _ h => by cases h⟩

theorem fault (cause : Fault) : Silent (throw (.fault cause) : Session α) :=
  ⟨fun _ => rfl, fun _ h => by cases h⟩

theorem ofResult (result : Except Fault α) : Silent (Session.ofResult result) := by
  cases result with
  | ok a => exact .pure a
  | error cause => exact .fault cause

theorem ofFiles (operation : Tree → Except Fault α) : Silent (Session.ofFiles operation) :=
  ⟨fun t => (ofResult (operation t.files)).run t,
    fun files => (ofResult (operation files)).no_success files⟩

theorem resultOver_bind (hx : Silent x) (f : α → Session β) (files : Tree) :
    resultOver (x >>= f) files = resultOver x files >>= fun a => resultOver (f a) files := by
  rw [resultOver, run_bind, hx.run]
  cases resultOver x files <;> rfl

theorem bind {f : α → Session β} (hx : Silent x) (hf : ∀ a, Silent (f a)) : Silent (x >>= f) := by
  constructor
  · intro t
    rw [hx.resultOver_bind, run_bind, hx.run]
    cases resultOver x t.files with
    | error stop => rfl
    | ok a => exact (hf a).run t
  · intro files hstop
    rw [hx.resultOver_bind] at hstop
    rcases bind_eq_error_iff.mp hstop with hfirst | ⟨a, -, hlast⟩
    · exact hx.no_success files hfirst
    · exact (hf a).no_success files hlast

/-- A line of progress does not count for the result of what comes next. -/
theorem resultOver_log_bind (hx : Silent x) (s : Surroundings) (verbose : Bool)
    (message : String) (files : Tree) :
    resultOver (Session.log s verbose message >>= fun _ => x) files = resultOver x files := by
  cases verbose with
  | false => rfl
  | true =>
      have hrun : (x.run.run ⟨[], ["[tabsidian] " ++ s.logTime ++ " " ++ message], files⟩).1 =
          resultOver x files := by
        rw [hx.run]
      exact hrun

theorem onlyReads (hx : Silent x) : OnlyReads x (resultOver x) := by
  refine ⟨fun t => ⟨[], ?_⟩, hx.no_success⟩
  rw [List.append_nil]
  exact hx.run t

theorem sameReading (hx : Silent x) : SameReading x x := ⟨resultOver x, hx.onlyReads, hx.onlyReads⟩

end Silent

/-! ### Steps -/

theorem OnlyReads.pure (a : α) : OnlyReads (Pure.pure a) fun _ => .ok a :=
  ⟨fun t => ⟨[], by rw [List.append_nil]; rfl⟩, fun _ h => by cases h⟩

theorem OnlyReads.report (line : String) : OnlyReads (Session.report line) fun _ => .ok () :=
  ⟨fun _ => ⟨[line], rfl⟩, fun _ h => by cases h⟩

/-- A line that the output takes is printed. -/
theorem run_print_of_fault?_eq_none {s : Surroundings} {line : String}
    (h : s.output.fault? line = none) (t : Traces) :
    (Session.print s line).run.run t = (.ok (), { t with printed := t.printed ++ [line] }) := by
  rw [Session.print, h]
  rfl

theorem run_forM_report (lines : List String) (t : Traces) :
    (lines.forM Session.report).run.run t =
      (.ok ⟨⟩, { t with reported := t.reported ++ lines }) := by
  induction lines generalizing t with
  | nil =>
      rw [List.append_nil]
      rfl
  | cons line lines ih =>
      have hreport : (Session.report line).run.run t =
          (.ok (), { t with reported := t.reported ++ [line] }) := rfl
      have hcons : (line :: lines).forM Session.report =
          Session.report line >>= fun _ => lines.forM Session.report := rfl
      rw [hcons, run_bind, hreport]
      dsimp only
      rw [ih, List.append_assoc]
      rfl

theorem OnlyReads.bind {result : Tree → Except Stop α} {next : α → Session β}
    {after : α → Tree → Except Stop β} (h : OnlyReads x result)
    (hnext : ∀ a, OnlyReads (next a) (after a)) :
    OnlyReads (x >>= next) fun files => result files >>= fun a => after a files := by
  constructor
  · intro t
    obtain ⟨lines, hrun⟩ := h.run t
    rw [run_bind, hrun]
    cases hresult : result t.files with
    | error stop => exact ⟨lines, rfl⟩
    | ok a =>
        obtain ⟨more, hmore⟩ := (hnext a).run { t with reported := t.reported ++ lines }
        refine ⟨lines ++ more, ?_⟩
        rw [← List.append_assoc]
        exact hmore
  · intro files hstop
    rcases bind_eq_error_iff.mp hstop with hfirst | ⟨a, -, hlast⟩
    · exact h.no_success files hfirst
    · exact (hnext a).no_success files hlast

theorem OnlyReads.stop {code : Nat} (hcode : code ≠ 0) :
    OnlyReads (Session.stop code : Session α) fun _ => .error (.status code) := by
  refine ⟨fun t => ⟨[], by rw [List.append_nil]; rfl⟩, fun _ h => ?_⟩
  cases h
  exact hcode rfl

theorem OnlyReads.ofReport (r : Report α) :
    OnlyReads (Session.ofReport r) (resultOver (Session.ofResult r.outcome.1)) := by
  have hreport : OnlyReads (modify fun t : Traces =>
      { t with reported := t.reported ++ r.outcome.2.map Notice.message } : Session PUnit)
      fun _ => .ok ⟨⟩ :=
    ⟨fun _ => ⟨r.outcome.2.map Notice.message, rfl⟩, fun _ h => by cases h⟩
  exact hreport.bind fun _ => (Silent.ofResult r.outcome.1).onlyReads

theorem OnlyReads.log (s : Surroundings) (verbose : Bool) (message : String) :
    OnlyReads (Session.log s verbose message) fun _ => .ok () := by
  cases verbose with
  | false => exact .pure ()
  | true => exact .report _

theorem OnlyReads.complain {code : Nat} (hcode : code ≠ 0) (line : String) :
    OnlyReads (Session.complain code line : Session α) fun _ => .error (.status code) :=
  (OnlyReads.report line).bind fun _ => .stop hcode

/-- A stop after the faults of some kinds have become complaints. -/
def complaint (isExpected : FaultKind → Bool) : Stop → Stop
  | .fault cause => if isExpected cause.kind then .status 2 else .fault cause
  | .status code => .status code

theorem complaint_ne_success (isExpected : FaultKind → Bool) {stop : Stop} (h : stop ≠ .status 0) :
    complaint isExpected stop ≠ .status 0 := by
  cases stop with
  | status code => exact h
  | fault cause =>
      rw [complaint]
      split
      · simp
      · simp

theorem OnlyReads.complainOf {result : Tree → Except Stop α} (h : OnlyReads x result)
    (isExpected : FaultKind → Bool) (line : Fault → String) :
    OnlyReads (Session.complainOf isExpected line x) fun files =>
      (result files).mapError (complaint isExpected) := by
  constructor
  · intro t
    obtain ⟨lines, hrun⟩ := h.run t
    rw [Session.complainOf, run_tryCatch, hrun]
    cases result t.files with
    | ok a => exact ⟨lines, rfl⟩
    | error stop =>
        cases stop with
        | status code => exact ⟨lines, rfl⟩
        | fault cause =>
            cases hkind : isExpected cause.kind with
            | true =>
                refine ⟨lines ++ [line cause], ?_⟩
                simp only [hkind, if_true, mapError_error, complaint, ← List.append_assoc]
                rfl
            | false =>
                refine ⟨lines, ?_⟩
                simp only [hkind, Bool.false_eq_true, if_false, mapError_error, complaint]
                rfl
  · intro files hstop
    cases hresult : result files with
    | ok a =>
        rw [hresult] at hstop
        cases hstop
    | error stop =>
        rw [hresult] at hstop
        refine complaint_ne_success isExpected ?_ (Except.error.inj hstop)
        rintro rfl
        exact h.no_success files hresult

/-! ### Readings -/

theorem OnlyReads.resultOver_eq {result : Tree → Except Stop α} (h : OnlyReads x result)
    (files : Tree) : resultOver x files = result files := by
  obtain ⟨lines, hrun⟩ := h.run ⟨[], [], files⟩
  rw [resultOver, hrun]

namespace SameReading

theorem resultOver_eq (h : SameReading x y) (files : Tree) :
    resultOver x files = resultOver y files := by
  obtain ⟨result, hx, hy⟩ := h
  rw [hx.resultOver_eq, hy.resultOver_eq]

theorem onlyReads {result : Tree → Except Stop α} (h : SameReading x y) (hx : OnlyReads x result) :
    OnlyReads y result := by
  obtain ⟨other, hother, hy⟩ := h
  have hsame : other = result := funext fun files =>
    (hother.resultOver_eq files).symm.trans (hx.resultOver_eq files)
  exact hsame ▸ hy

theorem of_onlyReads {result : Tree → Except Stop α} (h : OnlyReads x result) : SameReading x x :=
  ⟨result, h, h⟩

theorem bind {f g : α → Session β} (h : SameReading x y) (hnext : ∀ a, SameReading (f a) (g a)) :
    SameReading (x >>= f) (y >>= g) := by
  obtain ⟨result, hx, hy⟩ := h
  choose after hf hg using hnext
  exact ⟨_, hx.bind hf, hy.bind hg⟩

theorem complainOf (h : SameReading x y) (isExpected : FaultKind → Bool) (line : Fault → String) :
    SameReading (Session.complainOf isExpected line x) (Session.complainOf isExpected line y) := by
  obtain ⟨result, hx, hy⟩ := h
  exact ⟨_, hx.complainOf isExpected line, hy.complainOf isExpected line⟩

theorem log (s s' : Surroundings) (verbose verbose' : Bool) (message message' : String) :
    SameReading (Session.log s verbose message) (Session.log s' verbose' message') :=
  ⟨_, .log s verbose message, .log s' verbose' message'⟩

end SameReading

/-! ### The silent parts of an export -/

namespace Silent

theorem pathOf (s : Surroundings) (text : String) : Silent (Session.pathOf s text) := by
  unfold Session.pathOf
  split
  · exact .pure _
  · exact .fault _

theorem fileExists (s : Surroundings) (p : Path) : Silent (Session.fileExists s p) := .ofFiles _

theorem readText (s : Surroundings) (p : Path) : Silent (Session.readText s p) := .ofFiles _

theorem readJson (s : Surroundings) (p : Path) : Silent (readJson s p) :=
  (Silent.readText s p).bind fun _ => .ofResult _

theorem loadPreferences (s : Surroundings) (p : Path) : Silent (loadPreferences s p) := by
  refine (Silent.fileExists s p).bind fun isThere => ?_
  cases isThere with
  | false => exact .fault _
  | true =>
      refine (Silent.readJson s p).bind fun v => ?_
      cases v with
      | map entries => exact .ofResult _
      | _ => exact .fault _

theorem snapshotPath (s : Surroundings) (text : String) : Silent (snapshotPath s text) := by
  refine (Silent.pathOf s text).bind fun p => ?_
  cases Tree.holdsNul p with
  | true => exact (Silent.fault _).bind fun _ => .pure _
  | false => exact .pure _

theorem loadSnapshot (s : Surroundings) (p : Path) : Silent (loadSnapshot s p) := by
  refine (Silent.readJson s p).bind fun v => ?_
  cases Snapshot.ofValue? v with
  | some snapshot => exact .pure _
  | none => exact .fault _

theorem chooseTemplate (s : Surroundings) (a : Arguments) (preferences : Entries) :
    Silent (chooseTemplate s a preferences) := by
  unfold CommandLine.chooseTemplate
  cases given? a.template with
  | some text =>
      exact (Silent.pathOf s text).bind fun p => (Silent.readText s p).bind fun _ => .pure _
  | none => exact .pure _

theorem outputPath (s : Surroundings) (a : Arguments) (note : Formatted) :
    Silent (outputPath s a note) := by
  unfold CommandLine.outputPath
  cases given? a.out with
  | some text => exact .pathOf s text
  | none => exact .pure _

end Silent

/-! ### Preparing a note -/

/-- The same surroundings at another moment, with the same local clock. -/
def Surroundings.atMoment (s : Surroundings) (now : Moment) (logTime : String) : Surroundings :=
  { s with clock := ⟨now, s.clock.here⟩, logTime := logTime }

variable {s : Surroundings} {now : Moment} {logTime : String} {a : Arguments}

theorem sameReading_loadUsualPreferences (p : Path) (verbose : Bool) :
    SameReading (loadUsualPreferences s verbose p)
      (loadUsualPreferences (s.atMoment now logTime) verbose p) := by
  refine (Silent.fileExists s p).sameReading.bind fun isThere => ?_
  cases isThere with
  | false => exact (SameReading.log _ _ _ _ _ _).bind fun _ => (Silent.pure _).sameReading
  | true =>
      exact (SameReading.log _ _ _ _ _ _).bind fun _ => (Silent.loadPreferences s p).sameReading

theorem sameReading_choosePreferences (a : Arguments) :
    SameReading (choosePreferences s a) (choosePreferences (s.atMoment now logTime) a) := by
  have hvariable : (s.atMoment now logTime).valueOf? preferencesVariable =
      s.valueOf? preferencesVariable := rfl
  unfold choosePreferences
  rw [hvariable]
  cases given? a.config with
  | some text =>
      have hload := (Silent.pathOf s text).bind fun p => .loadPreferences s p
      exact hload.sameReading
  | none =>
      cases given? (s.valueOf? preferencesVariable) with
      | some text =>
          exact (Silent.pathOf s text).sameReading.bind fun p =>
            sameReading_loadUsualPreferences p _
      | none => exact (Silent.pure _).sameReading

theorem resolveNow_congr {here : LocalZone} {now' : Moment} {v : Value} (h : v ≠ .null) :
    resolveNow ⟨now, here⟩ v = resolveNow ⟨now', here⟩ v := by
  cases v with
  | null => exact absurd rfl h
  | _ => rfl

/-- A note that says which moment it is from does not depend on the time when it is made. -/
theorem format_congr {here : LocalZone} {now' : Moment} {tabs : List Value} {template : Value}
    {options : Options} (h : options.now ≠ .null) :
    Note.format ⟨now, here⟩ tabs template options =
      Note.format ⟨now', here⟩ tabs template options := by
  rw [Note.format, Note.format, Context.of, Context.of, @resolveNow_congr now here now' _ h]

theorem optionsOf_now_ne_null (hnow : a.now ≠ none) (preferences : Entries) (snapshot : Snapshot) :
    (optionsOf a preferences snapshot).now ≠ .null := by
  cases h : a.now with
  | none => exact absurd h hnow
  | some text => simp [optionsOf, h]

/-- The same note is made at two moments, if the arguments say which moment it is from or the two are
the same moment. -/
theorem sameReading_makeDraft (h : a.now ≠ none ∨ now = s.clock.now) (preferences : Entries)
    (snapshot : Snapshot) (tabs : List Value) :
    SameReading (makeDraft s a preferences snapshot tabs)
      (makeDraft (s.atMoment now logTime) a.withLink preferences snapshot tabs) := by
  refine ((Silent.chooseTemplate s a preferences).sameReading.complainOf _ _).bind fun template => ?_
  have hformat : Session.ofReport (Note.format (s.atMoment now logTime).clock tabs template
      (optionsOf a.withLink preferences snapshot)) =
        Session.ofReport (Note.format s.clock tabs template (optionsOf a preferences snapshot)) := by
    rcases h with hnow | rfl
    · exact congrArg Session.ofReport
        (format_congr (optionsOf_now_ne_null hnow preferences snapshot))
    · rfl
  rw [hformat]
  exact ((SameReading.of_onlyReads (.ofReport _)).complainOf _ _).bind fun note =>
    (Silent.pure _).sameReading

theorem sameReading_prepare_of (source : String) (h : a.now ≠ none ∨ now = s.clock.now) :
    SameReading (prepare s a source) (prepare (s.atMoment now logTime) a.withLink source) := by
  refine ((sameReading_choosePreferences a).complainOf _ _).bind fun preferences => ?_
  refine (Silent.snapshotPath s source).sameReading.bind fun path => ?_
  refine ((Silent.loadSnapshot s path).sameReading.complainOf _ _).bind fun snapshot => ?_
  refine (Silent.ofResult _).sameReading.bind fun tabs => ?_
  refine (SameReading.log _ _ _ _ _ _).bind fun _ => ?_
  cases tabs.isEmpty with
  | true => exact .of_onlyReads (.complain (by decide) _)
  | false => exact sameReading_makeDraft h preferences snapshot tabs

/-- The same note is prepared at two moments, if the arguments say which moment it is from. -/
theorem sameReading_prepare (source : String) (hnow : a.now ≠ none) :
    SameReading (prepare s a source) (prepare (s.atMoment now logTime) a.withLink source) :=
  sameReading_prepare_of source (.inl hnow)

/-- Preparing a note changes nothing. -/
theorem exists_onlyReads_prepare (s : Surroundings) (a : Arguments) (source : String) :
    ∃ result, OnlyReads (prepare s a source) result := by
  obtain ⟨result, hreads, -⟩ := @sameReading_prepare_of s s.clock.now s.logTime a source (.inr rfl)
  exact ⟨result, hreads⟩

end TabNotes.CommandLine
