import Mathlib.Data.List.Forall2
import TabNotes.Proofs.CommandLine.Reading
import TabNotes.Proofs.Files.Changes

/-! # Sessions that do alike on two trees

`Alike P x y Q` relates two sessions that run on two trees related by `P`: they print the same lines,
report the same lines but for the time in lines of progress (`SameLine`), make the same changes to
their trees, and end with the same stop or with results that `Q` relates, together with the changed
trees.  The rules follow the steps of a session, `Alike.bind` one after another.

A session that only looks at the tree, and reports nothing, is `Silent`; two of them are alike where
their results are (`Alike.of_silent`).  Over two given trees the rules for `Known` also keep which
result it is. -/

namespace TabNotes.CommandLine

open TabNotes.Files

variable {α β γ δ : Type} {time time' : String} {P P' : Tree → Tree → Prop}

/-! ### Lines -/

/-- Two lines that are the same, or the same message of progress at two times. -/
inductive SameLine (time time' : String) : String → String → Prop where
  | same (line : String) : SameLine time time' line line
  | progress (message : String) :
      SameLine time time' ("[tabsidian] " ++ time ++ " " ++ message)
        ("[tabsidian] " ++ time' ++ " " ++ message)

/-- Traces with more lines and changes. -/
def Traces.add (t : Traces) (printed reported : List String) (changes : List (Location × Node)) :
    Traces :=
  ⟨t.printed ++ printed, t.reported ++ reported, t.files.putAll changes⟩

theorem Traces.add_nil (t : Traces) : t.add [] [] [] = t := by
  simp [Traces.add, Tree.putAll]

theorem Traces.add_add (t : Traces) (printed printed' reported reported' : List String)
    (changes changes' : List (Location × Node)) :
    (t.add printed reported changes).add printed' reported' changes' =
      t.add (printed ++ printed') (reported ++ reported') (changes ++ changes') := by
  simp [Traces.add, Tree.putAll_append]

/-! ### Sessions that do alike -/

/-- Two sessions that leave the same behind on two trees. -/
def Alike (time time' : String) (P : Tree → Tree → Prop) (x : Session α) (y : Session β)
    (Q : α → β → Tree → Tree → Prop) : Prop :=
  ∀ t t' : Traces, P t.files t'.files → ∃ result result' printed lines lines' changes,
    x.run.run t = (result, t.add printed lines changes) ∧
    y.run.run t' = (result', t'.add printed lines' changes) ∧
    List.Forall₂ (SameLine time time') lines lines' ∧
    SameResult (fun a b => Q a b (t.files.putAll changes) (t'.files.putAll changes)) result result'

/-- Results that `S` relates over trees that `P` relates. -/
abbrev Relating (S : α → β → Prop) (P : Tree → Tree → Prop) (a : α) (b : β) (files files' : Tree) :
    Prop :=
  S a b ∧ P files files'

/-- Equal results over trees that `P` relates. -/
abbrev Equally (P : Tree → Tree → Prop) : α → α → Tree → Tree → Prop := Relating Eq P

/-- Exactly two trees. -/
def These (files files' : Tree) : Tree → Tree → Prop := fun t t' => t = files ∧ t' = files'

/-- Equal results over exactly two trees: the result that a session has over the first one. -/
abbrev Known (x : Session α) (files files' : Tree) : α → α → Tree → Tree → Prop :=
  Relating (fun a b => a = b ∧ resultOver x files = .ok a) (These files files')

namespace Alike

variable {x : Session α} {y : Session β} {Q : α → β → Tree → Tree → Prop}

theorem bind {f : α → Session γ} {g : β → Session δ} {R : γ → δ → Tree → Tree → Prop}
    (h : Alike time time' P x y Q) (hnext : ∀ a b, Alike time time' (Q a b) (f a) (g b) R) :
    Alike time time' P (x >>= f) (y >>= g) R := by
  intro t t' hP
  obtain ⟨result, result', printed, lines, lines', changes, hx, hy, hlines, hresult⟩ := h t t' hP
  rw [run_bind, run_bind, hx, hy]
  cases hresult with
  | error stop => exact ⟨_, _, printed, lines, lines', changes, rfl, rfl, hlines, .error stop⟩
  | ok hQ =>
      obtain ⟨result, result', printed', more, more', changes', hf, hg, hmore, hresult⟩ :=
        hnext _ _ (t.add printed lines changes) (t'.add printed lines' changes) hQ
      rw [Traces.add_add] at hf hg
      refine ⟨result, result', _, _, _, _, hf, hg, List.rel_append hlines hmore, ?_⟩
      rw [Tree.putAll_append, Tree.putAll_append]
      exact hresult

/-- Sessions that are alike up to a point go on with related values. -/
theorem bind_related {S : α → β → Prop} {f : α → Session γ} {g : β → Session δ}
    {R : γ → δ → Tree → Tree → Prop} (h : Alike time time' P x y (Relating S P'))
    (hnext : ∀ a b, S a b → Alike time time' P' (f a) (g b) R) :
    Alike time time' P (x >>= f) (y >>= g) R := by
  refine h.bind fun a b => ?_
  rintro t t' ⟨hS, hP⟩
  exact hnext a b hS t t' hP

theorem bind_equally {x y : Session α} {f : α → Session γ} {g : α → Session δ}
    {R : γ → δ → Tree → Tree → Prop} (h : Alike time time' P x y (Equally P'))
    (hnext : ∀ a, Alike time time' P' (f a) (g a) R) :
    Alike time time' P (x >>= f) (y >>= g) R := by
  refine h.bind_related fun a b hab => ?_
  subst hab
  exact hnext a

theorem mono (h : Alike time time' P' x y Q) (hP : ∀ files files', P files files' → P' files files') :
    Alike time time' P x y Q := fun t t' ht => h t t' (hP _ _ ht)

theorem of_silent (hx : Silent x) (hy : Silent y)
    (h : ∀ files files', P files files' →
      SameResult (fun a b => Q a b files files') (resultOver x files) (resultOver y files')) :
    Alike time time' P x y Q := by
  intro t t' hP
  refine ⟨_, _, [], [], [], [], ?_, ?_, .nil, h t.files t'.files hP⟩
  · rw [Traces.add_nil]
    exact hx.run t
  · rw [Traces.add_nil]
    exact hy.run t'

/-- A silent session with one result over all trees that `P` relates. -/
theorem of_resultOver {x y : Session α} (hx : Silent x) (hy : Silent y)
    (h : ∀ files files', P files files' → resultOver x files = resultOver y files') :
    Alike time time' P x y (Equally P) :=
  .of_silent hx hy fun files files' hP => .of_eq (h files files' hP) fun _ _ => ⟨rfl, hP⟩

theorem pure (a : α) : Alike time time' P (Pure.pure a : Session α) (Pure.pure a) (Equally P) :=
  .of_resultOver (.pure a) (.pure a) fun _ _ _ => rfl

theorem throw (stop : Stop) :
    Alike time time' P (MonadExcept.throw stop : Session α) (MonadExcept.throw stop : Session β) Q := by
  intro t t' _
  refine ⟨.error stop, .error stop, [], [], [], [], ?_, ?_, .nil, .error stop⟩
  · rw [Traces.add_nil]
    rfl
  · rw [Traces.add_nil]
    rfl

theorem ofResult (result : Except Fault α) :
    Alike time time' P (Session.ofResult result) (Session.ofResult result) (Equally P) :=
  .of_resultOver (.ofResult result) (.ofResult result) fun _ _ _ => by
    cases result <;> rfl

/-- Where lines are printed to the same output, the same ones can be printed. -/
theorem print {s s' : Surroundings} (h : s'.output = s.output) (line : String) :
    Alike time time' P (Session.print s line) (Session.print s' line) (Equally P) := by
  unfold Session.print
  rw [h]
  cases s.output.fault? line with
  | some cause => exact throw (.fault cause)
  | none =>
      exact fun _ _ hP =>
        ⟨.ok (), .ok (), [line], [], [], [], by simp [Traces.add, Tree.putAll]; rfl,
          by simp [Traces.add, Tree.putAll]; rfl, .nil, .ok ⟨rfl, hP⟩⟩

theorem report {line line' : String} (h : SameLine time time' line line') :
    Alike time time' P (Session.report line) (Session.report line') (Equally P) := fun _ _ hP =>
  ⟨.ok (), .ok (), [], [line], [line'], [], by simp [Traces.add, Tree.putAll]; rfl,
    by simp [Traces.add, Tree.putAll]; rfl, .cons h .nil, .ok ⟨rfl, hP⟩⟩

theorem log (s s' : Surroundings) (verbose : Bool) (message : String) :
    Alike s.logTime s'.logTime P (Session.log s verbose message) (Session.log s' verbose message)
      (Equally P) := by
  cases verbose with
  | false => exact .pure ()
  | true => exact .report (.progress message)

theorem reports (lines : List String) :
    Alike time time' P
      (modify fun t : Traces => { t with reported := t.reported ++ lines } : Session PUnit)
      (modify fun t : Traces => { t with reported := t.reported ++ lines } : Session PUnit)
      (Equally P) := fun _ _ hP =>
  ⟨.ok ⟨⟩, .ok ⟨⟩, [], lines, lines, [], by simp [Traces.add, Tree.putAll]; rfl,
    by simp [Traces.add, Tree.putAll]; rfl, List.forall₂_same.mpr fun line _ => .same line,
    .ok ⟨rfl, hP⟩⟩

theorem ofReport (r : Report α) :
    Alike time time' P (Session.ofReport r) (Session.ofReport r) (Equally P) :=
  (reports _).bind_equally fun _ => ofResult _

theorem complain (code : Nat) (line : String) :
    Alike time time' P (Session.complain code line : Session α)
      (Session.complain code line : Session β) Q :=
  (report (.same line)).bind_equally fun _ => throw (.status code)

theorem tryCatch {handler : Stop → Session α} {handler' : Stop → Session β}
    (h : Alike time time' P x y Q)
    (hhandler : ∀ stop, Alike time time' (fun _ _ => True) (handler stop) (handler' stop) Q) :
    Alike time time' P (MonadExcept.tryCatch x handler) (MonadExcept.tryCatch y handler') Q := by
  intro t t' hP
  obtain ⟨result, result', printed, lines, lines', changes, hx, hy, hlines, hresult⟩ := h t t' hP
  rw [run_tryCatch, run_tryCatch, hx, hy]
  cases hresult with
  | ok hQ => exact ⟨_, _, printed, lines, lines', changes, rfl, rfl, hlines, .ok hQ⟩
  | error stop =>
      obtain ⟨result, result', printed', more, more', changes', hrun, hrun', hmore, hresult⟩ :=
        hhandler stop (t.add printed lines changes) (t'.add printed lines' changes) trivial
      rw [Traces.add_add] at hrun hrun'
      refine ⟨result, result', _, _, _, _, hrun, hrun', List.rel_append hlines hmore, ?_⟩
      rw [Tree.putAll_append, Tree.putAll_append]
      exact hresult

theorem complainOf (h : Alike time time' P x y Q) (isExpected : FaultKind → Bool)
    (line : Fault → String) :
    Alike time time' P (Session.complainOf isExpected line x) (Session.complainOf isExpected line y)
      Q := by
  refine h.tryCatch fun stop => ?_
  cases stop with
  | status code => exact throw (.status code)
  | fault cause =>
      dsimp only
      split
      · exact complain 2 (line cause)
      · exact throw (.fault cause)

/-- Sessions that change two trees in the same way. -/
theorem of_changes {x y : Session α}
    (hP : ∀ files files' changes, P files files' → P (files.putAll changes) (files'.putAll changes))
    (h : ∀ t t' : Traces, P t.files t'.files → ∃ result changes,
      x.run.run t = (result, { t with files := t.files.putAll changes }) ∧
      y.run.run t' = (result, { t' with files := t'.files.putAll changes })) :
    Alike time time' P x y (Equally P) := by
  intro t t' ht
  obtain ⟨result, changes, hx, hy⟩ := h t t' ht
  refine ⟨result, result, [], [], [], changes, ?_, ?_, .nil, ?_⟩
  · simpa [Traces.add] using hx
  · simpa [Traces.add] using hy
  · exact .of_eq rfl fun a _ => ⟨rfl, hP _ _ _ ht⟩

/-! ### Over two given trees -/

variable {z z' : Session α} {files files' : Tree}

theorem known (hz : Silent z) (hz' : Silent z') (h : resultOver z files = resultOver z' files') :
    Alike time time' (These files files') z z' (Known z files files') := by
  refine .of_silent hz hz' ?_
  rintro _ _ ⟨rfl, rfl⟩
  exact .of_eq h fun a ha => ⟨⟨rfl, ha⟩, rfl, rfl⟩

/-- Two results of silent sessions. -/
theorem of_results {x : Session α} {y : Session β} {a : α} {b : β} (hx : Silent x) (hy : Silent y)
    (h : resultOver x files = .ok a) (h' : resultOver y files' = .ok b) :
    Alike time time' (These files files') x y
      (Relating (fun first second => first = a ∧ second = b) (These files files')) := by
  refine .of_silent hx hy ?_
  rintro _ _ ⟨rfl, rfl⟩
  rw [h, h']
  exact .ok ⟨⟨rfl, rfl⟩, rfl, rfl⟩

theorem known_bind {f g : α → Session γ} (hz : Silent z) (hz' : Silent z')
    (hfirst : resultOver z files = resultOver z' files')
    (h : resultOver (z >>= f) files = resultOver (z' >>= g) files')
    (hnext : ∀ a, resultOver (f a) files = resultOver (g a) files' →
      Alike time time' (These files files') (f a) (g a) (Known (f a) files files')) :
    Alike time time' (These files files') (z >>= f) (z' >>= g) (Known (z >>= f) files files') := by
  rw [hz.resultOver_bind, hz'.resultOver_bind, ← hfirst] at h
  refine (known hz hz' hfirst).bind_related ?_
  rintro a _ ⟨rfl, ha⟩
  rw [ha] at h
  have hrest : resultOver (z >>= f) files = resultOver (f a) files := by
    rw [hz.resultOver_bind, ha]
    rfl
  unfold Known
  rw [hrest]
  exact hnext a h

theorem known_log (hz : Silent z) (hz' : Silent z') (s s' : Surroundings) (verbose : Bool)
    (message : String)
    (h : resultOver (Session.log s verbose message >>= fun _ => z) files =
      resultOver (Session.log s' verbose message >>= fun _ => z') files') :
    Alike s.logTime s'.logTime (These files files') (Session.log s verbose message >>= fun _ => z)
      (Session.log s' verbose message >>= fun _ => z')
      (Known (Session.log s verbose message >>= fun _ => z) files files') := by
  rw [hz.resultOver_log_bind, hz'.resultOver_log_bind] at h
  unfold Known
  rw [hz.resultOver_log_bind]
  exact (log s s' verbose message).bind_equally fun _ => known hz hz' h

end Alike

end TabNotes.CommandLine
