import TabNotes.Notice

/-! # Runs of computations with a state

Rendering and reporting both are computations that may end in a fault and carry a state, the stack
of frames or the notices given so far.  The lemmas about results and runs say when a part of one is
reached (`bind_eq_ok_iff`, `run_bind_eq_ok_iff`) and where it fails (`bind_eq_error_iff`), also for
the items of a list (`mapM_eq_ok_iff`, `exists_error_of_mapM`).  `SameResult` relates two results:
the same fault, or values that a relation relates. -/

namespace TabNotes

variable {σ ε α β : Type}

/-- Results one after another are reached when each of them is. -/
theorem bind_eq_ok_iff {result : Except ε α} {next : α → Except ε β} {b : β} :
    result >>= next = .ok b ↔ ∃ a, result = .ok a ∧ next a = .ok b := by
  cases result with
  | error e =>
      constructor
      · rintro ⟨⟩
      · rintro ⟨a, ⟨⟩, -⟩
  | ok a =>
      constructor
      · intro h
        exact ⟨a, rfl, h⟩
      · rintro ⟨_, ⟨⟩, h⟩
        exact h

/-- Results one after another fail where the first one that is not reached fails. -/
theorem bind_eq_error_iff {result : Except ε α} {next : α → Except ε β} {e : ε} :
    result >>= next = .error e ↔ result = .error e ∨ ∃ a, result = .ok a ∧ next a = .error e := by
  cases result with
  | error e' =>
      constructor
      · rintro ⟨⟩
        exact .inl rfl
      · rintro (⟨⟨⟩⟩ | ⟨a, ⟨⟩, -⟩)
        rfl
  | ok a =>
      constructor
      · intro h
        exact .inr ⟨a, rfl, h⟩
      · rintro (⟨⟨⟩⟩ | ⟨_, ⟨⟩, h⟩)
        exact h

theorem map_eq_ok_iff {result : Except ε α} {f : α → β} {b : β} :
    result.map f = .ok b ↔ ∃ a, result = .ok a ∧ f a = b := by
  cases result with
  | error e =>
      constructor
      · rintro ⟨⟩
      · rintro ⟨a, ⟨⟩, -⟩
  | ok a =>
      constructor
      · rintro ⟨⟩
        exact ⟨a, rfl, rfl⟩
      · rintro ⟨_, ⟨⟩, rfl⟩
        rfl

theorem map_eq_error_iff {result : Except ε α} {f : α → β} {e : ε} :
    result.map f = .error e ↔ result = .error e := by
  cases result with
  | error e' =>
      constructor
      · rintro ⟨⟩
        rfl
      · rintro ⟨⟩
        rfl
  | ok a =>
      constructor
      · rintro ⟨⟩
      · rintro ⟨⟩

theorem mapError_ok {ε' : Type} (f : ε → ε') (a : α) :
    (Except.ok a).mapError f = .ok a := rfl

theorem mapError_error {ε' : Type} (f : ε → ε') (e : ε) :
    (Except.error e : Except ε α).mapError f = .error (f e) := rfl

theorem mapError_eq_ok_iff {ε' : Type} {f : ε → ε'} {result : Except ε α} {a : α} :
    result.mapError f = .ok a ↔ result = .ok a := by
  cases result with
  | error e => simp [mapError_error]
  | ok b => rw [mapError_ok, Except.ok.injEq, Except.ok.injEq]

theorem mapError_eq_error_iff {ε' : Type} {f : ε → ε'} {result : Except ε α} {e' : ε'} :
    result.mapError f = .error e' ↔ ∃ e, result = .error e ∧ f e = e' := by
  cases result with
  | error e => simp [mapError_error]
  | ok a => simp [mapError_ok]

/-- Two results that are the same fault, or related values. -/
inductive SameResult (R : α → β → Prop) : Except ε α → Except ε β → Prop where
  | error (e : ε) : SameResult R (.error e) (.error e)
  | ok {a : α} {b : β} (h : R a b) : SameResult R (.ok a) (.ok b)

namespace SameResult

theorem of_eq {R : α → α → Prop} {result result' : Except ε α} (h : result = result')
    (hok : ∀ a, result = .ok a → R a a) : SameResult R result result' := by
  subst h
  cases result with
  | error e => exact .error e
  | ok a => exact .ok (hok a rfl)

theorem trans {γ : Type} {R : α → β → Prop} {S : β → γ → Prop} {T : α → γ → Prop}
    {result : Except ε α} {result' : Except ε β} {result'' : Except ε γ}
    (hT : ∀ a b c, R a b → S b c → T a c) (h : SameResult R result result')
    (h' : SameResult S result' result'') : SameResult T result result'' := by
  cases h with
  | error e =>
      cases h'
      exact .error e
  | ok hR =>
      cases h' with
      | ok hS => exact .ok (hT _ _ _ hR hS)

/-- What is made of related values is the same. -/
theorem bind_eq {γ : Type} {R : α → β → Prop} {result : Except ε α} {result' : Except ε β}
    {next : α → Except ε γ} {next' : β → Except ε γ} (h : SameResult R result result')
    (hnext : ∀ a b, R a b → next a = next' b) : result >>= next = result' >>= next' := by
  cases h with
  | error e => rfl
  | ok hab => exact hnext _ _ hab

end SameResult

/-- Going through a list succeeds when every item does. -/
theorem mapM_eq_ok_iff {f : α → Except ε β} {items : List α} {bs : List β} :
    items.mapM f = .ok bs ↔ items.map f = bs.map .ok := by
  induction items generalizing bs with
  | nil =>
      cases bs with
      | nil => exact iff_of_true rfl rfl
      | cons b bs => exact iff_of_false (fun h => by cases h) (fun h => by cases h)
  | cons a items ih =>
      rw [List.mapM_cons, bind_eq_ok_iff]
      constructor
      · rintro ⟨b, hb, h⟩
        obtain ⟨more, hmore, h⟩ := bind_eq_ok_iff.mp h
        cases h
        rw [List.map_cons, List.map_cons, hb, ih.mp hmore]
      · intro h
        cases bs with
        | nil => cases h
        | cons b bs =>
            obtain ⟨hb, hmore⟩ := List.cons.inj h
            exact ⟨b, hb, bind_eq_ok_iff.mpr ⟨bs, ih.mpr hmore, rfl⟩⟩

theorem exists_of_mem_of_mapM {f : α → Except ε β} {items : List α} {bs : List β}
    (h : items.mapM f = .ok bs) : ∀ b ∈ bs, ∃ a ∈ items, f a = .ok b := by
  intro b hb
  have hmem : .ok b ∈ items.map f := mapM_eq_ok_iff.mp h ▸ List.mem_map_of_mem hb
  exact List.mem_map.mp hmem

theorem ok_of_mapM {f : α → Except ε β} {items : List α} {bs : List β}
    (h : items.mapM f = .ok bs) : ∀ a ∈ items, ∃ b, f a = .ok b := by
  intro a ha
  have hmem : f a ∈ bs.map .ok := mapM_eq_ok_iff.mp h ▸ List.mem_map_of_mem ha
  obtain ⟨b, -, hb⟩ := List.mem_map.mp hmem
  exact ⟨b, hb.symm⟩

theorem exists_error_of_mapM {f : α → Except ε β} {items : List α} {e : ε}
    (h : items.mapM f = .error e) : ∃ a ∈ items, f a = .error e := by
  induction items with
  | nil => cases h
  | cons a items ih =>
      rw [List.mapM_cons] at h
      rcases bind_eq_error_iff.mp h with ha | ⟨b, -, h⟩
      · exact ⟨a, List.mem_cons_self, ha⟩
      · rcases bind_eq_error_iff.mp h with hmore | ⟨bs, -, h⟩
        · obtain ⟨c, hc, hfc⟩ := ih hmore
          exact ⟨c, List.mem_cons_of_mem a hc, hfc⟩
        · cases h

/-- One computation after another: a fault of the first one ends the run in the state it is in. -/
theorem run_bind (first : ExceptT ε (StateM σ) α) (next : α → ExceptT ε (StateM σ) β) (s : σ) :
    (first >>= next).run.run s =
      match first.run.run s with
      | (.ok a, s) => (next a).run.run s
      | (.error e, s) => (.error e, s) := by
  simp only [ExceptT.run_bind, StateT.run_bind]
  rcases first.run.run s with ⟨_ | _, _⟩ <;> rfl

/-- A computation that reaches a result has reached one in each of its parts. -/
theorem run_bind_eq_ok_iff {first : ExceptT ε (StateM σ) α} {next : α → ExceptT ε (StateM σ) β}
    {s s'' : σ} {b : β} : (first >>= next).run.run s = (.ok b, s'') ↔
      ∃ a s', first.run.run s = (.ok a, s') ∧ (next a).run.run s' = (.ok b, s'') := by
  rw [run_bind]
  constructor
  · intro h
    split at h
    · rename_i a s' ha
      exact ⟨a, s', ha, h⟩
    · cases h
  · rintro ⟨a, s', ha, h⟩
    rw [ha]
    exact h

/-- A computation with a handler: a fault is handled in the state that it leaves. -/
theorem run_tryCatch (body : ExceptT ε (StateM σ) α) (handler : ε → ExceptT ε (StateM σ) α)
    (s : σ) :
    (tryCatch body handler).run.run s =
      match body.run.run s with
      | (.ok a, s) => (.ok a, s)
      | (.error e, s) => (handler e).run.run s := by
  simp only [ExceptT.run_tryCatch, StateT.run_bind]
  rcases body.run.run s with ⟨_ | _, _⟩ <;> rfl

theorem run_ofResult (result : Except Fault α) (notices : List Notice) :
    (Report.ofResult result).run.run notices = (result, notices) := rfl

theorem run_ofResult_bind_eq_ok_iff {result : Except Fault α} {next : α → Report β}
    {notices notices' : List Notice} {b : β} :
    (Report.ofResult result >>= next).run.run notices = (.ok b, notices') ↔
      ∃ a, result = .ok a ∧ (next a).run.run notices = (.ok b, notices') := by
  rw [run_bind_eq_ok_iff]
  constructor
  · rintro ⟨a, _, hresult, h⟩
    cases hresult
    exact ⟨a, rfl, h⟩
  · rintro ⟨a, rfl, h⟩
    exact ⟨a, notices, rfl, h⟩

/-- Where the first result is no template fault it is the outcome, without a notice. -/
theorem run_orDefault (notice : TemplateFault → Notice) (result fallback : Except Fault α)
    (notices : List Notice) :
    (Report.orDefault notice result fallback).run.run notices =
      match result with
      | .error (.template cause) => (fallback, notices ++ [notice cause])
      | result => (result, notices) := by
  rcases result with fault | a
  · cases fault <;> rfl
  · rfl

end TabNotes
