import TabNotes.Proofs.Files.Tree

/-! # The same changes to two trees

`AgreeBut` relates two trees that differ at most in what one file holds.  No operation but reading
that file can tell them apart: paths lead to the same places (`AgreeBut.locate`), and making
directories and writing are refused alike or set the same nodes in both (`AgreeBut.makeDirectories`,
`AgreeBut.write`), after which the trees still differ at most there (`AgreeBut.putAll`). -/

namespace TabNotes.Files.Tree

variable {t t' : Tree} {l m : Location} {names : List String} {p : Path} {content : List UInt8}
  {workingDirectory : Location}

/-! ### Changes -/

/-- Sets nodes one after the other. -/
def putAll (t : Tree) (changes : List (Location × Node)) : Tree :=
  changes.foldl (fun t change => t.put change.1 change.2) t

theorem putAll_append (t : Tree) (changes more : List (Location × Node)) :
    t.putAll (changes ++ more) = (t.putAll changes).putAll more :=
  List.foldl_append

/-- An operation on two trees that is refused for the same reason, or that sets the same nodes. -/
def SameChanges {ε : Type} (t t' : Tree) (result result' : Except ε Tree) : Prop :=
  (∃ cause, result = .error cause ∧ result' = .error cause) ∨
    ∃ changes, result = .ok (t.putAll changes) ∧ result' = .ok (t'.putAll changes)

/-! ### Trees that differ in one file -/

/-- The same nodes everywhere but at one place, where both trees have a file. -/
def AgreeBut (l : Location) (t t' : Tree) : Prop :=
  ∀ m, t.node? m = t'.node? m ∨ m = l ∧ (∃ content, t.node? m = some (.file content)) ∧
    ∃ content, t'.node? m = some (.file content)

theorem node?_put_eq (t : Tree) (l m : Location) (n : Node) :
    (t.put l n).node? m = if m = l ∧ l ≠ [] then some n else t.node? m := by
  by_cases hl : l = []
  · subst hl
    by_cases hm : m = []
    · subst hm
      rfl
    · simp only [node?, put, hm, if_false, List.lookup_cons, beq_eq_false_iff_ne.mpr hm,
        lookup_filter hm, false_and]
  · simp only [node?_put hl, hl, ne_eq, not_false_eq_true, and_true]

namespace AgreeBut

theorem put (h : AgreeBut l t t') (m : Location) (n : Node) : AgreeBut l (t.put m n) (t'.put m n) := by
  intro k
  rw [node?_put_eq, node?_put_eq]
  by_cases hk : k = m ∧ m ≠ []
  · rw [if_pos hk, if_pos hk]
    exact .inl rfl
  · rw [if_neg hk, if_neg hk]
    exact h k

theorem putAll (h : AgreeBut l t t') (changes : List (Location × Node)) :
    AgreeBut l (t.putAll changes) (t'.putAll changes) := by
  induction changes generalizing t t' with
  | nil => exact h
  | cons change changes ih => exact ih (h.put change.1 change.2)

theorem step (h : AgreeBut l t t') (m : Location) (name : String) : t.step m name = t'.step m name := by
  unfold Tree.step
  rcases h m with hsame | ⟨-, ⟨content, hfile⟩, content', hfile'⟩
  · rw [hsame]
  · rw [hfile, hfile']

theorem walk (h : AgreeBut l t t') (m : Location) (names : List String) :
    t.walk m names = t'.walk m names := by
  induction names generalizing m with
  | nil => rfl
  | cons name names ih =>
      rw [Tree.walk, Tree.walk, h.step]
      exact congrArg (t'.step m name >>= ·) (funext ih)

theorem locate (h : AgreeBut l t t') (workingDirectory : Location) (p : Path) :
    t.locate workingDirectory p = t'.locate workingDirectory p :=
  h.walk _ _

theorem exists? (h : AgreeBut l t t') (workingDirectory : Location) (p : Path) :
    t.exists? workingDirectory p = t'.exists? workingDirectory p := by
  have hnode : ∀ m, (t.node? m).isSome = (t'.node? m).isSome := by
    intro m
    rcases h m with hsame | ⟨-, ⟨content, hfile⟩, content', hfile'⟩
    · rw [hsame]
    · rw [hfile, hfile']
      rfl
  unfold Tree.exists?
  rw [h.locate]
  simp only [hnode]

/-! ### Making directories -/

theorem makeDirectory_of_locate (h : t.locate workingDirectory p = .ok m) :
    t.makeDirectory workingDirectory p =
      match t.node? m with
      | some .directory => .ok t
      | some (.file _) => .error .alreadyThere
      | none => .ok (t.put m .directory) := by
  unfold Tree.makeDirectory
  rw [h]
  rfl

theorem makeDirectory (h : AgreeBut l t t') (workingDirectory : Location) (p : Path) :
    SameChanges t t' (t.makeDirectory workingDirectory p) (t'.makeDirectory workingDirectory p) := by
  have hlocate := h.locate workingDirectory p
  cases hm : t.locate workingDirectory p with
  | error cause =>
      rw [hm] at hlocate
      refine .inl ⟨cause, ?_, ?_⟩
      · rw [Tree.makeDirectory, hm]
        rfl
      · rw [Tree.makeDirectory, ← hlocate]
        rfl
  | ok m =>
      rw [hm] at hlocate
      rw [makeDirectory_of_locate hm, makeDirectory_of_locate hlocate.symm]
      rcases h m with hsame | ⟨-, ⟨content, hfile⟩, content', hfile'⟩
      · rw [hsame]
        cases t'.node? m with
        | none => exact .inr ⟨[(m, .directory)], rfl, rfl⟩
        | some node =>
            cases node with
            | directory => exact .inr ⟨[], rfl, rfl⟩
            | file content => exact .inl ⟨_, rfl, rfl⟩
      · rw [hfile, hfile']
        exact .inl ⟨_, rfl, rfl⟩

theorem attemptDirectory (h : AgreeBut l t t') (workingDirectory : Location) (p : Path) :
    ∃ result changes, t.attemptDirectory workingDirectory p = (result, t.putAll changes) ∧
      t'.attemptDirectory workingDirectory p = (result, t'.putAll changes) := by
  unfold Tree.attemptDirectory
  rcases h.makeDirectory workingDirectory p with ⟨cause, hmade, hmade'⟩ | ⟨changes, hmade, hmade'⟩
  · rw [hmade, hmade']
    exact ⟨_, [], rfl, rfl⟩
  · rw [hmade, hmade']
    exact ⟨_, changes, rfl, rfl⟩

theorem makeDirectoriesFrom (h : AgreeBut l t t') (workingDirectory : Location) (start : Start)
    (names : List String) :
    ∃ result changes,
      Tree.makeDirectoriesFrom workingDirectory start t names = (result, t.putAll changes) ∧
        Tree.makeDirectoriesFrom workingDirectory start t' names = (result, t'.putAll changes) := by
  induction names generalizing t t' with
  | nil => exact h.attemptDirectory workingDirectory _
  | cons name names ih =>
      have hattempt := h.attemptDirectory workingDirectory ⟨start, (name :: names).reverse⟩
      rw [Tree.makeDirectoriesFrom, Tree.makeDirectoriesFrom]
      rcases h.makeDirectory workingDirectory ⟨start, (name :: names).reverse⟩ with
        ⟨cause, hmade, hmade'⟩ | ⟨changes, hmade, hmade'⟩
      · rw [hmade, hmade']
        cases cause with
        | missing =>
            obtain ⟨result, changes, habove, habove'⟩ := ih h
            rw [habove, habove']
            cases result with
            | error fault => exact ⟨_, changes, rfl, rfl⟩
            | ok =>
                obtain ⟨result, more, hlast, hlast'⟩ :=
                  (h.putAll changes).attemptDirectory workingDirectory
                    ⟨start, (name :: names).reverse⟩
                refine ⟨result, changes ++ more, ?_, ?_⟩
                · rw [putAll_append]
                  exact hlast
                · rw [putAll_append]
                  exact hlast'
        | _ => exact hattempt
      · rw [hmade, hmade']
        exact hattempt

theorem makeDirectories (h : AgreeBut l t t') (workingDirectory : Location) (p : Path) :
    ∃ result changes, t.makeDirectories workingDirectory p = (result, t.putAll changes) ∧
      t'.makeDirectories workingDirectory p = (result, t'.putAll changes) := by
  unfold Tree.makeDirectories
  split
  · exact ⟨_, [], rfl, rfl⟩
  · exact h.makeDirectoriesFrom workingDirectory p.start p.names.reverse

/-! ### Writing -/

theorem write (h : AgreeBut l t t') (workingDirectory : Location) (p : Path)
    (content : List UInt8) :
    SameChanges t t' (t.write workingDirectory p content)
      (t'.write workingDirectory p content) := by
  unfold Tree.write
  rw [h.locate]
  split
  · exact .inl ⟨_, rfl, rfl⟩
  · cases t'.locate workingDirectory p with
    | error cause => exact .inl ⟨_, rfl, rfl⟩
    | ok m =>
        dsimp only
        rcases h m with hsame | ⟨-, ⟨old, hfile⟩, old', hfile'⟩
        · rw [hsame]
          cases t'.node? m with
          | none => exact .inr ⟨[(m, .file content)], rfl, rfl⟩
          | some node =>
              cases node with
              | directory => exact .inl ⟨_, rfl, rfl⟩
              | file old => exact .inr ⟨[(m, .file content)], rfl, rfl⟩
        · rw [hfile, hfile']
          exact .inr ⟨[(m, .file content)], rfl, rfl⟩

end AgreeBut

end TabNotes.Files.Tree
