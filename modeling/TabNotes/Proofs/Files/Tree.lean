import TabNotes.Files.Tree
import TabNotes.Proofs.Runs

/-! # What making directories and writing changes

Making directories only adds directories (`grows_makeDirectories`).  A file that is written holds
what was written to it, under the same path (`read_of_write`), and nothing else changes. -/

namespace TabNotes.Files.Tree

variable {t t' made : Tree} {l l' m : Location} {names : List String} {p : Path}
  {content : List UInt8} {workingDirectory : Location}

/-! ### Directories -/

/-- Whether a tree is another one with directories added to it. -/
def Grows (t t' : Tree) : Prop :=
  ∀ l, t'.node? l = t.node? l ∨ t.node? l = none ∧ t'.node? l = some .directory

theorem Grows.refl (t : Tree) : Grows t t := fun _ => .inl rfl

theorem Grows.trans {t'' : Tree} (h : Grows t t') (h' : Grows t' t'') : Grows t t'' := by
  intro l
  rcases h l with hsame | ⟨hnone, hnew⟩
  · rw [← hsame]
    exact h' l
  · refine .inr ⟨hnone, ?_⟩
    rcases h' l with hsame | ⟨hnone', -⟩
    · rw [hsame, hnew]
    · rw [hnew] at hnone'
      cases hnone'

theorem node?_root (t : Tree) : t.node? [] = some .directory := rfl

theorem ne_root_of_node? (h : t.node? l ≠ some .directory) : l ≠ [] := by
  rintro rfl
  exact h (node?_root t)

theorem grows_makeDirectory (h : t.makeDirectory workingDirectory p = .ok made) : Grows t made := by
  obtain ⟨l, -, h⟩ := bind_eq_ok_iff.mp h
  split at h
  · cases h
    exact .refl t
  · cases h
  · rename_i hnone
    cases h
    intro m
    rw [node?_put (ne_root_of_node? (by rw [hnone]; simp))]
    by_cases hm : m = l
    · rw [if_pos hm, hm]
      exact .inr ⟨hnone, rfl⟩
    · rw [if_neg hm]
      exact .inl rfl

theorem grows_attemptDirectory (t : Tree) (workingDirectory : Location) (p : Path) :
    Grows t (t.attemptDirectory workingDirectory p).2 := by
  unfold attemptDirectory
  split
  · rename_i hmade
    exact grows_makeDirectory hmade
  · exact .refl t

theorem grows_makeDirectoriesFrom (workingDirectory : Location) (start : Start)
    (names : List String) (t : Tree) : Grows t (makeDirectoriesFrom workingDirectory start t names).2 := by
  induction names generalizing t with
  | nil => exact grows_attemptDirectory t workingDirectory _
  | cons name names ih =>
      rw [makeDirectoriesFrom]
      split
      · have habove := ih t
        split
        · rename_i hmade
          rw [hmade] at habove
          exact habove.trans (grows_attemptDirectory _ workingDirectory _)
        · rename_i hmade
          rw [hmade] at habove
          exact habove
      · exact grows_attemptDirectory t workingDirectory _

theorem grows_makeDirectories (t : Tree) (workingDirectory : Location) (p : Path) :
    Grows t (t.makeDirectories workingDirectory p).2 := by
  unfold makeDirectories
  split
  · exact .refl t
  · exact grows_makeDirectoriesFrom workingDirectory p.start p.names.reverse t

/-! ### Files -/

theorem write_eq_ok (h : t.write workingDirectory p content = .ok t') :
    holdsNul p = false ∧ ∃ l, t.locate workingDirectory p = .ok l ∧ t.node? l ≠ some .directory ∧
      t' = t.put l (.file content) := by
  unfold write at h
  split at h
  · cases h
  · rename_i hnul
    refine ⟨by simpa using hnul, ?_⟩
    split at h
    · cases h
    · rename_i l hlocate
      split at h
      · cases h
      · rename_i hnode
        exact ⟨l, hlocate, hnode, (Except.ok.inj h).symm⟩

/-- A node that is no directory is on no way through the tree, so it can change. -/
theorem walk_put (hm : t.node? m ≠ some .directory) {n : Node} (h : t.walk l names = .ok l') :
    (t.put m n).walk l names = .ok l' := by
  induction names generalizing l with
  | nil => exact h
  | cons name names ih =>
      obtain ⟨next, hstep, h⟩ := bind_eq_ok_iff.mp h
      have hdirectory : t.node? l = some .directory := by
        unfold step at hstep
        split at hstep
        · assumption
        · cases hstep
        · cases hstep
      have hl : l ≠ m := by
        rintro rfl
        exact hm hdirectory
      have hput : (t.put m n).step l name = t.step l name := by
        unfold step
        rw [node?_put (ne_root_of_node? hm), if_neg hl]
      exact bind_eq_ok_iff.mpr ⟨next, hput.trans hstep, ih h⟩

/-- What is written to a file is read from it. -/
theorem read_of_write (h : t.write workingDirectory p content = .ok t') :
    t'.read workingDirectory p = .ok content := by
  obtain ⟨hnul, l, hlocate, hnode, rfl⟩ := write_eq_ok h
  have hput : (t.put l (.file content)).locate workingDirectory p = .ok l := walk_put hnode hlocate
  have hfile : (t.put l (.file content)).node? l = some (.file content) := by
    rw [node?_put (ne_root_of_node? hnode), if_pos rfl]
  rw [read, hnul, hput]
  simp [hfile]

end TabNotes.Files.Tree
