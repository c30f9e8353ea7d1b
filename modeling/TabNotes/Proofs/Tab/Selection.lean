import Mathlib.Data.List.Forall2
import TabNotes.Proofs.Runs
import TabNotes.Tab.Selection

/-! # Tabs that a selection leaves out

A tab that is left out whether or not there is a selection counts only for whether there is one.
Two lists of tabs that differ in such tabs alone, with the same tabs highlighted, give the same
selection (`select_congr`). -/

namespace TabNotes.Tab

variable {restrictions : List String} {tab tab' : Value} {tabs tabs' entries : List Value}

/-- The same tab, or two tabs that are left out in any case and of which both or none is
highlighted. -/
def SameChoice (restrictions : List String) (tab tab' : Value) : Prop :=
  tab = tab' ∨ isExported restrictions false tab = false ∧
    isExported restrictions false tab' = false ∧ isHighlighted tab = isHighlighted tab'

theorem isExported_of_left_out (h : isExported restrictions false tab = false)
    (onlyHighlighted : Bool) : isExported restrictions onlyHighlighted tab = false := by
  simp only [isExported, Bool.not_false, Bool.true_or, Bool.and_true] at h ⊢
  rw [h, Bool.false_and]

theorem filter_congr_of_sameChoice (h : List.Forall₂ (SameChoice restrictions) tabs tabs')
    (onlyHighlighted : Bool) :
    tabs.filter (isExported restrictions onlyHighlighted) =
      tabs'.filter (isExported restrictions onlyHighlighted) := by
  induction h with
  | nil => rfl
  | cons hchoice _ ih =>
      rcases hchoice with rfl | ⟨hout, hout', -⟩
      · rw [List.filter_cons, List.filter_cons, ih]
      · rw [List.filter_cons_of_neg (by simp [isExported_of_left_out hout]),
          List.filter_cons_of_neg (by simp [isExported_of_left_out hout']), ih]

theorem hasSelection_congr (h : List.Forall₂ (SameChoice restrictions) tabs tabs') :
    hasSelection tabs = hasSelection tabs' := by
  have hlength : (tabs.filter isHighlighted).length = (tabs'.filter isHighlighted).length := by
    induction h with
    | nil => rfl
    | cons hchoice _ ih =>
        have hhighlighted := hchoice.elim (congrArg isHighlighted) fun h => h.2.2
        rw [List.filter_cons, List.filter_cons, hhighlighted]
        split
        · rw [List.length_cons, List.length_cons, ih]
        · exact ih
  rw [hasSelection, hasSelection, hlength]

theorem select_congr
    (h : List.Forall₂ (SameChoice (usableRestrictions entries)) tabs tabs') :
    select tabs entries = select tabs' entries := by
  rw [select, select, hasSelection_congr h]
  exact filter_congr_of_sameChoice h _

/-! ### Restrictions of unknown shape -/

theorem itemsIfTrue_ofList (items : List Value) : (Value.ofList items).itemsIfTrue = .ok items := by
  cases items <;> rfl

theorem selectFrom_ofList (tabs : List Value) (restrictions : Value) :
    selectFrom (.ofList tabs) restrictions = restrictions.itemsIfTrue.map (select tabs) := by
  rw [selectFrom, itemsIfTrue_ofList]
  cases restrictions.itemsIfTrue <;> rfl

end TabNotes.Tab
