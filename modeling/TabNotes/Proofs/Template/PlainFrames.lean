import TabNotes.Proofs.Json
import TabNotes.Proofs.Template.DigitLimits
import TabNotes.Proofs.Template.RoundTrip

/-! # Templates over plain frames

A plain value holds no list, no function and no integer of too many digits.  Over plain frames every
name has a plain value, since no position of a list is ever read, and every plain value can be
written.  So a template that can be parsed is rendered (`render_of_isPlain`). -/

namespace TabNotes.Template

open TabNotes.Number TabNotes.Text

variable {v : Value} {frames : List Value} {name : String}

/-- The values that every tag can take. -/
inductive IsPlain : Value → Prop where
  | null : IsPlain .null
  | bool (b : Bool) : IsPlain (.bool b)
  | int {n : Int} (h : ¬ IsLongInteger n) : IsPlain (.int n)
  | text (s : String) : IsPlain (.text s)
  | map {entries : Entries} (h : ∀ entry ∈ entries, IsPlain entry.2) : IsPlain (.map entries)

/-- A single digit is written. -/
theorem not_isLongInteger_of_lt {n : Int} (h : n.natAbs < 10) : ¬ IsLongInteger n := by
  have hpos : 0 < digitLimit := by decide
  have hbound : 10 ≤ Nat.pow 10 digitLimit := by
    generalize digitLimit = k at hpos ⊢
    rw [Nat.pow_eq]
    exact Nat.le_self_pow (by omega) 10
  rw [IsLongInteger]
  generalize Nat.pow 10 digitLimit = bound at hbound ⊢
  omega

theorem isPlain_record {fields : List (String × Value)} (h : ∀ field ∈ fields, IsPlain field.2) :
    IsPlain (.record fields) := by
  refine .map fun entry hentry => ?_
  obtain ⟨field, hfield, rfl⟩ := List.mem_map.mp hentry
  exact h field hfield

/-! ### Names -/

/-- A search that succeeds, and that finds nothing but plain values. -/
def FindsPlain (result : Except Fault (Option Value)) : Prop :=
  ∃ found, result = .ok found ∧ ∀ v, found = some v → IsPlain v

theorem findsPlain_none : FindsPlain (.ok none) := ⟨none, rfl, by rintro _ ⟨⟩⟩

theorem findsPlain_some (h : IsPlain v) : FindsPlain (.ok (some v)) := by
  refine ⟨some v, rfl, ?_⟩
  rintro _ ⟨⟩
  exact h

theorem IsPlain.follow (h : IsPlain v) (path : List String) : FindsPlain (follow path v) := by
  induction path generalizing v with
  | nil => exact findsPlain_some h
  | cons segment path ih =>
      cases h with
      | map hentries =>
          rw [Template.follow]
          split
          · rename_i w hfound
            obtain ⟨entry, hentry, rfl⟩ := Json.exists_mem_of_get? hfound
            exact ih (hentries entry hentry)
          · exact findsPlain_none
      | _ => exact findsPlain_none

theorem findsPlain_findPath (path : List String) (h : ∀ frame ∈ frames, IsPlain frame) :
    FindsPlain (findPath path frames) := by
  induction frames with
  | nil => exact findsPlain_none
  | cons frame frames ih =>
      obtain ⟨hframe, hframes⟩ := List.forall_mem_cons.mp h
      obtain ⟨found, hfollow, hfound⟩ := hframe.follow path
      rw [findPath, hfollow]
      cases found with
      | none => exact ih hframes
      | some w => exact findsPlain_some (hfound w rfl)

theorem findsPlain_resolve (name : String) (h : ∀ frame ∈ frames, IsPlain frame) :
    FindsPlain (resolve name frames) := by
  rw [resolve]
  split
  · cases frames with
    | nil => exact findsPlain_none
    | cons frame frames => exact findsPlain_some (h frame List.mem_cons_self)
  · exact findsPlain_findPath _ h

/-- Over plain frames every name has a plain value. -/
theorem lookup_of_isPlain (name : String) (h : ∀ frame ∈ frames, IsPlain frame) :
    ∃ v, lookup name frames = .ok v ∧ IsPlain v := by
  obtain ⟨found, hresolve, hfound⟩ := findsPlain_resolve name h
  rw [lookup_eq, hresolve]
  cases found with
  | none => exact ⟨.null, rfl, .null⟩
  | some v =>
      have hv := hfound v rfl
      refine ⟨v, ?_, hv⟩
      cases hv <;> rfl

theorem IsPlain.valueText (h : IsPlain v) : ∃ s, valueText v = .ok s := by
  cases htext : Template.valueText v with
  | ok s => exact ⟨s, rfl⟩
  | error fault =>
      have hlong := (valueText_eq_error v fault htext).2
      cases h with
      | int hshort =>
          rw [HoldsLongInteger] at hlong
          exact absurd hlong hshort
      | _ => exact absurd hlong (by simp [HoldsLongInteger])

/-! ### Tokens -/

/-- The text of the value of a name is there. -/
theorem textOfName_of_isPlain (name : String) (h : ∀ frame ∈ frames, IsPlain frame) :
    ∃ s, lookup name frames >>= valueText = .ok s := by
  obtain ⟨v, hlookup, hv⟩ := lookup_of_isPlain name h
  obtain ⟨s, hs⟩ := hv.valueText
  exact ⟨s, bind_eq_ok_iff.mpr ⟨v, hlookup, hs⟩⟩

theorem sectionOutput_of_isPlain {body : List Value → Except Fault String} (hv : IsPlain v)
    (h : ∀ frame ∈ frames, IsPlain frame)
    (hbody : ∀ frames, (∀ frame ∈ frames, IsPlain frame) → ∃ s, body frames = .ok s) :
    ∃ s, sectionOutput body v frames = .ok s := by
  cases hv with
  | map hentries => exact hbody _ (List.forall_mem_cons.mpr ⟨.map hentries, h⟩)
  | null => exact ⟨"", rfl⟩
  | bool | int | text =>
      rw [sectionOutput]
      · split
        · exact hbody frames h
        · exact ⟨"", rfl⟩
      · rintro _ _ ⟨⟩
      · rintro _ ⟨⟩

mutual

theorem Token.output_of_isPlain : ∀ (token : Token), token.IsWritten → ∀ frames : List Value,
    (∀ frame ∈ frames, IsPlain frame) → ∃ s, token.output frames = .ok s
  | .text s, _, _, _ => ⟨s, by rw [Token.output]⟩
  | .comment, _, _, _ => ⟨"", by rw [Token.output]⟩
  | .escaped name, _, frames, h => by
      obtain ⟨s, hs⟩ := textOfName_of_isPlain name h
      rw [Token.output, ← bind_assoc, hs]
      exact ⟨_, rfl⟩
  | .raw name, _, frames, h => by
      rw [Token.output]
      exact textOfName_of_isPlain name h
  | .block name children, hw, frames, h => by
      rw [Token.IsWritten] at hw
      obtain ⟨v, hlookup, hv⟩ := lookup_of_isPlain name h
      rw [Token.output, hlookup]
      exact sectionOutput_of_isPlain hv h (output_of_isPlain children hw.2)
  | .inverted name children, hw, frames, h => by
      rw [Token.IsWritten] at hw
      obtain ⟨v, hlookup, hv⟩ := lookup_of_isPlain name h
      rw [Token.output, hlookup]
      show ∃ s, (if isShown v then .ok "" else output children frames) = .ok s
      split
      · exact ⟨"", rfl⟩
      · exact output_of_isPlain children hw.2 frames h
  | .foreign v, hw, _, _ => by
      rw [Token.IsWritten] at hw
      exact absurd hw id

/-- The tokens of a template are rendered over plain frames. -/
theorem output_of_isPlain {isTop : Bool} : ∀ (ts : List Token), AllWritten isTop ts →
    ∀ frames : List Value, (∀ frame ∈ frames, IsPlain frame) → ∃ s, output ts frames = .ok s
  | [], _, _, _ => ⟨"", by rw [output]⟩
  | token :: tokens, hw, frames, h => by
      rw [AllWritten] at hw
      obtain ⟨first, hfirst⟩ := Token.output_of_isPlain token hw.1 frames h
      obtain ⟨rest, hrest⟩ := output_of_isPlain tokens hw.2.2 frames h
      rw [output, hfirst, hrest]
      exact ⟨_, rfl⟩

end

/-! ### Templates -/

/-- A text without tags is a template. -/
theorem parse_of_not_tagOpen {s : String} (h : ¬ tagOpen <:+: s.toList) :
    parse s defaultDepth = .ok (literal s.toList) :=
  parse_eq_ok_iff.mpr (.finish (cutAt_eq_none_iff.mpr h))

theorem render_eq_error {template : String} {fault : SyntaxFault} (context : Value)
    (h : parse template defaultDepth = .error fault) :
    render template context = .error (.template (.malformed fault)) := by
  rw [render_eq, h]

/-- In a plain context a template that can be parsed is rendered. -/
theorem render_of_isPlain {template : String} {ts : List Token} {context : Value}
    (hcontext : IsPlain context) (h : parse template defaultDepth = .ok ts) :
    ∃ s, render template context = .ok s := by
  rw [render_eq, h]
  refine output_of_isPlain ts ((parse_eq_ok_iff.mp h).normal (by decide)).1 [context] ?_
  exact List.forall_mem_singleton.mpr hcontext

end TabNotes.Template
