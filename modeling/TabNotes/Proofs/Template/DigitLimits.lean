import TabNotes.Proofs.Number.Magnitude
import TabNotes.Proofs.Template.NormalForm
import TabNotes.Proofs.Template.Output

/-! # Digit limits in templates

Rendering a template fails by a template fault, or because an integer has more digits than are read
or written.  The second happens in two places only: a name goes into a list at a position of too
many digits (`hitsLimit_lookup_iff`), or a tag writes an integer of too many digits
(`hitsLimit_valueText_iff`).  `MeetsLimit` says that rendering comes to such a place before any
other fault, and `hitsLimit_output_iff` that it fails there exactly then. -/

namespace TabNotes.Template

open TabNotes.Text TabNotes.Number

/-- Faults of integers that have too many digits to be read or written. -/
def IsDigitFault : Fault → Prop
  | .tooManyDigits count => digitLimit < count
  | .tooLongToWrite => True
  | _ => False

section results

variable {α β : Type}

/-- A result that is the fault of an integer of too many digits. -/
def HitsLimit (result : Except Fault α) : Prop := ∃ fault, result = .error fault ∧ IsDigitFault fault

/-- A result whose only faults are those of templates and of integers of too many digits. -/
def FailsAsTemplate (result : Except Fault α) : Prop :=
  ∀ fault, result = .error fault → (∃ cause, fault = .template cause) ∨ IsDigitFault fault

theorem not_hitsLimit_ok (a : α) : ¬ HitsLimit (.ok a : Except Fault α) := by
  rintro ⟨fault, h, -⟩
  cases h

theorem failsAsTemplate_ok (a : α) : FailsAsTemplate (.ok a : Except Fault α) := by
  intro fault h
  cases h

theorem hitsLimit_bind_iff {result : Except Fault α} {next : α → Except Fault β} :
    HitsLimit (result >>= next) ↔ HitsLimit result ∨ ∃ a, result = .ok a ∧ HitsLimit (next a) := by
  constructor
  · rintro ⟨fault, h, hfault⟩
    rcases bind_eq_error_iff.mp h with h | ⟨a, ha, h⟩
    · exact .inl ⟨fault, h, hfault⟩
    · exact .inr ⟨a, ha, fault, h, hfault⟩
  · rintro (⟨fault, h, hfault⟩ | ⟨a, ha, fault, h, hfault⟩)
    · exact ⟨fault, bind_eq_error_iff.mpr (.inl h), hfault⟩
    · exact ⟨fault, bind_eq_error_iff.mpr (.inr ⟨a, ha, h⟩), hfault⟩

theorem failsAsTemplate_bind {result : Except Fault α} {next : α → Except Fault β}
    (h : FailsAsTemplate result) (hnext : ∀ a, result = .ok a → FailsAsTemplate (next a)) :
    FailsAsTemplate (result >>= next) := by
  intro fault hfault
  rcases bind_eq_error_iff.mp hfault with hfault | ⟨a, ha, hfault⟩
  · exact h fault hfault
  · exact hnext a ha fault hfault

theorem hitsLimit_map_iff {result : Except Fault α} {f : α → β} :
    HitsLimit (result >>= fun a => pure (f a)) ↔ HitsLimit result := by
  rw [hitsLimit_bind_iff]
  constructor
  · rintro (h | ⟨a, -, h⟩)
    · exact h
    · exact absurd h (not_hitsLimit_ok (f a))
  · exact .inl

/-- Going through a list hits a limit at the first item that does not succeed. -/
theorem hitsLimit_mapM_iff {f : α → Except Fault β} {items : List α} :
    HitsLimit (items.mapM f) ↔ ∃ before item after, items = before ++ item :: after ∧
      (∀ x ∈ before, ∃ b, f x = .ok b) ∧ HitsLimit (f item) := by
  induction items with
  | nil => simp [not_hitsLimit_ok, List.mapM_nil, pure, Except.pure]
  | cons x items ih =>
      rw [List.mapM_cons, hitsLimit_bind_iff]
      constructor
      · rintro (h | ⟨b, hb, h⟩)
        · exact ⟨[], x, items, rfl, by simp, h⟩
        · rw [hitsLimit_bind_iff] at h
          rcases h with h | ⟨bs, -, h⟩
          · obtain ⟨before, item, after, rfl, hbefore, hitem⟩ := ih.mp h
            refine ⟨x :: before, item, after, rfl, ?_, hitem⟩
            intro y hy
            rcases List.mem_cons.mp hy with rfl | hy
            · exact ⟨b, hb⟩
            · exact hbefore y hy
          · exact absurd h (not_hitsLimit_ok _)
      · rintro ⟨before, item, after, hitems, hbefore, hitem⟩
        cases before with
        | nil =>
            obtain ⟨rfl, rfl⟩ := List.cons.inj hitems
            exact .inl hitem
        | cons y before =>
            obtain ⟨rfl, rfl⟩ := List.cons.inj hitems
            obtain ⟨b, hb⟩ := hbefore x (by simp)
            refine .inr ⟨b, hb, hitsLimit_bind_iff.mpr (.inl (ih.mpr ?_))⟩
            exact ⟨before, item, after, rfl, fun z hz => hbefore z (by simp [hz]), hitem⟩

theorem failsAsTemplate_mapM {f : α → Except Fault β} {items : List α}
    (h : ∀ x ∈ items, FailsAsTemplate (f x)) : FailsAsTemplate (items.mapM f) := by
  intro fault hfault
  obtain ⟨item, hmem, hitem⟩ := exists_error_of_mapM hfault
  exact h item hmem fault hitem

end results

/-! ### Names -/

/-- A path that goes, in a value, into a list at a position of too many digits. -/
def PathMeetsLimit (path : List String) (v : Value) : Prop :=
  ∃ before segment after fixed items, path = before ++ segment :: after ∧
    follow before v = .ok (some (.list fixed items)) ∧ isPosition segment = true ∧
    digitLimit < segment.toList.length

/-- A name whose path does so in the first frame that does not lack it. -/
def NameMeetsLimit (name : String) (frames : List Value) : Prop :=
  name ≠ "." ∧ ∃ inner frame outer, frames = inner ++ frame :: outer ∧
    (∀ f ∈ inner, follow (splitOnChar '.' name) f = .ok none) ∧
    PathMeetsLimit (splitOnChar '.' name) frame

/-- A path goes on from where its first segment leads. -/
theorem follow_cons (segment : String) (path : List String) (v : Value) :
    follow (segment :: path) v =
      match follow [segment] v with
      | .error fault => .error fault
      | .ok none => .ok none
      | .ok (some w) => follow path w := by
  cases v with
  | map entries =>
      simp only [follow]
      cases Entries.get? entries segment <;> rfl
  | list fixed items =>
      simp only [follow]
      split
      · cases readDigits segment.toList with
        | error fault => rfl
        | ok i =>
            dsimp only
            cases items[i]? <;> rfl
      · rfl
  | _ => simp only [follow]

/-- One segment fails exactly as a position of too many digits in a list. -/
theorem follow_singleton_eq_error_iff {segment : String} {v : Value} {fault : Fault} :
    follow [segment] v = .error fault ↔
      (∃ fixed items, v = .list fixed items) ∧ isPosition segment = true ∧
        digitLimit < segment.toList.length ∧ fault = .tooManyDigits segment.toList.length := by
  cases v with
  | list fixed items =>
      simp only [follow, readDigits]
      split
      · rename_i hpos
        by_cases hlong : digitLimit < segment.toList.length
        · simp [hpos, hlong, eq_comm]
        · rw [if_neg (by omega)]
          dsimp only
          cases items[ofAsciiDigits segment.toList]? <;> simp [hlong]
      · rename_i hpos
        simp [hpos]
  | map entries =>
      simp only [follow]
      cases Entries.get? entries segment <;> simp
  | _ => simp [follow]

theorem pathMeetsLimit_cons_iff {segment : String} {path : List String} {v : Value} :
    PathMeetsLimit (segment :: path) v ↔
      ((∃ fixed items, v = .list fixed items) ∧ isPosition segment = true ∧
        digitLimit < segment.toList.length) ∨
      ∃ w, follow [segment] v = .ok (some w) ∧ PathMeetsLimit path w := by
  constructor
  · rintro ⟨before, s, after, fixed, items, hpath, hfollow, hpos, hlong⟩
    cases before with
    | nil =>
        obtain ⟨rfl, rfl⟩ := List.cons.inj hpath
        simp only [follow, Except.ok.injEq, Option.some.injEq] at hfollow
        exact .inl ⟨⟨fixed, items, hfollow⟩, hpos, hlong⟩
    | cons first before =>
        obtain ⟨rfl, rfl⟩ := List.cons.inj hpath
        rw [follow_cons] at hfollow
        split at hfollow
        · cases hfollow
        · cases hfollow
        · rename_i w hw
          exact .inr ⟨w, hw, before, s, after, fixed, items, rfl, hfollow, hpos, hlong⟩
  · rintro (⟨⟨fixed, items, rfl⟩, hpos, hlong⟩ |
      ⟨w, hw, before, s, after, fixed, items, rfl, hfollow, hpos, hlong⟩)
    · exact ⟨[], segment, path, fixed, items, rfl, by rw [follow], hpos, hlong⟩
    · refine ⟨segment :: before, s, after, fixed, items, rfl, ?_, hpos, hlong⟩
      rw [follow_cons, hw]
      exact hfollow

theorem follow_eq_error {path : List String} {v : Value} {fault : Fault}
    (h : follow path v = .error fault) : IsDigitFault fault ∧ PathMeetsLimit path v := by
  induction path generalizing v with
  | nil => simp [follow] at h
  | cons segment path ih =>
      rw [follow_cons] at h
      split at h
      · rename_i hstep
        cases h
        obtain ⟨hlist, hpos, hlong, rfl⟩ := follow_singleton_eq_error_iff.mp hstep
        exact ⟨hlong, pathMeetsLimit_cons_iff.mpr (.inl ⟨hlist, hpos, hlong⟩)⟩
      · cases h
      · rename_i w hw
        obtain ⟨hfault, hmeets⟩ := ih h
        exact ⟨hfault, pathMeetsLimit_cons_iff.mpr (.inr ⟨w, hw, hmeets⟩)⟩

theorem hitsLimit_follow {path : List String} {v : Value} (h : PathMeetsLimit path v) :
    HitsLimit (follow path v) := by
  induction path generalizing v with
  | nil =>
      obtain ⟨before, segment, after, _, _, hpath, -⟩ := h
      simp at hpath
  | cons segment path ih =>
      rw [follow_cons]
      rcases pathMeetsLimit_cons_iff.mp h with ⟨hlist, hpos, hlong⟩ | ⟨w, hw, hmeets⟩
      · rw [follow_singleton_eq_error_iff.mpr ⟨hlist, hpos, hlong, rfl⟩]
        exact ⟨_, rfl, hlong⟩
      · rw [hw]
        exact ih hmeets

theorem hitsLimit_follow_iff {path : List String} {v : Value} :
    HitsLimit (follow path v) ↔ PathMeetsLimit path v :=
  ⟨fun ⟨_, h, _⟩ => (follow_eq_error h).2, hitsLimit_follow⟩

/-- The first frame that does not lack a path decides whether a limit is hit. -/
theorem hitsLimit_findPath_iff {path : List String} {frames : List Value} :
    HitsLimit (findPath path frames) ↔ ∃ inner frame outer, frames = inner ++ frame :: outer ∧
      (∀ f ∈ inner, follow path f = .ok none) ∧ PathMeetsLimit path frame := by
  induction frames with
  | nil => simp [findPath, not_hitsLimit_ok]
  | cons frame frames ih =>
      rw [findPath, hitsLimit_bind_iff, hitsLimit_follow_iff]
      constructor
      · rintro (h | ⟨found, hfound, h⟩)
        · exact ⟨[], frame, frames, rfl, by simp, h⟩
        · cases found with
          | some v => exact absurd h (not_hitsLimit_ok _)
          | none =>
              obtain ⟨inner, f, outer, rfl, hinner, hf⟩ := ih.mp h
              refine ⟨frame :: inner, f, outer, rfl, ?_, hf⟩
              intro g hg
              rcases List.mem_cons.mp hg with rfl | hg
              · exact hfound
              · exact hinner g hg
      · rintro ⟨inner, f, outer, hframes, hinner, hf⟩
        cases inner with
        | nil =>
            obtain ⟨rfl, rfl⟩ := List.cons.inj hframes
            exact .inl hf
        | cons g inner =>
            obtain ⟨rfl, rfl⟩ := List.cons.inj hframes
            refine .inr ⟨none, hinner frame (by simp), ih.mpr ?_⟩
            exact ⟨inner, f, outer, rfl, fun g hg => hinner g (by simp [hg]), hf⟩

theorem failsAsTemplate_findPath (path : List String) (frames : List Value) :
    FailsAsTemplate (findPath path frames) := by
  induction frames with
  | nil => exact failsAsTemplate_ok none
  | cons frame frames ih =>
      rw [findPath]
      refine failsAsTemplate_bind (fun fault h => .inr (follow_eq_error h).1) fun found _ => ?_
      cases found with
      | some v => exact failsAsTemplate_ok (some v)
      | none => exact ih

/-- The value that a tag takes where its name is found. -/
def givenValue : Option Value → Except Fault Value
  | none => .ok .null
  | some .function => .error (.template .functionValue)
  | some v => .ok v

theorem lookup_eq (name : String) (frames : List Value) :
    lookup name frames = resolve name frames >>= givenValue := by
  unfold lookup
  refine bind_congr fun found => ?_
  rcases found with _ | _ | _ <;> rfl

theorem failsAsTemplate_givenValue (found : Option Value) :
    FailsAsTemplate (givenValue found) ∧ ¬ HitsLimit (givenValue found) := by
  unfold givenValue
  split
  · exact ⟨failsAsTemplate_ok _, not_hitsLimit_ok _⟩
  · refine ⟨?_, ?_⟩
    · rintro _ ⟨⟩
      exact .inl ⟨_, rfl⟩
    · rintro ⟨_, ⟨⟩, h⟩
      exact h
  · exact ⟨failsAsTemplate_ok _, not_hitsLimit_ok _⟩

theorem hitsLimit_lookup_iff {name : String} {frames : List Value} :
    HitsLimit (lookup name frames) ↔ NameMeetsLimit name frames := by
  rw [lookup_eq, hitsLimit_bind_iff, NameMeetsLimit, ← hitsLimit_findPath_iff, resolve]
  simp only [(failsAsTemplate_givenValue _).2, and_false, exists_false, or_false]
  by_cases hname : name = "."
  · simp [hname, not_hitsLimit_ok]
  · simp [hname]

theorem failsAsTemplate_lookup (name : String) (frames : List Value) :
    FailsAsTemplate (lookup name frames) := by
  rw [lookup_eq, resolve]
  refine failsAsTemplate_bind ?_ fun found _ => (failsAsTemplate_givenValue found).1
  split
  · exact failsAsTemplate_ok _
  · exact failsAsTemplate_findPath _ frames

/-! ### Values -/

/-- An integer of too many digits to be written. -/
def IsLongInteger (n : Int) : Prop := Nat.pow 10 digitLimit ≤ n.natAbs

/-- An integer of too many digits, alone or in a list. -/
def HoldsLongInteger : Value → Prop
  | .int n => IsLongInteger n
  | .list _ items => ∃ item, ∃ _ : item ∈ items, HoldsLongInteger item
  | _ => False

theorem writeInteger_eq_error_iff {n : Int} {fault : Fault} :
    writeInteger n = .error fault ↔ fault = .tooLongToWrite ∧ IsLongInteger n := by
  unfold writeInteger IsLongInteger
  generalize Nat.pow 10 digitLimit = bound
  split
  · rename_i h
    simp [h]
  · rename_i h
    simp [Nat.not_lt.mp h, eq_comm]

theorem itemTexts_eq_mapM (items : List Value) : itemTexts items = items.mapM valueText := by
  induction items with
  | nil =>
      rw [itemTexts, List.mapM_nil]
      rfl
  | cons item items ih => rw [itemTexts, List.mapM_cons, ih]

/-- Writing a value fails only by an integer of too many digits in it. -/
theorem valueText_eq_error : ∀ (v : Value) (fault : Fault), valueText v = .error fault →
    fault = .tooLongToWrite ∧ HoldsLongInteger v
  | .int n => by
      intro fault h
      rw [valueText, writeInteger_eq_error_iff] at h
      rwa [HoldsLongInteger]
  | .float x => by
      intro fault h
      rw [valueText] at h
      split at h
      · rename_i n hn
        rw [writeInteger_of_toInt? hn] at h
        cases h
      · cases h
  | .list fixed items => by
      intro fault h
      rw [valueText, itemTexts_eq_mapM] at h
      rcases bind_eq_error_iff.mp h with hitems | ⟨texts, -, h⟩
      · obtain ⟨item, hmem, hitem⟩ := exists_error_of_mapM hitems
        obtain ⟨hfault, hlong⟩ := valueText_eq_error item fault hitem
        rw [HoldsLongInteger]
        exact ⟨hfault, item, hmem, hlong⟩
      · cases h
  | .null | .bool _ | .text _ | .map _ | .moment _ | .zone _ | .function => by
      intro fault h
      simp [valueText, Value.display, Value.shown] at h

theorem hitsLimit_valueText : ∀ v : Value, HoldsLongInteger v → HitsLimit (valueText v)
  | .int n => by
      intro h
      rw [HoldsLongInteger] at h
      rw [valueText]
      exact ⟨_, writeInteger_eq_error_iff.mpr ⟨rfl, h⟩, trivial⟩
  | .list fixed items => by
      intro h
      rw [HoldsLongInteger] at h
      obtain ⟨item, hmem, hlong⟩ := h
      obtain ⟨fault, hfault, -⟩ := hitsLimit_valueText item hlong
      cases hv : valueText (.list fixed items) with
      | error e => exact ⟨e, rfl, (valueText_eq_error _ e hv).1 ▸ trivial⟩
      | ok s =>
          rw [valueText, itemTexts_eq_mapM] at hv
          obtain ⟨texts, hitems, -⟩ := bind_eq_ok_iff.mp hv
          obtain ⟨t, ht⟩ := ok_of_mapM hitems item hmem
          rw [hfault] at ht
          cases ht
  | .null | .bool _ | .float _ | .text _ | .map _ | .moment _ | .zone _ | .function => by
      intro h
      simp [HoldsLongInteger] at h

theorem hitsLimit_valueText_iff {v : Value} : HitsLimit (valueText v) ↔ HoldsLongInteger v :=
  ⟨fun ⟨fault, h, _⟩ => (valueText_eq_error v fault h).2, hitsLimit_valueText v⟩

theorem failsAsTemplate_valueText (v : Value) : FailsAsTemplate (valueText v) :=
  fun fault h => .inr ((valueText_eq_error v fault h).1 ▸ trivial)

/-! ### Tokens -/

/-- Rendering a section over a value comes to a limit, where `body` gives the text of what stands in
it and `meets` says over which frames that comes to one. -/
def SectionMeetsLimit (body : List Value → Except Fault String) (meets : List Value → Prop)
    (v : Value) (frames : List Value) : Prop :=
  match v with
  | .list _ items => ∃ before item after, items = before ++ item :: after ∧
      (∀ x ∈ before, ∃ s, body (x :: frames) = .ok s) ∧ meets (item :: frames)
  | .map entries => meets (.map entries :: frames)
  | v => isShown v = true ∧ meets frames

mutual

/-- Rendering a token comes to a position or an integer of too many digits. -/
def Token.MeetsLimit : Token → List Value → Prop
  | .escaped name, frames | .raw name, frames =>
    NameMeetsLimit name frames ∨ ∃ v, lookup name frames = .ok v ∧ HoldsLongInteger v
  | .block name children, frames =>
    NameMeetsLimit name frames ∨ ∃ v, lookup name frames = .ok v ∧
      SectionMeetsLimit (output children) (MeetsLimit children) v frames
  | .inverted name children, frames =>
    NameMeetsLimit name frames ∨ ∃ v, lookup name frames = .ok v ∧
      isShown v = false ∧ MeetsLimit children frames
  | .text _, _ | .comment, _ | .foreign _, _ => False

/-- Rendering tokens comes to a position or an integer of too many digits, and all that stands
before it is rendered. -/
def MeetsLimit : List Token → List Value → Prop
  | [], _ => False
  | token :: tokens, frames =>
    token.MeetsLimit frames ∨ (∃ s, token.output frames = .ok s) ∧ MeetsLimit tokens frames

end

theorem hitsLimit_sectionOutput_iff {body : List Value → Except Fault String}
    {meets : List Value → Prop} (h : ∀ frames, HitsLimit (body frames) ↔ meets frames) (v : Value)
    (frames : List Value) :
    HitsLimit (sectionOutput body v frames) ↔ SectionMeetsLimit body meets v frames := by
  have hshown : HitsLimit (if isShown v then body frames else return "") ↔
      isShown v = true ∧ meets frames := by
    split
    · rename_i hv
      rw [h frames]
      simp [hv]
    · rename_i hv
      simp [hv, not_hitsLimit_ok, pure, Except.pure]
  cases v with
  | list fixed items =>
      simp only [sectionOutput, SectionMeetsLimit]
      rw [hitsLimit_map_iff, hitsLimit_mapM_iff]
      simp only [h]
  | map entries => exact h _
  | _ => exact hshown

theorem failsAsTemplate_sectionOutput {body : List Value → Except Fault String}
    (h : ∀ frames, FailsAsTemplate (body frames)) (v : Value) (frames : List Value) :
    FailsAsTemplate (sectionOutput body v frames) := by
  have hshown : FailsAsTemplate (if isShown v then body frames else return "") := by
    split
    · exact h frames
    · exact failsAsTemplate_ok ""
  cases v with
  | list fixed items =>
      exact failsAsTemplate_bind (failsAsTemplate_mapM fun item _ => h (item :: frames))
        fun parts _ => failsAsTemplate_ok (String.join parts)
  | map entries => exact h _
  | _ => exact hshown

mutual

theorem Token.hitsLimit_output_iff : ∀ (token : Token), token.IsWritten → ∀ frames : List Value,
    HitsLimit (token.output frames) ↔ token.MeetsLimit frames
  | .text s, _, frames | .comment, _, frames => by
      simp [Token.output, Token.MeetsLimit, not_hitsLimit_ok]
  | .escaped name, _, frames => by
      rw [Token.output, Token.MeetsLimit, hitsLimit_bind_iff, hitsLimit_lookup_iff]
      simp only [hitsLimit_map_iff, hitsLimit_valueText_iff]
  | .raw name, _, frames => by
      rw [Token.output, Token.MeetsLimit, hitsLimit_bind_iff, hitsLimit_lookup_iff]
      simp only [hitsLimit_valueText_iff]
  | .block name children, hw, frames => by
      rw [Token.IsWritten] at hw
      rw [Token.output, Token.MeetsLimit, hitsLimit_bind_iff, hitsLimit_lookup_iff]
      simp only [hitsLimit_sectionOutput_iff (hitsLimit_output_iff children hw.2)]
  | .inverted name children, hw, frames => by
      rw [Token.IsWritten] at hw
      rw [Token.output, Token.MeetsLimit, hitsLimit_bind_iff, hitsLimit_lookup_iff]
      refine or_congr_right (exists_congr fun v => and_congr_right fun _ => ?_)
      rw [← hitsLimit_output_iff children hw.2 frames]
      cases isShown v <;> simp [not_hitsLimit_ok, pure, Except.pure]
  | .foreign v, hw, _ => by
      rw [Token.IsWritten] at hw
      exact absurd hw id

/-- Rendering fails at a limit exactly when it comes to one. -/
theorem hitsLimit_output_iff {isTop : Bool} : ∀ (ts : List Token), AllWritten isTop ts →
    ∀ frames : List Value, HitsLimit (output ts frames) ↔ MeetsLimit ts frames
  | [], _, frames => by simp [output, MeetsLimit, not_hitsLimit_ok]
  | token :: tokens, hw, frames => by
      rw [AllWritten] at hw
      rw [output, MeetsLimit, hitsLimit_bind_iff, Token.hitsLimit_output_iff token hw.1]
      simp only [hitsLimit_map_iff, hitsLimit_output_iff tokens hw.2.2, exists_and_right]

end

mutual

theorem Token.failsAsTemplate_output : ∀ (token : Token), token.IsWritten → ∀ frames : List Value,
    FailsAsTemplate (token.output frames)
  | .text _, _, _ | .comment, _, _ => by
      rw [Token.output]
      exact failsAsTemplate_ok _
  | .escaped name, _, frames => by
      rw [Token.output]
      refine failsAsTemplate_bind (failsAsTemplate_lookup name frames) fun v _ => ?_
      exact failsAsTemplate_bind (failsAsTemplate_valueText v) fun s _ => failsAsTemplate_ok _
  | .raw name, _, frames => by
      rw [Token.output]
      exact failsAsTemplate_bind (failsAsTemplate_lookup name frames) fun v _ =>
        failsAsTemplate_valueText v
  | .block name children, hw, frames => by
      rw [Token.IsWritten] at hw
      rw [Token.output]
      exact failsAsTemplate_bind (failsAsTemplate_lookup name frames) fun v _ =>
        failsAsTemplate_sectionOutput (failsAsTemplate_output children hw.2) v frames
  | .inverted name children, hw, frames => by
      rw [Token.IsWritten] at hw
      rw [Token.output]
      refine failsAsTemplate_bind (failsAsTemplate_lookup name frames) fun v _ => ?_
      split
      · exact failsAsTemplate_ok _
      · exact failsAsTemplate_output children hw.2 frames
  | .foreign v, hw, _ => by
      rw [Token.IsWritten] at hw
      exact absurd hw id

/-- Rendering fails by a template fault or at a limit. -/
theorem failsAsTemplate_output {isTop : Bool} : ∀ (ts : List Token), AllWritten isTop ts →
    ∀ frames : List Value, FailsAsTemplate (output ts frames)
  | [], _, _ => by
      rw [output]
      exact failsAsTemplate_ok ""
  | token :: tokens, hw, frames => by
      rw [AllWritten] at hw
      rw [output]
      refine failsAsTemplate_bind (Token.failsAsTemplate_output token hw.1 frames) fun s _ => ?_
      exact failsAsTemplate_bind (failsAsTemplate_output tokens hw.2.2 frames) fun t _ =>
        failsAsTemplate_ok (s ++ t)

end

end TabNotes.Template
