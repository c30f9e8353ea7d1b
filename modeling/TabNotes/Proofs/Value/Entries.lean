import Mathlib.Data.List.Basic
import Mathlib.Data.List.Nodup
import TabNotes.Value.Basic

/-! # Entries laid over entries

`Entries.update before entries` sets each entry in its place, or at the end if its key is new.  The
keys of the bag it is laid over come first and in their order (`keys_isPrefix_update`), keys stay
pairwise different (`Distinct.update`), and what is found under a name is found in the new entries
before the old ones (`Distinct.get?_update`).  Entries that begin with the keys of a bag replace it
as a whole (`update_eq_self`), so that laying them over it a second time changes nothing. -/

namespace TabNotes.Entries

variable {before after entries : Entries} {key : Key} {name : String} {v : Value}

theorem same_text_iff {key : Key} : key.same (.text name) = true ↔ key = .text name := by
  cases key with
  | text s => simp [Key.same]
  | _ => simp [Key.same, Key.number?]

theorem text_same_iff {key : Key} : Key.same (.text name) key = true ↔ key = .text name := by
  cases key with
  | text s =>
      simp only [Key.same, beq_iff_eq, Key.text.injEq]
      exact eq_comm
  | _ => simp [Key.same, Key.number?]

/-! ### Keys -/

/-- Keys that are pairwise different, as those of a map are. -/
def Distinct (entries : Entries) : Prop :=
  (entries.map Prod.fst).Pairwise fun key key' => key.same key' = false

instance (entries : Entries) : Decidable entries.Distinct :=
  inferInstanceAs (Decidable (List.Pairwise _ _))

/-- An entry that is set keeps the place of its key, or comes last if the key is new. -/
theorem map_fst_put (before : Entries) (key : Key) (v : Value) :
    (put before key v).map Prod.fst =
      if before.any fun entry => entry.1.same key then before.map Prod.fst
      else before.map Prod.fst ++ [key] := by
  induction before with
  | nil => rfl
  | cons entry before ih =>
      rw [put]
      split
      · rename_i hsame
        simp [hsame]
      · rename_i hother
        rw [List.map_cons, ih, List.any_cons, Bool.eq_false_iff.mpr hother, Bool.false_or]
        split <;> rfl

theorem keys_isPrefix_put (before : Entries) (key : Key) (v : Value) :
    before.map Prod.fst <+: (put before key v).map Prod.fst := by
  rw [map_fst_put]
  split
  · exact List.prefix_refl _
  · exact List.prefix_append _ _

theorem keys_isPrefix_update (before entries : Entries) :
    before.map Prod.fst <+: (update before entries).map Prod.fst := by
  induction entries generalizing before with
  | nil => exact List.prefix_refl _
  | cons entry entries ih => exact (keys_isPrefix_put before entry.1 entry.2).trans (ih _)

theorem Distinct.put (h : before.Distinct) (key : Key) (v : Value) :
    (Entries.put before key v).Distinct := by
  rw [Distinct, map_fst_put]
  split
  · exact h
  · rename_i hnew
    refine List.pairwise_append.mpr ⟨h, List.pairwise_singleton _ _, ?_⟩
    intro k hk k' hk'
    obtain ⟨entry, hentry, rfl⟩ := List.mem_map.mp hk
    rw [List.mem_singleton.mp hk']
    exact Bool.eq_false_iff.mpr fun hsame => hnew (List.any_eq_true.mpr ⟨entry, hentry, hsame⟩)

theorem Distinct.update (h : before.Distinct) (entries : Entries) :
    (Entries.update before entries).Distinct := by
  induction entries generalizing before with
  | nil => exact h
  | cons entry entries ih => exact ih (h.put entry.1 entry.2)

/-! ### What is found under a name -/

theorem get?_put (before : Entries) (key : String) (v : Value) (name : String) :
    get? (put before (.text key) v) name = if key = name then some v else get? before name := by
  induction before with
  | nil => simp [put, get?]
  | cons entry before ih =>
      obtain ⟨k, w⟩ := entry
      rw [put]
      split
      · rename_i hsame
        rw [same_text_iff.mp hsame, get?, get?]
        by_cases hname : key = name
        · simp [hname]
        · simp [hname]
      · rename_i hother
        rw [same_text_iff] at hother
        cases k with
        | text s =>
            have hne : s ≠ key := fun h => hother (congrArg Key.text h)
            rw [get?, get?, ih]
            by_cases hs : s = name
            · have hkey : key ≠ name := fun h => hne (hs.trans h.symm)
              simp [hs, hkey]
            · simp [hs]
        | _ => exact ih

/-- An entry under another key than a text is found under no name. -/
theorem get?_put_of_ne_text (hkey : ∀ s, key ≠ .text s) (before : Entries) (v : Value)
    (name : String) : get? (put before key v) name = get? before name := by
  have hcons : ∀ rest, get? ((key, v) :: rest) name = get? rest name := by
    intro rest
    cases key with
    | text s => exact absurd rfl (hkey s)
    | _ => rfl
  induction before with
  | nil => exact hcons []
  | cons entry before ih =>
      obtain ⟨k, w⟩ := entry
      rw [put]
      cases k with
      | text s =>
          have hother : Key.same (.text s) key = false :=
            Bool.eq_false_iff.mpr fun h => hkey s (text_same_iff.mp h)
          rw [if_neg (by simp [hother]), get?, get?, ih]
      | _ =>
          split
          · rfl
          · exact ih

theorem get?_eq_none (h : Key.text name ∉ entries.map Prod.fst) : get? entries name = none := by
  induction entries with
  | nil => rfl
  | cons entry entries ih =>
      obtain ⟨k, w⟩ := entry
      rw [List.map_cons, List.mem_cons, not_or] at h
      cases k with
      | text s =>
          have hs : s ≠ name := fun hs => h.1 (congrArg Key.text hs.symm)
          rw [get?, if_neg (by simpa using hs)]
          exact ih h.2
      | _ => exact ih h.2

/-- The entries of a map come before those that they are laid over. -/
theorem Distinct.get?_update (h : entries.Distinct) (before : Entries) (name : String) :
    get? (Entries.update before entries) name = (get? entries name).or (get? before name) := by
  induction entries generalizing before with
  | nil => rfl
  | cons entry entries ih =>
      obtain ⟨k, w⟩ := entry
      obtain ⟨hhead, hrest⟩ := List.pairwise_cons.mp h
      have hupdate : Entries.update before ((k, w) :: entries) =
          Entries.update (Entries.put before k w) entries := rfl
      rw [hupdate, ih hrest]
      cases k with
      | text key =>
          rw [get?_put, get?]
          by_cases hname : key = name
          · subst hname
            have hnone : get? entries key = none := get?_eq_none fun hmem => by
              have hsame := text_same_iff.mpr (rfl : Key.text key = .text key)
              rw [hhead _ hmem] at hsame
              cases hsame
            simp [hnone]
          · simp [hname]
      | _ => rw [get?_put_of_ne_text (by simp)]; rfl

/-! ### Laying the same entries over a bag again -/

theorem put_append (hfresh : ∀ entry ∈ before, entry.1.same key = false) (after : Entries)
    (v : Value) : put (before ++ after) key v = before ++ put after key v := by
  induction before with
  | nil => rfl
  | cons entry before ih =>
      obtain ⟨hentry, hrest⟩ := List.forall_mem_cons.mp hfresh
      rw [List.cons_append, put, if_neg (by simp [hentry]), ih hrest, List.cons_append]

/-- The induction behind `update_eq_self`: what comes before is already in its place. -/
theorem update_append (hself : ∀ entry ∈ after, entry.1.same entry.1 = true)
    (hkeys : after.map Prod.fst <+: entries.map Prod.fst) (h : (before ++ entries).Distinct) :
    update (before ++ after) entries = before ++ entries := by
  induction entries generalizing before after with
  | nil =>
      obtain rfl : after = [] := List.map_eq_nil_iff.mp (List.prefix_nil.mp hkeys)
      rfl
  | cons entry entries ih =>
      obtain ⟨k, w⟩ := entry
      have hfresh : ∀ entry ∈ before, entry.1.same k = false := by
        intro entry hentry
        rw [Distinct, List.map_append, List.pairwise_append] at h
        exact h.2.2 _ (List.mem_map_of_mem hentry) _ List.mem_cons_self
      have hnext : (before ++ [(k, w)] ++ entries).Distinct := by rwa [List.append_assoc]
      have hput : ∀ rest, put after k w = (k, w) :: rest →
          update (before ++ after) ((k, w) :: entries) =
            update (before ++ [(k, w)] ++ rest) entries := by
        intro rest hrest
        rw [List.append_assoc, List.singleton_append, ← hrest, ← put_append hfresh]
        rfl
      cases after with
      | nil =>
          rw [hput [] rfl, ih (List.forall_mem_nil _) List.nil_prefix hnext, List.append_assoc]
          rfl
      | cons first after =>
          obtain ⟨k', w'⟩ := first
          obtain ⟨hk, hmore⟩ := List.cons_prefix_cons.mp hkeys
          obtain rfl : k' = k := hk
          obtain ⟨hfirst, hself⟩ := List.forall_mem_cons.mp hself
          rw [hput after (by rw [put, if_pos hfirst]), ih hself hmore hnext, List.append_assoc]
          rfl

/-- Entries with different keys take the place of entries whose keys theirs begin with. -/
theorem update_eq_self (hself : ∀ entry ∈ before, entry.1.same entry.1 = true)
    (hkeys : before.map Prod.fst <+: entries.map Prod.fst) (h : entries.Distinct) :
    update before entries = entries := by
  have hlaid := @update_append [] before entries hself hkeys h
  rwa [List.nil_append, List.nil_append] at hlaid

/-! ### Text keys -/

/-- Entries with each key once, all of them texts. -/
structure IsBag (entries : Entries) : Prop where
  texts : ∀ entry ∈ entries, ∃ s, entry.1 = .text s
  distinct : (entries.map Prod.fst).Nodup

theorem IsBag.toDistinct (h : IsBag entries) : entries.Distinct := by
  refine List.Pairwise.imp_of_mem ?_ h.distinct
  intro key key' _ hkey' hne
  obtain ⟨entry, hentry, rfl⟩ := List.mem_map.mp hkey'
  obtain ⟨s, hs⟩ := h.texts entry hentry
  rw [hs] at hne ⊢
  exact Bool.eq_false_iff.mpr fun hsame => hne (same_text_iff.mp hsame)

theorem isBag_iff : IsBag entries ↔ (∀ key ∈ entries.map Prod.fst, ∃ s, key = .text s) ∧
    (entries.map Prod.fst).Nodup := by
  rw [List.forall_mem_map]
  exact ⟨fun h => ⟨h.texts, h.distinct⟩, fun h => ⟨h.1, h.2⟩⟩

theorem IsBag.put (h : IsBag before) (key : String) (v : Value) :
    IsBag (Entries.put before (.text key) v) := by
  rw [isBag_iff] at h ⊢
  rw [map_fst_put]
  split
  · exact h
  · rename_i hnew
    refine ⟨?_, List.nodup_append.mpr ⟨h.2, List.nodup_singleton _, ?_⟩⟩
    · intro k hk
      rcases List.mem_append.mp hk with hk | hk
      · exact h.1 k hk
      · exact ⟨key, List.mem_singleton.mp hk⟩
    · intro k hk k' hk'
      rintro rfl
      obtain ⟨entry, hentry, hkey⟩ := List.mem_map.mp hk
      refine hnew (List.any_eq_true.mpr ⟨entry, hentry, ?_⟩)
      exact same_text_iff.mpr (hkey.trans (List.mem_singleton.mp hk'))

theorem IsBag.update (h : IsBag before) (hentries : ∀ entry ∈ entries, ∃ s, entry.1 = .text s) :
    IsBag (Entries.update before entries) := by
  induction entries generalizing before with
  | nil => exact h
  | cons entry entries ih =>
      obtain ⟨⟨key, hkey⟩, hrest⟩ := List.forall_mem_cons.mp hentries
      have hput := h.put key entry.2
      rw [← hkey] at hput
      exact ih hput hrest

end TabNotes.Entries
