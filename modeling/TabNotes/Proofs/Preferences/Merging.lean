import TabNotes.Proofs.Frontmatter.Compose
import TabNotes.Proofs.Preferences

/-! # Merging preferences again

Preferences are merged more than once on their way to a note.  A merged bag begins with the keys of
the defaults, in their order (`IsMerged`), so that laying it over the defaults gives the bag itself;
settings that are put back into a bag are read from it unchanged (`HeldBy.ofPreferences_eq`).  Hence
it does not matter how often preferences are merged on the way, nor whether the defaults are filled
in first or in place of each entry that is not usable (`merge_again`). -/

namespace TabNotes.Preferences

open TabNotes.Text TabNotes.Frontmatter

variable {entries bag : Entries} {a b v : Value} {s : Settings}

/-! ### What a merge gives -/

/-- The entries that a value lays over a bag; none if it counts as false. -/
def laidEntries (v : Value) : Except Fault Entries :=
  if v.isTrue then
    match v with
    | .map entries => .ok entries
    | v => v.items >>= pairsOf 0
  else .ok []

theorem laidEntries_map (entries : Entries) : laidEntries (.map entries) = .ok entries := by
  cases entries <;> rfl

theorem overlayIfTrue_eq (bag : Entries) (v : Value) :
    overlayIfTrue bag v = (laidEntries v).map (Entries.update bag) := by
  have hmap : ∀ result : Except Fault Entries,
      (result >>= fun pairs => .ok (Entries.update bag pairs)) = result.map (Entries.update bag) := by
    intro result
    cases result <;> rfl
  unfold overlayIfTrue laidEntries
  split
  · cases v with
    | map entries => rfl
    | list fixed items => exact hmap (pairsOf 0 items)
    | text t => exact hmap (pairsOf 0 _)
    | _ => rfl
  · rfl

/-- A merge lays the stored entries over the defaults, and the overriding ones over both. -/
theorem merge_eq (a b : Value) :
    merge a b = laidEntries a >>= fun below =>
      (laidEntries b).map (Entries.update (Entries.update defaults below)) := by
  rw [merge, overlayIfTrue_eq]
  cases laidEntries a with
  | error fault => rfl
  | ok below => exact overlayIfTrue_eq _ b

/-- Entries that begin with the keys of the defaults. -/
structure IsMerged (bag : Entries) : Prop where
  keys : defaults.map Prod.fst <+: bag.map Prod.fst
  distinct : bag.Distinct

theorem isMerged_defaults : IsMerged defaults := ⟨List.prefix_refl _, isBag_defaults.toDistinct⟩

theorem IsMerged.update (h : IsMerged bag) (entries : Entries) :
    IsMerged (Entries.update bag entries) :=
  ⟨h.keys.trans (Entries.keys_isPrefix_update bag entries), h.distinct.update entries⟩

/-- A merged bag takes the place of the defaults. -/
theorem IsMerged.update_defaults (h : IsMerged bag) : Entries.update defaults bag = bag := by
  refine Entries.update_eq_self (fun entry hentry => ?_) h.keys h.distinct
  obtain ⟨key, hkey⟩ := isBag_defaults.texts entry hentry
  rw [hkey, Entries.same_text_iff]

theorem IsMerged.merge_eq (h : IsMerged bag) (b : Value) :
    merge (.map bag) b = (laidEntries b).map (Entries.update bag) := by
  rw [Preferences.merge_eq, laidEntries_map]
  change (laidEntries b).map (Entries.update (Entries.update defaults bag)) = _
  rw [h.update_defaults]

theorem isMerged_of_merge (h : merge a b = .ok bag) : IsMerged bag := by
  rw [merge_eq] at h
  obtain ⟨below, -, h⟩ := bind_eq_ok_iff.mp h
  obtain ⟨above, -, rfl⟩ := map_eq_ok_iff.mp h
  exact (isMerged_defaults.update below).update above

theorem merge_null_left (b : Value) :
    merge .null b = (laidEntries b).map (Entries.update defaults) := merge_eq .null b

theorem merge_null_right (a : Value) :
    merge a .null = (laidEntries a).map (Entries.update defaults) := by
  rw [merge_eq]
  cases laidEntries a <;> rfl

/-- Merging with nothing below does not change a merged bag. -/
theorem merge_bind_merge_null (a b : Value) :
    (merge a b >>= fun bag => merge .null (.map bag)) = merge a b := by
  cases hmerge : merge a b with
  | error fault => rfl
  | ok bag =>
      change merge .null (.map bag) = .ok bag
      rw [merge_null_left, laidEntries_map]
      exact congrArg Except.ok (isMerged_of_merge hmerge).update_defaults

/-- Stored preferences may be merged with the defaults first and with what overrides them later. -/
theorem merge_null_bind_merge (a b : Value) :
    (merge a .null >>= fun bag => merge (.map bag) b) = merge a b := by
  rw [merge_null_right, merge_eq a b]
  cases laidEntries a with
  | error fault => rfl
  | ok below => exact (isMerged_defaults.update below).merge_eq b

/-! ### Settings put back into a bag -/

/-- The characters of a field name and at least one of them. -/
def IsNameText (s : String) : Prop :=
  s ≠ "" ∧ ∀ c ∈ s.toList,
    'A' ≤ c ∧ c ≤ 'Z' ∨ 'a' ≤ c ∧ c ≤ 'z' ∨ '0' ≤ c ∧ c ≤ '9' ∨ c = '_' ∨ c = '-'

theorem isNameCharacter_iff {c : Char} : isNameCharacter c = true ↔
    'A' ≤ c ∧ c ≤ 'Z' ∨ 'a' ≤ c ∧ c ≤ 'z' ∨ '0' ≤ c ∧ c ≤ '9' ∨ c = '_' ∨ c = '-' := by
  have halpha : c.isAlpha = true ↔ c.isUpper = true ∨ c.isLower = true := Bool.or_eq_true_iff
  have hupper : c.isUpper = true ↔ 'A' ≤ c ∧ c ≤ 'Z' := decide_eq_true_iff
  have hlower : c.isLower = true ↔ 'a' ≤ c ∧ c ≤ 'z' :=
    Bool.and_eq_true_iff.trans (and_congr decide_eq_true_iff decide_eq_true_iff)
  have hdigit : c.isDigit = true ↔ '0' ≤ c ∧ c ≤ '9' :=
    Bool.and_eq_true_iff.trans (and_congr decide_eq_true_iff decide_eq_true_iff)
  simp only [isNameCharacter, Char.isAlphanum, Bool.or_eq_true, beq_iff_eq, halpha, hupper, hlower,
    hdigit, or_assoc]

theorem isFieldName_iff {name : String} : isFieldName name = true ↔ IsNameText name := by
  rw [isFieldName, Bool.and_eq_true, bne_iff_ne, List.all_eq_true, IsNameText]
  simp only [isNameCharacter_iff]

theorem isBlank_of_isNameCharacter {c : Char} (h : isNameCharacter c = true) : isBlank c = false := by
  have hrange : 65 ≤ c.toNat ∧ c.toNat ≤ 90 ∨ 97 ≤ c.toNat ∧ c.toNat ≤ 122 ∨
      48 ≤ c.toNat ∧ c.toNat ≤ 57 ∨ c.toNat = 95 ∨ c.toNat = 45 := by
    rcases isNameCharacter_iff.mp h with h | h | h | rfl | rfl
    · exact .inl h
    · exact .inr (.inl h)
    · exact .inr (.inr (.inl h))
    · exact .inr (.inr (.inr (.inl rfl)))
    · exact .inr (.inr (.inr (.inr rfl)))
  simp only [isBlank, Bool.or_eq_false_iff, Bool.and_eq_false_imp, decide_eq_true_eq,
    decide_eq_false_iff_not, beq_eq_false_iff_ne]
  omega

theorem trim_of_isFieldName {name : String} (h : isFieldName name = true) : trim name = name := by
  rw [isFieldName, Bool.and_eq_true, List.all_eq_true] at h
  have htrimmed : IsTrimmed name.toList :=
    ⟨fun c hc => isBlank_of_isNameCharacter (h.2 c (List.mem_of_mem_head? hc)),
      fun c hc => isBlank_of_isNameCharacter (h.2 c (List.mem_of_mem_getLast? hc))⟩
  rw [trim, trimChars_eq_self_iff.mpr htrimmed, String.ofList_toList]

theorem get_resolveNames (names : Value) (f : Field) :
    (resolveNames names).get f.key = .text (resolveName names f) := by
  cases f <;> rfl

theorem get_resolveEnabled (flags : Value) (f : Field) :
    (resolveEnabled flags).get f.key = .bool (resolveEnabledField flags f) := by
  cases f <;> rfl

theorem resolveNames_resolveNames (names : Value) :
    resolveNames (resolveNames names) = resolveNames names := by
  have hname : ∀ f, resolveName (resolveNames names) f = resolveName names f := by
    intro f
    have hfield := isFieldName_resolveName names f
    rw [resolveName, get_resolveNames, Value.textOrEmpty, trim_of_isFieldName hfield, if_pos hfield]
  rw [resolveNames]
  simp only [hname]
  rfl

theorem resolveEnabled_resolveEnabled (flags : Value) :
    resolveEnabled (resolveEnabled flags) = resolveEnabled flags := by
  have hflag : ∀ f, resolveEnabledField (resolveEnabled flags) f = resolveEnabledField flags f := by
    intro f
    rw [resolveEnabledField, get_resolveEnabled]
  rw [resolveEnabled]
  simp only [hflag]
  rfl

theorem resolveTitle_resolveTitle (v : Value) :
    resolveTitle (.text (resolveTitle v)) = resolveTitle v := by
  have hdefault : resolveTitle (.text defaultTitle) = defaultTitle := rfl
  cases v with
  | text t =>
      by_cases hblank : allBlank t = true
      · have htext : resolveTitle (.text t) = defaultTitle := if_pos hblank
        rw [htext, hdefault]
      · have htext : resolveTitle (.text t) = t := if_neg hblank
        rw [htext, htext]
  | _ => exact hdefault

/-- A bag with the names, the flags and the templates of settings under their keys. -/
structure HeldBy (s : Settings) (entries : Entries) : Prop where
  names : (Value.map entries).get "frontmatterFieldNames" = s.fieldNames
  flags : (Value.map entries).get "frontmatterEnabledFields" = s.enabled
  title : (Value.map entries).get "frontmatterTitleTemplate" = s.titleTemplate
  tags : (Value.map entries).get "frontmatterTagsTemplate" = s.tagsTemplate
  collections : (Value.map entries).get "frontmatterCollectionsTemplate" = s.collectionsTemplate

/-- Settings that were read from preferences. -/
theorem ofPreferences_eq_ok (h : Settings.ofPreferences v = .ok s) :
    ∃ names flags title tags collections,
      s = ⟨resolveNames names, resolveEnabled flags, .text (resolveTitle title),
        .text (resolveList defaultTags tags), .text (resolveList defaultCollections collections)⟩ := by
  unfold Settings.ofPreferences at h
  obtain ⟨tags, -, h⟩ := bind_eq_ok_iff.mp h
  cases h
  exact ⟨_, _, _, _, _, rfl⟩

/-- Settings that were read from preferences are read again from a bag that holds them. -/
theorem HeldBy.ofPreferences_eq (hread : Settings.ofPreferences v = .ok s) (h : HeldBy s entries) :
    Settings.ofPreferences (.map entries) = .ok s := by
  obtain ⟨hnames, hflags, htitle, htags, hcollections⟩ := h
  obtain ⟨names, flags, title, tags, collections, rfl⟩ := ofPreferences_eq_ok hread
  rw [ofPreferences_map, hnames, hflags, htitle, htags, hcollections, resolveNames_resolveNames,
    resolveEnabled_resolveEnabled, resolveTitle_resolveTitle]
  rfl

/-! ### Preferences merged again -/

/-- What can be given as preferences: a map, or a value that counts as false in place of none. -/
def IsGiven (v : Value) : Prop :=
  v.isTrue = false ∨ ∃ entries : Entries, v = .map entries ∧ entries.Distinct

theorem IsGiven.laidEntries_eq (h : IsGiven v) :
    ∃ entries : Entries, laidEntries v = .ok entries ∧ entries.Distinct ∧
      Settings.ofPreferences v = Settings.ofPreferences (.map entries) := by
  rcases h with hfalse | ⟨entries, rfl, hdistinct⟩
  · refine ⟨[], ?_, List.Pairwise.nil, ?_⟩
    · unfold laidEntries
      rw [if_neg (by simp [hfalse])]
    · unfold Settings.ofPreferences
      rw [Value.orElse, if_neg (by simp [hfalse])]
      rfl
  · exact ⟨entries, laidEntries_map entries, hdistinct, rfl⟩

/-- Preferences may be merged again at any stage: merging a merged bag with nothing gives the bag
itself, with its keys in their order; a bag may be merged with the defaults before it is merged with
what overrides it.  Settings are the same over the defaults and without them, they are read again
from any bag that they are put into, and they name each field with at least one letter, digit,
underscore or hyphen and nothing else. -/
theorem merge_again (a b : Value) :
    (merge a b >>= fun bag => merge .null (.map bag)) = merge a b ∧
      (merge a .null >>= fun bag => merge (.map bag) b) = merge a b ∧
      (IsGiven a → IsGiven b → ∃ bag, merge a b = .ok bag) ∧
      (IsGiven a → (∃ s, Settings.ofPreferences a = .ok s) ∧
        (merge .null a >>= fun bag => Settings.ofPreferences (.map bag)) = Settings.ofPreferences a) ∧
      ∀ s, Settings.ofPreferences a = .ok s →
        (∀ entries, HeldBy s entries → Settings.ofPreferences (.map entries) = .ok s) ∧
        ∃ name : Field → String, (∀ f, IsNameText (name f)) ∧
          s.fieldNames = .record (namingOrder.map fun f => (f.key, .text (name f))) := by
  refine ⟨merge_bind_merge_null a b, merge_null_bind_merge a b, fun ha hb => ?_, fun ha => ?_,
    fun s hs => ⟨fun entries h => h.ofPreferences_eq hs, ?_⟩⟩
  · obtain ⟨below, hbelow, -⟩ := ha.laidEntries_eq
    obtain ⟨above, habove, -⟩ := hb.laidEntries_eq
    rw [merge_eq, hbelow, habove]
    exact ⟨_, rfl⟩
  · obtain ⟨entries, hentries, hdistinct, hsame⟩ := ha.laidEntries_eq
    rw [merge_null_left, hentries, hsame]
    exact ⟨⟨_, ofPreferences_map entries⟩, ofPreferences_update_defaults hdistinct⟩
  · obtain ⟨names, -, -, -, -, rfl⟩ := ofPreferences_eq_ok hs
    exact ⟨resolveName names, fun f => isFieldName_iff.mp (isFieldName_resolveName names f), rfl⟩

/-- Preferences with a blank title, a name to trim, a name that is none, a flag that is none, and
null in place of a template. -/
def loosePreferences : Entries :=
  [(.text "frontmatterTitleTemplate", .text "  "),
    (.text "frontmatterTagsTemplate", .null),
    (.text "frontmatterFieldNames",
      .record [("title", .text " note-title "), ("date", .text "on day")]),
    (.text "frontmatterEnabledFields", .record [("time", .bool false), ("tags", .int 0)])]

/-- The settings that they give. -/
def looseSettings : Settings where
  fieldNames := .record [("title", .text "note-title"), ("date", .text "date_created"),
    ("time", .text "time_created"), ("exportedAt", .text "exported_at"),
    ("tabCount", .text "tab_count"), ("tags", .text "tags"), ("collections", .text "collections"),
    ("windowIncognito", .text "window_incognito")]
  enabled := .record [("title", .bool true), ("date", .bool true), ("time", .bool false),
    ("exportedAt", .bool true), ("tabCount", .bool true), ("windowIncognito", .bool true),
    ("tags", .bool true), ("collections", .bool true)]
  titleTemplate := .text defaultTitle
  tagsTemplate := .text "tabs"
  collectionsTemplate := .text ""

theorem ofPreferences_loosePreferences :
    Settings.ofPreferences (.map loosePreferences) = .ok looseSettings := by
  rfl

theorem merge_again_loose :
    (merge .null (.map loosePreferences) >>= fun bag => Settings.ofPreferences (.map bag)) =
        .ok looseSettings ∧
      (∃ bag, merge (.map loosePreferences) .null = .ok bag) ∧
      Settings.ofPreferences (.map [
        (.text "frontmatterCollectionsTemplate", looseSettings.collectionsTemplate),
        (.text "frontmatterTagsTemplate", looseSettings.tagsTemplate),
        (.text "frontmatterTitleTemplate", looseSettings.titleTemplate),
        (.text "frontmatterEnabledFields", looseSettings.enabled),
        (.text "frontmatterFieldNames", looseSettings.fieldNames)]) = .ok looseSettings := by
  have hread := ofPreferences_loosePreferences
  have hgiven : IsGiven (.map loosePreferences) := .inr ⟨loosePreferences, rfl, by decide⟩
  obtain ⟨-, -, hmerge, hdefaults, hsettings⟩ := merge_again (.map loosePreferences) .null
  refine ⟨(hdefaults hgiven).2.trans hread, hmerge hgiven (.inl rfl), ?_⟩
  exact (hsettings looseSettings hread).1 _ ⟨rfl, rfl, rfl, rfl, rfl⟩

end TabNotes.Preferences
