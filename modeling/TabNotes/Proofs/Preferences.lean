import TabNotes.Note.Format
import TabNotes.Proofs.Obsidian.NotePath
import TabNotes.Proofs.Runs
import TabNotes.Proofs.Value.Entries

/-! # Preferences over the defaults

A map over the defaults gives the settings that it gives alone (`ofPreferences_update_defaults`).  A
value that is not of the kind that its name takes says the same as the default one (`SameUse`). -/

namespace TabNotes.Preferences

open TabNotes.Text TabNotes.Frontmatter TabNotes.Note TabNotes.Obsidian

variable {entries entries' : Entries}

theorem isBag_defaults : Entries.IsBag defaults := by
  have hnames : ["markdownFormat", "restrictedUrls", "obsidianVault", "obsidianNotePath",
      "maxObsidianUriLength", "frontmatterFieldNames", "frontmatterEnabledFields",
      "frontmatterTitleTemplate", "frontmatterTagsTemplate",
      "frontmatterCollectionsTemplate"].Nodup := by decide
  constructor
  · intro entry hentry
    obtain ⟨field, -, rfl⟩ := List.mem_map.mp hentry
    exact ⟨_, rfl⟩
  · have hkeys := hnames.map (f := Key.text) fun _ _ => Key.text.inj
    exact hkeys

/-! ### Over the defaults -/

/-- What takes a default value like null is not changed by laying a map over the defaults. -/
theorem congr_update_defaults {β : Type} (read : Value → β) {name : String}
    (hdefault : read ((Value.map defaults).get name) = read .null) (h : entries.Distinct) :
    read ((Value.map (Entries.update defaults entries)).get name) =
      read ((Value.map entries).get name) := by
  have hget : (Value.map (Entries.update defaults entries)).get name =
      ((Entries.get? entries name).or (Entries.get? defaults name)).getD .null := by
    rw [← h.get?_update]
    rfl
  have hentries : (Value.map entries).get name = (Entries.get? entries name).getD .null := rfl
  rw [hget, hentries]
  cases Entries.get? entries name with
  | none => exact hdefault
  | some v => rfl

theorem ofPreferences_map (entries : Entries) :
    Settings.ofPreferences (.map entries) =
      .ok ⟨resolveNames ((Value.map entries).get "frontmatterFieldNames"),
        resolveEnabled ((Value.map entries).get "frontmatterEnabledFields"),
        .text (resolveTitle ((Value.map entries).get "frontmatterTitleTemplate")),
        .text (resolveList defaultTags ((Value.map entries).get "frontmatterTagsTemplate")),
        .text (resolveList defaultCollections
          ((Value.map entries).get "frontmatterCollectionsTemplate"))⟩ := by
  cases entries <;> rfl

theorem resolveNames_default :
    resolveNames ((Value.map defaults).get "frontmatterFieldNames") = resolveNames .null := by
  have hname : ∀ f, resolveName defaultNames f = resolveName .null f := by
    intro f
    cases f <;> rfl
  have hdefault : (Value.map defaults).get "frontmatterFieldNames" = defaultNames := rfl
  rw [hdefault, resolveNames, resolveNames]
  simp only [hname]

theorem ofPreferences_update_defaults (h : entries.Distinct) :
    Settings.ofPreferences (.map (Entries.update defaults entries)) =
      Settings.ofPreferences (.map entries) := by
  rw [ofPreferences_map, ofPreferences_map,
    congr_update_defaults resolveNames resolveNames_default h,
    congr_update_defaults resolveEnabled rfl h,
    congr_update_defaults resolveTitle rfl h, congr_update_defaults (resolveList defaultTags) rfl h,
    congr_update_defaults (resolveList defaultCollections) rfl h]

/-! ### Values that are not taken -/

/-- A text that is not blank. -/
def isFilled : Value → Bool
  | .text s => !allBlank s
  | _ => false

def isText : Value → Bool
  | .text _ => true
  | _ => false

/-- A text that is the name of a field once it is trimmed. -/
def isName : Value → Bool
  | .text s => isFieldName (trim s)
  | _ => false

def isFlag : Value → Bool
  | .bool _ => true
  | _ => false

/-- The same value, or the default one in place of one that is not taken. -/
def Defaults (isTaken : Value → Bool) (default v v' : Value) : Prop :=
  v = v' ∨ isTaken v = false ∧ v' = default

theorem Defaults.congr {β : Type} {isTaken : Value → Bool} {default v v' : Value}
    (h : Defaults isTaken default v v') (read : Value → β)
    (hread : ∀ v, isTaken v = false → read v = read default) : read v = read v' := by
  rcases h with rfl | ⟨hnot, rfl⟩
  · rfl
  · exact hread v hnot

/-- Preferences that are the same except that some of the values that are not taken are replaced by
the default ones, in place of which they count.  Of the restrictions and of the limit on links every
value that counts as true is taken; one that counts as false means that there are no restrictions,
and the default limit. -/
structure SameUse (entries entries' : Entries) : Prop where
  restrictions : Defaults Value.isTrue (.ofList []) ((Value.map entries).get "restrictedUrls")
    ((Value.map entries').get "restrictedUrls")
  limit : Defaults Value.isTrue (.int defaultLinkLength)
    ((Value.map entries).get "maxObsidianUriLength")
    ((Value.map entries').get "maxObsidianUriLength")
  format : Defaults isFilled (.text defaultFormat) ((Value.map entries).get "markdownFormat")
    ((Value.map entries').get "markdownFormat")
  vault : Defaults isText (.text "") ((Value.map entries).get "obsidianVault")
    ((Value.map entries').get "obsidianVault")
  notePath : Defaults isFilled (.text defaultNotePath) ((Value.map entries).get "obsidianNotePath")
    ((Value.map entries').get "obsidianNotePath")
  title : Defaults isFilled (.text defaultTitle)
    ((Value.map entries).get "frontmatterTitleTemplate")
    ((Value.map entries').get "frontmatterTitleTemplate")
  tags : Defaults isText (.text defaultTags) ((Value.map entries).get "frontmatterTagsTemplate")
    ((Value.map entries').get "frontmatterTagsTemplate")
  collections : Defaults isText (.text defaultCollections)
    ((Value.map entries).get "frontmatterCollectionsTemplate")
    ((Value.map entries').get "frontmatterCollectionsTemplate")
  names : ∀ f : Field, Defaults isName (.text f.defaultName)
    (((Value.map entries).get "frontmatterFieldNames").get f.key)
    (((Value.map entries').get "frontmatterFieldNames").get f.key)
  flags : ∀ f : Field, Defaults isFlag (.bool true)
    (((Value.map entries).get "frontmatterEnabledFields").get f.key)
    (((Value.map entries').get "frontmatterEnabledFields").get f.key)

/-- The formats for which the default one counts. -/
theorem resolveFormat_of_not_isFilled {v : Value} (h : isFilled v = false) :
    resolveFormat v = defaultFormat := by
  cases v with
  | text s =>
      have hblank : allBlank s = true := by simpa [isFilled] using h
      rw [resolveFormat, if_pos hblank]
  | _ => rfl

theorem resolveFormat_defaultFormat : resolveFormat (.text defaultFormat) = defaultFormat := by
  decide +kernel

theorem resolveName_congr {names names' : Value} {f : Field}
    (h : Defaults isName (.text f.defaultName) (names.get f.key) (names'.get f.key)) :
    resolveName names f = resolveName names' f := by
  have hdefault : isFieldName (trim f.defaultName) = true ∧ trim f.defaultName = f.defaultName := by
    cases f <;> exact ⟨rfl, rfl⟩
  let read := fun v : Value =>
    if isFieldName (trim v.textOrEmpty) then trim v.textOrEmpty else f.defaultName
  have hread : read (.text f.defaultName) = f.defaultName := (if_pos hdefault.1).trans hdefault.2
  refine h.congr read fun v hv => ?_
  have hnot : isFieldName (trim v.textOrEmpty) = false := by
    cases v with
    | text s => exact hv
    | _ => rfl
  rw [hread]
  exact if_neg (by simp [hnot])

theorem resolveEnabledField_congr {flags flags' : Value} {f : Field}
    (h : Defaults isFlag (.bool true) (flags.get f.key) (flags'.get f.key)) :
    resolveEnabledField flags f = resolveEnabledField flags' f := by
  let read := fun v : Value =>
    match v with
    | .bool b => b
    | _ => true
  refine h.congr read fun v hv => ?_
  cases v with
  | bool b => cases hv
  | _ => rfl

namespace SameUse

variable (h : SameUse entries entries')
include h

theorem itemsIfTrue_eq :
    ((Value.map entries).get "restrictedUrls").itemsIfTrue =
      ((Value.map entries').get "restrictedUrls").itemsIfTrue :=
  h.restrictions.congr Value.itemsIfTrue fun _ hv => if_neg (by simp [hv])

theorem orElse_eq :
    ((Value.map entries).get "maxObsidianUriLength").orElse (.int defaultLinkLength) =
      ((Value.map entries').get "maxObsidianUriLength").orElse (.int defaultLinkLength) :=
  h.limit.congr (Value.orElse · (.int defaultLinkLength)) fun _ hv => if_neg (by simp [hv])

theorem resolveFormat_eq :
    resolveFormat ((Value.map entries).get "markdownFormat") =
      resolveFormat ((Value.map entries').get "markdownFormat") :=
  h.format.congr resolveFormat fun _ hv =>
    (resolveFormat_of_not_isFilled hv).trans resolveFormat_defaultFormat.symm

theorem settings_eq :
    Settings.ofPreferences (.map entries) = Settings.ofPreferences (.map entries') := by
  have htitle := h.title.congr resolveTitle fun v hv => by
    cases v with
    | text s =>
        have hblank : allBlank s = true := by simpa [isFilled] using hv
        rw [resolveTitle, if_pos hblank]
        rfl
    | _ => rfl
  have hlist : ∀ default v, isText v = false →
      resolveList default v = resolveList default (.text default) := by
    intro default v hv
    cases v with
    | text s => cases hv
    | _ => rfl
  have htags := h.tags.congr (resolveList defaultTags) (hlist defaultTags)
  have hcollections :=
    h.collections.congr (resolveList defaultCollections) (hlist defaultCollections)
  rw [ofPreferences_map, ofPreferences_map, htitle, htags, hcollections, resolveNames, resolveNames,
    resolveEnabled, resolveEnabled]
  simp only [fun f => resolveName_congr (h.names f), fun f => resolveEnabledField_congr (h.flags f)]

theorem place_eq : Place.ofPreferences (.map entries) = Place.ofPreferences (.map entries') := by
  have hvault := h.vault.congr Value.textOrEmpty fun v hv => by
    cases v with
    | text s => cases hv
    | _ => rfl
  have hpath := h.notePath.congr pathToUse fun v hv => by
    cases v with
    | text s =>
        have hblank : allBlank s = true := by simpa [isFilled] using hv
        exact if_pos hblank
    | _ => rfl
  rw [ofPreferences_eq, ofPreferences_eq, hvault, hpath]

end SameUse

end TabNotes.Preferences
