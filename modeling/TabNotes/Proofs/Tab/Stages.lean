import TabNotes.Proofs.Text.Search
import TabNotes.Tab.Selection

/-! # Selecting in stages

Restrictions add up: a tab is exported under two lists of them when it is exported under each
(`isExported_append`).  A selection made from a selection is that of both lists together
(`select_select`), although what is highlighted is counted anew: tabs that were kept because they
are highlighted stay so, and where at most one was highlighted no more than one is left.  So a
further list takes away the tabs whose addresses hold one of its entries, and nothing else
(`select_in_stages`). -/

namespace TabNotes.Tab

open TabNotes.Text

variable {restrictions more : List String} {entries entries' kept tabs : List Value} {tab : Value}
  {url part : String} {onlyHighlighted : Bool}

/-! ### Entries in an address -/

/-- The address of a tab holds an entry that is a text and not blank. -/
def HoldsEntry (entries : List Value) (tab : Value) : Prop :=
  ∃ url part, tab.get "url" = .text url ∧ .text part ∈ entries ∧ allBlank part = false ∧
    part.toList <:+: url.toList

theorem mem_usableRestrictions_iff :
    part ∈ usableRestrictions entries ↔ .text part ∈ entries ∧ allBlank part = false := by
  rw [usableRestrictions, List.mem_filterMap]
  constructor
  · rintro ⟨entry, hentry, h⟩
    cases entry with
    | text s =>
        cases hblank : allBlank s with
        | true => simp [hblank] at h
        | false =>
            have hs : s = part := by simpa [hblank] using h
            exact hs ▸ ⟨hentry, hblank⟩
    | _ => cases h
  · rintro ⟨hentry, hblank⟩
    exact ⟨.text part, hentry, by simp [hblank]⟩

theorem usableRestrictions_append (entries entries' : List Value) :
    usableRestrictions (entries ++ entries') =
      usableRestrictions entries ++ usableRestrictions entries' :=
  List.filterMap_append

theorem ne_empty_of_not_allBlank (h : allBlank part = false) : part ≠ "" := by
  rintro rfl
  cases h

/-- An address that is no text holds nothing, like the empty one. -/
theorem holdsEntry_iff : HoldsEntry entries tab ↔
    ∃ part ∈ usableRestrictions entries,
      part.toList <:+: (tab.get "url").textOrEmpty.toList := by
  constructor
  · rintro ⟨url, part, hurl, hentry, hblank, hinfix⟩
    refine ⟨part, mem_usableRestrictions_iff.mpr ⟨hentry, hblank⟩, ?_⟩
    rw [hurl]
    exact hinfix
  · rintro ⟨part, hpart, hinfix⟩
    obtain ⟨hentry, hblank⟩ := mem_usableRestrictions_iff.mp hpart
    have hne : part.toList ≠ [] := by simpa using ne_empty_of_not_allBlank hblank
    cases hurl : tab.get "url" with
    | text url =>
        rw [hurl] at hinfix
        exact ⟨url, part, hurl, hentry, hblank, hinfix⟩
    | _ =>
        rw [hurl] at hinfix
        exact absurd (List.eq_nil_of_infix_nil hinfix) hne

instance (entries : List Value) (tab : Value) : Decidable (HoldsEntry entries tab) :=
  decidable_of_iff
    ((usableRestrictions entries).any fun part => occursIn part (tab.get "url").textOrEmpty)
    (by rw [holdsEntry_iff, List.any_eq_true]; simp only [occursIn_iff])

/-! ### Restrictions -/

theorem isRestricted_eq_true_iff : isRestricted restrictions url = true ↔
    url ≠ "" ∧ (isInternal url = true ∨
      ∃ part ∈ restrictions, part ≠ "" ∧ part.toList <:+: url.toList) := by
  simp [isRestricted, occursIn_iff]

theorem isRestricted_append (restrictions more : List String) (url : String) :
    isRestricted (restrictions ++ more) url =
      (isRestricted restrictions url || isRestricted more url) := by
  rw [isRestricted, isRestricted, isRestricted, List.any_append, ← Bool.and_or_distrib_left]
  cases isInternal url <;> rfl

/-- An address that some restrictions let through is no page of the browser itself, so that others
stop it only for an entry in it. -/
theorem isRestricted_iff_holdsEntry
    (h : isRestricted restrictions (tab.get "url").textOrEmpty = false) (entries : List Value) :
    isRestricted (usableRestrictions entries) (tab.get "url").textOrEmpty = true ↔
      HoldsEntry entries tab := by
  rw [isRestricted_eq_true_iff, holdsEntry_iff]
  constructor
  · rintro ⟨hne, hinternal | ⟨part, hpart, -, hinfix⟩⟩
    · rw [isRestricted_eq_true_iff.mpr ⟨hne, .inl hinternal⟩] at h
      cases h
    · exact ⟨part, hpart, hinfix⟩
  · rintro ⟨part, hpart, hinfix⟩
    have hne := ne_empty_of_not_allBlank (mem_usableRestrictions_iff.mp hpart).2
    refine ⟨fun hempty => ?_, .inr ⟨part, hpart, hne, hinfix⟩⟩
    rw [hempty] at hinfix
    exact hne (by simpa using List.eq_nil_of_infix_nil hinfix)

/-! ### One tab -/

theorem isExported_append (restrictions more : List String) (onlyHighlighted : Bool) (tab : Value) :
    isExported (restrictions ++ more) onlyHighlighted tab =
      (isExported restrictions onlyHighlighted tab && isExported more onlyHighlighted tab) := by
  rw [isExported, isExported, isExported, isRestricted_append]
  grind

/-- Restrictions are a matter of their members: neither order nor number counts. -/
theorem isExported_congr (h : ∀ part, part ∈ restrictions ↔ part ∈ more) (onlyHighlighted : Bool)
    (tab : Value) :
    isExported restrictions onlyHighlighted tab = isExported more onlyHighlighted tab := by
  have hrestricted : isRestricted restrictions (tab.get "url").textOrEmpty =
      isRestricted more (tab.get "url").textOrEmpty := by
    rw [Bool.eq_iff_iff, isRestricted_eq_true_iff, isRestricted_eq_true_iff]
    simp only [h]
  rw [isExported, isExported, hrestricted]

/-- What an exported tab still has to pass under another list. -/
theorem isExported_of_isExported (h : isExported restrictions onlyHighlighted tab = true) :
    isExported (usableRestrictions entries) onlyHighlighted tab = !decide (HoldsEntry entries tab) := by
  simp only [isExported, Bool.and_eq_true, Bool.not_eq_true'] at h
  obtain ⟨⟨⟨hmap, hpinned⟩, hurl⟩, hhighlighted⟩ := h
  have hholds := isRestricted_iff_holdsEntry hurl entries
  rw [isExported, hmap, hpinned, hhighlighted, Bool.eq_iff_iff]
  simp [← hholds]

/-- A tab that is kept because it is highlighted fares alike in both modes. -/
theorem isExported_mode (h : isExported restrictions true tab = true) (onlyHighlighted : Bool) :
    isExported more onlyHighlighted tab = isExported more true tab := by
  have hhighlighted : (tab.get "highlighted").isTrue = true := by
    simp only [isExported, Bool.and_eq_true] at h
    simpa using h.2
  simp [isExported, hhighlighted]

/-! ### Lists of tabs -/

theorem select_sublist (tabs entries : List Value) : (select tabs entries).Sublist tabs :=
  List.filter_sublist

theorem hasSelection_sublist (h : kept.Sublist tabs) (htabs : hasSelection tabs = false) :
    hasSelection kept = false := by
  rw [hasSelection, decide_eq_false_iff_not] at htabs ⊢
  have hlength := (h.filter isHighlighted).length_le
  omega

theorem select_append (tabs entries entries' : List Value) :
    select tabs (entries ++ entries') =
      (select tabs entries).filter
        (isExported (usableRestrictions entries') (hasSelection tabs)) := by
  rw [select, select, List.filter_filter, usableRestrictions_append]
  refine List.filter_congr fun tab _ => ?_
  rw [isExported_append, Bool.and_comm]

/-- A selection from a selection is that of both lists, whichever mode the tabs left call for. -/
theorem select_select (tabs entries entries' : List Value) :
    select (select tabs entries) entries' = select tabs (entries ++ entries') := by
  rw [select_append, select]
  refine List.filter_congr fun tab htab => ?_
  have hkept := (List.mem_filter.mp htab).2
  cases hselection : hasSelection tabs with
  | true =>
      rw [hselection] at hkept
      exact isExported_mode hkept _
  | false => rw [hasSelection_sublist (select_sublist tabs entries) hselection]

theorem select_congr_entries (tabs : List Value)
    (h : ∀ entry, entry ∈ entries ↔ entry ∈ entries') :
    select tabs entries = select tabs entries' := by
  refine List.filter_congr fun tab _ => isExported_congr (fun part => ?_) _ tab
  rw [mem_usableRestrictions_iff, mem_usableRestrictions_iff, h]

/-- A selection keeps the order of the tabs, is final, and only its entries count.  More entries take
away the tabs whose addresses hold one of them, together with the others or afterwards. -/
theorem select_in_stages (tabs entries entries' : List Value) :
    (select tabs entries).Sublist tabs ∧
    select (select tabs entries) entries = select tabs entries ∧
    select tabs (entries ++ entries') =
      (select tabs entries).filter (fun tab => ¬ HoldsEntry entries' tab) ∧
    select (select tabs entries) entries' = select tabs (entries ++ entries') ∧
    (select tabs (entries ++ entries')).Sublist (select tabs entries) ∧
    ((∀ entry, entry ∈ entries ↔ entry ∈ entries') → select tabs entries = select tabs entries') := by
  have hfilter : select tabs (entries ++ entries') =
      (select tabs entries).filter (fun tab => ¬ HoldsEntry entries' tab) := by
    rw [select_append]
    refine List.filter_congr fun tab htab => ?_
    rw [isExported_of_isExported (List.mem_filter.mp htab).2, decide_not]
  refine ⟨select_sublist tabs entries, ?_, hfilter, select_select tabs entries entries', ?_, ?_⟩
  · rw [select_select]
    exact select_congr_entries tabs fun entry => by simp
  · rw [hfilter]
    exact List.filter_sublist
  · exact select_congr_entries tabs

/-- Of two highlighted tabs one is restricted: the other is kept alone, and stays so when it is the
only one left to be counted. -/
theorem select_in_stages_highlighted :
    let tab := fun url highlighted =>
      Value.record [("url", .text url), ("highlighted", .bool highlighted)]
    let tabs := [tab "https://a.org/" true, tab "https://b.org/" false, tab "https://c.org/" true]
    let entries := [.text "a.org", .text " ", .int 5]
    let reordered := [.int 5, .text " ", .text "a.org", .text "a.org"]
    (∀ entry, entry ∈ entries ↔ entry ∈ reordered) ∧
      select tabs entries = [tab "https://c.org/" true] ∧
      select tabs entries = select tabs reordered ∧
      select (select tabs entries) entries = select tabs entries := by
  intro tab tabs entries reordered
  have hsame : ∀ entry, entry ∈ entries ↔ entry ∈ reordered := by
    intro entry
    simp only [entries, reordered, List.mem_cons, List.not_mem_nil, or_false, or_self]
    tauto
  obtain ⟨-, htwice, -, -, -, -⟩ := select_in_stages tabs entries entries
  obtain ⟨-, -, -, -, -, hreordered⟩ := select_in_stages tabs entries reordered
  have hkept : tabs.map (isExported (usableRestrictions entries) (hasSelection tabs)) =
      [false, false, true] := by decide +kernel
  have hselected : select tabs entries = [tab "https://c.org/" true] := by
    simp only [tabs, List.map_cons, List.map_nil, List.cons.injEq, and_true] at hkept
    obtain ⟨ha, hb, hc⟩ := hkept
    simp [select, tabs, ha, hb, hc]
  exact ⟨hsame, hselected, hreordered hsame, htwice⟩

end TabNotes.Tab
