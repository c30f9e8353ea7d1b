import Mathlib.Data.List.Nodup
import TabNotes.Proofs.Note.Context
import TabNotes.Proofs.Tab.Gathering
import TabNotes.Proofs.Tab.Views

/-! # The groups of a note

`IsPartition` says how the tabs, the groups and the tabs without a group that templates see belong
together: the groups and the ungrouped tabs divide the tabs, in their order, and every group says
what the last of its records says.  `isPartition_of_contextOf` states it of every context. -/

namespace TabNotes.Note

open TabNotes.Text TabNotes.Tab

/-- Whether a tab, as templates see it, carries an id. -/
def carries (id : Int) (tab : Value) : Bool :=
  match tab.get "groupId" with
  | .int n => n == id
  | _ => false

/-- Whether a tab, as templates see it, carries no id. -/
def carriesNone (tab : Value) : Bool :=
  match tab.get "groupId" with
  | .null => true
  | _ => false

/-- The fields of a group that its tabs show. -/
def summaryOf (group : Value) : Value :=
  .record [("id", group.get "id"), ("title", group.get "title"), ("color", group.get "color"),
    ("collapsed", group.get "collapsed")]

/-- The entries, groups and ungrouped entries that templates see for tabs, where `records` holds the
records of groups. -/
structure IsPartition (tabs : List Value) (records : Value) (entries groups ungrouped : List Value) :
    Prop where
  length_entries : entries.length = tabs.length
  entry : ∀ (i : Nat) (he : i < entries.length) (ht : i < tabs.length),
    entries[i].get "index" = .int i ∧ entries[i].get "position" = .int (i + 1) ∧
      entries[i].get "id" = .ofInt? (tabs[i].get "id").wholeNumber? ∧
      entries[i].get "title" = .text (cleanTitle (tabs[i].get "title").textOrEmpty) ∧
      entries[i].get "url" = .text (trim (tabs[i].get "url").textOrEmpty) ∧
      entries[i].get "groupId" = .ofInt? (groupId? tabs[i])
  /-- The groups come in the order of the first tabs that carry their ids. -/
  ids : groups.map (·.get "id") = (tabs.filterMap groupId?).eraseDups.map .int
  nodup : (groups.map (·.get "id")).Nodup
  group : ∀ g ∈ groups, ∃ id : Int, 0 ≤ id ∧ g.get "id" = .int id ∧
    g.get "tabs" = .ofList (entries.filter (carries id)) ∧ entries.filter (carries id) ≠ [] ∧
    g.get "tabCount" = .int (entries.filter (carries id)).length ∧
    g.get "title" = .text (knownOf records id).title ∧
    g.get "color" = .text (knownOf records id).color ∧
    g.get "collapsed" = .bool (knownOf records id).collapsed ∧
    g.get "windowId" = .ofInt? (knownOf records id).windowId
  ungrouped_eq : ungrouped = entries.filter carriesNone
  summary : ∀ e ∈ entries, e.get "groupId" = .null ∧ e.get "group" = .null ∨
    ∃ g ∈ groups, e.get "groupId" = g.get "id" ∧ e.get "group" = summaryOf g

/-! ### Views -/

section views

variable {records : Value} {views : List View} {window : Window}

/-- A view that shows what is known of its group, and has all flags. -/
def ShowsGroup (records : Value) (v : View) : Prop :=
  v.group = v.groupId.map (knownOf records) ∧
    ∃ isSet : String → Bool, v.flags = flagNames.map fun name => (name, isSet name)

theorem carries_toValue {v : View} (h : ShowsGroup records v) (id : Int) :
    carries id (v.toValue window) = (v.groupId == some id) := by
  obtain ⟨-, isSet, hflags⟩ := h
  rw [carries, View.get_groupId_toValue hflags]
  cases v.groupId <;> rfl

theorem carriesNone_toValue {v : View} (h : ShowsGroup records v) :
    carriesNone (v.toValue window) = v.groupId.isNone := by
  obtain ⟨-, isSet, hflags⟩ := h
  rw [carriesNone, View.get_groupId_toValue hflags]
  cases v.groupId <;> rfl

theorem filter_carries (h : ∀ v ∈ views, ShowsGroup records v) (id : Int) :
    (views.map (View.toValue window)).filter (carries id) =
      (groupOf (knownOf records) views id).tabs.map (View.toValue window) := by
  rw [List.filter_map, groupOf]
  exact congrArg _ (List.filter_congr fun v hv => carries_toValue (h v hv) id)

theorem filter_carriesNone (h : ∀ v ∈ views, ShowsGroup records v) :
    (views.map (View.toValue window)).filter carriesNone =
      (views.filter fun v => v.groupId.isNone).map (View.toValue window) := by
  rw [List.filter_map]
  exact congrArg _ (List.filter_congr fun v hv => carriesNone_toValue (h v hv))

/-- A view shows its tab at its position. -/
theorem entry_toValue {v : View} {i : Nat} {tab : Value} (h : ShowsGroup records v)
    (hview : IsViewOf v i tab) :
    (v.toValue window).get "index" = .int i ∧ (v.toValue window).get "position" = .int (i + 1) ∧
      (v.toValue window).get "id" = .ofInt? (tab.get "id").wholeNumber? ∧
      (v.toValue window).get "title" = .text (cleanTitle (tab.get "title").textOrEmpty) ∧
      (v.toValue window).get "url" = .text (trim (tab.get "url").textOrEmpty) ∧
      (v.toValue window).get "groupId" = .ofInt? (groupId? tab) := by
  obtain ⟨-, isSet, hflags⟩ := h
  obtain ⟨hindex, hposition, hid, htitle, hurl⟩ := View.get_toValue hflags window
  rw [hindex, hposition, hid, htitle, hurl, View.get_groupId_toValue hflags, hview.index, hview.id,
    hview.title, hview.url, hview.groupId]
  exact ⟨rfl, rfl, rfl, rfl, rfl, rfl⟩

/-- A group holds the views that carry its id, and what is known of it. -/
theorem group_toValue (h : ∀ v ∈ views, ShowsGroup records v) {id : Int} (hid : id ∈ carriedIds views) :
    let group := (groupOf (knownOf records) views id).toValue window
    let carried := (views.map (View.toValue window)).filter (carries id)
    group.get "id" = .int id ∧ group.get "tabs" = .ofList carried ∧ carried ≠ [] ∧
      group.get "tabCount" = .int carried.length ∧
      group.get "title" = .text (knownOf records id).title ∧
      group.get "color" = .text (knownOf records id).color ∧
      group.get "collapsed" = .bool (knownOf records id).collapsed ∧
      group.get "windowId" = .ofInt? (knownOf records id).windowId := by
  intro group carried
  obtain ⟨hgroup, htitle, hcolor, hcollapsed, hwindowId, htabs, hcount⟩ :=
    Group.get_toValue (groupOf (knownOf records) views id) window
  have hcarried : carried = (groupOf (knownOf records) views id).tabs.map (View.toValue window) :=
    filter_carries h id
  obtain ⟨v, hv, hvid⟩ := mem_carriedIds.mp hid
  have hmem : v.toValue window ∈ carried := by
    rw [List.mem_filter, carries_toValue (h v hv), hvid]
    exact ⟨List.mem_map_of_mem hv, by simp⟩
  refine ⟨hgroup, ?_, List.ne_nil_of_mem hmem, ?_, htitle, hcolor, hcollapsed, hwindowId⟩
  · rw [hcarried]
    exact htabs
  · rw [hcarried, List.length_map]
    exact hcount

/-- A view in a group shows the fields of that group. -/
theorem summary_toValue (views : List View) {v : View} {id : Int} (h : ShowsGroup records v)
    (hid : v.groupId = some id) :
    (v.toValue window).get "groupId" = .int id ∧
      (v.toValue window).get "group" =
        summaryOf ((groupOf (knownOf records) views id).toValue window) := by
  obtain ⟨hgroup, isSet, hflags⟩ := h
  rw [View.get_groupId_toValue hflags, View.get_group_toValue hflags, View.groupSummary, hgroup, hid]
  exact ⟨rfl, rfl⟩

theorem summary_toValue_none {v : View} (h : ShowsGroup records v) (hid : v.groupId = none) :
    (v.toValue window).get "groupId" = .null ∧ (v.toValue window).get "group" = .null := by
  obtain ⟨-, isSet, hflags⟩ := h
  rw [View.get_groupId_toValue hflags, View.get_group_toValue hflags, View.groupSummary, hid]
  exact ⟨rfl, rfl⟩

/-- Views that show their tabs and groups are partitioned by their grouping. -/
theorem isPartition_grouping {tabs : List Value} (hshown : ∀ v ∈ views, ShowsGroup records v)
    (hcarried : views.map (·.groupId) = tabs.map groupId?)
    (hview : ∀ (i : Nat) (hv : i < views.length) (ht : i < tabs.length), IsViewOf views[i] i tabs[i]) :
    IsPartition tabs records (views.map (View.toValue window))
      ((grouping (knownOf records) views).groups.map (Group.toValue window))
      ((grouping (knownOf records) views).ungrouped.map (View.toValue window)) := by
  have hlength : views.length = tabs.length := by
    simpa using congrArg List.length hcarried
  have hids : carriedIds views = (tabs.filterMap groupId?).eraseDups := by
    have hflat := congrArg (List.filterMap id) hcarried
    rw [List.filterMap_map, List.filterMap_map, Function.id_comp, Function.id_comp] at hflat
    rw [carriedIds, hflat]
  have hmap : ((grouping (knownOf records) views).groups.map (Group.toValue window)).map
      (·.get "id") = (carriedIds views).map .int := by
    rw [grouping, List.map_map, List.map_map]
    exact List.map_congr_left fun id _ => (Group.get_toValue _ window).1
  refine ⟨by simpa using hlength, ?_, by rw [hmap, hids], ?_, ?_, (filter_carriesNone hshown).symm, ?_⟩
  · intro i he ht
    rw [List.length_map] at he
    rw [List.getElem_map]
    exact entry_toValue (hshown views[i] (List.getElem_mem he)) (hview i he ht)
  · rw [hmap]
    exact (nodup_eraseDups _).map fun _ _ => Value.int.inj
  · intro g hg
    rw [grouping, List.map_map, List.mem_map] at hg
    obtain ⟨id, hid, rfl⟩ := hg
    have hnonneg : 0 ≤ id := by
      rw [hids, List.mem_eraseDups, List.mem_filterMap] at hid
      obtain ⟨tab, -, htab⟩ := hid
      exact nonneg_of_groupId? htab
    exact ⟨id, hnonneg, group_toValue hshown hid⟩
  · intro e he
    obtain ⟨v, hv, rfl⟩ := List.mem_map.mp he
    cases hid : v.groupId with
    | none => exact .inl (summary_toValue_none (hshown v hv) hid)
    | some id =>
        have hgroup := mem_carriedIds.mpr ⟨v, hv, hid⟩
        exact .inr ⟨_, List.mem_map_of_mem (List.mem_map_of_mem hgroup),
          summary_toValue views (hshown v hv) hid⟩

end views

/-- The tabs and groups of a context form a partition. -/
theorem isPartition_of_contextOf {clock : Time.Clock} {tabs : List Value} {options : Options}
    {context : Context} {notices : List Notice}
    (h : (Context.of clock tabs options).outcome = (.ok context, notices)) :
    ∃ entries groups ungrouped : List Value,
      context.toValue.get "tabs" = .ofList entries ∧
      context.toValue.get "groups" = .ofList groups ∧
      context.toValue.get "ungroupedTabs" = .ofList ungrouped ∧
      IsPartition tabs options.groups entries groups ungrouped := by
  obtain ⟨now, -, stamp, -, index, views, frontmatter, -, -, -, -, hindex, hviews, -, rfl⟩ :=
    outcome_contextOf_eq_ok_iff.mp h
  obtain ⟨hlength, hall⟩ := viewsFrom_eq_ok hviews
  have hview := fun (i : Nat) (hv : i < views.length) => of_eq_ok hindex (hall i hv (by omega))
  have hshown : ∀ v ∈ views, ShowsGroup options.groups v := by
    intro v hv
    obtain ⟨i, hi, rfl⟩ := List.mem_iff_getElem.mp hv
    exact (hview i hi).2
  have hgathered : Gathered.of views = grouping (knownOf options.groups) views :=
    gathered_of_eq fun v hv => (hshown v hv).1
  refine ⟨views.map (View.toValue (Window.of options.window tabs)), _, _, ?_, rfl, rfl, ?_⟩
  · rw [hgathered]
    rfl
  · rw [hgathered]
    refine isPartition_grouping hshown (map_groupId_of_viewsFrom hindex hviews) fun i hv _ => ?_
    have hi := (hview i hv).1
    rwa [Nat.zero_add] at hi

/-- A tab in a group, one that is no map, one with a negative id, and two tabs of other groups. -/
def mixedTabs : List Value :=
  [.record [("groupId", .int 5)], .text "tab", .record [("groupId", .int (-1))],
    .record [("groupId", .int 3)], .record [("groupId", .int 5), ("title", .text "B")]]

/-- Two records of one group, under a key that is its id and under one that is none. -/
def mixedRecords : Value :=
  .map [(.text "5", .record [("title", .text "first")]), (.int 3, .null),
    (.text "last", .record [("id", .int 5), ("title", .text "second")])]

def mixedOptions : Options :=
  { Options.none with groups := mixedRecords, settings := some noFields }

/-- The groups come in the order of their tabs, and the second record of the first group counts. -/
theorem isPartition_mixed :
    ∃ context, (Context.of atNewMillennium mixedTabs mixedOptions).outcome = (.ok context, []) ∧
      ∃ entries groups ungrouped,
        context.toValue.get "tabs" = .ofList entries ∧
        context.toValue.get "groups" = .ofList groups ∧
        context.toValue.get "ungroupedTabs" = .ofList ungrouped ∧
        IsPartition mixedTabs mixedRecords entries groups ungrouped ∧
        groups.map (·.get "id") = [.int 5, .int 3] ∧ (knownOf mixedRecords 5).title = "second" := by
  have hcontext : (Context.of atNewMillennium mixedTabs mixedOptions).outcome = (.ok _, []) :=
    outcome_contextOf_eq_ok_iff.mpr ⟨newMillennium, none, newMillenniumStamp, noFields, _, _, "",
      rfl, rfl, rfl, rfl, rfl, rfl, rfl, rfl⟩
  obtain ⟨entries, groups, ungrouped, htabs, hgroups, hungrouped, hpartition⟩ :=
    isPartition_of_contextOf hcontext
  exact ⟨_, hcontext, entries, groups, ungrouped, htabs, hgroups, hungrouped, hpartition,
    hpartition.ids, rfl⟩

end TabNotes.Note
