import TabNotes.Proofs.Runs
import TabNotes.Proofs.Tab.GroupRecords
import TabNotes.Tab.View

/-! # Views of tabs

What the views of tabs say of their positions and groups (`of_eq_ok`, `viewsFrom_eq_ok`), and where
templates find it (`View.get_toValue`, `Group.get_toValue`). -/

namespace TabNotes.Tab

open TabNotes.Text TabNotes.Time

variable {here : LocalZone} {groups : Value} {index : GroupIndex} {now : Moment}

theorem nonneg_of_groupId? {tab : Value} {id : Int} (h : groupId? tab = some id) : 0 ≤ id := by
  unfold groupId? at h
  split at h
  · split at h
    · cases h
    · cases h
      omega
  · cases h

/-- Whether a view shows the tab of a record at a position. -/
structure IsViewOf (v : View) (i : Nat) (record : Value) : Prop where
  index : v.index = i
  id : v.id = (record.get "id").wholeNumber?
  title : v.title = cleanTitle (record.get "title").textOrEmpty
  url : v.url = trim (record.get "url").textOrEmpty
  groupId : v.groupId = groupId? record

/-- A view shows its tab, and what the group records say of its group. -/
theorem of_eq_ok (hindex : GroupIndex.of groups = .ok index) {i : Nat} {record : Value} {v : View}
    (h : View.of here index now i record = .ok v) :
    IsViewOf v i record ∧ v.group = v.groupId.map (knownOf groups) ∧
      ∃ isSet : String → Bool, v.flags = flagNames.map fun name => (name, isSet name) := by
  obtain ⟨access, -, h⟩ := bind_eq_ok_iff.mp h
  cases h
  have hknown : (fun id => GroupInfo.of (index.get id)) = knownOf groups :=
    funext fun id => GroupIndex.get_of_eq_ok hindex id
  exact ⟨⟨rfl, rfl, rfl, rfl, rfl⟩, congrArg (fun info => Option.map info (groupId? record)) hknown,
    fun name => (record.get name).isTrue, rfl⟩

theorem viewsFrom_eq_ok {records : List Value} {first : Nat} {views : List View}
    (h : viewsFrom here index now first records = .ok views) :
    views.length = records.length ∧ ∀ (i : Nat) (hv : i < views.length) (hr : i < records.length),
      View.of here index now (first + i) records[i] = .ok views[i] := by
  induction records generalizing first views with
  | nil =>
      cases h
      exact ⟨rfl, fun i hv _ => absurd hv (Nat.not_lt_zero i)⟩
  | cons record records ih =>
      obtain ⟨view, hview, h⟩ := bind_eq_ok_iff.mp h
      obtain ⟨more, hmore, h⟩ := bind_eq_ok_iff.mp h
      cases h
      obtain ⟨hlength, hall⟩ := ih hmore
      refine ⟨by simp [hlength], fun i hv hr => ?_⟩
      cases i with
      | zero => exact hview
      | succ i =>
          simp only [List.length_cons, Nat.add_lt_add_iff_right] at hv hr
          have hi := hall i hv hr
          rw [Nat.add_right_comm] at hi
          exact hi

/-- What a view takes from its tab, the views take from the tabs in their order. -/
theorem map_eq_of_viewsFrom {α : Type} {f : View → α} {g : Value → α}
    (hindex : GroupIndex.of groups = .ok index) {records : List Value} {first : Nat}
    {views : List View} (h : viewsFrom here index now first records = .ok views)
    (hf : ∀ v i record, IsViewOf v i record → f v = g record) : views.map f = records.map g := by
  obtain ⟨hlength, hall⟩ := viewsFrom_eq_ok h
  refine List.ext_getElem (by simp [hlength]) fun i hv hr => ?_
  rw [List.length_map] at hv hr
  rw [List.getElem_map, List.getElem_map]
  exact hf _ _ _ (of_eq_ok hindex (hall i hv hr)).1

/-- The ids that the views carry are those of the tabs, in order. -/
theorem map_groupId_of_viewsFrom (hindex : GroupIndex.of groups = .ok index) {records : List Value}
    {first : Nat} {views : List View} (h : viewsFrom here index now first records = .ok views) :
    views.map (·.groupId) = records.map groupId? :=
  map_eq_of_viewsFrom hindex h fun _ _ _ hview => hview.groupId

/-! ### Views and groups in templates -/

section views

variable {v : View} {isSet : String → Bool}

theorem View.get_toValue (h : v.flags = flagNames.map fun name => (name, isSet name))
    (window : Window) :
    (v.toValue window).get "index" = .int v.index ∧
      (v.toValue window).get "position" = .int (v.index + 1) ∧
      (v.toValue window).get "id" = .ofInt? v.id ∧
      (v.toValue window).get "title" = .text v.title ∧
      (v.toValue window).get "url" = .text v.url := by
  rw [View.toValue, h]
  exact ⟨rfl, rfl, rfl, rfl, rfl⟩

theorem View.get_groupId_toValue (h : v.flags = flagNames.map fun name => (name, isSet name))
    (window : Window) : (v.toValue window).get "groupId" = .ofInt? v.groupId := by
  rw [View.toValue, h]
  rfl

theorem View.get_group_toValue (h : v.flags = flagNames.map fun name => (name, isSet name))
    (window : Window) : (v.toValue window).get "group" = v.groupSummary := by
  rw [View.toValue, h]
  rfl

end views

theorem Group.get_toValue (g : Group) (window : Window) :
    (g.toValue window).get "id" = .int g.id ∧
      (g.toValue window).get "title" = .text g.info.title ∧
      (g.toValue window).get "color" = .text g.info.color ∧
      (g.toValue window).get "collapsed" = .bool g.info.collapsed ∧
      (g.toValue window).get "windowId" = .ofInt? g.info.windowId ∧
      (g.toValue window).get "tabs" = .ofList (g.tabs.map (View.toValue window)) ∧
      (g.toValue window).get "tabCount" = .int g.tabs.length :=
  ⟨rfl, rfl, rfl, rfl, rfl, rfl, rfl⟩

end TabNotes.Tab
