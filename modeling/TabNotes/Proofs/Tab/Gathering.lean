import TabNotes.Tab.View

/-! # Tabs in groups

`grouping` says what gathering tabs should give: the groups in the order of their first tabs, each
with all of its tabs in the order of the tabs, and the tabs without a group by themselves.  Adding
one tab keeps this (`add_grouping`), so gathering gives exactly it (`gathered_of_eq`).  No tab is
lost or doubled (`perm_grouping`). -/

namespace TabNotes.Tab

/-- The group of an id with the tabs that carry the id. -/
def groupOf (info : Int → GroupInfo) (views : List View) (id : Int) : Group :=
  ⟨id, info id, views.filter fun v => v.groupId == some id⟩

/-- The ids that tabs carry, in the order of the first tabs with them. -/
def carriedIds (views : List View) : List Int := (views.filterMap (·.groupId)).eraseDups

/-- Tabs, the groups of those that carry an id, and the others. -/
def grouping (info : Int → GroupInfo) (views : List View) : Gathered :=
  ⟨views, (carriedIds views).map (groupOf info views), views.filter fun v => v.groupId.isNone⟩

/-! ### The ids -/

theorem nodup_eraseDups : ∀ ids : List Int, ids.eraseDups.Nodup
  | [] => by simp
  | id :: ids => by
      rw [List.eraseDups_cons, List.nodup_cons]
      refine ⟨fun h => ?_, nodup_eraseDups (ids.filter fun i => !i == id)⟩
      have hmem := (List.mem_filter.mp (List.mem_eraseDups.mp h)).2
      simp at hmem
termination_by ids => ids.length
decreasing_by
  have := List.length_filter_le (fun i => !i == id) ids
  simp only [List.length_cons]
  omega

theorem eraseDups_concat (ids : List Int) (id : Int) :
    (ids ++ [id]).eraseDups =
      if id ∈ ids.eraseDups then ids.eraseDups else ids.eraseDups ++ [id] := by
  rw [List.eraseDups_append]
  by_cases h : id ∈ ids
  · simp [List.removeAll, h]
  · simp [List.removeAll, h, List.eraseDups_cons]

theorem mem_carriedIds {views : List View} {id : Int} :
    id ∈ carriedIds views ↔ ∃ v ∈ views, v.groupId = some id := by
  rw [carriedIds, List.mem_eraseDups, List.mem_filterMap]

/-- A tab that is added at the end opens a group only if no tab before it carries its id. -/
theorem carriedIds_concat (views : List View) (v : View) :
    carriedIds (views ++ [v]) =
      match v.groupId with
      | none => carriedIds views
      | some id => if id ∈ carriedIds views then carriedIds views else carriedIds views ++ [id] := by
  cases hid : v.groupId with
  | none => simp [carriedIds, hid]
  | some id =>
      have happend : (views ++ [v]).filterMap (·.groupId) = views.filterMap (·.groupId) ++ [id] := by
        simp [hid]
      rw [carriedIds, happend, eraseDups_concat]
      rfl

/-! ### Adding a tab -/

section adding

variable {groups : List Group} {id : Int} {info : GroupInfo} {view : View}

theorem addToGroup_of_not_mem (h : id ∉ groups.map (·.id)) :
    addToGroup groups id info view = groups ++ [⟨id, info, [view]⟩] := by
  induction groups with
  | nil => rfl
  | cons g groups ih =>
      rw [List.map_cons, List.mem_cons, not_or] at h
      have hne : (g.id == id) = false := beq_false_of_ne (Ne.symm h.1)
      rw [addToGroup, hne, if_neg (by simp), ih h.2, List.cons_append]

theorem addToGroup_of_mem (hnodup : (groups.map (·.id)).Nodup) (h : id ∈ groups.map (·.id)) :
    addToGroup groups id info view =
      groups.map fun g => if g.id = id then { g with tabs := g.tabs ++ [view] } else g := by
  induction groups with
  | nil => simp at h
  | cons g groups ih =>
      rw [List.map_cons, List.nodup_cons] at hnodup
      rw [addToGroup, List.map_cons]
      by_cases hg : g.id = id
      · -- no later group has the same id
        have hrest : (groups.map fun g => if g.id = id then { g with tabs := g.tabs ++ [view] } else g)
            = groups := by
          refine (List.map_congr_left fun g' hg' => ?_).trans (List.map_id groups)
          have hne : g'.id ≠ id := fun heq =>
            hnodup.1 (hg ▸ heq ▸ List.mem_map_of_mem hg')
          rw [if_neg hne, id_eq]
        rw [hrest, if_pos (by simpa using hg), if_pos hg]
      · have hmem : id ∈ groups.map (·.id) := by
          rcases List.mem_cons.mp h with heq | hmem
          · exact absurd heq.symm hg
          · exact hmem
        rw [if_neg (by simpa using hg), if_neg hg, ih hnodup.2 hmem]

end adding

variable {info : Int → GroupInfo} {views : List View}

theorem groupOf_concat_of_ne {v : View} {id : Int} (h : v.groupId ≠ some id) :
    groupOf info (views ++ [v]) id = groupOf info views id := by
  simp [groupOf, List.filter_append, h]

theorem groupOf_concat {v : View} {id : Int} (h : v.groupId = some id) :
    groupOf info (views ++ [v]) id =
      { groupOf info views id with tabs := (groupOf info views id).tabs ++ [v] } := by
  simp [groupOf, List.filter_append, h]

theorem groupOf_of_not_mem {id : Int} (h : id ∉ carriedIds views) :
    groupOf info views id = ⟨id, info id, []⟩ := by
  have hnone : views.filter (fun v => v.groupId == some id) = [] := by
    rw [List.filter_eq_nil_iff]
    intro v hv hid
    exact h (mem_carriedIds.mpr ⟨v, hv, by simpa using hid⟩)
  rw [groupOf, hnone]

/-- One tab more is one tab more in the grouping. -/
theorem add_grouping {v : View} (hv : v.group = v.groupId.map info) :
    (grouping info views).add v = grouping info (views ++ [v]) := by
  have hids : ((carriedIds views).map (groupOf info views)).map (·.id) = carriedIds views := by
    rw [List.map_map]
    exact List.map_id (carriedIds views)
  cases hid : v.groupId with
  | none =>
      rw [hid, Option.map_none] at hv
      have hgroups : (carriedIds (views ++ [v])).map (groupOf info (views ++ [v])) =
          (carriedIds views).map (groupOf info views) := by
        rw [carriedIds_concat, hid]
        exact List.map_congr_left fun id _ => groupOf_concat_of_ne (by simp [hid])
      rw [grouping, grouping, hgroups, Gathered.add, hid, hv]
      simp [List.filter_append, hid]
  | some id =>
      rw [hid, Option.map_some] at hv
      have hungrouped : (views ++ [v]).filter (fun w => w.groupId.isNone) =
          views.filter fun w => w.groupId.isNone := by
        simp [List.filter_append, hid]
      rw [grouping, grouping, hungrouped, Gathered.add, hid, hv]
      simp only [carriedIds_concat, hid]
      congr 1
      by_cases hmem : id ∈ carriedIds views
      · rw [if_pos hmem, addToGroup_of_mem (by rw [hids]; exact nodup_eraseDups _) (by rwa [hids]),
          List.map_map]
        refine List.map_congr_left fun i _ => ?_
        by_cases hi : i = id
        · rw [hi, groupOf_concat hid]
          exact if_pos rfl
        · rw [groupOf_concat_of_ne (by rw [hid]; simpa using Ne.symm hi)]
          exact if_neg hi
      · rw [if_neg hmem, addToGroup_of_not_mem (by rwa [hids]), List.map_append, List.map_singleton,
          groupOf_concat hid, groupOf_of_not_mem hmem]
        congr 1
        refine List.map_congr_left fun i hi => (groupOf_concat_of_ne ?_).symm
        rw [hid]
        rintro ⟨⟩
        exact hmem hi

/-- Gathering tabs that know their groups gives their grouping. -/
theorem gathered_of_eq (h : ∀ v ∈ views, v.group = v.groupId.map info) :
    Gathered.of views = grouping info views := by
  have hfrom : ∀ (more before : List View), (∀ v ∈ more, v.group = v.groupId.map info) →
      more.foldl Gathered.add (grouping info before) = grouping info (before ++ more) := by
    intro more
    induction more with
    | nil => simp
    | cons v more ih =>
        intro before hmore
        rw [List.foldl_cons, add_grouping (hmore v (by simp)), ih _ fun w hw => hmore w (by simp [hw]),
          List.append_assoc, List.singleton_append]
  exact hfrom views [] h

/-! ### Every tab once -/

/-- The views with some ids and the views with none of them are all views. -/
theorem perm_flatMap_filter {ids : List Int} (hnodup : ids.Nodup) (views : List View) :
    (ids.flatMap (fun id => views.filter (fun v => v.groupId == some id)) ++
      views.filter (fun v => ids.all (fun id => v.groupId != some id))).Perm views := by
  induction ids with
  | nil =>
      have hall : views.filter (fun _ => true) = views := by simp
      exact .of_eq hall
  | cons id ids ih =>
      rw [List.nodup_cons] at hnodup
      -- those with none of the other ids are those with this one and those with none at all
      have hwith : (views.filter fun v => ids.all fun i => v.groupId != some i).filter
          (fun v => v.groupId == some id) = views.filter fun v => v.groupId == some id := by
        rw [List.filter_filter]
        refine List.filter_congr fun v _ => ?_
        by_cases hv : v.groupId = some id
        · have hothers : ∀ i ∈ ids, id ≠ i := fun i hi heq => hnodup.1 (heq ▸ hi)
          simpa [hv] using hothers
        · simp [hv]
      have hwithout : (views.filter fun v => ids.all fun i => v.groupId != some i).filter
          (fun v => !(v.groupId == some id)) =
            views.filter fun v => (id :: ids).all fun i => v.groupId != some i := by
        rw [List.filter_filter]
        refine List.filter_congr fun v _ => ?_
        rw [List.all_cons]
        rfl
      have hsplit := List.filter_append_perm (fun v => v.groupId == some id)
        (views.filter fun v => ids.all fun i => v.groupId != some i)
      rw [hwith, hwithout] at hsplit
      rw [List.flatMap_cons, List.append_assoc]
      refine (List.perm_append_comm_assoc _ _ _).trans ?_
      exact (hsplit.append_left _).trans (ih hnodup.2)

/-- Every tab is in one group, or in none. -/
theorem perm_grouping (info : Int → GroupInfo) (views : List View) :
    ((grouping info views).groups.flatMap (·.tabs) ++ (grouping info views).ungrouped).Perm
      views := by
  have hgroups : (grouping info views).groups.flatMap (·.tabs) =
      (carriedIds views).flatMap fun id => views.filter fun v => v.groupId == some id :=
    List.flatMap_map _ _ _
  have hungrouped : (grouping info views).ungrouped =
      views.filter fun v => (carriedIds views).all fun id => v.groupId != some id := by
    refine List.filter_congr fun v hv => ?_
    cases hid : v.groupId with
    | none => simp
    | some id =>
        have hmem := mem_carriedIds.mpr ⟨v, hv, hid⟩
        simpa using hmem
  rw [hgroups, hungrouped]
  exact perm_flatMap_filter (nodup_eraseDups _) views

end TabNotes.Tab
