import TabNotes.Proofs.Note.Context
import TabNotes.Proofs.Tab.Access
import TabNotes.Proofs.Tab.Views

/-! # When tabs can be shown

A context whose stamp and frontmatter block are there is missing for two reasons only: a group
record that stops the index, or a tab whose time of the last access stops the export.
`outcome_contextOf` says so, and that the times that do not stop it change nothing but the time
stamps of their own tabs. -/

namespace TabNotes.Note

open TabNotes.Time TabNotes.Tab TabNotes.Frontmatter

variable {clock : Clock} {now : Moment} {stamp : Stamp} {options : Options}
  {tabs tabs' : List Value}
  {frontmatter : String} {notices : List Notice} {fault : Fault}

theorem offset_isSome_of_resolveNow (hclock : clock.now.offset.isSome = true) {v : Value}
    (h : resolveNow clock v = .ok now) : now.offset.isSome = true := by
  unfold resolveNow at h
  split at h
  · cases h
    exact hclock
  · obtain ⟨m?, hm, h⟩ := bind_eq_ok_iff.mp h
    cases m? with
    | some m =>
        cases h
        obtain ⟨own, hown⟩ := exists_offset_of_ofValue hm
        rw [hown]
        rfl
    | none =>
        obtain ⟨shown, -, h⟩ := bind_eq_ok_iff.mp h
        cases h

/-- A context without the times of the last access. -/
def Context.untimed (c : Context) : Context := { c with gathered := c.gathered.untimed }

/-- Whether the parts of a context that do not come from single tabs are there, and what they
are. -/
structure HasFrame (clock : Clock) (options : Options) (tabs : List Value) (now : Moment)
    (stamp : Stamp) (frontmatter : String) (notices : List Notice) : Prop where
  resolved : resolveNow clock options.now = .ok now
  stamped : ∃ zone, zoneOf options.zone = .ok zone ∧ Stamp.of clock.here now zone = .ok stamp
  composed : ∃ settings, settingsOf options = .ok settings ∧
    (compose (frontmatterData (exportValue stamp tabs.length)
      (Window.of options.window tabs).toValue tabs.length) settings).outcome =
        (.ok frontmatter, notices)

theorem HasFrame.congr (h : HasFrame clock options tabs now stamp frontmatter notices)
    (hagree : List.Forall₂ AgreeButAccess tabs tabs') :
    HasFrame clock options tabs' now stamp frontmatter notices where
  resolved := h.resolved
  stamped := h.stamped
  composed := by
    rw [← hagree.length_eq, ← Window.of_congr hagree]
    exact h.composed

/-- With these parts a context is there when the index of the groups and the views of the tabs
are. -/
theorem HasFrame.outcome_eq (h : HasFrame clock options tabs now stamp frontmatter notices) :
    (Context.of clock tabs options).outcome =
      match GroupIndex.of options.groups with
      | .error fault => (.error fault, [])
      | .ok groups =>
        match viewsFrom clock.here groups now 0 tabs with
        | .error fault => (.error fault, [])
        | .ok views =>
          (.ok ⟨stamp, Window.of options.window tabs, .of views, frontmatter⟩, notices) := by
  obtain ⟨zone, hzone, hstamp⟩ := h.stamped
  obtain ⟨settings, hsettings, hfrontmatter⟩ := h.composed
  cases hgroups : GroupIndex.of options.groups with
  | error fault =>
      rw [Report.outcome, Context.of, h.resolved, hzone, hsettings, hgroups]
      simp only [run_bind, run_ofResult, hstamp]
  | ok groups =>
      cases hviews : viewsFrom clock.here groups now 0 tabs with
      | error fault =>
          rw [Report.outcome, Context.of, h.resolved, hzone, hsettings, hgroups]
          simp only [run_bind, run_ofResult, hstamp, hviews]
      | ok views =>
          have hlength := (viewsFrom_eq_ok hviews).1
          dsimp only
          rw [hviews]
          refine outcome_contextOf_eq_ok_iff.mpr ⟨now, zone, stamp, settings, groups, views,
            frontmatter, h.resolved, hzone, hstamp, hsettings, hgroups, hviews, ?_, rfl⟩
          rw [hlength]
          exact hfrontmatter

/-- Two lists of tabs that agree but for the times of the last access give the same context but for
these times. -/
theorem HasFrame.untimed_congr (h : HasFrame clock options tabs now stamp frontmatter notices)
    (hagree : List.Forall₂ AgreeButAccess tabs tabs') {context context' : Context}
    (hcontext : (Context.of clock tabs options).outcome = (.ok context, notices))
    (hcontext' : (Context.of clock tabs' options).outcome = (.ok context', notices)) :
    context'.untimed = context.untimed := by
  rw [h.outcome_eq] at hcontext
  rw [(h.congr hagree).outcome_eq] at hcontext'
  cases hgroups : GroupIndex.of options.groups with
  | error fault =>
      rw [hgroups] at hcontext
      cases hcontext
  | ok groups =>
      simp only [hgroups] at hcontext hcontext'
      split at hcontext
      · cases hcontext
      · rename_i views hviews
        split at hcontext'
        · cases hcontext'
        · rename_i views' hviews'
          cases hcontext
          cases hcontext'
          have hgathered : (Gathered.of views').untimed = (Gathered.of views).untimed := by
            rw [← Gathered.of_map_untimed, ← Gathered.of_map_untimed,
              map_untimed_of_viewsFrom hagree hviews hviews']
          rw [Context.untimed, Context.untimed, hgathered, Window.of_congr hagree]

/-- Such a context is missing for a record that stops the index of the groups, or else for the first
tab that stops the export. -/
theorem HasFrame.outcome_eq_error_iff (hclock : clock.now.offset.isSome = true)
    (h : HasFrame clock options tabs now stamp frontmatter notices) :
    (Context.of clock tabs options).outcome.1 = .error fault ↔
      (∃ entry ∈ options.groups.entries, GroupIndex.StopsIndex entry) ∧ fault = .infinityToInteger ∨
      (¬ ∃ entry ∈ options.groups.entries, GroupIndex.StopsIndex entry) ∧ FirstStop clock.here tabs fault := by
  have hnow := offset_isSome_of_resolveNow hclock h.resolved
  rw [h.outcome_eq]
  cases hgroups : GroupIndex.of options.groups with
  | error other =>
      obtain ⟨hstop, rfl⟩ := GroupIndex.of_eq_error_iff.mp hgroups
      simp [hstop, eq_comm]
  | ok groups =>
      have hnone : ¬ ∃ entry ∈ options.groups.entries, GroupIndex.StopsIndex entry := fun hstop => by
        rw [GroupIndex.of_eq_error_iff.mpr ⟨hstop, rfl⟩] at hgroups
        cases hgroups
      have hviews : viewsFrom clock.here groups now 0 tabs = .error fault ↔ FirstStop clock.here tabs fault :=
        viewsFrom_eq_error_iff hnow
      rw [and_iff_right hnone, or_iff_right fun hstop => hnone hstop.1, ← hviews]
      dsimp only
      cases viewsFrom clock.here groups now 0 tabs <;> simp

/-- Otherwise the context is there, and its tabs show their own times of the last access. -/
theorem HasFrame.exists_context (hclock : clock.now.offset.isSome = true)
    (h : HasFrame clock options tabs now stamp frontmatter notices)
    (hgroups : ¬ ∃ entry ∈ options.groups.entries, GroupIndex.StopsIndex entry)
    (htabs : ∀ tab ∈ tabs, ∀ fault, ¬ StopsAccess clock.here (tab.get "lastAccessed") fault) :
    ∃ context, (Context.of clock tabs options).outcome = (.ok context, notices) ∧
      context.stamp = stamp ∧ context.window = Window.of options.window tabs ∧
      context.frontmatter = frontmatter ∧
      List.Forall₂ (ShowsAccess clock.here now context.window) tabs context.gathered.tabs := by
  have hnow := offset_isSome_of_resolveNow hclock h.resolved
  rw [h.outcome_eq]
  cases hindex : GroupIndex.of options.groups with
  | error other => exact absurd (GroupIndex.of_eq_error_iff.mp hindex).1 hgroups
  | ok groups =>
      obtain ⟨views, hviews⟩ : ∃ views, viewsFrom clock.here groups now 0 tabs = .ok views :=
        exists_viewsFrom hnow htabs
      simp only [hviews]
      refine ⟨_, rfl, rfl, rfl, rfl, ?_⟩
      rw [Gathered.tabs_of]
      exact forall₂_showsAccess hviews _

/-- When the moment, the stamp and the frontmatter block of an export are there, its context is
missing exactly when a group record stops the index or a tab stops the export, the first of them
with its fault.  Otherwise every tab has the time stamps of its own time of the last access, which
are empty where that stands for no moment, and nothing else depends on these times. -/
theorem outcome_contextOf (hclock : clock.now.offset.isSome = true)
    (h : HasFrame clock options tabs now stamp frontmatter notices) :
    (∀ fault, (Context.of clock tabs options).outcome.1 = .error fault ↔
      (∃ entry ∈ options.groups.entries, GroupIndex.StopsIndex entry) ∧ fault = .infinityToInteger ∨
      (¬ ∃ entry ∈ options.groups.entries, GroupIndex.StopsIndex entry) ∧ FirstStop clock.here tabs fault) ∧
    ((¬ ∃ entry ∈ options.groups.entries, GroupIndex.StopsIndex entry) →
      (∀ tab ∈ tabs, ∀ fault, ¬ StopsAccess clock.here (tab.get "lastAccessed") fault) →
      ∃ context, (Context.of clock tabs options).outcome = (.ok context, notices) ∧
        context.stamp = stamp ∧ context.window = Window.of options.window tabs ∧
        context.frontmatter = frontmatter ∧
        List.Forall₂ (ShowsAccess clock.here now context.window) tabs context.gathered.tabs ∧
        ∀ tabs', List.Forall₂ AgreeButAccess tabs tabs' →
          (∀ tab ∈ tabs', ∀ fault, ¬ StopsAccess clock.here (tab.get "lastAccessed") fault) →
          ∃ context', (Context.of clock tabs' options).outcome = (.ok context', notices) ∧
            context'.untimed = context.untimed) := by
  refine ⟨fun fault => h.outcome_eq_error_iff hclock, fun hgroups htabs => ?_⟩
  obtain ⟨context, hcontext, hstamp, hwindow, hfrontmatter, hshows⟩ :=
    h.exists_context hclock hgroups htabs
  refine ⟨context, hcontext, hstamp, hwindow, hfrontmatter, hshows, fun tabs' hagree htabs' => ?_⟩
  obtain ⟨context', hcontext', -⟩ := (h.congr hagree).exists_context hclock hgroups htabs'
  exact ⟨context', hcontext', h.untimed_congr hagree hcontext hcontext'⟩

/-- A tab whose time of the last access is no double stops the export, and in UTC so does one of the
first day of all on an unknown clock; one with a moment is shown as it is without it. -/
theorem outcome_contextOf_tab :
    let options := { Options.none with settings := some noFields }
    let tab := fun access : Value => Value.record [("title", .text "A"), ("lastAccessed", access)]
    let firstDay : Moment := ⟨0, none, by decide⟩
    (Context.of atNewMillennium [tab (.int Number.overflowBound)] options).outcome.1 =
      .error .tooLargeForFloat ∧
    (Context.of atNewMillennium [tab (.moment firstDay)] options).outcome.1 =
      .error (.yearOutOfRange 0) ∧
    ∃ context context',
      (Context.of atNewMillennium [tab (.moment newMillennium)] options).outcome = (.ok context, []) ∧
      (Context.of atNewMillennium [withoutAccess (tab (.moment newMillennium))] options).outcome =
        (.ok context', []) ∧
      context'.untimed = context.untimed := by
  intro options tab firstDay
  have hframe : ∀ access, HasFrame atNewMillennium options [tab access] newMillennium
      newMillenniumStamp "" [] := fun access =>
    ⟨rfl, ⟨none, rfl, rfl⟩, noFields, rfl, rfl⟩
  have hgroups : ¬ ∃ entry ∈ options.groups.entries, GroupIndex.StopsIndex entry := by
    rintro ⟨entry, hentry, -⟩
    cases hentry
  have hstop : FirstStop .utc [tab (.int Number.overflowBound)] .tooLargeForFloat :=
    ⟨[], _, [], rfl, .tooLarge (Nat.le_of_eq (Int.natAbs_natCast _).symm), by simp⟩
  have hfirstDay : FirstStop .utc [tab (.moment firstDay)] (.yearOutOfRange 0) :=
    ⟨[], _, [], rfl, (stopsAccess_utc_iff rfl).mpr ⟨by decide, rfl⟩, by simp⟩
  have hmoment : ∀ fault, ¬ StopsAccess .utc (.moment newMillennium) fault := by
    rintro fault (_ | _ | ⟨hoffset, hout⟩ | ⟨hoffset, -⟩)
    · exact hout ⟨by decide, by decide⟩
    · cases hoffset
  obtain ⟨context, hcontext, -, -, -, -, hagrees⟩ :=
    (outcome_contextOf rfl (hframe (.moment newMillennium))).2 hgroups
      (List.forall_mem_singleton.mpr hmoment)
  obtain ⟨context', hcontext', huntimed⟩ :=
    hagrees _ (.cons (agreeButAccess_withoutAccess _) .nil)
      (List.forall_mem_singleton.mpr (not_stopsAccess_withoutAccess _))
  exact ⟨((outcome_contextOf rfl (hframe _)).1 _).mpr (.inr ⟨hgroups, hstop⟩),
    ((outcome_contextOf rfl (hframe _)).1 _).mpr (.inr ⟨hgroups, hfirstDay⟩), context, context',
    hcontext, hcontext', huntimed⟩

end TabNotes.Note
