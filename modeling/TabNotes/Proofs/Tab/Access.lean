import Mathlib.Data.List.Forall2
import TabNotes.Proofs.Time.Utc
import TabNotes.Tab.View

/-! # Times of the last access

The texts for the time of a tab's last access are there for every value except those in
`StopsAccess`: integers beyond all doubles, moments that UTC shows in no year from 1 to 9999, and
moments of an unknown clock that the local clock cannot place (`accessTexts_eq_error_iff`), which in
UTC are those on the first day of year 1 (`stopsAccess_utc_iff`).  They change nothing else in the views of tabs (`map_untimed_of_viewsFrom`), nor in their groups
(`Gathered.of_map_untimed`). -/

namespace TabNotes.Tab

open TabNotes.Text TabNotes.Time TabNotes.Number

variable {here : LocalZone} {now : Moment} {record : Value} {fault : Fault}

/-! ### Times that stop an export -/

/-- The values that stop an export as the time of a tab's last access, with the fault. -/
inductive StopsAccess (here : LocalZone) : Value → Fault → Prop where
  | tooLarge {n : Int} (h : overflowBound ≤ n.natAbs) : StopsAccess here (.int n) .tooLargeForFloat
  | text {s : String} {m : Moment} (hm : ofText s = some m) (h : ¬ m.IsInCalendar) :
      StopsAccess here (.text s) .dateOutOfRange
  | moment {m : Moment} {own : Int} (hm : m.offset = some own) (h : ¬ m.IsInCalendar) :
      StopsAccess here (.moment m) .dateOutOfRange
  | reading {m : Moment} {fault : Fault} (hm : m.offset = none) (h : m.toLocal here = .error fault) :
      StopsAccess here (.moment m) fault

theorem StopsAccess.failure {v : Value} (h : StopsAccess here v fault) :
    ofValue here v = .error fault ∨
      ∃ m, ofValue here v = .ok (some m) ∧ isoUtc here m = .error fault := by
  cases h with
  | tooLarge h =>
      rw [ofValue_int, ofInt?_eq_none_iff.mpr h]
      exact .inl rfl
  | @text s m hm h =>
      obtain ⟨own, hown⟩ := exists_offset_of_ofText hm
      exact .inr ⟨m, congrArg Except.ok hm, isoUtc_of_not_isInCalendar hown h⟩
  | moment hm h =>
      exact .inr ⟨_, ofValue_moment_of_offset hm, isoUtc_of_not_isInCalendar hm h⟩
  | reading hm h =>
      rw [ofValue_moment_of_none hm, h]
      exact .inl rfl

theorem stopsAccess_of_error {v : Value} (h : ofValue here v = .error fault) :
    StopsAccess here v fault := by
  cases v with
  | moment m =>
      cases hm : m.offset with
      | some own =>
          rw [ofValue_moment_of_offset hm] at h
          cases h
      | none =>
          rw [ofValue_moment_of_none hm] at h
          exact .reading hm (map_eq_error_iff.mp h)
  | int n =>
      rw [ofValue_int] at h
      cases hms : ofInt? n with
      | some ms =>
          rw [hms] at h
          cases h
      | none =>
          rw [hms] at h
          cases h
          exact .tooLarge (ofInt?_eq_none_iff.mp hms)
  | _ => cases h

theorem stopsAccess_of_not_isInCalendar {v : Value} {m : Moment}
    (hm : ofValue here v = .ok (some m)) (hout : ¬ m.IsInCalendar) :
    StopsAccess here v .dateOutOfRange := by
  cases v with
  | moment n =>
      cases hoffset : n.offset with
      | some own =>
          rw [ofValue_moment_of_offset hoffset] at hm
          cases hm
          exact .moment hoffset hout
      | none =>
          -- the local clock shows nothing that UTC does not show
          rw [ofValue_moment_of_none hoffset] at hm
          obtain ⟨there, hlocal, ⟨⟩⟩ := map_eq_ok_iff.mp hm
          exact absurd (Moment.of_toLocal_eq_ok hlocal).2 hout
  | int n => exact absurd (isInCalendar_of_ofValue (.inl ⟨n, rfl⟩) hm).2 hout
  | float ms => exact absurd (isInCalendar_of_ofValue (.inr ⟨ms, rfl⟩) hm).2 hout
  | text s => exact .text (Except.ok.inj hm) hout
  | _ => cases hm

theorem stopsAccess_iff {v : Value} :
    StopsAccess here v fault ↔ ofValue here v = .error fault ∨
      ∃ m, ofValue here v = .ok (some m) ∧ isoUtc here m = .error fault := by
  constructor
  · exact StopsAccess.failure
  · rintro (h | ⟨m, hm, h⟩)
    · exact stopsAccess_of_error h
    · obtain ⟨own, hown⟩ := exists_offset_of_ofValue hm
      obtain ⟨hout, rfl⟩ := (isoUtc_eq_error_iff hown).mp h
      exact stopsAccess_of_not_isInCalendar hm hout

/-- Where the local clock shows UTC, a moment of an unknown clock stops an export on the first day of
all. -/
theorem stopsAccess_utc_iff {m : Moment} (hm : m.offset = none) :
    StopsAccess .utc (.moment m) fault ↔ m.clock < day ∧ fault = .yearOutOfRange 0 := by
  constructor
  · rintro (_ | _ | ⟨hknown, -⟩ | ⟨-, h⟩)
    · cases hm.symm.trans hknown
    · rw [Moment.toLocal_utc hm] at h
      split at h
      · rename_i hday
        cases h
        exact ⟨hday, rfl⟩
      · cases h
  · rintro ⟨hday, rfl⟩
    exact .reading hm (by rw [Moment.toLocal_utc hm, if_pos hday])

theorem elapsedText_eq_ok {m : Moment} {own : Int} (hown : m.offset = some own)
    (hnow : now.offset.isSome = true) :
    elapsedText m now = .ok (label nearestDouble (now.instant - m.instant)) := by
  rw [elapsedText, hown, hnow]
  rfl

/-- The texts for the time of the last access are missing exactly for the values that stop an
export. -/
theorem accessTexts_eq_error_iff (hnow : now.offset.isSome = true) :
    accessTexts here record now = .error fault ↔ StopsAccess here (record.get "lastAccessed") fault := by
  rw [stopsAccess_iff, accessTexts, bind_eq_error_iff]
  refine or_congr_right ⟨?_, ?_⟩
  · rintro ⟨m?, hm, h⟩
    cases m? with
    | none => cases h
    | some m =>
        obtain ⟨own, hown⟩ := exists_offset_of_ofValue hm
        refine ⟨m, hm, ?_⟩
        rcases bind_eq_error_iff.mp h with h | ⟨iso, -, h⟩
        · exact h
        · rw [elapsedText_eq_ok hown hnow] at h
          cases h
  · rintro ⟨m, hm, h⟩
    exact ⟨some m, hm, bind_eq_error_iff.mpr (.inl h)⟩

/-- What the texts say: nothing where the value stands for no moment, and else the moment in UTC and
how long ago it was. -/
theorem accessTexts_eq_ok {texts : Option String × String}
    (h : accessTexts here record now = .ok texts) :
    (ofValue here (record.get "lastAccessed") = .ok none ∧ texts = (none, "")) ∨
      ∃ m iso relative, ofValue here (record.get "lastAccessed") = .ok (some m) ∧ isoUtc here m = .ok iso ∧
        elapsedText m now = .ok relative ∧ texts = (some iso, relative) := by
  obtain ⟨m?, hm, h⟩ := bind_eq_ok_iff.mp h
  cases m? with
  | none =>
      cases h
      exact .inl ⟨hm, rfl⟩
  | some m =>
      obtain ⟨iso, hiso, h⟩ := bind_eq_ok_iff.mp h
      obtain ⟨relative, hrelative, h⟩ := bind_eq_ok_iff.mp h
      cases h
      exact .inr ⟨m, iso, relative, hm, hiso, hrelative, rfl⟩

/-! ### Everything else in a view -/

/-- A view without the time of the last access. -/
def View.untimed (v : View) : View := { v with lastAccessed := none, lastAccessedRelative := "" }

/-- What the view of a tab says of it apart from the time of its last access. -/
def View.untimedOf (groups : GroupIndex) (index : Nat) (record : Value) : View where
  id := (record.get "id").wholeNumber?
  index := index
  title := cleanTitle (record.get "title").textOrEmpty
  url := trim (record.get "url").textOrEmpty
  parts := .of (trim (record.get "url").textOrEmpty)
  favicon := (record.get "favIconUrl").textOrEmpty
  flags := flagNames.map fun name => (name, (record.get name).isTrue)
  windowId := (record.get "windowId").wholeNumber?
  groupId := groupId? record
  group := (groupId? record).map fun id => .of (groups.get id)
  lastAccessed := none
  lastAccessedRelative := ""

theorem View.of_eq (here : LocalZone) (groups : GroupIndex) (now : Moment) (index : Nat) (record : Value) :
    View.of here groups now index record = (accessTexts here record now).map fun texts =>
      { View.untimedOf groups index record with
        lastAccessed := texts.1
        lastAccessedRelative := texts.2 } := by
  unfold View.of View.untimedOf
  cases accessTexts here record now with
  | error fault => simp only [bind, Except.bind, Except.map]
  | ok texts => simp only [bind, Except.bind, Except.map, pure, Except.pure]

/-- Two records of one tab that differ at most in the time of its last access. -/
def AgreeButAccess (record record' : Value) : Prop :=
  ∀ name, name ≠ "lastAccessed" → record.get name = record'.get name

/-- A record without the time of the last access. -/
def withoutAccess : Value → Value
  | .map entries => .map (entries.filter fun entry => !entry.1.same (.text "lastAccessed"))
  | record => record

theorem get?_filter_same (entries : Entries) (name word : String) :
    Entries.get? (entries.filter fun entry => !entry.1.same (.text word)) name =
      if name = word then none else Entries.get? entries name := by
  induction entries with
  | nil => simp [Entries.get?]
  | cons entry entries ih =>
      obtain ⟨key, v⟩ := entry
      cases key with
      | text s =>
          have hsame : (Key.text s).same (.text word) = (s == word) := rfl
          rw [List.filter_cons, Entries.get?, hsame]
          by_cases hs : s = word
          · rw [if_neg (by simp [hs]), ih, hs]
            by_cases hname : name = word
            · simp [hname]
            · simp [hname, Ne.symm hname]
          · by_cases hname : s = name
            · simp [Entries.get?, ← hname, hs]
            · simp [Entries.get?, ih, hname, hs]
      | _ => simpa [List.filter_cons, Entries.get?, Key.same, Key.number?] using ih

theorem get_withoutAccess (record : Value) (name : String) :
    (withoutAccess record).get name = if name = "lastAccessed" then .null else record.get name := by
  cases record with
  | map entries =>
      rw [withoutAccess, Value.get, Value.get, Value.entries, Value.entries, get?_filter_same]
      split <;> rfl
  | _ => split <;> rfl

theorem agreeButAccess_withoutAccess (record : Value) :
    AgreeButAccess record (withoutAccess record) := fun name hname => by
  rw [get_withoutAccess, if_neg hname]

theorem not_stopsAccess_withoutAccess (record : Value) (fault : Fault) :
    ¬ StopsAccess here ((withoutAccess record).get "lastAccessed") fault := by
  rw [get_withoutAccess, if_pos rfl]
  rintro ⟨⟩

theorem View.untimedOf_congr {record' : Value} (h : AgreeButAccess record record')
    (groups : GroupIndex) (index : Nat) :
    View.untimedOf groups index record = View.untimedOf groups index record' := by
  have hflags : (flagNames.map fun name => (name, (record.get name).isTrue)) =
      flagNames.map fun name => (name, (record'.get name).isTrue) :=
    List.map_congr_left fun name hname => by
      have hne : ∀ name ∈ flagNames, name ≠ "lastAccessed" := by decide
      rw [h name (hne name hname)]
  have hid : groupId? record = groupId? record' := by
    rw [groupId?, groupId?, h "groupId" (by decide)]
  simp only [View.untimedOf, hflags, hid, h "id" (by decide), h "title" (by decide),
    h "url" (by decide), h "favIconUrl" (by decide), h "windowId" (by decide)]

/-! ### The views of tabs -/

variable {groups : GroupIndex} {first : Nat} {records : List Value} {views : List View}

/-- The fault of the first tab that stops an export. -/
def FirstStop (here : LocalZone) (records : List Value) (fault : Fault) : Prop :=
  ∃ before record after, records = before ++ record :: after ∧
    StopsAccess here (record.get "lastAccessed") fault ∧
    ∀ earlier ∈ before, ∀ fault, ¬ StopsAccess here (earlier.get "lastAccessed") fault

theorem not_firstStop_nil : ¬ FirstStop here [] fault := by
  rintro ⟨before, record, after, h, -⟩
  simp at h

theorem firstStop_cons_iff :
    FirstStop here (record :: records) fault ↔ StopsAccess here (record.get "lastAccessed") fault ∨
      (∀ fault, ¬ StopsAccess here (record.get "lastAccessed") fault) ∧ FirstStop here records fault := by
  constructor
  · rintro ⟨before, stop, after, h, hstop, hbefore⟩
    cases before with
    | nil =>
        cases h
        exact .inl hstop
    | cons earlier before =>
        cases h
        exact .inr ⟨hbefore _ List.mem_cons_self, before, stop, after, rfl, hstop,
          fun r hr => hbefore r (List.mem_cons_of_mem _ hr)⟩
  · rintro (hstop | ⟨hrecord, before, stop, after, rfl, hstop, hbefore⟩)
    · exact ⟨[], record, records, rfl, hstop, by simp⟩
    · exact ⟨record :: before, stop, after, rfl, hstop, List.forall_mem_cons.mpr ⟨hrecord, hbefore⟩⟩

theorem View.of_eq_error_iff (hnow : now.offset.isSome = true) {index : Nat} :
    View.of here groups now index record = .error fault ↔
      StopsAccess here (record.get "lastAccessed") fault := by
  rw [← accessTexts_eq_error_iff hnow, View.of_eq]
  cases accessTexts here record now <;> simp [Except.map]

/-- The views of tabs are missing when a tab stops the export, for the fault of the first one. -/
theorem viewsFrom_eq_error_iff (hnow : now.offset.isSome = true) :
    viewsFrom here groups now first records = .error fault ↔ FirstStop here records fault := by
  induction records generalizing first with
  | nil => simp [viewsFrom, not_firstStop_nil]
  | cons record records ih =>
      rw [firstStop_cons_iff, viewsFrom, bind_eq_error_iff, View.of_eq_error_iff hnow]
      refine or_congr_right ⟨?_, ?_⟩
      · rintro ⟨view, hview, h⟩
        refine ⟨fun fault hstop => ?_, ?_⟩
        · rw [(View.of_eq_error_iff hnow).mpr hstop] at hview
          cases hview
        · rcases bind_eq_error_iff.mp h with h | ⟨views, -, h⟩
          · exact ih.mp h
          · cases h
      · rintro ⟨hnone, hrest⟩
        cases hview : View.of here groups now first record with
        | error fault => exact absurd ((View.of_eq_error_iff hnow).mp hview) (hnone fault)
        | ok view => exact ⟨view, rfl, bind_eq_error_iff.mpr (.inl (ih.mpr hrest))⟩

theorem exists_viewsFrom (hnow : now.offset.isSome = true)
    (h : ∀ record ∈ records, ∀ fault, ¬ StopsAccess here (record.get "lastAccessed") fault) :
    ∃ views, viewsFrom here groups now first records = .ok views := by
  cases hviews : viewsFrom here groups now first records with
  | ok views => exact ⟨views, rfl⟩
  | error fault =>
      obtain ⟨before, record, after, rfl, hstop, -⟩ := (viewsFrom_eq_error_iff hnow).mp hviews
      exact absurd hstop (h record (by simp) fault)

/-- Whether the time stamps in the view of a tab are those of the time of its last access: empty
where that stands for no moment, and else the moment in UTC and how long ago it was. -/
def ShowsAccess (here : LocalZone) (now : Moment) (window : Window) (record : Value) (v : View) : Prop :=
  (ofValue here (record.get "lastAccessed") = .ok none ∧
    (v.toValue window).get "timestamps" =
      .record [("lastAccessed", .null), ("lastAccessedRelative", .text "")]) ∨
  ∃ m iso relative, ofValue here (record.get "lastAccessed") = .ok (some m) ∧ isoUtc here m = .ok iso ∧
    elapsedText m now = .ok relative ∧
    (v.toValue window).get "timestamps" =
      .record [("lastAccessed", .text iso), ("lastAccessedRelative", .text relative)]

theorem View.get_timestamps_toValue {v : View} {isSet : String → Bool}
    (h : v.flags = flagNames.map fun name => (name, isSet name)) (window : Window) :
    (v.toValue window).get "timestamps" =
      .record [("lastAccessed", (v.lastAccessed.map Value.text).getD .null),
        ("lastAccessedRelative", .text v.lastAccessedRelative)] := by
  rw [View.toValue, h]
  rfl

theorem showsAccess_of_eq_ok {index : Nat} {v : View} (h : View.of here groups now index record = .ok v)
    (window : Window) : ShowsAccess here now window record v := by
  rw [View.of_eq] at h
  obtain ⟨texts, htexts, rfl⟩ := map_eq_ok_iff.mp h
  rw [ShowsAccess, @View.get_timestamps_toValue _ (fun name => (record.get name).isTrue) rfl]
  rcases accessTexts_eq_ok htexts with ⟨hnone, rfl⟩ | ⟨m, iso, relative, hm, hiso, hrelative, rfl⟩
  · exact .inl ⟨hnone, rfl⟩
  · exact .inr ⟨m, iso, relative, hm, hiso, hrelative, rfl⟩

theorem forall₂_showsAccess (h : viewsFrom here groups now first records = .ok views) (window : Window) :
    List.Forall₂ (ShowsAccess here now window) records views := by
  induction records generalizing first views with
  | nil =>
      cases h
      exact .nil
  | cons record records ih =>
      obtain ⟨view, hview, h⟩ := bind_eq_ok_iff.mp h
      obtain ⟨more, hmore, h⟩ := bind_eq_ok_iff.mp h
      cases h
      exact .cons (showsAccess_of_eq_ok hview window) (ih hmore)

/-- Apart from the times of the last access the views are those of tabs that agree in the rest. -/
theorem map_untimed_of_viewsFrom {records' : List Value} {views' : List View}
    (hagree : List.Forall₂ AgreeButAccess records records')
    (h : viewsFrom here groups now first records = .ok views)
    (h' : viewsFrom here groups now first records' = .ok views') :
    views.map View.untimed = views'.map View.untimed := by
  induction hagree generalizing first views views' with
  | nil =>
      cases h
      cases h'
      rfl
  | cons hrecord _ ih =>
      obtain ⟨view, hview, h⟩ := bind_eq_ok_iff.mp h
      obtain ⟨more, hmore, h⟩ := bind_eq_ok_iff.mp h
      obtain ⟨view', hview', h'⟩ := bind_eq_ok_iff.mp h'
      obtain ⟨more', hmore', h'⟩ := bind_eq_ok_iff.mp h'
      cases h
      cases h'
      rw [View.of_eq] at hview hview'
      obtain ⟨texts, -, rfl⟩ := map_eq_ok_iff.mp hview
      obtain ⟨texts', -, rfl⟩ := map_eq_ok_iff.mp hview'
      rw [List.map_cons, List.map_cons, ih hmore hmore', View.untimedOf_congr hrecord]
      rfl

/-! ### Groups and the window -/

/-- A group whose tabs have no time of the last access. -/
def Group.untimed (g : Group) : Group := { g with tabs := g.tabs.map View.untimed }

/-- Gathered tabs without the times of the last access. -/
def Gathered.untimed (g : Gathered) : Gathered :=
  ⟨g.tabs.map View.untimed, g.groups.map Group.untimed, g.ungrouped.map View.untimed⟩

theorem addToGroup_map_untimed (groups : List Group) (id : Int) (info : GroupInfo) (view : View) :
    addToGroup (groups.map Group.untimed) id info view.untimed =
      (addToGroup groups id info view).map Group.untimed := by
  induction groups with
  | nil => rfl
  | cons g groups ih =>
      have hid : g.untimed.id = g.id := rfl
      rw [List.map_cons, addToGroup, addToGroup, ih, hid]
      split
      · simp [Group.untimed]
      · rfl

theorem Gathered.untimed_add (g : Gathered) (view : View) :
    (g.add view).untimed = g.untimed.add view.untimed := by
  have hgroup : view.untimed.groupId = view.groupId ∧ view.untimed.group = view.group := ⟨rfl, rfl⟩
  rw [Gathered.add, Gathered.add, hgroup.1, hgroup.2]
  split <;> simp [Gathered.untimed, addToGroup_map_untimed]

/-- The groups of tabs do not depend on the times of their last access. -/
theorem Gathered.of_map_untimed (views : List View) :
    Gathered.of (views.map View.untimed) = (Gathered.of views).untimed := by
  have hfrom : ∀ (views : List View) (g : Gathered),
      (views.map View.untimed).foldl Gathered.add g.untimed =
        (views.foldl Gathered.add g).untimed := by
    intro views
    induction views with
    | nil => exact fun _ => rfl
    | cons view views ih =>
        intro g
        rw [List.map_cons, List.foldl_cons, List.foldl_cons, ← Gathered.untimed_add, ih]
  exact hfrom views ⟨[], [], []⟩

theorem Gathered.tabs_of (views : List View) : (Gathered.of views).tabs = views := by
  have hfrom : ∀ (views : List View) (g : Gathered),
      (views.foldl Gathered.add g).tabs = g.tabs ++ views := by
    intro views
    induction views with
    | nil => simp
    | cons view views ih =>
        intro g
        have hadd : (g.add view).tabs = g.tabs ++ [view] := by
          rw [Gathered.add]
          split <;> rfl
        rw [List.foldl_cons, ih, hadd, List.append_assoc, List.singleton_append]
  exact hfrom views ⟨[], [], []⟩

theorem Window.of_congr {records' : List Value} (h : List.Forall₂ AgreeButAccess records records')
    (window : Value) : Window.of window records = Window.of window records' := by
  have hany : anyIncognito records = anyIncognito records' := by
    induction h with
    | nil => rfl
    | cons hrecord _ ih =>
        rw [anyIncognito, List.any_cons, hrecord "incognito" (by decide)]
        exact congrArg (_ || ·) ih
  rw [Window.of, Window.of, hany]

end TabNotes.Tab
