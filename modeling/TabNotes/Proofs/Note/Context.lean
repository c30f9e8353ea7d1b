import TabNotes.Note.Context
import TabNotes.Proofs.Runs

/-! # How contexts are built

`outcome_contextOf_eq_ok_iff` says when there is a context for tabs and options, and what it is:
every part has to be there, and only the frontmatter block gives notices. -/

namespace TabNotes.Note

open TabNotes.Time TabNotes.Tab TabNotes.Frontmatter

variable {clock : Clock} {context : Context} {notices : List Notice}

/-- A context is built when all of its parts are. -/
theorem outcome_contextOf_eq_ok_iff {tabs : List Value} {options : Options} :
    (Context.of clock tabs options).outcome = (.ok context, notices) ↔
      ∃ now zone stamp settings groups views frontmatter,
        resolveNow clock options.now = .ok now ∧ zoneOf options.zone = .ok zone ∧
        Stamp.of clock.here now zone = .ok stamp ∧ settingsOf options = .ok settings ∧
        GroupIndex.of options.groups = .ok groups ∧
        viewsFrom clock.here groups now 0 tabs = .ok views ∧
        (compose (frontmatterData (exportValue stamp views.length)
          (Window.of options.window tabs).toValue views.length) settings).outcome =
            (.ok frontmatter, notices) ∧
        context = ⟨stamp, Window.of options.window tabs, .of views, frontmatter⟩ := by
  constructor
  · intro h
    obtain ⟨now, hnow, h⟩ := run_ofResult_bind_eq_ok_iff.mp h
    obtain ⟨zone, hzone, h⟩ := run_ofResult_bind_eq_ok_iff.mp h
    obtain ⟨stamp, hstamp, h⟩ := run_ofResult_bind_eq_ok_iff.mp h
    obtain ⟨settings, hsettings, h⟩ := run_ofResult_bind_eq_ok_iff.mp h
    obtain ⟨groups, hgroups, h⟩ := run_ofResult_bind_eq_ok_iff.mp h
    obtain ⟨views, hviews, h⟩ := run_ofResult_bind_eq_ok_iff.mp h
    obtain ⟨frontmatter, _, hfrontmatter, h⟩ := run_bind_eq_ok_iff.mp h
    cases h
    exact ⟨now, zone, stamp, settings, groups, views, frontmatter, hnow, hzone, hstamp, hsettings,
      hgroups, hviews, hfrontmatter, rfl⟩
  · rintro ⟨now, zone, stamp, settings, groups, views, frontmatter, hnow, hzone, hstamp, hsettings,
      hgroups, hviews, hfrontmatter, rfl⟩
    refine run_ofResult_bind_eq_ok_iff.mpr ⟨now, hnow, ?_⟩
    refine run_ofResult_bind_eq_ok_iff.mpr ⟨zone, hzone, ?_⟩
    refine run_ofResult_bind_eq_ok_iff.mpr ⟨stamp, hstamp, ?_⟩
    refine run_ofResult_bind_eq_ok_iff.mpr ⟨settings, hsettings, ?_⟩
    refine run_ofResult_bind_eq_ok_iff.mpr ⟨groups, hgroups, ?_⟩
    refine run_ofResult_bind_eq_ok_iff.mpr ⟨views, hviews, ?_⟩
    exact run_bind_eq_ok_iff.mpr ⟨frontmatter, notices, hfrontmatter, rfl⟩

theorem outcome_ofValues_eq_ok_iff {tabs options : Value} {settings : Option Settings} :
    (Context.ofValues clock tabs options settings).outcome = (.ok context, notices) ↔
      ∃ items options', tabs.itemsIfTrue = .ok items ∧ Options.of options settings = .ok options' ∧
        (Context.of clock items options').outcome = (.ok context, notices) := by
  constructor
  · intro h
    obtain ⟨items, hitems, h⟩ := run_ofResult_bind_eq_ok_iff.mp h
    obtain ⟨options', hoptions, h⟩ := run_ofResult_bind_eq_ok_iff.mp h
    exact ⟨items, options', hitems, hoptions, h⟩
  · rintro ⟨items, options', hitems, hoptions, h⟩
    refine run_ofResult_bind_eq_ok_iff.mpr ⟨items, hitems, ?_⟩
    exact run_ofResult_bind_eq_ok_iff.mpr ⟨options', hoptions, h⟩

/-! ### A plain export -/

/-- Settings with which no field is written. -/
def noFields : Settings :=
  ⟨.map [], .record (Field.all.map fun field => (field.key, .bool false)), .null, .null, .null⟩

/-- The start of the year 2000. -/
def newMillennium : Moment := ⟨daysBeforeYear 2000 * day, some 0, by decide⟩

/-- A clock that shows it, beside a local one in UTC. -/
def atNewMillennium : Clock := ⟨newMillennium, .utc⟩

def newMillenniumStamp : Stamp :=
  ⟨"2000-01-01T00:00:00.000Z", "2000-01-01T00-00-00", "2000-01-01", "00:00:00"⟩

end TabNotes.Note
