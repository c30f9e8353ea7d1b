import TabNotes.Preset
import TabNotes.Proofs.Note.Fallback
import TabNotes.Proofs.Note.Grouping
import TabNotes.Proofs.Tab.Gathering
import TabNotes.Proofs.Tab.Views

/-! # Notes with the built-in presets

The default template writes a heading for every tab of a context, and the one for groups writes a
list item for every tab, below the heading of its group or below that of the other tabs
(`render_presets`).  Names in a section over a tab or a group are found in that tab or group,
whatever the frames around it hold. -/

namespace TabNotes.Template

variable {token : Token} {tokens children : List Token} {frames : List Value}
  {name first rest s : String} {v : Value}

/-! ### Tokens that are rendered -/

theorem output_cons_eq_ok (hfirst : token.output frames = .ok first)
    (hrest : output tokens frames = .ok rest) :
    output (token :: tokens) frames = .ok (first ++ rest) := by
  rw [output, hfirst, hrest]
  rfl

theorem output_text_cons (hrest : output tokens frames = .ok rest) :
    output (.text s :: tokens) frames = .ok (s ++ rest) :=
  output_cons_eq_ok (by rw [Token.output]) hrest

theorem output_escaped_cons (hname : lookup name frames = .ok (.text s))
    (hrest : output tokens frames = .ok rest) :
    output (.escaped name :: tokens) frames = .ok (escapeMarkup s ++ rest) := by
  refine output_cons_eq_ok ?_ hrest
  rw [Token.output, hname]
  rfl

theorem output_raw_cons (hname : lookup name frames = .ok (.text s))
    (hrest : output tokens frames = .ok rest) :
    output (.raw name :: tokens) frames = .ok (s ++ rest) := by
  refine output_cons_eq_ok ?_ hrest
  rw [Token.output, hname]
  rfl

theorem output_block_cons (hname : lookup name frames = .ok v)
    (hsection : sectionOutput (output children) v frames = .ok s)
    (hrest : output tokens frames = .ok rest) :
    output (.block name children :: tokens) frames = .ok (s ++ rest) := by
  refine output_cons_eq_ok ?_ hrest
  rw [Token.output, hname]
  exact hsection

/-- A section over a list gives the texts of its items. -/
theorem sectionOutput_ofList {text : Value → String} {items : List Value}
    (h : ∀ item ∈ items, output children (item :: frames) = .ok (text item)) :
    sectionOutput (output children) (.ofList items) frames =
      .ok (String.join (items.map text)) := by
  have hitems : (items.mapM fun item => output children (item :: frames)) =
      .ok (items.map text) := by
    rw [mapM_eq_ok_iff, List.map_map]
    exact List.map_congr_left h
  rw [Value.ofList, sectionOutput, hitems]
  rfl

end TabNotes.Template

namespace TabNotes.Note

open TabNotes.Text TabNotes.Template TabNotes.Tab TabNotes.Frontmatter

/-! ### Texts of tabs and groups -/

/-- A field of a tab or a group as it stands in a note. -/
def shownField (v : Value) (name : String) : String := escapeMarkup (v.get name).textOrEmpty

/-- The heading of a tab with its link. -/
def headingOf (tab : Value) : String :=
  "## " ++ shownField tab "title" ++ "\n[" ++ shownField tab "url" ++ "](" ++
    shownField tab "url" ++ ")\n\n"

/-- The list item of a tab. -/
def bulletOf (tab : Value) : String :=
  "- [" ++ shownField tab "title" ++ "](" ++ shownField tab "url" ++ ")\n"

/-- The tabs of a group. -/
def tabsOf (group : Value) : List Value :=
  match group.get "tabs" with
  | .list _ tabs => tabs
  | _ => []

/-- The title of a group; an empty one is made up for. -/
def groupTitle (group : Value) : String :=
  if (group.get "title").textOrEmpty = "" then "Untitled group" else shownField group "title"

/-- The heading of a group with the list of its tabs. -/
def groupText (group : Value) : String :=
  "## " ++ groupTitle group ++ "\n" ++ String.join ((tabsOf group).map bulletOf) ++ "\n"

/-- The list of the tabs without a group, with a heading if there are any. -/
def otherTabs (ungrouped : List Value) : String :=
  (if ungrouped.isEmpty then "" else "## Other tabs\n") ++ String.join (ungrouped.map bulletOf)

/-! ### Sections over tabs and groups -/

section sections

variable {window : Window} {frames : List Value}

theorem lookup_title_view (v : View) :
    lookup "title" (v.toValue window :: frames) = .ok (.text v.title) := rfl

theorem lookup_url_view (v : View) :
    lookup "url" (v.toValue window :: frames) = .ok (.text v.url) := rfl

theorem lookup_title_group (g : Group) :
    lookup "title" (g.toValue window :: frames) = .ok (.text g.info.title) := rfl

theorem lookup_tabs_group (g : Group) :
    lookup "tabs" (g.toValue window :: frames) =
      .ok (.ofList (g.tabs.map (View.toValue window))) := rfl

theorem shownField_title_view (v : View) :
    shownField (v.toValue window) "title" = escapeMarkup v.title := rfl

theorem shownField_url_view (v : View) :
    shownField (v.toValue window) "url" = escapeMarkup v.url := rfl

theorem textOrEmpty_title_group (g : Group) :
    ((g.toValue window).get "title").textOrEmpty = g.info.title := rfl

theorem shownField_title_group (g : Group) :
    shownField (g.toValue window) "title" = escapeMarkup g.info.title := rfl

theorem tabsOf_group (g : Group) :
    tabsOf (g.toValue window) = g.tabs.map (View.toValue window) := rfl

/-- The list item of a tab in a template. -/
def listItemTokens : List Token :=
  [.text "- [", .escaped "title", .text "](", .escaped "url", .text ")\n"]

/-- The heading of a tab in a template. -/
def headingTokens : List Token :=
  [.text "## ", .escaped "title", .text "\n[", .escaped "url", .text "](", .escaped "url",
    .text ")\n\n"]

/-- A group in a template. -/
def groupTokens : List Token :=
  [.text "## ", .escaped "title", .inverted "title" [.text "Untitled group"], .text "\n",
    .block "tabs" listItemTokens, .text "\n"]

theorem output_nil (frames : List Value) : output [] frames = .ok "" := by rw [output]

theorem output_headingTokens (v : View) :
    output headingTokens (v.toValue window :: frames) = .ok (headingOf (v.toValue window)) := by
  have htitle := @lookup_title_view window frames v
  have hurl := @lookup_url_view window frames v
  have htext : headingOf (v.toValue window) = "## " ++ (escapeMarkup v.title ++ ("\n[" ++
      (escapeMarkup v.url ++ ("](" ++ (escapeMarkup v.url ++ (")\n\n" ++ "")))))) := by
    simp only [headingOf, shownField_title_view, shownField_url_view, String.append_assoc,
      String.append_empty]
  rw [htext]
  refine output_text_cons (output_escaped_cons htitle (output_text_cons ?_))
  exact output_escaped_cons hurl (output_text_cons (output_escaped_cons hurl
    (output_text_cons (output_nil _))))

theorem output_listItemTokens (v : View) :
    output listItemTokens (v.toValue window :: frames) = .ok (bulletOf (v.toValue window)) := by
  have htitle := @lookup_title_view window frames v
  have hurl := @lookup_url_view window frames v
  have htext : bulletOf (v.toValue window) = "- [" ++ (escapeMarkup v.title ++ ("](" ++
      (escapeMarkup v.url ++ (")\n" ++ "")))) := by
    simp only [bulletOf, shownField_title_view, shownField_url_view, String.append_assoc,
      String.append_empty]
  rw [htext]
  refine output_text_cons (output_escaped_cons htitle (output_text_cons ?_))
  exact output_escaped_cons hurl (output_text_cons (output_nil _))

/-- A section over tabs, over whatever frames. -/
theorem sectionOutput_views {children : List Token} {text : Value → String}
    (h : ∀ v : View, output children (v.toValue window :: frames) = .ok (text (v.toValue window)))
    (views : List View) :
    sectionOutput (output children) (.ofList (views.map (View.toValue window))) frames =
      .ok (String.join ((views.map (View.toValue window)).map text)) := by
  refine sectionOutput_ofList fun item hitem => ?_
  obtain ⟨v, -, rfl⟩ := List.mem_map.mp hitem
  exact h v

/-- The title of a group, or what stands in its place. -/
theorem output_groupTitle (g : Group) {tokens : List Token} {rest : String}
    (hrest : output tokens (g.toValue window :: frames) = .ok rest) :
    output (.escaped "title" :: .inverted "title" [.text "Untitled group"] :: tokens)
        (g.toValue window :: frames) = .ok (groupTitle (g.toValue window) ++ rest) := by
  have htitle := @lookup_title_group window frames g
  have hinverted : (Token.inverted "title" [.text "Untitled group"]).output
      (g.toValue window :: frames) =
        .ok (if g.info.title = "" then "Untitled group" else "") := by
    rw [Token.output, htitle]
    by_cases hempty : g.info.title = ""
    · rw [hempty, if_pos rfl]
      exact @output_text_cons [] (g.toValue window :: frames) "" "Untitled group" (output_nil _)
    · have hshown : isShown (.text g.info.title) = true := by
        simpa [isShown, Value.isTrue] using hempty
      rw [if_neg hempty]
      exact if_pos hshown
  have htext : groupTitle (g.toValue window) ++ rest = escapeMarkup g.info.title ++
      ((if g.info.title = "" then "Untitled group" else "") ++ rest) := by
    rw [groupTitle, textOrEmpty_title_group, shownField_title_group]
    by_cases hempty : g.info.title = ""
    · rw [if_pos hempty, if_pos hempty, hempty]
      rfl
    · rw [if_neg hempty, if_neg hempty, String.empty_append]
  rw [htext]
  exact output_escaped_cons htitle (output_cons_eq_ok hinverted hrest)

theorem output_groupTokens (g : Group) :
    output groupTokens (g.toValue window :: frames) = .ok (groupText (g.toValue window)) := by
  have htabs := @lookup_tabs_group window frames g
  have hsection := @sectionOutput_views window (g.toValue window :: frames) listItemTokens bulletOf
    output_listItemTokens g.tabs
  have htext : groupText (g.toValue window) = "## " ++ (groupTitle (g.toValue window) ++ ("\n" ++
      (String.join ((g.tabs.map (View.toValue window)).map bulletOf) ++ ("\n" ++ "")))) := by
    simp only [groupText, tabsOf_group, String.append_assoc, String.append_empty]
  rw [htext]
  refine output_text_cons (output_groupTitle g (output_text_cons ?_))
  exact output_block_cons htabs hsection (output_text_cons (output_nil _))

end sections

/-! ### The templates -/

theorem reads_otherTabs : Reads defaultDepth none 0
    (sectionText "ungroupedTabs" Preset.listItem).toList
    [.block "ungroupedTabs" listItemTokens] [] := by
  refine (?_ : Reads defaultDepth none 0 _ (literal [] ++ section? false "ungroupedTabs"
    (literal "- [".toList ++ ([.escaped "title"] ++ (literal "](".toList ++ ([.escaped "url"] ++
      literal ")\n".toList)))) :: literal []) [])
  refine .opening rfl rfl (by decide) (by decide) ?_ (.finish rfl)
  exact .leaf rfl rfl (.leaf rfl rfl (.close rfl rfl))

theorem reads_otherHeading : Reads defaultDepth none 0
    ((sectionText "ungroupedTabs.0" "## Other tabs\n").toList ++
      (sectionText "ungroupedTabs" Preset.listItem).toList)
    [.block "ungroupedTabs.0" [.text "## Other tabs\n"],
      .block "ungroupedTabs" listItemTokens] [] := by
  refine (?_ : Reads defaultDepth none 0 _ (literal [] ++ section? false "ungroupedTabs.0"
    (literal "## Other tabs\n".toList) :: [.block "ungroupedTabs" listItemTokens]) [])
  exact .opening rfl rfl (by decide) (by decide) (.close rfl rfl) reads_otherTabs

/-- The template of a group. -/
def groupTemplate : String :=
  "## " ++ valueTag "title" ++ invertedText "title" "Untitled group" ++ "\n" ++
    sectionText "tabs" Preset.listItem ++ "\n"

theorem reads_groups : Reads defaultDepth none 0
    ('\n' :: ((sectionText "groups" groupTemplate).toList ++
      ((sectionText "ungroupedTabs.0" "## Other tabs\n").toList ++
        (sectionText "ungroupedTabs" Preset.listItem).toList)))
    [.text "\n", .block "groups" groupTokens, .block "ungroupedTabs.0" [.text "## Other tabs\n"],
      .block "ungroupedTabs" listItemTokens] [] := by
  refine (?_ : Reads defaultDepth none 0 _ (literal ['\n'] ++ section? false "groups"
    (literal "## ".toList ++ ([.escaped "title"] ++
      (literal [] ++ section? true "title" (literal "Untitled group".toList) ::
        (literal ['\n'] ++ section? false "tabs" (literal "- [".toList ++ ([.escaped "title"] ++
          (literal "](".toList ++ ([.escaped "url"] ++ literal ")\n".toList)))) ::
            literal ['\n'])))) :: [.block "ungroupedTabs.0" [.text "## Other tabs\n"],
              .block "ungroupedTabs" listItemTokens]) [])
  refine .opening rfl rfl (by decide) (by decide) ?_ reads_otherHeading
  refine .leaf rfl rfl (.opening rfl rfl (by decide) (by decide) (.close rfl rfl) ?_)
  refine .opening rfl rfl (by decide) (by decide)
    (.leaf rfl rfl (.leaf rfl rfl (.close rfl rfl))) ?_
  exact .close rfl rfl

theorem parse_groups {preset : Preset}
    (h : Preset.builtIn.find? (·.id == "builtin:groups") = some preset) :
    parse preset.template defaultDepth =
      .ok [.raw "frontmatter", .text "\n", .block "groups" groupTokens,
        .block "ungroupedTabs.0" [.text "## Other tabs\n"],
        .block "ungroupedTabs" listItemTokens] := by
  cases h
  have htemplate : (rawTag "frontmatter" ++ "\n" ++ sectionText "groups" groupTemplate ++
      sectionText "ungroupedTabs.0" "## Other tabs\n" ++
        sectionText "ungroupedTabs" Preset.listItem).toList = (rawTag "frontmatter").toList ++
          ('\n' :: ((sectionText "groups" groupTemplate).toList ++
            ((sectionText "ungroupedTabs.0" "## Other tabs\n").toList ++
              (sectionText "ungroupedTabs" Preset.listItem).toList))) := by
    simp only [String.toList_append, List.append_assoc]
    rfl
  rw [parse_eq_ok_iff]
  change Reads _ _ _ (rawTag "frontmatter" ++ "\n" ++ sectionText "groups" groupTemplate ++
      sectionText "ungroupedTabs.0" "## Other tabs\n" ++
        sectionText "ungroupedTabs" Preset.listItem).toList _ _
  rw [htemplate]
  refine (?_ : Reads defaultDepth none 0 _ (literal [] ++ ([.raw "frontmatter"] ++
    [.text "\n", .block "groups" groupTokens, .block "ungroupedTabs.0" [.text "## Other tabs\n"],
      .block "ungroupedTabs" listItemTokens])) [])
  exact .leaf rfl rfl reads_groups

variable {context : Context}

theorem lookup_context (context : Context) :
    lookup "frontmatter" [context.toValue] = .ok (.text context.frontmatter) ∧
      lookup "tabs" [context.toValue] =
        .ok (.ofList (context.gathered.tabs.map (View.toValue context.window))) ∧
      lookup "groups" [context.toValue] =
        .ok (.ofList (context.gathered.groups.map (Group.toValue context.window))) ∧
      lookup "ungroupedTabs" [context.toValue] =
        .ok (.ofList (context.gathered.ungrouped.map (View.toValue context.window))) :=
  ⟨rfl, rfl, rfl, rfl⟩

/-- The default template gives a heading for every tab. -/
theorem render_defaultFormat (context : Context) :
    render Preferences.defaultFormat context.toValue =
      .ok (context.frontmatter ++ "\n" ++ String.join
        ((context.gathered.tabs.map (View.toValue context.window)).map headingOf)) := by
  obtain ⟨hfrontmatter, htabs, -, -⟩ := lookup_context context
  have hsection := @sectionOutput_views context.window [context.toValue] headingTokens headingOf
    output_headingTokens context.gathered.tabs
  rw [render_eq, parse_defaultFormat, String.append_assoc]
  refine output_raw_cons hfrontmatter (output_text_cons ?_)
  have hblock := output_block_cons htabs hsection (output_nil _)
  rw [String.append_empty] at hblock
  exact hblock

/-- The first tab without a group tells whether there are any. -/
theorem output_otherHeading (context : Context) :
    (Token.block "ungroupedTabs.0" [.text "## Other tabs\n"]).output [context.toValue] =
      .ok (if (context.gathered.ungrouped.map (View.toValue context.window)).isEmpty then ""
        else "## Other tabs\n") := by
  obtain ⟨stamp, window, ⟨tabs, groups, ungrouped⟩, frontmatter⟩ := context
  cases ungrouped with
  | nil => rfl
  | cons v views => rfl

/-- The template for groups gives a list item for every tab of a group and for every other tab. -/
theorem render_groups {preset : Preset}
    (h : Preset.builtIn.find? (·.id == "builtin:groups") = some preset) (context : Context) :
    render preset.template context.toValue =
      .ok (context.frontmatter ++ "\n" ++ String.join
        ((context.gathered.groups.map (Group.toValue context.window)).map groupText) ++
          otherTabs (context.gathered.ungrouped.map (View.toValue context.window))) := by
  obtain ⟨hfrontmatter, -, hgroups, hungrouped⟩ := lookup_context context
  have hgroupSection := @sectionOutput_ofList groupTokens [context.toValue] groupText
    (context.gathered.groups.map (Group.toValue context.window)) fun item hitem => by
      obtain ⟨g, -, rfl⟩ := List.mem_map.mp hitem
      exact output_groupTokens g
  have hotherSection := @sectionOutput_views context.window [context.toValue] listItemTokens
    bulletOf output_listItemTokens context.gathered.ungrouped
  have hother := output_cons_eq_ok (output_otherHeading context)
    (output_block_cons hungrouped hotherSection (output_nil _))
  rw [String.append_empty] at hother
  rw [render_eq, parse_groups h, String.append_assoc, String.append_assoc]
  exact output_raw_cons hfrontmatter
    (output_text_cons (output_block_cons hgroups hgroupSection hother))

theorem exists_find?_groups :
    ∃ preset, Preset.builtIn.find? (·.id == "builtin:groups") = some preset := ⟨_, rfl⟩

/-- In every context the default template writes a heading for every tab, and the template for
groups a list item.  The tabs of the groups together with those without one are the tabs that the
context was built for, each with its title and address. -/
theorem render_presets {clock : Time.Clock} {tabs options : Value} {settings : Option Settings}
    {context : Context} {notices : List Notice}
    (h : (Context.ofValues clock tabs options settings).outcome = (.ok context, notices)) :
    ∃ items entries groups ungrouped : List Value,
      tabs.itemsIfTrue = .ok items ∧
      context.toValue.get "frontmatter" = .text context.frontmatter ∧
      context.toValue.get "tabs" = .ofList entries ∧
      context.toValue.get "groups" = .ofList groups ∧
      context.toValue.get "ungroupedTabs" = .ofList ungrouped ∧
      entries.map (fun entry => (entry.get "title", entry.get "url")) = items.map (fun tab =>
        (.text (cleanTitle (tab.get "title").textOrEmpty),
          .text (trim (tab.get "url").textOrEmpty))) ∧
      (groups.flatMap tabsOf ++ ungrouped).Perm entries ∧
      render Preferences.defaultFormat context.toValue =
        .ok (context.frontmatter ++ "\n" ++ String.join (entries.map headingOf)) ∧
      ∃ preset, Preset.builtIn.find? (·.id == "builtin:groups") = some preset ∧
        render preset.template context.toValue =
          .ok (context.frontmatter ++ "\n" ++ String.join (groups.map groupText) ++
            otherTabs ungrouped) := by
  obtain ⟨items, options', hitems, hoptions, hcontext⟩ := outcome_ofValues_eq_ok_iff.mp h
  obtain ⟨now, -, stamp, -, index, views, frontmatter, -, -, -, -, hindex, hviews, -, rfl⟩ :=
    outcome_contextOf_eq_ok_iff.mp hcontext
  have hshown : ∀ v ∈ views, v.group = v.groupId.map (knownOf options'.groups) := by
    obtain ⟨hlength, hall⟩ := viewsFrom_eq_ok hviews
    intro v hv
    obtain ⟨i, hi, rfl⟩ := List.mem_iff_getElem.mp hv
    exact (of_eq_ok hindex (hall i hi (by omega))).2.1
  have hgathered := gathered_of_eq hshown
  have hpairs := map_eq_of_viewsFrom hindex hviews fun v _ record hview =>
    show (Value.text v.title, Value.text v.url) =
      (.text (cleanTitle (record.get "title").textOrEmpty),
        .text (trim (record.get "url").textOrEmpty)) by rw [hview.title, hview.url]
  refine ⟨items, _, _, _, hitems, rfl, rfl, rfl, rfl, ?_, ?_, render_defaultFormat _, ?_⟩
  · rw [hgathered, List.map_map, ← hpairs]
    rfl
  · rw [hgathered, List.flatMap_map]
    have htabs := (perm_grouping (knownOf options'.groups) views).map
      (View.toValue (Window.of options'.window items))
    rw [List.map_append, List.map_flatMap] at htabs
    exact htabs
  · obtain ⟨preset, hpreset⟩ := exists_find?_groups
    exact ⟨preset, hpreset, render_groups hpreset _⟩

/-- A group without a title, a group with one, and two tabs without a group. -/
theorem render_presets_mixed :
    ∃ context entries groups ungrouped,
      (Context.ofValues atNewMillennium (.ofList mixedTabs) (.record [("groups", mixedRecords)])
        (some noFields)).outcome = (.ok context, []) ∧
      context.toValue.get "tabs" = .ofList entries ∧
      context.toValue.get "groups" = .ofList groups ∧
      context.toValue.get "ungroupedTabs" = .ofList ungrouped ∧
      (groups.flatMap tabsOf ++ ungrouped).Perm entries ∧
      String.join (entries.map headingOf) =
        "## \n[]()\n\n## \n[]()\n\n## \n[]()\n\n## \n[]()\n\n## B\n[]()\n\n" ∧
      String.join (groups.map groupText) =
        "## second\n- []()\n- [B]()\n\n## Untitled group\n- []()\n\n" ∧
      otherTabs ungrouped = "## Other tabs\n- []()\n- []()\n" := by
  have hcontext : (Context.ofValues atNewMillennium (.ofList mixedTabs)
      (.record [("groups", mixedRecords)]) (some noFields)).outcome = (.ok _, []) :=
    outcome_ofValues_eq_ok_iff.mpr ⟨mixedTabs, mixedOptions, rfl, rfl,
      outcome_contextOf_eq_ok_iff.mpr ⟨newMillennium, none, newMillenniumStamp, noFields, _, _, "",
        rfl, rfl, rfl, rfl, rfl, rfl, rfl, rfl⟩⟩
  obtain ⟨items, entries, groups, ungrouped, -, -, htabs, hgroups, hungrouped, -, hperm, -, -⟩ :=
    render_presets hcontext
  refine ⟨_, entries, groups, ungrouped, hcontext, htabs, hgroups, hungrouped, hperm, ?_⟩
  cases htabs
  cases hgroups
  cases hungrouped
  exact ⟨rfl, rfl, rfl⟩

end TabNotes.Note
