import TabNotes.Proofs.Note.Presets
import TabNotes.Proofs.Template.Concatenation
import TabNotes.Proofs.Text.Replace

/-! # Formats from before there were templates

An old format is a row of pieces: its marks for the title and the address of a tab, and characters
that stand for themselves (`oldPieces`).  The three replacements of an upgrade act on the pieces one
by one (`replaceAllChars_marks`), and the parser reads each piece as its token, unless the last
brace of the format meets a brace (`sameResult_parseRest_pieces`).

So a note holds the format once for every tab, with the title and the address in place of the marks.
Only a format that ends in an opening brace does not: the brace stands before the closing tag of the
section over the tabs, and the note falls back to the default template
(`outcome_formatValues_old`). -/

namespace TabNotes.Note

open TabNotes.Text TabNotes.Template TabNotes.Tab TabNotes.Frontmatter

/-- A piece of an old format: a mark, or a character that stands for itself. -/
inductive OldPiece where
  | title
  | url
  | char (c : Char)
deriving DecidableEq

/-- The pieces of an old format; a backslash with an `n` is the character of a line break. -/
def oldPieces : List Char → List OldPiece
  | [] => []
  | '{' :: 't' :: 'i' :: 't' :: 'l' :: 'e' :: '}' :: cs => .title :: oldPieces cs
  | '{' :: 'u' :: 'r' :: 'l' :: '}' :: cs => .url :: oldPieces cs
  | '\\' :: 'n' :: cs => .char '\n' :: oldPieces cs
  | c :: cs => .char c :: oldPieces cs

/-- A piece with texts for the marks. -/
def OldPiece.written (title url : List Char) : OldPiece → List Char
  | .title => title
  | .url => url
  | .char c => [c]

/-- A piece in the template of its format. -/
def OldPiece.template : OldPiece → List Char :=
  OldPiece.written (valueTag "title").toList (valueTag "url").toList

/-- The token of a piece in that template. -/
def OldPiece.token : OldPiece → Token
  | .title => .escaped "title"
  | .url => .escaped "url"
  | .char c => .text (String.ofList [c])

variable {limit : Int} {stop : Option String} {depth : Nat} {cs ds : List Char}
  {pieces : List OldPiece} {p : OldPiece}

/-! ### The template of an old format -/

/-- Where a replacement keeps the first character of its pattern, a text without that character
begins what is left exactly if it began the text before. -/
theorem prefix_replaceAllChars_iff {pat ps ns : List Char} {c : Char} (hc : c ∉ pat) :
    pat <+: replaceAllChars (c :: ps) (c :: ns) cs ↔ pat <+: cs := by
  induction pat generalizing cs with
  | nil => simp
  | cons q pat ih =>
      rw [List.mem_cons, not_or] at hc
      cases cs with
      | nil => rfl
      | cons d cs =>
          by_cases hbegins : (c :: ps).isPrefixOf (d :: cs) = true
          · have hd := (List.cons_prefix_cons.mp (List.isPrefixOf_iff_prefix.mp hbegins)).1
            rw [replaceAllChars_cons_of_begins hbegins, List.cons_append, List.cons_prefix_cons,
              List.cons_prefix_cons]
            simp [← hd, Ne.symm hc.1]
          · rw [replaceAllChars_cons_of_not_begins (Bool.eq_false_iff.mpr hbegins),
              List.cons_prefix_cons, List.cons_prefix_cons, ih hc.2]

/-- The three replacements one after the other act on the pieces of a text. -/
theorem replaceAllChars_marks (cs : List Char) :
    replaceAllChars ['\\', 'n'] ['\n']
        (replaceAllChars ['{', 'u', 'r', 'l', '}'] ['{', '{', 'u', 'r', 'l', '}', '}']
          (replaceAllChars ['{', 't', 'i', 't', 'l', 'e', '}']
            ['{', '{', 't', 'i', 't', 'l', 'e', '}', '}'] cs)) =
      (oldPieces cs).flatMap OldPiece.template := by
  fun_induction oldPieces cs with
  | case1 => rfl
  | case2 cs ih =>
      rw [List.flatMap_cons, ← ih]
      rfl
  | case3 cs ih =>
      rw [List.flatMap_cons, ← ih]
      rfl
  | case4 cs ih =>
      rw [List.flatMap_cons, ← ih]
      rfl
  | case5 c cs htitle hurl hbreak ih =>
      -- A mark that begins after a replacement has begun before it.
      rw [List.flatMap_cons, ← ih, replaceAllChars_cons_of_not_begins,
        replaceAllChars_cons_of_not_begins, replaceAllChars_cons_of_not_begins]
      · rfl
      · refine isPrefixOf_cons_eq_false fun hc hmark => ?_
        rw [prefix_replaceAllChars_iff (by decide), prefix_replaceAllChars_iff (by decide)] at hmark
        obtain ⟨more, rfl⟩ := hmark
        exact hbreak more hc rfl
      · refine isPrefixOf_cons_eq_false fun hc hmark => ?_
        rw [prefix_replaceAllChars_iff (by decide)] at hmark
        obtain ⟨more, rfl⟩ := hmark
        exact hurl more hc rfl
      · refine isPrefixOf_cons_eq_false fun hc hmark => ?_
        obtain ⟨more, rfl⟩ := hmark
        exact htitle more hc rfl

theorem toList_oldMark (name : String) : (oldMark name).toList = '{' :: (name.toList ++ ['}']) := by
  simp [oldMark]

theorem toList_valueTag (name : String) :
    (valueTag name).toList = tagOpen ++ (name.toList ++ tagClose) := by
  simp [valueTag, tagOpen, tagClose]

theorem toList_templateOfOld (format : String) :
    (templateOfOld format).toList = (rawTag "frontmatter").toList ++ ('\n' ::
      ((valueTag "#tabs").toList ++
        ((oldPieces format.toList).flatMap OldPiece.template ++ (valueTag "/tabs").toList))) := by
  have hbody : (replaceAll "\\n" "\n" (replaceAll (oldMark "url") (valueTag "url")
      (replaceAll (oldMark "title") (valueTag "title") format))).toList =
        (oldPieces format.toList).flatMap OldPiece.template := by
    rw [← replaceAllChars_marks]
    simp only [replaceAll, String.toList_ofList, toList_oldMark, toList_valueTag]
    rfl
  rw [templateOfOld, sectionText]
  simp only [String.toList_append, hbody, List.append_assoc]
  rfl

/-! ### Where pieces meet -/

/-- A character that no mark begins at stands for itself. -/
theorem oldPieces_cons {c : Char} (htitle : c = '{' → ¬ ['t', 'i', 't', 'l', 'e', '}'] <+: cs)
    (hurl : c = '{' → ¬ ['u', 'r', 'l', '}'] <+: cs) (hbreak : c = '\\' → ¬ ['n'] <+: cs) :
    oldPieces (c :: cs) = .char c :: oldPieces cs := by
  rw [oldPieces]
  · rintro more hc rfl
    exact htitle hc (List.prefix_append _ more)
  · rintro more hc rfl
    exact hurl hc (List.prefix_append _ more)
  · rintro more hc rfl
    exact hbreak hc (List.prefix_append _ more)

/-- An opening brace at the end is no part of a mark. -/
theorem oldPieces_concat (cs : List Char) :
    oldPieces (cs ++ ['{']) = oldPieces cs ++ [.char '{'] := by
  have hprefix : ∀ {pat es : List Char}, '{' ∉ pat → pat <+: es ++ ['{'] → pat <+: es := by
    intro pat es hpat h
    refine (List.prefix_concat_iff.mp h).resolve_left ?_
    rintro rfl
    simp at hpat
  fun_induction oldPieces cs with
  | case1 => rfl
  | case2 cs ih => exact congrArg (OldPiece.title :: ·) ih
  | case3 cs ih => exact congrArg (OldPiece.url :: ·) ih
  | case4 cs ih => exact congrArg (OldPiece.char '\n' :: ·) ih
  | case5 c cs htitle hurl hbreak ih =>
      rw [List.cons_append, oldPieces_cons, ih, List.cons_append]
      · rintro hc hmark
        obtain ⟨more, rfl⟩ := hprefix (by decide) hmark
        exact htitle more hc rfl
      · rintro hc hmark
        obtain ⟨more, rfl⟩ := hprefix (by decide) hmark
        exact hurl more hc rfl
      · rintro hc hmark
        obtain ⟨more, rfl⟩ := hprefix (by decide) hmark
        exact hbreak more hc rfl

theorem OldPiece.apart_of_ne {p : OldPiece} (hp : p ≠ .char '{') : Apart p.template ds := by
  rintro ⟨hlast, -⟩
  cases p with
  | title => exact absurd hlast (by decide)
  | url => exact absurd hlast (by decide)
  | char c => exact hp (congrArg OldPiece.char (Option.some.inj hlast))

/-- What the pieces begin with is the opening brace only if the format begins with it. -/
theorem head?_flatMap_template (h : ((oldPieces cs).flatMap OldPiece.template).head? = some '{') :
    cs.head? = some '{' := by
  revert h
  fun_cases oldPieces cs with
  | case1 => exact id
  | case2 => exact fun _ => rfl
  | case3 => exact fun _ => rfl
  | case4 cs => exact fun h => absurd (Option.some.inj h) (by decide)
  | case5 c cs htitle hurl hbreak => exact id

theorem flatMap_template_eq_nil_iff : (oldPieces cs).flatMap OldPiece.template = [] ↔ cs = [] := by
  fun_cases oldPieces cs <;> simp [OldPiece.template, OldPiece.written, valueTag]

theorem apart_flatMap_template {c : Char} (hcs : ¬ tagOpen <:+: c :: cs) (h : Apart (c :: cs) ds) :
    Apart [c] ((oldPieces cs).flatMap OldPiece.template ++ ds) := by
  rintro ⟨hc, hhead⟩
  obtain rfl : c = '{' := Option.some.inj hc
  cases cs with
  | nil => exact h ⟨rfl, hhead⟩
  | cons d cs =>
      rw [List.head?_append_of_ne_nil _
        (flatMap_template_eq_nil_iff.not.mpr (List.cons_ne_nil d cs))] at hhead
      obtain rfl : d = '{' := Option.some.inj (head?_flatMap_template hhead)
      exact hcs (List.prefix_append tagOpen cs).isInfix

/-! ### Reading the template -/

/-- A piece is read as its token before what follows it. -/
theorem sameResult_parseRest_piece (p : OldPiece) (h : Apart p.template ds) :
    SameResult (GivesAfter [p.token]) (parseRest limit stop depth (p.template ++ ds))
      (parseRest limit stop depth ds) := by
  have hvariable : ∀ name : String, readTag (name.toList ++ (tagClose ++ ds)) =
      .ok (.leaf [.escaped name], ds) →
      SameResult (GivesAfter [.escaped name])
        (parseRest limit stop depth ((valueTag name).toList ++ ds))
        (parseRest limit stop depth ds) := by
    intro name htag
    have hread : parseRest limit stop depth ((valueTag name).toList ++ ds) =
        (parseRest limit stop depth ds).map (readBefore [.escaped name]) := by
      rw [toList_valueTag_append, parseRest_eq, cutAt_self_append]
      simp only [htag]
      rfl
    rw [hread]
    exact sameResult_readBefore _ _
  cases p with
  | title => exact hvariable "title" (readTag_double (by decide) (by decide) (by decide))
  | url => exact hvariable "url" (readTag_double (by decide) (by decide) (by decide))
  | char c =>
      have hcut : cutAt tagOpen [c] = none := by
        refine cutAt_eq_none_iff.mpr fun hinf => ?_
        have hlength := hinf.length_le
        simp [tagOpen] at hlength
      exact sameResult_parseRest_literal hcut h

theorem sameResult_parseRest_cons (p : OldPiece)
    (hp : Apart p.template (pieces.flatMap OldPiece.template ++ ds))
    (h : SameResult (GivesAfter (pieces.map OldPiece.token))
      (parseRest limit stop depth (pieces.flatMap OldPiece.template ++ ds))
      (parseRest limit stop depth ds)) :
    SameResult (GivesAfter ((p :: pieces).map OldPiece.token))
      (parseRest limit stop depth ((p :: pieces).flatMap OldPiece.template ++ ds))
      (parseRest limit stop depth ds) := by
  rw [List.flatMap_cons, List.append_assoc]
  exact GivesAfter.trans (sameResult_parseRest_piece p hp) h

/-- The pieces of an old format are read one by one, unless its last brace meets a brace. -/
theorem sameResult_parseRest_pieces (hcs : ¬ tagOpen <:+: cs) (h : Apart cs ds) :
    SameResult (GivesAfter ((oldPieces cs).map OldPiece.token))
      (parseRest limit stop depth ((oldPieces cs).flatMap OldPiece.template ++ ds))
      (parseRest limit stop depth ds) := by
  fun_induction oldPieces cs with
  | case1 => exact GivesAfter.refl _
  | case2 cs ih =>
      have hcut : cs <:+ ['{', 't', 'i', 't', 'l', 'e', '}'] ++ cs := List.suffix_append _ cs
      exact sameResult_parseRest_cons .title (OldPiece.apart_of_ne (by simp))
        (ih (fun hinf => hcs (hinf.trans hcut.isInfix)) (h.of_suffix hcut))
  | case3 cs ih =>
      have hcut : cs <:+ ['{', 'u', 'r', 'l', '}'] ++ cs := List.suffix_append _ cs
      exact sameResult_parseRest_cons .url (OldPiece.apart_of_ne (by simp))
        (ih (fun hinf => hcs (hinf.trans hcut.isInfix)) (h.of_suffix hcut))
  | case4 cs ih =>
      have hcut : cs <:+ ['\\', 'n'] ++ cs := List.suffix_append _ cs
      exact sameResult_parseRest_cons (.char '\n') (OldPiece.apart_of_ne (by simp))
        (ih (fun hinf => hcs (hinf.trans hcut.isInfix)) (h.of_suffix hcut))
  | case5 c cs _ _ _ ih =>
      have hcut : cs <:+ c :: cs := List.suffix_cons c cs
      exact sameResult_parseRest_cons (.char c) (apart_flatMap_template hcs h)
        (ih (fun hinf => hcs (hinf.trans hcut.isInfix)) (h.of_suffix hcut))

/-! ### Parsing the template -/

/-- The template of an old format is the frontmatter, and a section over the tabs. -/
theorem parse_templateOfOld (format : String) :
    parse (templateOfOld format) defaultDepth =
      (parseRest defaultDepth (some "tabs") 1
        ((oldPieces format.toList).flatMap OldPiece.template ++ (valueTag "/tabs").toList)).bind
        fun inside => (parseRest defaultDepth none 0 inside.2).map fun result =>
          .raw "frontmatter" :: .text "\n" :: .block "tabs" inside.1 :: result.1 := by
  generalize hbody : (oldPieces format.toList).flatMap OldPiece.template ++
    (valueTag "/tabs").toList = body
  have hraw (ds : List Char) : readTag ('{' :: ("frontmatter".toList ++ (tripleClose ++ ds))) =
      .ok (.leaf [.raw "frontmatter"], ds) := readTag_triple (by decide) (by decide)
  have hopening : readTag ("#tabs".toList ++ (tagClose ++ body)) =
      .ok (.opening false "tabs", body) :=
    readTag_double (by decide) (by decide) (by decide)
  have hcut : cutAt tagOpen ('\n' :: ((valueTag "#tabs").toList ++ body)) =
      some (['\n'], "#tabs".toList ++ (tagClose ++ body)) := by
    rw [toList_valueTag_append]
    exact cutAt_tagOpen_eq_some_iff.mpr ⟨rfl, by decide, by decide⟩
  have hsection : parseRest defaultDepth none 0 ('\n' :: ((valueTag "#tabs").toList ++ body)) =
      (parseRest defaultDepth (some "tabs") 1 body).bind fun inside =>
        (parseRest defaultDepth none 0 inside.2).map
          (readBefore [.text "\n", .block "tabs" inside.1]) := by
    rw [parseRest_eq, hcut]
    simp only [hopening]
    rw [if_neg (by decide), if_neg (by decide)]
    cases parseRest defaultDepth (some "tabs") (0 + 1) body <;> rfl
  rw [parse_eq_map_parseRest, toList_templateOfOld, hbody, toList_rawTag_append, parseRest_eq,
    cutAt_self_append]
  simp only [hraw, hsection]
  cases parseRest defaultDepth (some "tabs") 1 body with
  | error fault => rfl
  | ok inside =>
      simp only [Except.bind]
      cases parseRest defaultDepth none 0 inside.2 <;> rfl

variable {format : String}

theorem parseRest_closing : parseRest defaultDepth (some "tabs") 1 (valueTag "/tabs").toList =
    .ok ([], []) :=
  Reads.parseRest (.close (cutAt_self_append tagOpen ['/', 't', 'a', 'b', 's', '}', '}']) rfl)

/-- A format that does not end in an opening brace has a section of its pieces. -/
theorem exists_parse_templateOfOld (hformat : ¬ tagOpen <:+: format.toList)
    (hlast : format.toList.getLast? ≠ some '{') :
    ∃ children, parse (templateOfOld format) defaultDepth =
        .ok [.raw "frontmatter", .text "\n", .block "tabs" children] ∧
      ∀ frames, output children frames =
        output ((oldPieces format.toList).map OldPiece.token) frames := by
  have hapart : Apart format.toList (valueTag "/tabs").toList := fun h => hlast h.1
  have hsame := @sameResult_parseRest_pieces defaultDepth (some "tabs") 1 _ _ hformat hapart
  rw [parseRest_closing] at hsame
  rw [parse_templateOfOld]
  cases hbody : parseRest defaultDepth (some "tabs") 1
      ((oldPieces format.toList).flatMap OldPiece.template ++ (valueTag "/tabs").toList) with
  | error fault =>
      rw [hbody] at hsame
      cases hsame
  | ok inside =>
      rw [hbody] at hsame
      obtain ⟨children, inner⟩ := inside
      cases hsame with
      | ok h =>
          obtain ⟨rfl, houtput⟩ := h
          have hend : parseRest defaultDepth none 0 [] = .ok ([], []) :=
            Reads.parseRest (.finish rfl)
          refine ⟨children, ?_, fun frames => ?_⟩
          · rw [Except.bind, hend]
            rfl
          · rw [houtput frames, List.append_nil]

/-- The opening brace at the end of a format makes a triple tag of the closing tag of the section,
which is then not closed. -/
theorem parse_templateOfOld_of_brace (hformat : ¬ tagOpen <:+: format.toList)
    (hlast : format.toList.getLast? = some '{') :
    parse (templateOfOld format) defaultDepth = .error .unterminatedTriple := by
  obtain ⟨cs, hcs⟩ := List.getLast?_eq_some_iff.mp hlast
  rw [hcs] at hformat
  have hapart : Apart cs ('{' :: (valueTag "/tabs").toList) := by
    rintro ⟨hbrace, -⟩
    obtain ⟨more, rfl⟩ := List.getLast?_eq_some_iff.mp hbrace
    exact hformat ⟨more, [], by simp [tagOpen]⟩
  have hsame := @sameResult_parseRest_pieces defaultDepth (some "tabs") 1 _ _
    (fun hinf => hformat (hinf.trans (List.prefix_append cs ['{']).isInfix)) hapart
  have hclosing : parseRest defaultDepth (some "tabs") 1 ('{' :: (valueTag "/tabs").toList) =
      .error .unterminatedTriple := by
    rw [parseRest_eq]
    rfl
  have hbody : (oldPieces format.toList).flatMap OldPiece.template ++ (valueTag "/tabs").toList =
      (oldPieces cs).flatMap OldPiece.template ++ '{' :: (valueTag "/tabs").toList := by
    rw [hcs, oldPieces_concat, List.flatMap_append, List.append_assoc]
    rfl
  rw [hclosing] at hsame
  rw [parse_templateOfOld, hbody]
  cases hparse : parseRest defaultDepth (some "tabs") 1
      ((oldPieces cs).flatMap OldPiece.template ++ '{' :: (valueTag "/tabs").toList) with
  | error fault =>
      rw [hparse] at hsame
      cases hsame
      rfl
  | ok inside =>
      rw [hparse] at hsame
      cases hsame

/-! ### Rendering -/

/-- The text of a tab in an old format. -/
def oldText (format : String) (tab : Value) : String :=
  String.ofList ((oldPieces format.toList).flatMap
    (OldPiece.written (shownField tab "title").toList (shownField tab "url").toList))

theorem output_token (window : Window) (frames : List Value) (v : View) (p : OldPiece) :
    p.token.output (v.toValue window :: frames) = .ok (String.ofList
      (p.written (escapeMarkup v.title).toList (escapeMarkup v.url).toList)) := by
  cases p with
  | title =>
      rw [OldPiece.token, Token.output, lookup_title_view, OldPiece.written, String.ofList_toList]
      rfl
  | url =>
      rw [OldPiece.token, Token.output, lookup_url_view, OldPiece.written, String.ofList_toList]
      rfl
  | char c => rw [OldPiece.token, Token.output, OldPiece.written]

theorem output_tokens (window : Window) (frames : List Value) (v : View) (pieces : List OldPiece) :
    output (pieces.map OldPiece.token) (v.toValue window :: frames) =
      .ok (String.ofList (pieces.flatMap
        (OldPiece.written (escapeMarkup v.title).toList (escapeMarkup v.url).toList))) := by
  induction pieces with
  | nil => exact output_nil _
  | cons p pieces ih =>
      rw [List.map_cons, List.flatMap_cons, String.ofList_append]
      exact output_cons_eq_ok (output_token window frames v p) ih

theorem render_templateOfOld (context : Context) (hformat : ¬ tagOpen <:+: format.toList)
    (hlast : format.toList.getLast? ≠ some '{') :
    render (templateOfOld format) context.toValue =
      .ok (context.frontmatter ++ "\n" ++ String.join
        ((context.gathered.tabs.map (View.toValue context.window)).map (oldText format))) := by
  obtain ⟨children, hparse, houtput⟩ := exists_parse_templateOfOld hformat hlast
  obtain ⟨hfrontmatter, htabs, -, -⟩ := lookup_context context
  have hsection := @sectionOutput_views context.window [context.toValue] children (oldText format)
    (fun v => (houtput _).trans (output_tokens context.window [context.toValue] v _))
    context.gathered.tabs
  rw [render_eq, hparse, String.append_assoc]
  refine output_raw_cons hfrontmatter (output_text_cons ?_)
  have hblock := output_block_cons htabs hsection (output_nil _)
  rw [String.append_empty] at hblock
  exact hblock

/-- An old format is upgraded. -/
theorem resolveFormat_old (hformat : ¬ tagOpen <:+: format.toList)
    (hmark : (oldMark "title").toList <:+: format.toList ∨
      (oldMark "url").toList <:+: format.toList) :
    resolveFormat (.text format) = templateOfOld format := by
  have hold : isOldFormat format = true := by
    rw [isOldFormat, Bool.and_eq_true, Bool.or_eq_true, occursIn_iff, occursIn_iff,
      Bool.not_eq_true', Bool.eq_false_iff, ne_eq, occursIn_iff]
    exact ⟨hformat, hmark⟩
  have hbrace : '{' ∈ format.toList := by
    rw [toList_oldMark, toList_oldMark] at hmark
    rcases hmark with h | h
    · exact h.subset List.mem_cons_self
    · exact h.subset List.mem_cons_self
  have hblank : allBlank format = false := by
    rw [allBlank, List.all_eq_false]
    exact ⟨'{', hbrace, by decide⟩
  rw [resolveFormat, hblank, upgradeFormat, hold]
  rfl

/-! ### Notes in old formats -/

variable {clock : Time.Clock} {tabs options : Value} {settings : Option Settings}
  {context : Context} {notices : List Notice}

/-- The tabs of a context have the titles and addresses of the tabs that it was built for. -/
theorem exists_items_of_ofValues
    (h : (Context.ofValues clock tabs options settings).outcome = (.ok context, notices)) :
    ∃ items, tabs.itemsIfTrue = .ok items ∧
      (context.gathered.tabs.map (View.toValue context.window)).map
          (fun entry => (entry.get "title", entry.get "url")) = items.map (fun tab =>
        (.text (cleanTitle (tab.get "title").textOrEmpty),
          .text (trim (tab.get "url").textOrEmpty))) := by
  obtain ⟨items, options', hitems, -, hcontext⟩ := outcome_ofValues_eq_ok_iff.mp h
  obtain ⟨now, -, stamp, -, index, views, frontmatter, -, -, -, -, hindex, hviews, -, rfl⟩ :=
    outcome_contextOf_eq_ok_iff.mp hcontext
  have hshown : ∀ v ∈ views, v.group = v.groupId.map (knownOf options'.groups) := by
    obtain ⟨hlength, hall⟩ := viewsFrom_eq_ok hviews
    intro v hv
    obtain ⟨i, hi, rfl⟩ := List.mem_iff_getElem.mp hv
    exact (of_eq_ok hindex (hall i hi (by omega))).2.1
  have hpairs := map_eq_of_viewsFrom hindex hviews fun v _ record hview =>
    show (Value.text v.title, Value.text v.url) =
      (.text (cleanTitle (record.get "title").textOrEmpty),
        .text (trim (record.get "url").textOrEmpty)) by rw [hview.title, hview.url]
  refine ⟨items, hitems, ?_⟩
  rw [gathered_of_eq hshown, List.map_map, ← hpairs]
  rfl

/-- A note in an old format is the frontmatter and the text of every tab, in which the marks give
its title and its address, escaped, and all else stands as it is.  But a format that ends in an
opening brace has a template that cannot be read, and the note is that of the default template. -/
theorem outcome_formatValues_old {format : String}
    (h : (Context.ofValues clock tabs options settings).outcome = (.ok context, notices))
    (hformat : ¬ "\x7b\x7b".toList <:+: format.toList)
    (hmark : "\x7btitle\x7d".toList <:+: format.toList ∨ "\x7burl\x7d".toList <:+: format.toList) :
    ∃ items entries : List Value,
      tabs.itemsIfTrue = .ok items ∧
      context.toValue.get "frontmatter" = .text context.frontmatter ∧
      context.toValue.get "tabs" = .ofList entries ∧
      entries.map (fun entry => (entry.get "title", entry.get "url")) = items.map (fun tab =>
        (.text (cleanTitle (tab.get "title").textOrEmpty),
          .text (trim (tab.get "url").textOrEmpty))) ∧
      let outcome := (formatValues clock tabs (.text format) options settings).outcome
      (format.toList.getLast? ≠ some '{' →
        outcome = (.ok ⟨context.frontmatter ++ "\n" ++ String.join (entries.map (oldText format)),
          context.stamp⟩, notices)) ∧
      (format.toList.getLast? = some '{' →
        outcome = (.ok ⟨context.frontmatter ++ "\n" ++ String.join (entries.map headingOf),
          context.stamp⟩, notices ++ [.noteTemplateFailed (.malformed .unterminatedTriple)])) := by
  obtain ⟨items, hitems, hpairs⟩ := exists_items_of_ofValues h
  refine ⟨items, _, hitems, rfl, rfl, hpairs, ?_⟩
  have houtcome := outcome_formatValues h (.text format)
  rw [resolveFormat_old hformat hmark] at houtcome
  refine ⟨fun hlast => ?_, fun hlast => ?_⟩
  · rw [houtcome, render_templateOfOld context hformat hlast]
  · have hrender : render (templateOfOld format) context.toValue =
        .error (.template (.malformed .unterminatedTriple)) := by
      rw [render_eq, parse_templateOfOld_of_brace hformat hlast]
    rw [houtcome, hrender]
    dsimp only
    rw [render_defaultFormat]
    rfl

/-- Braces that belong to no mark are kept, but for the last one of a format. -/
theorem outcome_formatValues_braces :
    let tabs := Value.ofList [.record [("title", .text "A & B"), ("url", .text "https://a.org/?q")]]
    (formatValues atNewMillennium tabs (.text "\x7b\\n\x7btitle\x7d\x7d \x7burl\x7d") .null
        (some noFields)).outcome =
      (.ok ⟨"\n\x7b\nA &amp; B\x7d https://a.org/?q", newMillenniumStamp⟩, []) ∧
    (formatValues atNewMillennium tabs (.text "\x7btitle\x7d \x7b") .null (some noFields)).outcome =
      (.ok ⟨"\n## A &amp; B\n[https://a.org/?q](https://a.org/?q)\n\n", newMillenniumStamp⟩,
        [.noteTemplateFailed (.malformed .unterminatedTriple)]) := by
  intro tabs
  have hviews : viewsFrom .utc [] newMillennium 0 [.record [("title", .text "A & B"),
      ("url", .text "https://a.org/?q")]] = .ok _ := rfl
  have hcontext : (Context.ofValues atNewMillennium tabs .null (some noFields)).outcome = (.ok _, []) :=
    outcome_ofValues_eq_ok_iff.mpr ⟨_, { Options.none with settings := some noFields }, rfl, rfl,
      outcome_contextOf_eq_ok_iff.mpr
        ⟨newMillennium, none, newMillenniumStamp, noFields, [], _, "", rfl, rfl, rfl, rfl, rfl,
          hviews, rfl, rfl⟩⟩
  constructor
  · have hformat : ¬ "\x7b\x7b".toList <:+: "\x7b\\n\x7btitle\x7d\x7d \x7burl\x7d".toList := by decide
    obtain ⟨items, entries, -, -, hentries, -, hnote, -⟩ :=
      outcome_formatValues_old hcontext hformat (by decide)
    cases hentries
    exact hnote (by decide)
  · have hformat : ¬ "\x7b\x7b".toList <:+: "\x7btitle\x7d \x7b".toList := by decide
    obtain ⟨items, entries, -, -, hentries, -, -, hnote⟩ :=
      outcome_formatValues_old hcontext hformat (by decide)
    cases hentries
    exact hnote (by decide)

end TabNotes.Note
