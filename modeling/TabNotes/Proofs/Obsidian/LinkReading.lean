import TabNotes.Obsidian.Link
import TabNotes.Proofs.Runs
import TabNotes.Proofs.Text.Percent
import TabNotes.Proofs.Text.Search
import TabNotes.Proofs.Text.Surrogates

/-! # Reading links

`readLink` reads the parameters of a link: what stands after its first question mark, cut at
ampersands, each piece at its first equals sign, with the escapes of both sides read.
`readLink_link` says that these are the parameters that the link was made from, so that different
requests have different links. Nothing stands after the question mark but what `IsQuery` lists:
separators, characters that a URI leaves alone, and escapes. -/

namespace TabNotes.Obsidian

open TabNotes.Text

variable {cs ds : List Char} {name : String}

/-- What may stand after the question mark of a link. -/
inductive IsQuery : List Char → Prop where
  | nil : IsQuery []
  | plain {c : Char} {cs : List Char} (h : c.isAlphanum = true ∨ c ∈ "-_.!~*'()".toList)
      (hcs : IsQuery cs) : IsQuery (c :: cs)
  | separator {c : Char} {cs : List Char} (h : c ∈ "&=".toList) (hcs : IsQuery cs) :
      IsQuery (c :: cs)
  | escape {a b : Char} {cs : List Char} (ha : a ∈ "0123456789ABCDEF".toList)
      (hb : b ∈ "0123456789ABCDEF".toList) (hcs : IsQuery cs) : IsQuery ('%' :: a :: b :: cs)

/-- Reads a piece of a query: a name and a value. -/
def readParameter (piece : List Char) : Option (String × String) :=
  match cutAt ['='] piece with
  | some (name, value) => do
    let name ← Percent.decode? name
    let value ← Percent.decode? value
    return (String.ofList name, String.ofList value)
  | none => none

/-- Reads the parameters of a link; without a question mark there are none. -/
def readLink (link : String) : Option (List (String × String)) :=
  match cutAt ['?'] link.toList with
  | some (_, query) => (splitBy (· == '&') query).mapM readParameter
  | none => some []

/-- The parameter with a text, which an empty text has not. -/
def textParameter (name s : String) : List (String × String) := if s = "" then [] else [(name, s)]

/-- The parameter of a flag, which an unset flag has not. -/
def flagParameter (name : String) (flag : Bool) : List (String × String) :=
  if flag then [(name, "true")] else []

/-- The parameters that a link of a request shows, in their order. -/
def Request.shown (r : Request) : List (String × String) :=
  textParameter "file" r.file ++ flagParameter "overwrite" r.overwrite ++
    textParameter "vault" r.vault ++ flagParameter "clipboard" r.clipboard ++
    flagParameter "silent" r.silent ++ textParameter "content" r.content

/-! ### Queries -/

theorem IsQuery.append (hcs : IsQuery cs) (hds : IsQuery ds) : IsQuery (cs ++ ds) := by
  induction hcs with
  | nil => exact hds
  | plain h _ ih => exact .plain h ih
  | separator h _ ih => exact .separator h ih
  | escape ha hb _ ih => exact .escape ha hb ih

/-- A query is made of ASCII characters. -/
theorem IsQuery.isAscii (h : IsQuery cs) : ∀ c ∈ cs, c.toNat < 0x80 := by
  have hdigit : IsAscii "0123456789ABCDEF" := by decide
  have hmark : IsAscii "-_.!~*'()" := by decide
  have hseparator : IsAscii "&=" := by decide
  induction h with
  | nil => simp
  | plain h _ ih =>
      refine List.forall_mem_cons.mpr ⟨?_, ih⟩
      rcases h with h | h
      · exact toNat_lt_of_isAlphanum h
      · exact hmark _ h
  | separator h _ ih => exact List.forall_mem_cons.mpr ⟨hseparator _ h, ih⟩
  | escape ha hb _ ih =>
      refine List.forall_mem_cons.mpr ⟨by decide, List.forall_mem_cons.mpr ⟨hdigit _ ha, ?_⟩⟩
      exact List.forall_mem_cons.mpr ⟨hdigit _ hb, ih⟩

theorem isQuery_flatMap {α : Type} {f : α → List Char} {items : List α}
    (h : ∀ item ∈ items, IsQuery (f item)) : IsQuery (items.flatMap f) := by
  induction items with
  | nil => exact .nil
  | cons item items ih =>
      rw [List.flatMap_cons]
      exact (h item List.mem_cons_self).append (ih fun a ha => h a (List.mem_cons_of_mem item ha))

theorem isQuery_intercalate {pieces : List (List Char)} (h : ∀ piece ∈ pieces, IsQuery piece) :
    IsQuery (['&'].intercalate pieces) := by
  induction pieces with
  | nil => exact .nil
  | cons piece pieces ih =>
      have hpiece := h piece List.mem_cons_self
      cases pieces with
      | nil => simpa using hpiece
      | cons next pieces =>
          have hmore := ih fun p hp => h p (List.mem_cons_of_mem piece hp)
          rw [List.intercalate_cons_cons]
          exact (hpiece.append (.separator (by decide) .nil)).append hmore

theorem isQuery_of_isUnreserved (h : ∀ c ∈ cs, Percent.isUnreserved c = true) : IsQuery cs := by
  induction cs with
  | nil => exact .nil
  | cons c cs ih =>
      have hc := Percent.isUnreserved_iff.mp (h c List.mem_cons_self)
      exact .plain hc (ih fun d hd => h d (List.mem_cons_of_mem c hd))

theorem isQuery_encodeChar (c : Char) : IsQuery (Percent.encodeChar c) := by
  unfold Percent.encodeChar
  split
  · rename_i hc
    exact .plain (Percent.isUnreserved_iff.mp hc) .nil
  · refine isQuery_flatMap fun b hb => ?_
    have hbyte := Utf8.lt_of_mem_encodeChar hb
    have hhigh := Percent.isEscapeDigit_hexDigit (b / 16) (by omega)
    have hlow := Percent.isEscapeDigit_hexDigit (b % 16) (by omega)
    exact .escape (of_decide_eq_true hhigh) (of_decide_eq_true hlow) .nil

theorem isQuery_encode (s : String) : IsQuery (Percent.encode s).toList := by
  rw [Percent.encode, String.toList_ofList]
  exact isQuery_flatMap fun c _ => isQuery_encodeChar c

/-! ### Pieces -/

/-- A piece of a query for a parameter. -/
def pieceOf (p : String × String) : List Char := p.1.toList ++ '=' :: (Percent.encode p.2).toList

/-- A name of a parameter that stands in a link as it is. -/
def IsPlainName (name : String) : Prop := ∀ c ∈ name.toList, Percent.isUnreserved c = true

theorem encode_of_isPlainName (h : IsPlainName name) : Percent.encode name = name := by
  have hchar : name.toList.flatMap Percent.encodeChar = name.toList.flatMap fun c => [c] := by
    refine List.flatMap_congr fun c hc => ?_
    rw [Percent.encodeChar, if_pos (h c hc)]
  rw [Percent.encode, hchar, List.flatMap_singleton', String.ofList_toList]

theorem not_mem_of_isPlainName (h : IsPlainName name) {c : Char}
    (hc : Percent.isUnreserved c = false) : c ∉ name.toList :=
  fun hmem => Percent.ne_of_isUnreserved (h c hmem) hc rfl

theorem not_mem_encode {c : Char} (hc : Percent.isUnreserved c = false) (hne : c ≠ '%')
    (hdigit : Percent.isEscapeDigit c = false) (s : String) : c ∉ (Percent.encode s).toList := by
  rw [Percent.encode, String.toList_ofList]
  intro hmem
  obtain ⟨d, -, hd⟩ := List.mem_flatMap.mp hmem
  exact Percent.not_mem_encodeChar hc hne hdigit d hd

theorem not_mem_pieceOf {p : String × String} (h : IsPlainName p.1) : '&' ∉ pieceOf p := by
  rw [pieceOf, List.mem_append, List.mem_cons]
  rintro (hname | heq | hvalue)
  · exact not_mem_of_isPlainName h (by decide) hname
  · exact absurd heq (by decide)
  · exact not_mem_encode (by decide) (by decide) (by decide) p.2 hvalue

theorem isQuery_pieceOf {p : String × String} (h : IsPlainName p.1) : IsQuery (pieceOf p) :=
  (isQuery_of_isUnreserved h).append (.separator (by decide) (isQuery_encode p.2))

/-- A piece is read as its parameter. -/
theorem readParameter_pieceOf {p : String × String} (h : IsPlainName p.1) :
    readParameter (pieceOf p) = some p := by
  have hcut : cutAt ['='] (pieceOf p) = some (p.1.toList, (Percent.encode p.2).toList) :=
    cutAt_singleton_of_not_mem (not_mem_of_isPlainName h (by decide))
  have hname := Percent.decode?_encode p.1
  rw [encode_of_isPlainName h] at hname
  rw [readParameter, hcut]
  simp only [hname, Percent.decode?_encode, Option.bind_eq_bind, Option.bind_some,
    String.ofList_toList]
  rfl

theorem mapM_readParameter {ps : List (String × String)} (h : ∀ p ∈ ps, IsPlainName p.1) :
    (ps.map pieceOf).mapM readParameter = some ps := by
  induction ps with
  | nil => rfl
  | cons p ps ih =>
      have hp := readParameter_pieceOf (h p List.mem_cons_self)
      have hps := ih fun q hq => h q (List.mem_cons_of_mem p hq)
      rw [List.map_cons, List.mapM_cons, hp, hps]
      rfl

/-! ### Links -/

/-- The query of some parameters. -/
def queryOf (ps : List (String × String)) : List Char := ['&'].intercalate (ps.map pieceOf)

theorem linkText_of_eq_nil {ps : List (String × String)} (h : ps.filter (·.2 != "") = []) :
    linkText ps = newNote := by
  rw [linkText, h]
  rfl

/-- The link with some parameters has a question mark and their query. -/
theorem toList_linkText {ps : List (String × String)} (h : ps.filter (·.2 != "") ≠ []) :
    (linkText ps).toList = newNote.toList ++ '?' :: queryOf (ps.filter (·.2 != "")) := by
  have hquery : (String.intercalate "&" ((ps.filter (·.2 != "")).map fun p =>
      p.1 ++ "=" ++ Percent.encode p.2)).toList = queryOf (ps.filter (·.2 != "")) := by
    rw [String.toList_intercalate, List.map_map, queryOf]
    refine congrArg _ (List.map_congr_left fun p _ => ?_)
    simp [pieceOf]
  have hne : queryOf (ps.filter (·.2 != "")) ≠ [] := by
    obtain ⟨p, more, hps⟩ := List.exists_cons_of_ne_nil h
    rw [hps, queryOf, List.map_cons]
    cases more <;> simp [pieceOf]
  rw [linkText, if_neg, String.toList_append, String.toList_append, hquery]
  · simp
  · rw [beq_iff_eq, ← String.toList_inj, hquery]
    exact hne

theorem readLink_linkText {ps : List (String × String)} (h : ∀ p ∈ ps, IsPlainName p.1) :
    readLink (linkText ps) = some (ps.filter (·.2 != "")) := by
  by_cases hnil : ps.filter (·.2 != "") = []
  · rw [linkText_of_eq_nil hnil, hnil]
    rfl
  · have hplain : ∀ p ∈ ps.filter (·.2 != ""), IsPlainName p.1 :=
      fun p hp => h p (List.mem_of_mem_filter hp)
    have hcut : cutAt ['?'] (linkText ps).toList =
        some (newNote.toList, queryOf (ps.filter (·.2 != ""))) := by
      rw [toList_linkText hnil]
      exact cutAt_singleton_of_not_mem (by decide)
    have hsplit : splitBy (· == '&') (queryOf (ps.filter (·.2 != ""))) =
        (ps.filter (·.2 != "")).map pieceOf := by
      refine splitBy_intercalate (by simpa using hnil) fun piece hpiece => ?_
      obtain ⟨p, hp, rfl⟩ := List.mem_map.mp hpiece
      exact not_mem_pieceOf (hplain p hp)
    rw [readLink, hcut]
    dsimp only
    rw [hsplit, mapM_readParameter hplain]

/-! ### Requests -/

variable {r : Request}

theorem filter_textParameter (name s : String) :
    [(name, s)].filter (·.2 != "") = textParameter name s := by
  unfold textParameter
  split
  · rename_i h
    simp [h]
  · rename_i h
    simp [h]

theorem textParameter_flagText (name : String) (flag : Bool) :
    textParameter name (flagText flag) = flagParameter name flag := by
  cases flag <;> rfl

theorem filter_parameters (r : Request) : r.parameters.filter (·.2 != "") = r.shown := by
  have hparameters : r.parameters = [("file", r.file)] ++ [("overwrite", flagText r.overwrite)] ++
      [("vault", r.vault)] ++ [("clipboard", flagText r.clipboard)] ++
      [("silent", flagText r.silent)] ++ [("content", r.content)] := rfl
  rw [hparameters, Request.shown]
  simp only [List.filter_append, filter_textParameter, textParameter_flagText]

theorem isPlainName_of_mem_parameters {p : String × String} (h : p ∈ r.parameters) :
    IsPlainName p.1 := by
  have hnames : r.parameters.map Prod.fst =
      ["file", "overwrite", "vault", "clipboard", "silent", "content"] := rfl
  have hplain : (r.parameters.map Prod.fst).all (·.toList.all Percent.isUnreserved) = true := by
    rw [hnames]
    decide
  exact List.all_eq_true.mp (List.all_eq_true.mp hplain p.1 (List.mem_map_of_mem h))

/-- The parameters that a link shows are read from it. -/
theorem readLink_eq_shown (r : Request) : readLink r.link = some r.shown := by
  rw [Request.link, readLink_linkText fun p hp => isPlainName_of_mem_parameters hp,
    filter_parameters]

theorem lookup_textParameter (name s key : String) :
    (textParameter name s).lookup key = if key = name ∧ s ≠ "" then some s else none := by
  unfold textParameter
  by_cases hs : s = ""
  · simp [hs]
  · by_cases hkey : key = name
    · simp [hs, hkey]
    · have hbeq : (key == name) = false := beq_false_of_ne hkey
      simp [hs, hkey, List.lookup_cons, hbeq]

theorem lookup_flagParameter (name : String) (flag : Bool) (key : String) :
    (flagParameter name flag).lookup key =
      if key = name ∧ flag = true then some "true" else none := by
  unfold flagParameter
  cases flag
  · simp
  · by_cases hkey : key = name
    · simp [hkey]
    · have hbeq : (key == name) = false := beq_false_of_ne hkey
      simp [hkey, List.lookup_cons, hbeq]

/-- The parameters that a link shows, by their names. -/
theorem lookup_shown (r : Request) :
    r.shown.lookup "file" = (if r.file ≠ "" then some r.file else none) ∧
      r.shown.lookup "overwrite" = (if r.overwrite = true then some "true" else none) ∧
      r.shown.lookup "vault" = (if r.vault ≠ "" then some r.vault else none) ∧
      r.shown.lookup "clipboard" = (if r.clipboard = true then some "true" else none) ∧
      r.shown.lookup "silent" = (if r.silent = true then some "true" else none) ∧
      r.shown.lookup "content" = (if r.content ≠ "" then some r.content else none) := by
  simp only [Request.shown, List.lookup_append, lookup_textParameter, lookup_flagParameter]
  simp

/-- Requests that show the same parameters are the same. -/
theorem eq_of_shown_eq {other : Request} (h : other.shown = r.shown) : other = r := by
  have htext : ∀ s t : String,
      (if s ≠ "" then some s else none) = (if t ≠ "" then some t else none) → s = t := by
    intro s t hst
    by_cases hs : s = ""
    · by_cases ht : t = ""
      · rw [hs, ht]
      · simp [hs, ht] at hst
    · by_cases ht : t = ""
      · simp [hs, ht] at hst
      · simpa [hs, ht] using hst
  have hflag : ∀ a b : Bool, (if a = true then some "true" else none) =
      (if b = true then some "true" else none) → a = b := by decide
  obtain ⟨hfile, hoverwrite, hvault, hclipboard, hsilent, hcontent⟩ := lookup_shown other
  obtain ⟨hfile', hoverwrite', hvault', hclipboard', hsilent', hcontent'⟩ := lookup_shown r
  rw [h] at hfile hoverwrite hvault hclipboard hsilent hcontent
  obtain ⟨file, vault, content, clipboard, overwrite, silent⟩ := r
  obtain ⟨file', vault', content', clipboard', overwrite', silent'⟩ := other
  rw [Request.mk.injEq]
  exact ⟨htext _ _ (hfile.symm.trans hfile'), htext _ _ (hvault.symm.trans hvault'),
    htext _ _ (hcontent.symm.trans hcontent'), hflag _ _ (hclipboard.symm.trans hclipboard'),
    hflag _ _ (hoverwrite.symm.trans hoverwrite'), hflag _ _ (hsilent.symm.trans hsilent')⟩

/-- The link of a request is that of a note without parameters, or has a query. -/
theorem link_cases (r : Request) :
    r.shown = [] ∧ r.link = newNote ∨
      r.shown ≠ [] ∧ ∃ query, r.link.toList = newNote.toList ++ '?' :: query ∧ IsQuery query := by
  by_cases hnil : r.shown = []
  · refine .inl ⟨hnil, linkText_of_eq_nil ?_⟩
    rw [filter_parameters, hnil]
  · refine .inr ⟨hnil, queryOf r.shown, ?_, isQuery_intercalate fun piece hpiece => ?_⟩
    · rw [Request.link, toList_linkText (by rwa [filter_parameters]), filter_parameters]
    · obtain ⟨p, hp, rfl⟩ := List.mem_map.mp hpiece
      rw [← filter_parameters] at hp
      exact isQuery_pieceOf (isPlainName_of_mem_parameters (List.mem_of_mem_filter hp))

/-- A text or null. -/
def textOrNull (s : Option String) : Value := (s.map Value.text).getD .null

theorem ofValues_textOrNull (vault file content : Option String)
    (clipboard overwrite silent : Bool) :
    Request.ofValues (textOrNull vault) (textOrNull file) (textOrNull content) clipboard overwrite
        silent =
      .ok ⟨file.getD "", vault.getD "", content.getD "", clipboard, overwrite, silent⟩ := by
  cases vault <;> cases file <;> cases content <;> rfl

/-- The link of a vault, a file and a content, each of which may be missing, is that of a note
without parameters when there are none, and is read as its parameters otherwise.  No other request
has the same link. -/
theorem readLink_link (vault file content : Option String) (clipboard overwrite silent : Bool) :
    ∃ r : Request, Request.ofValues (textOrNull vault) (textOrNull file) (textOrNull content)
        clipboard overwrite silent = .ok r ∧
      r = ⟨file.getD "", vault.getD "", content.getD "", clipboard, overwrite, silent⟩ ∧
      (r.shown = [] ∧ r.link = "obsidian://new" ∨
        r.shown ≠ [] ∧ readLink r.link = some r.shown ∧
          ∃ query, r.link.toList = "obsidian://new".toList ++ '?' :: query ∧ IsQuery query) ∧
      r.totalLength = r.link.toList.length ∧
      ∀ other : Request, other.link = r.link → other = r := by
  refine ⟨_, ofValues_textOrNull vault file content clipboard overwrite silent, rfl, ?_, ?_, ?_⟩
  · rcases link_cases ⟨file.getD "", vault.getD "", content.getD "", clipboard, overwrite, silent⟩
      with hnone | ⟨hsome, hquery⟩
    · exact .inl hnone
    · exact .inr ⟨hsome, readLink_eq_shown _, hquery⟩
  · exact String.length_toList.symm
  · intro other hlink
    have hother := readLink_eq_shown other
    rw [hlink, readLink_eq_shown] at hother
    exact eq_of_shown_eq (Option.some.inj hother).symm

end TabNotes.Obsidian
