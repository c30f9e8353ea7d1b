import TabNotes.Proofs.Template.Output
import TabNotes.Proofs.Template.Reading
import TabNotes.Proofs.Text.Search

/-! # Templates one after the other

A template that parses is read in the same way when another one follows it, unless an opening brace
at its end meets one at the start of the other: a section ends where it ended (`Reads.append`), and
after the last tag the text of the first one only comes before that of the second one
(`sameResult_parseRest_append`).  The two literals that meet there become one token, so that the
tokens differ, but not what they give.  So rendering takes templates one after the other to texts
one after the other (`render_append`). -/

namespace TabNotes.Template

open TabNotes.Text

variable {limit : Int} {stop : Option String} {depth : Nat} {cs ds before after rest : List Char}
  {name : String} {ts us tokens more : List Token} {frames : List Value}

/-! ### Output -/

/-- What tokens give one after the other. -/
theorem output_append (ts us : List Token) (frames : List Value) :
    output (ts ++ us) frames = do
      let first ← output ts frames
      let rest ← output us frames
      return first ++ rest := by
  induction ts with
  | nil =>
      rw [List.nil_append, output]
      cases output us frames with
      | error fault => rfl
      | ok rest => exact congrArg Except.ok String.empty_append.symm
  | cons token ts ih =>
      rw [List.cons_append, output, output, ih]
      cases token.output frames with
      | error fault => rfl
      | ok s =>
          cases output ts frames with
          | error fault => rfl
          | ok first =>
              cases output us frames with
              | error fault => rfl
              | ok rest => exact congrArg Except.ok String.append_assoc.symm

theorem output_literal (cs : List Char) (frames : List Value) :
    output (literal cs) frames = .ok (String.ofList cs) := by
  unfold literal
  split
  · rename_i hnil
    rw [List.isEmpty_iff.mp hnil, output]
  · rw [output, Token.output, output]
    exact congrArg Except.ok String.append_empty

theorem output_literal_append (cs : List Char) (ts : List Token) (frames : List Value) :
    output (literal cs ++ ts) frames = (output ts frames).map (String.ofList cs ++ ·) := by
  rw [output_append, output_literal]
  cases output ts frames <;> rfl

/-- One literal gives what its two parts give. -/
theorem output_literal_append_literal (cs ds : List Char) (ts : List Token) (frames : List Value) :
    output (literal (cs ++ ds) ++ ts) frames =
      output (literal cs ++ (literal ds ++ ts)) frames := by
  rw [output_literal_append, output_literal_append, output_literal_append]
  cases output ts frames with
  | error fault => rfl
  | ok s =>
      rw [String.ofList_append]
      exact congrArg Except.ok String.append_assoc

/-! ### Where two texts meet -/

/-- No tag begins where two texts meet. -/
def Apart (cs ds : List Char) : Prop := ¬ (cs.getLast? = some '{' ∧ ds.head? = some '{')

instance : Decidable (Apart cs ds) := inferInstanceAs (Decidable (¬ _))

theorem Apart.of_suffix (h : Apart cs ds) (hrest : rest <:+ cs) : Apart rest ds := by
  rintro ⟨hlast, hhead⟩
  obtain ⟨u, rfl⟩ := hrest
  exact h ⟨by rw [List.getLast?_append, hlast]; rfl, hhead⟩

/-- After a text without a tag the first tag is that of the text that follows. -/
theorem cutAt_tagOpen_append (hcut : cutAt tagOpen cs = none) (h : Apart cs ds) :
    cutAt tagOpen (cs ++ ds) = (cutAt tagOpen ds).map fun cut => (cs ++ cut.1, cut.2) := by
  induction cs with
  | nil => simp
  | cons c cs ih =>
      obtain ⟨hp, hinf⟩ := not_or.mp (List.infix_cons_iff.not.mp (cutAt_eq_none_iff.mp hcut))
      have hbegins : ¬ tagOpen <+: c :: (cs ++ ds) := by
        intro hbegins
        obtain ⟨hc, hhead⟩ := List.cons_prefix_cons.mp hbegins
        cases cs with
        | nil =>
            obtain ⟨w, hw⟩ := hhead
            exact h ⟨by rw [hc]; rfl, by rw [← List.nil_append ds, ← hw]; rfl⟩
        | cons d cs =>
            have hd := (List.cons_prefix_cons.mp hhead).1
            exact hp (by rw [← hc, ← hd]; exact List.prefix_append tagOpen cs)
      rw [List.cons_append, cutAt_cons_of_not_begins hbegins,
        ih (cutAt_eq_none_iff.mpr hinf) (h.of_suffix (List.suffix_cons c cs)), Option.map_map]
      rfl

/-! ### Tags and sections -/

theorem readTag_append {tag : Tag} (h : readTag cs = .ok (tag, rest)) (ds : List Char) :
    readTag (cs ++ ds) = .ok (tag, rest ++ ds) := by
  unfold readTag at h
  split at h
  · split at h
    · rename_i hcut
      cases h
      rw [List.cons_append, readTag, cutAt_append hcut]
    · cases h
  · rename_i hhead
    split at h
    · rename_i hcut
      cases h
      unfold readTag
      split
      · rename_i es hes
        cases cs with
        | nil => cases hcut
        | cons c cs => exact absurd (by rw [(List.cons.inj hes).1]) (hhead cs)
      · rw [cutAt_append hcut]
    · cases h

theorem suffix_of_cutAt {pat : List Char} (h : cutAt pat cs = some (before, after)) :
    after <:+ cs :=
  ⟨before ++ pat, (cutAt_eq_some h).symm⟩

theorem suffix_of_readTag {tag : Tag} (h : readTag cs = .ok (tag, rest)) : rest <:+ cs := by
  unfold readTag at h
  split at h
  · split at h
    · rename_i hcut
      cases h
      exact (suffix_of_cutAt hcut).trans (List.suffix_cons _ _)
    · cases h
  · split at h
    · rename_i hcut
      cases h
      exact suffix_of_cutAt hcut
    · cases h

/-- What is left of a text stands at its end. -/
theorem Reads.suffix (h : Reads limit stop depth cs ts rest) : rest <:+ cs := by
  induction h with
  | finish => exact List.nil_suffix
  | close hcut htag => exact (suffix_of_readTag htag).trans (suffix_of_cutAt hcut)
  | leaf hcut htag _ ih => exact ih.trans ((suffix_of_readTag htag).trans (suffix_of_cutAt hcut))
  | opening hcut htag _ _ _ _ ihc ihm =>
      exact ihm.trans (ihc.trans ((suffix_of_readTag htag).trans (suffix_of_cutAt hcut)))

/-- A section ends at its closing tag, whatever follows. -/
theorem Reads.append (h : Reads limit (some name) depth cs ts rest) (ds : List Char) :
    Reads limit (some name) depth (cs ++ ds) ts (rest ++ ds) := by
  generalize hstop : some name = stop at h
  induction h generalizing name with
  | finish => cases hstop
  | close hcut htag =>
      cases hstop
      exact .close (cutAt_append hcut ds) (readTag_append htag ds)
  | leaf hcut htag _ ih => exact .leaf (cutAt_append hcut ds) (readTag_append htag ds) (ih hstop)
  | opening hcut htag hname hdepth _ _ ihc ihm =>
      exact .opening (cutAt_append hcut ds) (readTag_append htag ds) hname hdepth (ihc rfl)
        (ihm hstop)

/-! ### The text after the last tag -/

/-- What was read gives the output of tokens in front of what was read elsewhere, and as much text
is left. -/
def GivesAfter (ts : List Token) (result result' : List Token × List Char) : Prop :=
  result.2 = result'.2 ∧ ∀ frames, output result.1 frames = output (ts ++ result'.1) frames

theorem GivesAfter.refl (x : Except SyntaxFault (List Token × List Char)) :
    SameResult (GivesAfter []) x x := .of_eq rfl fun _ _ => ⟨rfl, fun _ => rfl⟩

theorem GivesAfter.trans {x y z : Except SyntaxFault (List Token × List Char)}
    (h : SameResult (GivesAfter ts) x y) (h' : SameResult (GivesAfter us) y z) :
    SameResult (GivesAfter (ts ++ us)) x z := by
  refine h.trans (fun a b c hab hbc => ⟨hab.1.trans hbc.1, fun frames => ?_⟩) h'
  rw [hab.2, output_append, hbc.2, List.append_assoc, output_append ts]

theorem sameResult_map_readBefore {result : Except SyntaxFault (List Token × List Char)}
    (h : ∀ q frames, output (us ++ q) frames = output (ts ++ (tokens ++ q)) frames) :
    SameResult (GivesAfter ts) (result.map (readBefore us)) (result.map (readBefore tokens)) := by
  cases result with
  | error fault => exact .error fault
  | ok q => exact .ok ⟨rfl, h q.1⟩

theorem sameResult_readBefore (tokens : List Token)
    (result : Except SyntaxFault (List Token × List Char)) :
    SameResult (GivesAfter tokens) (result.map (readBefore tokens)) result := by
  cases result with
  | error fault => exact .error fault
  | ok q => exact .ok ⟨rfl, fun frames => rfl⟩

/-- A text without a tag before a text comes out before what that text gives. -/
theorem sameResult_parseRest_literal (hcut : cutAt tagOpen cs = none) (h : Apart cs ds) :
    SameResult (GivesAfter (literal cs)) (parseRest limit stop depth (cs ++ ds))
      (parseRest limit stop depth ds) := by
  have hseam (before : List Char) (ts q : List Token) (frames : List Value) :
      output (literal (cs ++ before) ++ ts ++ q) frames =
        output (literal cs ++ (literal before ++ ts ++ q)) frames := by
    rw [List.append_assoc, output_literal_append_literal, List.append_assoc (literal before)]
  rw [parseRest_eq, parseRest_eq limit stop depth ds, cutAt_tagOpen_append hcut h]
  cases cutAt tagOpen ds with
  | none =>
      cases stop with
      | some name => exact .error _
      | none =>
          refine .ok ⟨rfl, fun frames => ?_⟩
          have := output_literal_append_literal cs ds [] frames
          rwa [List.append_nil, List.append_nil] at this
  | some cut =>
      obtain ⟨before, after⟩ := cut
      dsimp only [Option.map]
      split
      · exact .error _
      · exact .error _
      · split
        · refine .ok ⟨rfl, fun frames => ?_⟩
          have := output_literal_append_literal cs before [] frames
          rwa [List.append_nil, List.append_nil] at this
        · exact .error _
      · rename_i tokens rest htag
        exact sameResult_map_readBefore fun q frames => hseam before tokens q frames
      · rename_i isInverted name rest htag
        split
        · exact .error _
        split
        · exact .error _
        split
        · exact .error _
        · exact sameResult_map_readBefore fun q frames => hseam before _ q frames

/-- What follows a template is read as if it stood alone, after all that the template gives. -/
theorem sameResult_parseRest_append (h : Reads limit none depth cs ts rest) (hapart : Apart cs ds) :
    SameResult (GivesAfter ts) (parseRest limit none depth (cs ++ ds))
      (parseRest limit none depth ds) := by
  generalize hstop : (none : Option String) = stop at h
  induction h with
  | finish hcut => exact sameResult_parseRest_literal hcut hapart
  | close => cases hstop
  | @leaf stop depth cs before after rest left tokens more hcut htag _ ih =>
      subst hstop
      have hrest := (suffix_of_readTag htag).trans (suffix_of_cutAt hcut)
      have hread : parseRest limit none depth (cs ++ ds) =
          (parseRest limit none depth (rest ++ ds)).map
            (readBefore (literal before ++ tokens)) := by
        rw [parseRest_eq, cutAt_append hcut]
        simp only [readTag_append htag]
      rw [hread, ← List.append_assoc]
      exact GivesAfter.trans (sameResult_readBefore _ _) (ih (hapart.of_suffix hrest) rfl)
  | @opening stop depth cs before after rest inner left isInverted name children more hcut htag
      hname hdepth hchildren _ _ ihm =>
      subst hstop
      have hinner := hchildren.suffix.trans ((suffix_of_readTag htag).trans (suffix_of_cutAt hcut))
      have hread : parseRest limit none depth (cs ++ ds) =
          (parseRest limit none depth (inner ++ ds)).map
            (readBefore (literal before ++ [section? isInverted name children])) := by
        rw [parseRest_eq, cutAt_append hcut]
        simp only [readTag_append htag]
        rw [if_neg hname, if_neg (by omega), (hchildren.append ds).parseRest]
      rw [hread, ← List.singleton_append, ← List.append_assoc]
      exact GivesAfter.trans (sameResult_readBefore _ _) (ihm (hapart.of_suffix hinner) rfl)

/-! ### Rendering -/

/-- Templates that are read one after the other give what they give alone, one after the other. -/
theorem exists_parse_append {a b : String} (ha : parse a limit = .ok ts)
    (hb : parse b limit = .ok us) (hapart : Apart a.toList b.toList) :
    ∃ ws, parse (a ++ b) limit = .ok ws ∧
      ∀ frames, output ws frames = output (ts ++ us) frames := by
  have hread := parse_eq_ok_iff.mp ha
  have hmore := (parse_eq_ok_iff.mp hb).parseRest
  have hsame := sameResult_parseRest_append hread hapart
  rw [hmore] at hsame
  rw [parse_eq_map_parseRest, String.toList_append]
  cases hparse : parseRest limit none 0 (a.toList ++ b.toList) with
  | error fault =>
      rw [hparse] at hsame
      cases hsame
  | ok result =>
      rw [hparse] at hsame
      cases hsame with
      | ok h => exact ⟨_, rfl, h.2⟩

/-- Rendering takes templates one after the other to texts one after the other, unless an opening
brace at the end of the first one meets one at the start of the second one: a fault of the first
template comes before a fault of the second one. -/
theorem render_append {a b : String} (ha : ∃ ts, parse a defaultDepth = .ok ts)
    (hb : ∃ us, parse b defaultDepth = .ok us) (hapart : Apart a.toList b.toList) :
    (∃ ws, parse (a ++ b) defaultDepth = .ok ws) ∧
      ∀ context,
        (∀ fault, render a context = .error fault → render (a ++ b) context = .error fault) ∧
        ∀ s, render a context = .ok s →
          (∀ fault, render b context = .error fault → render (a ++ b) context = .error fault) ∧
          ∀ t, render b context = .ok t → render (a ++ b) context = .ok (s ++ t) := by
  obtain ⟨ts, hts⟩ := ha
  obtain ⟨us, hus⟩ := hb
  obtain ⟨ws, hws, houtput⟩ := exists_parse_append hts hus hapart
  refine ⟨⟨ws, hws⟩, fun context => ?_⟩
  rw [render_eq, render_eq, render_eq, hts, hus, hws]
  dsimp only
  rw [houtput, output_append]
  refine ⟨fun fault hfirst => ?_, fun s hfirst => ⟨fun fault hrest => ?_, fun t hrest => ?_⟩⟩
  · rw [hfirst]
    rfl
  · rw [hfirst, hrest]
    rfl
  · rw [hfirst, hrest]
    rfl

/-- A template that ends in a brace, before one that begins with a closing brace. -/
theorem render_append_braces :
    render ("\x7b\x7ba\x7d\x7d\x7b" ++ "\x7d\x7b\x7bb\x7d\x7d")
      (.record [("a", .text "<"), ("b", .text "2")]) = .ok ("&lt;\x7b" ++ "\x7d2") := by
  have ha : parse "\x7b\x7ba\x7d\x7d\x7b" defaultDepth = .ok [.escaped "a", .text "\x7b"] := by
    rw [parse_eq_ok_iff]
    refine (?_ : Reads defaultDepth none 0 _ (literal [] ++ ([.escaped "a"] ++ literal ['{'])) [])
    exact .leaf rfl rfl (.finish rfl)
  have hb : parse "\x7d\x7b\x7bb\x7d\x7d" defaultDepth = .ok [.text "\x7d", .escaped "b"] := by
    rw [parse_eq_ok_iff]
    refine (?_ : Reads defaultDepth none 0 _ (literal ['}'] ++ ([.escaped "b"] ++ literal [])) [])
    exact .leaf rfl rfl (.finish rfl)
  refine (((render_append ⟨_, ha⟩ ⟨_, hb⟩ (by decide)).2 _).2 "&lt;\x7b" ?_).2 "\x7d2" ?_
  · rw [render_eq, ha]
    rfl
  · rw [render_eq, hb]
    rfl

end TabNotes.Template
