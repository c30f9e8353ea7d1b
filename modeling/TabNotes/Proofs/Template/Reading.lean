import TabNotes.Proofs.Runs
import TabNotes.Template.Parse

/-! # What the parser reads

`parseRest` is `parseItems` without the bound that its result carries, and `parseRest_eq` its
equation.  `Reads` lists what a successful run can do, one rule for each way to go on after the
text before a tag; by `parseRest_eq_ok_iff` these are exactly the runs that succeed, so that facts
about parsed templates go by induction on `Reads`. -/

namespace TabNotes.Template

open TabNotes.Text

/-- The tokens that are read and the text that is left. -/
def parseRest (limit : Int) (stop : Option String) (depth : Nat) (cs : List Char) :
    Except SyntaxFault (List Token × List Char) :=
  (parseItems limit stop depth cs).map fun result => (result.1, result.2.1)

/-- Puts tokens in front of those that were read. -/
def readBefore (tokens : List Token) (result : List Token × List Char) : List Token × List Char :=
  (tokens ++ result.1, result.2)

variable {limit : Int} {stop : Option String} {depth : Nat} {cs before after rest inner left : List Char}
  {name : String} {ts tokens children more : List Token}

theorem parse_eq_map_parseRest (template : String) (limit : Int) :
    parse template limit = (parseRest limit none 0 template.toList).map Prod.fst := by
  unfold parse parseRest
  cases parseItems limit none 0 template.toList <;> rfl

/-- What is left of a text is no longer than the text. -/
theorem length_le_of_parseRest (h : parseRest limit stop depth cs = .ok (ts, rest)) :
    rest.length ≤ cs.length := by
  obtain ⟨⟨tokens, left, hleft⟩, -, h⟩ := map_eq_ok_iff.mp h
  cases h
  exact hleft

theorem parseRest_eq (limit : Int) (stop : Option String) (depth : Nat) (cs : List Char) :
    parseRest limit stop depth cs =
      match cutAt tagOpen cs with
      | none =>
        match stop with
        | some name => .error (.notClosed name)
        | none => .ok (literal cs, [])
      | some (before, after) =>
        match readTag after with
        | .error fault => .error fault
        | .ok (.partialTag, _) => .error .partialTag
        | .ok (.closing name, rest) =>
          if stop = some name then .ok (literal before, rest) else .error (.unexpectedClose name)
        | .ok (.leaf tokens, rest) =>
          (parseRest limit stop depth rest).map (readBefore (literal before ++ tokens))
        | .ok (.opening isInverted name, rest) =>
          if name = "" then .error .missingName
          else if limit < depth + 1 then .error (.tooDeep limit)
          else
            match parseRest limit (some name) (depth + 1) rest with
            | .error fault => .error fault
            | .ok (children, inner) =>
              (parseRest limit stop depth inner).map
                (readBefore (literal before ++ [section? isInverted name children])) := by
  unfold parseRest
  rw [parseItems.eq_def]
  split
  · rename_i hcut
    rw [hcut]
    cases stop <;> rfl
  · rename_i before after hcut
    conv => rhs; rw [hcut]
    dsimp only
    split
    · rename_i fault htag
      conv => rhs; rw [htag]
      rfl
    · rename_i tag rest htag
      conv => rhs; rw [htag]
      cases tag with
      | partialTag => rfl
      | closing name =>
          dsimp only
          split <;> rfl
      | leaf tokens =>
          dsimp only
          cases parseItems limit stop depth rest <;> rfl
      | opening isInverted name =>
          dsimp only
          split
          · rfl
          · split
            · rfl
            · cases parseItems limit (some name) (depth + 1) rest with
              | error fault => rfl
              | ok result =>
                  obtain ⟨children, inner, hinner⟩ := result
                  dsimp only [Except.map]
                  cases parseItems limit stop depth inner with
                  | error fault => rfl
                  | ok result => simp [readBefore]

/-- The runs of the parser that succeed: `Reads limit stop depth cs ts rest` reads `ts` from `cs` in
the section `stop`, and leaves `rest`. -/
inductive Reads (limit : Int) : Option String → Nat → List Char → List Token → List Char → Prop where
  | finish {depth : Nat} {cs : List Char} (hcut : cutAt tagOpen cs = none) :
      Reads limit none depth cs (literal cs) []
  | close {depth : Nat} {cs before after rest : List Char} {name : String}
      (hcut : cutAt tagOpen cs = some (before, after))
      (htag : readTag after = .ok (.closing name, rest)) :
      Reads limit (some name) depth cs (literal before) rest
  | leaf {stop : Option String} {depth : Nat} {cs before after rest left : List Char}
      {tokens more : List Token} (hcut : cutAt tagOpen cs = some (before, after))
      (htag : readTag after = .ok (.leaf tokens, rest)) (hmore : Reads limit stop depth rest more left) :
      Reads limit stop depth cs (literal before ++ (tokens ++ more)) left
  | opening {stop : Option String} {depth : Nat} {cs before after rest inner left : List Char}
      {isInverted : Bool} {name : String} {children more : List Token}
      (hcut : cutAt tagOpen cs = some (before, after))
      (htag : readTag after = .ok (.opening isInverted name, rest))
      (hname : name ≠ "") (hdepth : (depth : Int) + 1 ≤ limit)
      (hchildren : Reads limit (some name) (depth + 1) rest children inner)
      (hmore : Reads limit stop depth inner more left) :
      Reads limit stop depth cs (literal before ++ (section? isInverted name children :: more)) left

theorem Reads.parseRest (h : Reads limit stop depth cs ts rest) :
    parseRest limit stop depth cs = .ok (ts, rest) := by
  induction h with
  | finish hcut => rw [parseRest_eq, hcut]
  | close hcut htag =>
      rw [parseRest_eq, hcut]
      simp [htag]
  | leaf hcut htag _ ih =>
      rw [parseRest_eq, hcut]
      simp [htag, ih, Except.map, readBefore]
  | opening hcut htag hname hdepth _ _ ihc ihm =>
      rw [parseRest_eq, hcut]
      simp only [htag]
      rw [if_neg hname, if_neg (by omega)]
      simp [ihc, ihm, Except.map, readBefore]

theorem reads_of_parseRest (h : parseRest limit stop depth cs = .ok (ts, rest)) :
    Reads limit stop depth cs ts rest := by
  induction hn : cs.length using Nat.strongRecOn generalizing stop depth cs ts rest with
  | ind n ih =>
      rw [parseRest_eq] at h
      cases hcut : cutAt tagOpen cs with
      | none =>
          rw [hcut] at h
          cases stop with
          | some name => cases h
          | none =>
              cases h
              exact .finish hcut
      | some cut =>
          obtain ⟨before, after⟩ := cut
          simp only [hcut] at h
          have hafter := length_after_cutAt hcut
          simp only [tagOpen, List.length_cons, List.length_nil] at hafter
          cases htag : readTag after with
          | error fault =>
              rw [htag] at h
              cases h
          | ok result =>
              obtain ⟨tag, left⟩ := result
              have hleft := length_rest_le_of_readTag htag
              rw [htag] at h
              cases tag with
              | partialTag => cases h
              | closing name =>
                  dsimp only at h
                  split at h
                  · rename_i hstop
                    cases h
                    exact hstop ▸ .close hcut htag
                  · cases h
              | leaf tokens =>
                  obtain ⟨⟨more, rest'⟩, hmore, h⟩ := map_eq_ok_iff.mp h
                  rw [readBefore, List.append_assoc] at h
                  cases h
                  exact .leaf hcut htag (ih _ (by omega) hmore rfl)
              | opening isInverted name =>
                  dsimp only at h
                  split at h
                  · cases h
                  · rename_i hname
                    split at h
                    · cases h
                    · rename_i hdepth
                      split at h
                      · cases h
                      · rename_i children inner hchildren
                        have hinner := length_le_of_parseRest hchildren
                        obtain ⟨⟨more, rest'⟩, hmore, h⟩ := map_eq_ok_iff.mp h
                        rw [readBefore, List.append_assoc, List.singleton_append] at h
                        cases h
                        exact .opening hcut htag hname (by omega)
                          (ih _ (by omega) hchildren rfl) (ih _ (by omega) hmore rfl)

/-- The parser succeeds exactly by the rules of `Reads`. -/
theorem parseRest_eq_ok_iff :
    parseRest limit stop depth cs = .ok (ts, rest) ↔ Reads limit stop depth cs ts rest :=
  ⟨reads_of_parseRest, Reads.parseRest⟩

/-- Outside of all sections the whole text is read. -/
theorem Reads.rest_eq_nil (h : Reads limit none depth cs ts rest) : rest = [] := by
  generalize hstop : (none : Option String) = stop at h
  induction h with
  | finish => rfl
  | close => cases hstop
  | leaf _ _ _ ih => exact ih hstop
  | opening _ _ _ _ _ _ _ ih => exact ih hstop

theorem parse_eq_ok_iff {template : String} :
    parse template limit = .ok ts ↔ Reads limit none 0 template.toList ts [] := by
  rw [parse_eq_map_parseRest]
  constructor
  · intro h
    obtain ⟨⟨tokens, left⟩, hparse, rfl⟩ := map_eq_ok_iff.mp h
    have hreads := parseRest_eq_ok_iff.mp hparse
    exact hreads.rest_eq_nil ▸ hreads
  · intro h
    exact map_eq_ok_iff.mpr ⟨_, parseRest_eq_ok_iff.mpr h, rfl⟩

end TabNotes.Template
