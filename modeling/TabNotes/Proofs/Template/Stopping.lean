import TabNotes.Proofs.Template.Reading

/-! # Where the parser stops

`Stops` lists what a run of the parser that fails can do, beside `Reads` for the runs that succeed:
it stops at a tag, or at the end of the text, or it goes on after a tag or a section that it has
read.  By `parseRest_eq_error_iff` these are exactly the runs that fail, so that facts about faults
go by induction on `Stops`. -/

namespace TabNotes.Template

open TabNotes.Text

variable {limit : Int} {stop : Option String} {depth : Nat} {cs : List Char} {fault : SyntaxFault}

/-- The runs of the parser that fail: `Stops limit stop depth cs fault` stops with `fault` on `cs` in
the section `stop`. -/
inductive Stops (limit : Int) : Option String → Nat → List Char → SyntaxFault → Prop where
  | notClosed {depth : Nat} {cs : List Char} {name : String} (hcut : cutAt tagOpen cs = none) :
      Stops limit (some name) depth cs (.notClosed name)
  | unterminated {stop : Option String} {depth : Nat} {cs before after : List Char}
      {fault : SyntaxFault} (hcut : cutAt tagOpen cs = some (before, after))
      (htag : readTag after = .error fault) : Stops limit stop depth cs fault
  | partialTag {stop : Option String} {depth : Nat} {cs before after rest : List Char}
      (hcut : cutAt tagOpen cs = some (before, after))
      (htag : readTag after = .ok (.partialTag, rest)) : Stops limit stop depth cs .partialTag
  | unexpectedClose {stop : Option String} {depth : Nat} {cs before after rest : List Char}
      {name : String} (hcut : cutAt tagOpen cs = some (before, after))
      (htag : readTag after = .ok (.closing name, rest)) (hstop : stop ≠ some name) :
      Stops limit stop depth cs (.unexpectedClose name)
  | missingName {stop : Option String} {depth : Nat} {cs before after rest : List Char}
      {isInverted : Bool} (hcut : cutAt tagOpen cs = some (before, after))
      (htag : readTag after = .ok (.opening isInverted "", rest)) :
      Stops limit stop depth cs .missingName
  | tooDeep {stop : Option String} {depth : Nat} {cs before after rest : List Char}
      {isInverted : Bool} {name : String} (hcut : cutAt tagOpen cs = some (before, after))
      (htag : readTag after = .ok (.opening isInverted name, rest)) (hname : name ≠ "")
      (hdepth : limit < depth + 1) : Stops limit stop depth cs (.tooDeep limit)
  | leaf {stop : Option String} {depth : Nat} {cs before after rest : List Char}
      {tokens : List Token} {fault : SyntaxFault} (hcut : cutAt tagOpen cs = some (before, after))
      (htag : readTag after = .ok (.leaf tokens, rest)) (hmore : Stops limit stop depth rest fault) :
      Stops limit stop depth cs fault
  | inside {stop : Option String} {depth : Nat} {cs before after rest : List Char}
      {isInverted : Bool} {name : String} {fault : SyntaxFault}
      (hcut : cutAt tagOpen cs = some (before, after))
      (htag : readTag after = .ok (.opening isInverted name, rest))
      (hname : name ≠ "") (hdepth : (depth : Int) + 1 ≤ limit)
      (hchildren : Stops limit (some name) (depth + 1) rest fault) : Stops limit stop depth cs fault
  | afterSection {stop : Option String} {depth : Nat} {cs before after rest inner : List Char}
      {isInverted : Bool} {name : String} {children : List Token} {fault : SyntaxFault}
      (hcut : cutAt tagOpen cs = some (before, after))
      (htag : readTag after = .ok (.opening isInverted name, rest))
      (hname : name ≠ "") (hdepth : (depth : Int) + 1 ≤ limit)
      (hchildren : Reads limit (some name) (depth + 1) rest children inner)
      (hmore : Stops limit stop depth inner fault) : Stops limit stop depth cs fault

theorem Stops.parseRest (h : Stops limit stop depth cs fault) :
    parseRest limit stop depth cs = .error fault := by
  induction h with
  | notClosed hcut => rw [parseRest_eq, hcut]
  | unterminated hcut htag =>
      rw [parseRest_eq, hcut]
      simp only [htag]
  | partialTag hcut htag =>
      rw [parseRest_eq, hcut]
      simp only [htag]
  | unexpectedClose hcut htag hstop =>
      rw [parseRest_eq, hcut]
      simp only [htag]
      rw [if_neg hstop]
  | missingName hcut htag =>
      rw [parseRest_eq, hcut]
      simp only [htag, if_true]
  | tooDeep hcut htag hname hdepth =>
      rw [parseRest_eq, hcut]
      simp only [htag]
      rw [if_neg hname, if_pos hdepth]
  | leaf hcut htag _ ih =>
      rw [parseRest_eq, hcut]
      simp only [htag, ih]
      rfl
  | inside hcut htag hname hdepth _ ih =>
      rw [parseRest_eq, hcut]
      simp only [htag]
      rw [if_neg hname, if_neg (by omega), ih]
  | afterSection hcut htag hname hdepth hchildren _ ih =>
      rw [parseRest_eq, hcut]
      simp only [htag]
      rw [if_neg hname, if_neg (by omega), hchildren.parseRest]
      simp only [ih]
      rfl

theorem stops_of_parseRest (h : parseRest limit stop depth cs = .error fault) :
    Stops limit stop depth cs fault := by
  induction hn : cs.length using Nat.strongRecOn generalizing stop depth cs with
  | ind n ih =>
      rw [parseRest_eq] at h
      cases hcut : cutAt tagOpen cs with
      | none =>
          rw [hcut] at h
          cases stop with
          | some name =>
              cases h
              exact .notClosed hcut
          | none => cases h
      | some cut =>
          obtain ⟨before, after⟩ := cut
          simp only [hcut] at h
          have hafter := length_after_cutAt hcut
          simp only [tagOpen, List.length_cons, List.length_nil] at hafter
          cases htag : readTag after with
          | error cause =>
              rw [htag] at h
              cases h
              exact .unterminated hcut htag
          | ok result =>
              obtain ⟨tag, rest⟩ := result
              have hrest := length_rest_le_of_readTag htag
              rw [htag] at h
              cases tag with
              | partialTag =>
                  cases h
                  exact .partialTag hcut htag
              | closing name =>
                  dsimp only at h
                  split at h
                  · cases h
                  · rename_i hstop
                    cases h
                    exact .unexpectedClose hcut htag hstop
              | leaf tokens =>
                  exact .leaf hcut htag (ih _ (by omega) (map_eq_error_iff.mp h) rfl)
              | opening isInverted name =>
                  dsimp only at h
                  split at h
                  · rename_i hname
                    subst hname
                    cases h
                    exact .missingName hcut htag
                  · rename_i hname
                    split at h
                    · rename_i hdepth
                      cases h
                      exact .tooDeep hcut htag hname hdepth
                    · rename_i hdepth
                      split at h
                      · rename_i hchildren
                        cases h
                        exact .inside hcut htag hname (by omega) (ih _ (by omega) hchildren rfl)
                      · rename_i children inner hchildren
                        have hinner := length_le_of_parseRest hchildren
                        exact .afterSection hcut htag hname (by omega) (reads_of_parseRest hchildren)
                          (ih _ (by omega) (map_eq_error_iff.mp h) rfl)

/-- The parser fails exactly by the rules of `Stops`. -/
theorem parseRest_eq_error_iff :
    parseRest limit stop depth cs = .error fault ↔ Stops limit stop depth cs fault :=
  ⟨stops_of_parseRest, Stops.parseRest⟩

theorem parse_eq_error_iff {template : String} :
    parse template limit = .error fault ↔ Stops limit none 0 template.toList fault := by
  rw [parse_eq_map_parseRest, map_eq_error_iff, parseRest_eq_error_iff]

end TabNotes.Template
