import TabNotes.Proofs.Template.RoundTrip
import TabNotes.Proofs.Template.Stopping

/-! # Stricter limits on nesting

Two runs of the parser on the same text, one with a stricter limit: as long as no section is too deep
for it, it reads what the other one reads (`Reads.of_nesting_le`); at the first one that is, it stops
(`Reads.stops_of_lt_nesting`).  Where the other run stops with a fault, the stricter one stops with
the same fault or earlier, for its limit (`Stops.of_le`).  So a limit does nothing but refuse
templates (`parse_lower`). -/

namespace TabNotes.Template

open TabNotes.Text

variable {limit lower : Int} {stop : Option String} {depth : Nat} {cs rest : List Char}
  {ts : List Token} {fault : SyntaxFault}

theorem nesting_section_cons (before : List Char) (isInverted : Bool) (name : String)
    (children more : List Token) :
    nesting (literal before ++ (section? isInverted name children :: more)) =
      max (nesting children + 1) (nesting more) := by
  have hsection : (section? isInverted name children).nesting = nesting children + 1 := by
    cases isInverted <;> rfl
  rw [nesting_append, nesting_literal, nesting, hsection, Nat.zero_max]

/-- The nesting of what follows a tag in double or triple braces is not changed by it. -/
theorem nesting_leaf {after : List Char} {tokens : List Token}
    (htag : readTag after = .ok (.leaf tokens, rest)) (before : List Char) (more : List Token) :
    nesting (literal before ++ (tokens ++ more)) = nesting more := by
  rw [nesting_append, nesting_append, nesting_literal, (written_of_readTag htag).2, Nat.zero_max,
    Nat.zero_max]

/-- Tokens that nest no deeper than a limit are read under that limit as well. -/
theorem Reads.of_nesting_le (h : Reads limit stop depth cs ts rest)
    (hnest : (depth : Int) + nesting ts ≤ lower) : Reads lower stop depth cs ts rest := by
  induction h with
  | finish hcut => exact .finish hcut
  | close hcut htag => exact .close hcut htag
  | leaf hcut htag _ ih =>
      rw [nesting_leaf htag] at hnest
      exact .leaf hcut htag (ih hnest)
  | opening hcut htag hname _ _ _ ihc ihm =>
      rw [nesting_section_cons] at hnest
      exact .opening hcut htag hname (by omega) (ihc (by omega)) (ihm (by omega))

/-- Where tokens nest deeper than a limit, the parser stops under that limit. -/
theorem Reads.stops_of_lt_nesting (h : Reads limit stop depth cs ts rest) (hdepth : depth ≤ lower)
    (hnest : lower < (depth : Int) + nesting ts) : Stops lower stop depth cs (.tooDeep lower) := by
  induction h with
  | finish hcut =>
      rw [nesting_literal] at hnest
      omega
  | close hcut htag =>
      rw [nesting_literal] at hnest
      omega
  | leaf hcut htag _ ih =>
      rw [nesting_leaf htag] at hnest
      exact .leaf hcut htag (ih hdepth hnest)
  | @opening stop depth _ _ _ _ _ _ _ name children more hcut htag hname _ hchildren _ ihc ihm =>
      rw [nesting_section_cons] at hnest
      by_cases hlimit : lower < (depth : Int) + 1
      · exact .tooDeep hcut htag hname hlimit
      by_cases hinside : lower < (depth : Int) + 1 + nesting children
      · exact .inside hcut htag hname (by omega) (ihc (by omega) (by omega))
      · exact .afterSection hcut htag hname (by omega) (hchildren.of_nesting_le (by omega))
          (ihm hdepth (by omega))

/-- Under a stricter limit the parser stops with the same fault, or earlier for that limit. -/
theorem Stops.of_le (h : Stops limit stop depth cs fault) (hlower : lower ≤ limit)
    (hdepth : depth ≤ lower) :
    Stops lower stop depth cs fault ∨ Stops lower stop depth cs (.tooDeep lower) := by
  induction h with
  | notClosed hcut => exact .inl (.notClosed hcut)
  | unterminated hcut htag => exact .inl (.unterminated hcut htag)
  | partialTag hcut htag => exact .inl (.partialTag hcut htag)
  | unexpectedClose hcut htag hstop => exact .inl (.unexpectedClose hcut htag hstop)
  | missingName hcut htag => exact .inl (.missingName hcut htag)
  | tooDeep hcut htag hname hlimit => exact .inr (.tooDeep hcut htag hname (by omega))
  | leaf hcut htag _ ih => exact (ih hdepth).imp (.leaf hcut htag) (.leaf hcut htag)
  | @inside stop depth _ _ _ _ _ _ _ hcut htag hname _ _ ih =>
      by_cases hlimit : lower < (depth : Int) + 1
      · exact .inr (.tooDeep hcut htag hname hlimit)
      · have hopen : (depth : Int) + 1 ≤ lower := by omega
        exact (ih (by omega)).imp (.inside hcut htag hname hopen) (.inside hcut htag hname hopen)
  | @afterSection stop depth _ _ _ _ _ _ _ children _ hcut htag hname _ hchildren _ ih =>
      by_cases hlimit : lower < (depth : Int) + 1
      · exact .inr (.tooDeep hcut htag hname hlimit)
      have hopen : (depth : Int) + 1 ≤ lower := by omega
      by_cases hinside : lower < (depth : Int) + 1 + nesting children
      · exact .inr (.inside hcut htag hname hopen
          (hchildren.stops_of_lt_nesting (by omega) (by omega)))
      · have hnest : ((depth + 1 : Nat) : Int) + nesting children ≤ lower := by omega
        have hread := hchildren.of_nesting_le hnest
        exact (ih hdepth).imp (.afterSection hcut htag hname hopen hread)
          (.afterSection hcut htag hname hopen hread)

/-- A stricter limit gives the same tokens if they do not nest deeper than it, and otherwise the
fault of that limit; in place of another fault it gives the same one or its own. -/
theorem parse_lower (template : String) {lower limit : Int} (hnat : 0 ≤ lower)
    (hlower : lower ≤ limit) :
    (∀ ts, parse template limit = .ok ts →
        (nesting ts ≤ lower → parse template lower = .ok ts) ∧
          (lower < nesting ts → parse template lower = .error (.tooDeep lower))) ∧
      (∀ fault, parse template limit = .error fault →
        parse template lower = .error fault ∨ parse template lower = .error (.tooDeep lower)) ∧
      ∀ ts, parse template limit = .ok ts → nesting ts ≤ limit := by
  simp only [parse_eq_ok_iff, parse_eq_error_iff]
  refine ⟨fun ts h => ⟨fun hnest => ?_, fun hnest => ?_⟩, fun fault h => ?_, fun ts h => ?_⟩
  · exact h.of_nesting_le (by omega)
  · exact h.stops_of_lt_nesting hnat (by omega)
  · exact h.of_le hlower hnat
  · have := (h.normal (by omega)).2
    omega

/-- A template of two sections, one inside the other. -/
def nestedTemplate : String := sectionText "a" (invertedText "b" "x")

theorem parse_nestedTemplate : parse nestedTemplate 2 = .ok [.block "a" [.inverted "b" [.text "x"]]] := by
  rw [parse_eq_ok_iff]
  have hinside : Reads 2 (some "a") 1 (invertedText "b" "x" ++ valueTag "/a").toList
      (literal [] ++ (section? true "b" (literal ['x']) :: literal [])) [] :=
    .opening rfl rfl (by decide) (by decide) (.close rfl rfl) (.close rfl rfl)
  refine (?_ : Reads 2 none 0 _ (literal [] ++ (section? false "a" _ :: literal [])) [])
  exact .opening rfl rfl (by decide) (by decide) hinside (.finish rfl)

theorem parse_lower_nestedTemplate :
    (0 : Int) ≤ 1 ∧ (1 : Int) ≤ 2 ∧
      parse nestedTemplate 2 = .ok [.block "a" [.inverted "b" [.text "x"]]] ∧
      (1 : Int) < nesting [.block "a" [.inverted "b" [.text "x"]]] ∧
      parse nestedTemplate 1 = .error (.tooDeep 1) := by
  have hnest : (1 : Int) < nesting [.block "a" [.inverted "b" [.text "x"]]] := by decide
  refine ⟨by decide, by decide, parse_nestedTemplate, hnest, ?_⟩
  exact ((parse_lower nestedTemplate (by decide) (by decide)).1 _ parse_nestedTemplate).2 hnest

end TabNotes.Template
