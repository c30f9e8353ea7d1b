import TabNotes.Proofs.Template.Escaping

/-! # Entities read back

Escaping goes over the whole text three times, but what it writes for a character does not depend on
the others (`toList_escapeMarkup`), so texts can be escaped before or after they are put together
(`escapeMarkup_append`).  `readEntities` reads the three entities from left to right and keeps all
else.  It reads what is written for a character as that character, whatever follows
(`readEntities_entityOf_append`), so escaping loses nothing (`escapeMarkup_lossless`). -/

namespace TabNotes.Template

/-! ### One character at a time -/

theorem escapeMarkup_append (s t : String) :
    escapeMarkup (s ++ t) = escapeMarkup s ++ escapeMarkup t := by
  rw [← String.toList_inj, String.toList_append, toList_escapeMarkup, toList_escapeMarkup,
    toList_escapeMarkup, String.toList_append, List.flatMap_append]

/-! ### Reading -/

/-- Reads the entities that escaping writes, from left to right; everything else is kept. -/
def readEntities : List Char → List Char
  | '&' :: 'a' :: 'm' :: 'p' :: ';' :: cs => '&' :: readEntities cs
  | '&' :: 'l' :: 't' :: ';' :: cs => '<' :: readEntities cs
  | '&' :: 'g' :: 't' :: ';' :: cs => '>' :: readEntities cs
  | c :: cs => c :: readEntities cs
  | [] => []

/-- `readEntities` on strings. -/
def unescapeMarkup (s : String) : String := String.ofList (readEntities s.toList)

theorem readEntities_cons_of_ne {c : Char} (h : c ≠ '&') (cs : List Char) :
    readEntities (c :: cs) = c :: readEntities cs := by
  rw [readEntities]
  all_goals
    rintro _ rfl
    exact absurd rfl h

/-- What is written for a character is read as that character, whatever follows it. -/
theorem readEntities_entityOf_append (c : Char) (cs : List Char) :
    readEntities (entityOf c ++ cs) = c :: readEntities cs := by
  by_cases hc : c ∈ markup
  · simp only [markup, List.mem_cons, List.not_mem_nil, or_false] at hc
    rcases hc with rfl | rfl | rfl <;> rfl
  · rw [entityOf_of_not_mem_markup hc]
    exact readEntities_cons_of_ne (fun hamp => hc (by rw [hamp]; decide)) cs

theorem readEntities_flatMap_entityOf (cs : List Char) :
    readEntities (cs.flatMap entityOf) = cs := by
  induction cs with
  | nil => rfl
  | cons c cs ih => rw [List.flatMap_cons, readEntities_entityOf_append, ih]

theorem unescapeMarkup_escapeMarkup (s : String) : unescapeMarkup (escapeMarkup s) = s := by
  rw [unescapeMarkup, toList_escapeMarkup, readEntities_flatMap_entityOf, String.ofList_toList]

/-- Escaping is a map over the characters, and nothing is lost by it: it goes through texts joined
one after the other, reading the entities undoes it, and different texts are escaped differently. -/
theorem escapeMarkup_lossless :
    (∀ s, (escapeMarkup s).toList = s.toList.flatMap entityOf) ∧
      (∀ s t, escapeMarkup (s ++ t) = escapeMarkup s ++ escapeMarkup t) ∧
      (∀ s, unescapeMarkup (escapeMarkup s) = s) ∧ Function.Injective escapeMarkup := by
  have hread : Function.LeftInverse unescapeMarkup escapeMarkup := unescapeMarkup_escapeMarkup
  exact ⟨toList_escapeMarkup, escapeMarkup_append, hread, hread.injective⟩

example : escapeMarkup "&lt;<" = "&amp;lt;&lt;" ∧ unescapeMarkup "&amp;lt;&lt;" = "&lt;<" := by
  decide

end TabNotes.Template
