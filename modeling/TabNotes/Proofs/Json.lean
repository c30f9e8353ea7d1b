import TabNotes.Json

/-! # What JSON documents hold

A document holds maps with text keys, lists, texts, numbers, truth values and null; a text that is
no document is refused for a fault of its value, unless it has too many brackets open at a time
(`sound_read`). -/

namespace TabNotes.Json

open TabNotes.Number TabNotes.Text

variable {α β : Type} {standIns : StandIns} {nesting : Nat}

/-- The values that a document can hold. -/
inductive IsDocument : Value → Prop where
  | null : IsDocument .null
  | bool (b : Bool) : IsDocument (.bool b)
  | int (n : Int) : IsDocument (.int n)
  | float (x : Float) : IsDocument (.float x)
  | text (s : String) : IsDocument (.text s)
  | list {fixed : Bool} {items : List Value} (h : ∀ item ∈ items, IsDocument item) :
      IsDocument (.list fixed items)
  | map {entries : Entries} (hkeys : ∀ entry ∈ entries, ∃ s, entry.1 = .text s)
      (hvalues : ∀ entry ∈ entries, IsDocument entry.2) : IsDocument (.map entries)

/-- Entries that the map of a document can have. -/
def AreMembers (entries : Entries) : Prop :=
  ∀ entry ∈ entries, (∃ s, entry.1 = .text s) ∧ IsDocument entry.2

theorem AreMembers.isDocument {entries : Entries} (h : AreMembers entries) :
    IsDocument (.map entries) :=
  .map (fun entry hentry => (h entry hentry).1) fun entry hentry => (h entry hentry).2

/-- The faults for which a text is no document, and those of one with too many brackets. -/
def IsReadFault (cause : Fault) : Prop :=
  cause.kind.isValueKind = true ∨ ∃ last, cause = .tooManyBrackets last

/-- A result that is good, or whose fault, if it has one, is one of reading. -/
def Sound (good : α → Prop) : Except Stop (α × List Char) → Prop
  | .ok (a, _) => good a
  | .error (.fault cause) => IsReadFault cause
  | .error (.unreadable _ _) => True

section steps

variable {good : α → Prop} {after : β → Prop} {result : Except Stop (α × List Char)}

theorem Sound.bind {next : α × List Char → Except Stop (β × List Char)} (h : Sound good result)
    (hnext : ∀ a rest, good a → Sound after (next (a, rest))) : Sound after (result >>= next) := by
  rcases result with stop | ⟨a, rest⟩
  · cases stop with
    | unreadable reason left => exact trivial
    | fault cause => exact h
  · exact hnext a rest h

theorem Sound.map {f : α × List Char → β × List Char} (h : Sound good result)
    (hf : ∀ a rest, good a → after (f (a, rest)).1) : Sound after (result.map f) := by
  rcases result with stop | ⟨a, rest⟩
  · cases stop with
    | unreadable reason left => exact trivial
    | fault cause => exact h
  · exact hf a rest h

end steps

/-! ### Texts and numbers -/

theorem sound_readUnits (opening cs : List Char) :
    Sound (fun _ => True) (readUnits opening cs) := by
  fun_induction readUnits opening cs with
  | case1 | case2 | case4 | case5 | case6 | case8 | case9 => exact trivial
  | case3 _ _ _ _ _ _ _ _ ih | case7 _ _ _ _ _ _ ih | case10 _ _ _ _ _ _ _ _ ih =>
      exact ih.map fun _ _ _ => trivial

theorem sound_readText (cs : List Char) : Sound (fun _ => True) (readText standIns cs) :=
  (sound_readUnits cs cs).map fun _ _ _ => trivial

theorem isDocument_of_takeWord {cs rest : List Char} {v : Value}
    (h : takeWord cs = some (v, rest)) : IsDocument v := by
  have hwords : ∀ word ∈ words, IsDocument word.2 := by
    simp [words, IsDocument.null, IsDocument.bool, IsDocument.float]
  obtain ⟨word, hmem, h⟩ := List.exists_of_findSome?_eq_some h
  dsimp only at h
  split at h
  · cases h
    exact hwords word hmem
  · cases h

theorem sound_readScalar (cs : List Char) : Sound IsDocument (readScalar cs) := by
  unfold readScalar
  split
  · rename_i found hword
    exact isDocument_of_takeWord hword
  · split
    · exact trivial
    · rename_i numeral rest _
      split
      · rw [Numeral.toInteger, readDigits]
        split
        · rename_i n hn
          exact .int n
        · rename_i cause hcause
          split at hcause
          · cases hcause
            exact .inl rfl
          · cases hcause
      · exact .float _

/-! ### Values -/

theorem areMembers_nil : AreMembers [] := fun _ h => by cases h

theorem areMembers_put {before : Entries} (h : AreMembers before) (key : String) {v : Value}
    (hv : IsDocument v) : AreMembers (Entries.put before (.text key) v) := by
  induction before with
  | nil => exact List.forall_mem_singleton.mpr ⟨⟨key, rfl⟩, hv⟩
  | cons entry before ih =>
      obtain ⟨hentry, hbefore⟩ := List.forall_mem_cons.mp h
      rw [Entries.put]
      split
      · exact List.forall_mem_cons.mpr ⟨⟨hentry.1, hv⟩, hbefore⟩
      · exact List.forall_mem_cons.mpr ⟨hentry, ih hbefore⟩

/-- The items of a list that are good. -/
def AreItems (items : List Value) : Prop := ∀ item ∈ items, IsDocument item

section readers

variable {fuel : Nat} (hvalue : ∀ nesting cs, Sound IsDocument (readValue standIns nesting fuel cs))
  (hitems : ∀ nesting cs, Sound AreItems (readItems standIns nesting fuel cs))
  (hmembers : ∀ nesting before cs, AreMembers before →
    Sound AreMembers (readMembers standIns nesting fuel before cs))

include hitems hmembers in
theorem sound_readValue_succ (nesting : Nat) (cs : List Char) :
    Sound IsDocument (readValue standIns nesting (fuel + 1) cs) := by
  unfold readValue
  split
  · contradiction
  · exact (sound_readText _).map fun s _ _ => .text s
  · rename_i hfuel
    cases hfuel
    split
    · exact .inr ⟨.object, rfl⟩
    · exact areMembers_nil.isDocument
    · exact (hmembers _ [] _ areMembers_nil).map fun entries _ h => h.isDocument
  · rename_i hfuel
    cases hfuel
    split
    · exact .inr ⟨.array, rfl⟩
    · exact IsDocument.list fun _ h => by cases h
    · exact (hitems _ _).map fun items _ h => .list h
  · exact sound_readScalar _

include hvalue hitems in
theorem sound_readItems_succ (nesting : Nat) (cs : List Char) :
    Sound AreItems (readItems standIns nesting (fuel + 1) cs) := by
  rw [readItems]
  refine (hvalue nesting cs).bind fun item rest hitem => ?_
  dsimp only
  split
  · exact List.forall_mem_singleton.mpr hitem
  · exact (hitems _ _).bind fun items rest h => List.forall_mem_cons.mpr ⟨hitem, h⟩
  · exact trivial

include hvalue hmembers in
theorem sound_readMembers_succ (nesting : Nat) {before : Entries} (hbefore : AreMembers before)
    (cs : List Char) : Sound AreMembers (readMembers standIns nesting (fuel + 1) before cs) := by
  unfold readMembers
  split
  · contradiction
  · rename_i hfuel
    cases hfuel
    refine (sound_readText _).bind fun key rest _ => ?_
    dsimp only
    split
    · refine (hvalue _ _).bind fun v rest hv => ?_
      have hput := areMembers_put hbefore key hv
      dsimp only
      split
      · exact hput
      · exact hmembers _ _ _ hput
      · exact trivial
    · exact trivial
  · exact trivial

end readers

/-- Whatever the fuel, the three readers give good results. -/
theorem sound_readers (standIns : StandIns) (fuel : Nat) :
    (∀ nesting cs, Sound IsDocument (readValue standIns nesting fuel cs)) ∧
      (∀ nesting cs, Sound AreItems (readItems standIns nesting fuel cs)) ∧
      ∀ nesting before cs, AreMembers before →
        Sound AreMembers (readMembers standIns nesting fuel before cs) := by
  induction fuel with
  | zero =>
      refine ⟨fun nesting cs => ?_, fun nesting cs => ?_, fun nesting before cs _ => ?_⟩
      · rw [readValue]
        exact trivial
      · rw [readItems]
        exact trivial
      · rw [readMembers]
        exact trivial
  | succ fuel ih =>
      obtain ⟨hvalue, hitems, hmembers⟩ := ih
      exact ⟨sound_readValue_succ hitems hmembers, sound_readItems_succ hvalue hitems,
        fun nesting before cs h => sound_readMembers_succ hvalue hmembers nesting h cs⟩

/-- What a reader gives for a whole text. -/
theorem sound_document (fuel : Nat) (cs : List Char) :
    Sound IsDocument (readValue standIns nesting fuel cs >>= fun found =>
      match skipLayout found.2 with
      | [] => pure (found.1, [])
      | rest => stopAt "Extra data" rest) := by
  refine ((sound_readers standIns fuel).1 nesting cs).bind fun v rest hv => ?_
  dsimp only
  split
  · exact hv
  · exact trivial

/-- A text is read by a sound reader, whose stops name their place in it. -/
theorem exists_sound_read (s : String) :
    ∃ result : Except Stop (Value × List Char), Sound IsDocument result ∧
      read standIns nesting s = match result with
        | .ok (value, _) => .ok value
        | .error (.unreadable reason left) => .error (.json (place s.toList reason left))
        | .error (.fault cause) => .error cause := by
  refine ⟨_, ?_, rfl⟩
  split
  · exact trivial
  · exact sound_document _ _

/-- What is read is a value that documents hold, and what is refused is refused for its value or for
its brackets. -/
theorem sound_read (standIns : StandIns) (nesting : Nat) (s : String) :
    (∀ v, read standIns nesting s = .ok v → IsDocument v) ∧
      ∀ fault, read standIns nesting s = .error fault → IsReadFault fault := by
  obtain ⟨result, hsound, hread⟩ := @exists_sound_read standIns nesting s
  rw [hread]
  rcases result with (⟨reason, left⟩ | cause) | ⟨v, rest⟩
  · constructor
    · rintro _ ⟨⟩
    · rintro _ ⟨⟩
      exact .inl rfl
  · constructor
    · rintro _ ⟨⟩
    · rintro _ ⟨⟩
      exact hsound
  · constructor
    · rintro _ ⟨⟩
      exact hsound
    · rintro _ ⟨⟩

/-! ### Parts of documents -/

theorem IsDocument.areMembers {entries : Entries} (h : IsDocument (.map entries)) :
    AreMembers entries := by
  cases h with
  | map hkeys hvalues => exact fun entry hentry => ⟨hkeys entry hentry, hvalues entry hentry⟩

theorem isDocument_texts (texts : List String) : IsDocument (.ofList (texts.map .text)) := by
  refine .list fun item hitem => ?_
  obtain ⟨s, -, rfl⟩ := List.mem_map.mp hitem
  exact .text s

theorem isDocument_record {fields : List (String × Value)}
    (h : ∀ field ∈ fields, IsDocument field.2) : IsDocument (.record fields) := by
  refine AreMembers.isDocument fun entry hentry => ?_
  obtain ⟨field, hfield, rfl⟩ := List.mem_map.mp hentry
  exact ⟨⟨_, rfl⟩, h field hfield⟩

theorem areMembers_update {before entries : Entries} (h : AreMembers before)
    (hentries : AreMembers entries) : AreMembers (Entries.update before entries) := by
  induction entries generalizing before with
  | nil => exact h
  | cons entry entries ih =>
      obtain ⟨⟨⟨key, hkey⟩, hvalue⟩, hrest⟩ := List.forall_mem_cons.mp hentries
      have hput := areMembers_put h key hvalue
      rw [← hkey] at hput
      exact ih hput hrest

theorem exists_mem_of_get? {entries : Entries} {name : String} {v : Value}
    (h : Entries.get? entries name = some v) : ∃ entry ∈ entries, entry.2 = v := by
  induction entries with
  | nil => cases h
  | cons entry entries ih =>
      have hrest : Entries.get? entries name = some v → ∃ e ∈ entry :: entries, e.2 = v := by
        intro h
        obtain ⟨e, he, hv⟩ := ih h
        exact ⟨e, List.mem_cons_of_mem entry he, hv⟩
      obtain ⟨key, w⟩ := entry
      cases key with
      | text t =>
          rw [Entries.get?] at h
          split at h
          · exact ⟨_, List.mem_cons_self, Option.some.inj h⟩
          · exact hrest h
      | _ => exact hrest h

/-- What stands under a name in a document is a document. -/
theorem IsDocument.get {v : Value} (h : IsDocument v) (name : String) :
    IsDocument (v.get name) := by
  rw [Value.get]
  cases hfound : Entries.get? v.entries name with
  | none => exact .null
  | some w =>
      obtain ⟨entry, hentry, rfl⟩ := exists_mem_of_get? hfound
      cases h with
      | map _ hvalues => exact hvalues entry hentry
      | _ => cases hentry

end TabNotes.Json
