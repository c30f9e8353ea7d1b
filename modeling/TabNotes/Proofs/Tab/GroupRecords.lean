import TabNotes.Tab.Records

/-! # The records of groups

`knownOf` says what is known of the group with an id: what the last record with that id says, and
empty fields if there is none.  The id of a record is its own one; a record without one in a map has
the integer that its key is read as.  Where the index is built it gives exactly this
(`get_of_eq_ok`). -/

namespace TabNotes.Tab

/-- The group records in a map, with their keys, or in a list. -/
def candidates (groups : Value) : List (Option Key × Value) :=
  match groups with
  | .map entries => entries.map fun entry => (some entry.1, entry.2)
  | .list _ items => items.map fun record => (none, record)
  | _ => []

/-- The id of a record, which stands under a key in a map. -/
def resolvedId? (key : Option Key) (record : Value) : Option Int :=
  (record.get "id").wholeNumber?.or (key.bind fun key => key.toValue.toInteger.toOption)

def isRecordOf (id : Int) (candidate : Option Key × Value) : Bool :=
  candidate.2.isMap && resolvedId? candidate.1 candidate.2 == some id

/-- The last of the records that have an id. -/
def lastRecord? (id : Int) (candidates : List (Option Key × Value)) : Option Value :=
  (candidates.filter (isRecordOf id)).getLast?.map (·.2)

/-- What is known of the group with an id. -/
def knownOf (groups : Value) (id : Int) : GroupInfo :=
  match lastRecord? id (candidates groups) with
  | some record => .of record
  | none => ⟨"", "", false, none⟩

/-! ### The index -/

namespace GroupIndex

variable {index result : GroupIndex} {id : Int} {record : Value}

theorem lookup_put (index : GroupIndex) (id : Int) (record : Value) (i : Int) :
    (put index id record).lookup i = if i = id then some record else index.lookup i := by
  induction index with
  | nil =>
      rw [put, List.lookup_cons, List.lookup_nil]
      by_cases hi : i = id
      · simp [hi]
      · simp [hi, beq_false_of_ne hi]
  | cons entry rest ih =>
      obtain ⟨j, r⟩ := entry
      rw [put]
      by_cases hj : j = id
      · subst hj
        rw [if_pos (by simp), List.lookup_cons, List.lookup_cons]
        by_cases hi : i = j
        · simp [hi]
        · simp [hi, beq_false_of_ne hi]
      · rw [if_neg (by simpa using hj), List.lookup_cons, List.lookup_cons, ih]
        by_cases hi : i = j
        · simp [hi, hj]
        · simp [beq_false_of_ne hi]

theorem lastRecord?_cons (id : Int) (candidate : Option Key × Value)
    (candidates : List (Option Key × Value)) :
    lastRecord? id (candidate :: candidates) =
      (lastRecord? id candidates).or (if isRecordOf id candidate then some candidate.2 else none) := by
  rw [lastRecord?, lastRecord?, List.filter_cons]
  split
  · rw [List.getLast?_cons]
    cases (candidates.filter (isRecordOf id)).getLast? <;> rfl
  · rw [Option.or_none]

theorem idUnder?_eq_ok {key : Key} {id? : Option Int} (h : idUnder? key record = .ok id?) :
    id? = resolvedId? (some key) record := by
  unfold idUnder? at h
  split at h
  · rename_i n hown
    cases h
    rw [resolvedId?, hown]
    rfl
  · rename_i hown
    rw [resolvedId?, hown, Option.none_or, Option.bind_some]
    unfold keyId? at h
    split at h
    · rename_i n hkey
      cases h
      rw [hkey]
      rfl
    · cases h
    · rename_i fault _ hkey
      cases h
      rw [hkey]
      rfl

/-- Setting the record of a candidate is what makes it the last one of its id. -/
theorem or_lookup_put {key : Option Key} (hmap : record.isMap = true)
    (hid : resolvedId? key record = some id) (last : Option Value) (i : Int) :
    last.or ((put index id record).lookup i) =
      (last.or (if isRecordOf i (key, record) then some record else none)).or (index.lookup i) := by
  have hrecord : isRecordOf i (key, record) = (id == i) := by
    simp [isRecordOf, hmap, hid]
  rw [lookup_put, hrecord]
  by_cases hi : i = id
  · simp [hi]
  · simp [hi, Ne.symm hi]

/-- A candidate without an id, or that is no map, is left out. -/
theorem or_lookup_of_not_isRecordOf {candidate : Option Key × Value}
    (h : isRecordOf id candidate = false) (last : Option Value) :
    last.or (index.lookup id) =
      (last.or (if isRecordOf id candidate then some candidate.2 else none)).or (index.lookup id) := by
  simp [h]

theorem lookup_addEntries {entries : Entries} (h : addEntries index entries = .ok result) (id : Int) :
    result.lookup id =
      (lastRecord? id (entries.map fun entry => (some entry.1, entry.2))).or (index.lookup id) := by
  induction entries generalizing index with
  | nil =>
      cases h
      rfl
  | cons entry rest ih =>
      obtain ⟨key, record⟩ := entry
      rw [List.map_cons, lastRecord?_cons]
      rw [addEntries] at h
      split at h
      · rename_i hmap
        cases hunder : idUnder? key record with
        | error fault =>
            rw [hunder] at h
            cases h
        | ok id? =>
            rw [hunder] at h
            have hid := idUnder?_eq_ok hunder
            cases id? with
            | some n =>
                rw [ih h]
                exact or_lookup_put hmap hid.symm _ id
            | none =>
                rw [ih h]
                refine or_lookup_of_not_isRecordOf ?_ _
                simp [isRecordOf, ← hid]
      · rename_i hmap
        rw [ih h]
        refine or_lookup_of_not_isRecordOf ?_ _
        simp [isRecordOf, hmap]

theorem lookup_foldl_addItem (index : GroupIndex) (items : List Value) (id : Int) :
    (items.foldl addItem index).lookup id =
      (lastRecord? id (items.map fun record => (none, record))).or (index.lookup id) := by
  induction items generalizing index with
  | nil => rfl
  | cons record items ih =>
      rw [List.foldl_cons, List.map_cons, lastRecord?_cons, ih, addItem]
      split
      · rename_i hmap hown
        refine or_lookup_put hmap ?_ _ id
        rw [resolvedId?, hown]
        rfl
      · rename_i hnone
        refine or_lookup_of_not_isRecordOf ?_ _
        cases hmap : record.isMap with
        | false => simp [isRecordOf, hmap]
        | true =>
            cases hown : (record.get "id").wholeNumber? with
            | none => simp [isRecordOf, resolvedId?, hown]
            | some n => exact absurd hown (hnone n hmap)

theorem lookup_of_eq_ok {groups : Value} (h : of groups = .ok result) (id : Int) :
    result.lookup id = lastRecord? id (candidates groups) := by
  cases groups with
  | map entries =>
      rw [lookup_addEntries h id]
      exact Option.or_none
  | list fixed items =>
      cases h
      rw [lookup_foldl_addItem]
      exact Option.or_none
  | _ =>
      cases h
      rfl

/-- The index gives what is known of every group. -/
theorem get_of_eq_ok {groups : Value} (h : of groups = .ok result) (id : Int) :
    GroupInfo.of (result.get id) = knownOf groups id := by
  rw [get, lookup_of_eq_ok h, knownOf]
  cases lastRecord? id (candidates groups) <;> rfl

/-! ### Keys that stop the index -/

open TabNotes.Number

variable {fault : Fault} {key : Key} {entries : Entries}

theorem readInteger_ne_infinity (s : String) : readInteger s ≠ .error .infinityToInteger := by
  unfold readInteger
  dsimp only
  split
  · simp
  · split
    · simp
    · split
      · simp
      · split <;> simp

theorem toInteger_eq_infinity_iff {v : Value} :
    v.toInteger = .error .infinityToInteger ↔
      ∃ x negative, v = .float x ∧ parts x = .infinite negative := by
  cases v with
  | float x =>
      rw [Value.toInteger]
      cases hx : parts x <;> simp [hx]
  | text s => simpa [Value.toInteger] using readInteger_ne_infinity s
  | _ => simp [Value.toInteger]

theorem keyId?_eq_error_iff :
    keyId? key = .error fault ↔
      key.toValue.toInteger = .error .infinityToInteger ∧ fault = .infinityToInteger := by
  unfold keyId?
  split
  · rename_i hkey
    simp [hkey]
  · rename_i hkey
    simp [hkey, eq_comm]
  · rename_i other hother hkey
    simpa [hkey] using fun h _ => hother h

/-- Whether an entry of a map stops the index: a record without an id under an infinite key. -/
def StopsIndex (entry : Key × Value) : Prop :=
  entry.2.isMap = true ∧ (entry.2.get "id").wholeNumber? = none ∧
    ∃ x negative, entry.1 = .float x ∧ parts x = .infinite negative

theorem idUnder?_eq_error_iff :
    idUnder? key record = .error fault ↔
      ((record.get "id").wholeNumber? = none ∧
        ∃ x negative, key = .float x ∧ parts x = .infinite negative) ∧ fault = .infinityToInteger := by
  have hkey : (∃ x negative, key.toValue = .float x ∧ parts x = .infinite negative) ↔
      ∃ x negative, key = .float x ∧ parts x = .infinite negative := by
    cases key <;> simp [Key.toValue]
  unfold idUnder?
  split
  · rename_i hown
    simp [hown]
  · rename_i hown
    rw [keyId?_eq_error_iff, toInteger_eq_infinity_iff, hkey]
    simp [hown]

theorem addEntries_eq_error_iff :
    addEntries index entries = .error fault ↔
      (∃ entry ∈ entries, StopsIndex entry) ∧ fault = .infinityToInteger := by
  induction entries generalizing index with
  | nil => simp [addEntries]
  | cons entry entries ih =>
      obtain ⟨key, record⟩ := entry
      rw [addEntries]
      split
      · rename_i hmap
        simp only [List.mem_cons, exists_eq_or_imp]
        cases hunder : idUnder? key record with
        | error other =>
            obtain ⟨hstop, rfl⟩ := idUnder?_eq_error_iff.mp hunder
            have hentry : StopsIndex (key, record) := ⟨hmap, hstop⟩
            constructor
            · rintro ⟨⟩
              exact ⟨.inl hentry, rfl⟩
            · rintro ⟨-, rfl⟩
              rfl
        | ok id? =>
            have hentry : ¬ StopsIndex (key, record) := by
              rintro ⟨-, hstop⟩
              rw [idUnder?_eq_error_iff.mpr ⟨hstop, rfl⟩] at hunder
              cases hunder
            rw [or_iff_right hentry]
            cases id? with
            | some id => exact ih
            | none => exact ih
      · rename_i hmap
        rw [ih]
        simp [StopsIndex, hmap]

/-- The index of groups is missing exactly when a record in a map without an id stands under an
infinite key. -/
theorem of_eq_error_iff {groups : Value} :
    of groups = .error fault ↔
      (∃ entry ∈ groups.entries, StopsIndex entry) ∧ fault = .infinityToInteger := by
  cases groups with
  | map entries => exact addEntries_eq_error_iff
  | _ => simp [of, Value.entries]

end GroupIndex

end TabNotes.Tab
