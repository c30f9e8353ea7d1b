import Mathlib.Data.List.Nodup
import TabNotes.Frontmatter.Items
import TabNotes.Proofs.Text.Blank
import TabNotes.Proofs.Text.Search

/-! # The items of a list

`firstPieces` says which pieces of a rendered list become its items: those that differ, up to case,
from every piece before them.  `keepFirst` finds them with the folded forms of the pieces it has
kept (`keepFirst_eq`).  Items can be joined by any text of commas and line breaks and are read again
(`listPieces_intercalate`), and lists that are joined have the items of the first one and then the
new ones of the second (`splitList_firsts`). -/

namespace TabNotes.Frontmatter

open TabNotes.Text

variable {pieces items seen seen' before after : List String} {piece item s sep : String} {c : Char}

/-! ### First pieces -/

/-- No piece before a place is the same up to case. -/
def IsNewAt (pieces : List String) (piece : String) (i : Nat) : Prop :=
  ∀ earlier ∈ pieces.take i, caseFold earlier ≠ caseFold piece

instance (pieces : List String) (piece : String) (i : Nat) : Decidable (IsNewAt pieces piece i) :=
  inferInstanceAs (Decidable (∀ earlier ∈ pieces.take i, _))

/-- The pieces that differ, up to case, from every piece before them. -/
def firstPieces (pieces : List String) : List String :=
  (pieces.zipIdx.filter fun place : String × Nat => IsNewAt pieces place.1 place.2).map Prod.fst

theorem isNewAt_cons_succ {i : Nat} : IsNewAt (item :: pieces) piece (i + 1) ↔
    caseFold item ≠ caseFold piece ∧ IsNewAt pieces piece i := by
  rw [IsNewAt, List.take_succ_cons, List.forall_mem_cons, IsNewAt]

/-- The pieces kept are the first of their kind, less those seen before. -/
theorem keepFirst_eq (seen pieces : List String) :
    keepFirst seen pieces =
      (pieces.zipIdx.filter fun place : String × Nat =>
        caseFold place.1 ∉ seen ∧ IsNewAt pieces place.1 place.2).map Prod.fst := by
  induction pieces generalizing seen with
  | nil => rfl
  | cons piece pieces ih =>
      have hmore : ((pieces.zipIdx 1).filter fun place : String × Nat =>
            caseFold place.1 ∉ seen ∧ IsNewAt (piece :: pieces) place.1 place.2).map Prod.fst =
          (pieces.zipIdx.filter fun place : String × Nat => caseFold place.1 ∉ seen ∧
            caseFold piece ≠ caseFold place.1 ∧ IsNewAt pieces place.1 place.2).map Prod.fst := by
        rw [List.zipIdx_succ, List.filter_map, List.map_map]
        refine congrArg (List.map Prod.fst) (List.filter_congr fun place _ => ?_)
        rw [Function.comp_apply, decide_eq_decide, isNewAt_cons_succ]
      have hnew : IsNewAt (piece :: pieces) piece 0 := by simp [IsNewAt]
      rw [List.zipIdx_cons, Nat.zero_add, List.filter_cons, keepFirst]
      dsimp only
      split
      · rename_i hseen
        rw [List.contains_iff_mem] at hseen
        rw [if_neg (by simp [hseen]), hmore, ih]
        refine congrArg (List.map Prod.fst) (List.filter_congr fun place _ => ?_)
        rw [decide_eq_decide]
        refine and_congr_right fun hother => (and_iff_right fun hsame => hother ?_).symm
        exact hsame ▸ hseen
      · rename_i hfresh
        rw [List.contains_iff_mem] at hfresh
        rw [if_pos (by simp [hfresh, hnew]), List.map_cons, hmore, ih]
        refine congrArg (piece :: List.map Prod.fst ·) (List.filter_congr fun place _ => ?_)
        rw [decide_eq_decide, List.mem_cons, not_or, and_assoc, and_left_comm, ne_comm]

theorem keepFirst_nil_eq (pieces : List String) : keepFirst [] pieces = firstPieces pieces := by
  rw [keepFirst_eq, firstPieces]
  simp

/-- What was seen before takes its pieces out of those that would be kept. -/
theorem keepFirst_eq_filter (seen pieces : List String) :
    keepFirst seen pieces = (keepFirst [] pieces).filter fun item => caseFold item ∉ seen := by
  rw [keepFirst_eq, keepFirst_nil_eq, firstPieces, List.filter_map, List.filter_filter]
  simp

theorem mem_of_mem_keepFirst (h : item ∈ keepFirst seen pieces) : item ∈ pieces := by
  rw [keepFirst_eq, List.mem_map] at h
  obtain ⟨place, hplace, rfl⟩ := h
  exact List.fst_mem_of_mem_zipIdx (List.mem_filter.mp hplace).1

theorem caseFold_not_mem_of_mem_keepFirst (h : item ∈ keepFirst seen pieces) :
    caseFold item ∉ seen := by
  rw [keepFirst_eq_filter] at h
  simpa using (List.mem_filter.mp h).2

/-- No two pieces that are kept are the same up to case. -/
theorem nodup_keepFirst (seen pieces : List String) :
    ((keepFirst seen pieces).map caseFold).Nodup := by
  induction pieces generalizing seen with
  | nil => exact List.nodup_nil
  | cons piece pieces ih =>
      rw [keepFirst]
      split
      · exact ih seen
      · refine List.nodup_cons.mpr ⟨fun hmem => ?_, ih _⟩
        obtain ⟨item, hitem, hsame⟩ := List.mem_map.mp hmem
        refine caseFold_not_mem_of_mem_keepFirst hitem ?_
        rw [hsame]
        exact List.mem_cons_self

/-- Pieces that differ up to case are all kept. -/
theorem keepFirst_of_nodup (h : (items.map caseFold).Nodup)
    (hseen : ∀ item ∈ items, caseFold item ∉ seen) : keepFirst seen items = items := by
  induction items generalizing seen with
  | nil => rfl
  | cons item items ih =>
      obtain ⟨hitem, hrest⟩ := List.forall_mem_cons.mp hseen
      obtain ⟨hnew, hnodup⟩ := List.nodup_cons.mp h
      have hmore : ∀ other ∈ items, caseFold other ∉ caseFold item :: seen := by
        intro other hother hmem
        rcases List.mem_cons.mp hmem with hsame | hmem
        · exact hnew (hsame ▸ List.mem_map_of_mem hother)
        · exact hrest other hother hmem
      rw [keepFirst]
      rw [if_neg (by simpa using hitem), ih hnodup hmore]

/-- For each piece one that is the same up to case is kept, the piece itself or one before it. -/
theorem exists_mem_keepFirst (hseen : caseFold piece ∉ seen) (before after : List String) :
    ∃ item ∈ keepFirst seen (before ++ piece :: after),
      caseFold item = caseFold piece ∧ item ∈ before ++ [piece] := by
  induction before generalizing seen with
  | nil =>
      refine ⟨piece, ?_, rfl, List.mem_singleton_self piece⟩
      rw [List.nil_append, keepFirst]
      rw [if_neg (by simpa using hseen)]
      exact List.mem_cons_self
  | cons first before ih =>
      rw [List.cons_append, keepFirst]
      split
      · obtain ⟨item, hitem, hsame, hmem⟩ := ih hseen
        exact ⟨item, hitem, hsame, List.mem_cons_of_mem first hmem⟩
      · by_cases hfirst : caseFold first = caseFold piece
        · exact ⟨first, List.mem_cons_self, hfirst, List.mem_cons_self⟩
        · have hnot : caseFold piece ∉ caseFold first :: seen := by
            rw [List.mem_cons, not_or]
            exact ⟨fun h => hfirst h.symm, hseen⟩
          obtain ⟨item, hitem, hsame, hmem⟩ := ih hnot
          exact ⟨item, List.mem_cons_of_mem first hitem, hsame, List.mem_cons_of_mem first hmem⟩

/-- After other pieces those are kept that differ from what is kept of them. -/
theorem keepFirst_append (seen pieces more : List String) :
    keepFirst seen (pieces ++ more) = keepFirst seen pieces ++
      (keepFirst [] more).filter fun item =>
        caseFold item ∉ seen ∧ caseFold item ∉ (keepFirst seen pieces).map caseFold := by
  induction pieces generalizing seen with
  | nil =>
      rw [List.nil_append, keepFirst_eq_filter]
      simp [keepFirst]
  | cons piece pieces ih =>
      rw [List.cons_append, keepFirst, keepFirst]
      split
      · exact ih seen
      · rw [ih, List.cons_append]
        refine congrArg (fun rest => piece :: (_ ++ rest)) (List.filter_congr fun item _ => ?_)
        rw [decide_eq_decide, List.map_cons, List.mem_cons, List.mem_cons, not_or, not_or, and_assoc,
          and_left_comm]

/-! ### Pieces -/

/-- The pieces of a text between commas and line breaks, without the white space around them and
without the blank ones. -/
def piecesBetween (s : String) : List String :=
  ((s.toList.splitOnP fun c => c = ',' ∨ c = '\r' ∨ c = '\n').map fun piece =>
    trim (String.ofList piece)).filter (· != "")

/-- The characters between pieces. -/
theorem isListCut_iff : isListCut c = true ↔ c = ',' ∨ c = '\r' ∨ c = '\n' := by
  simp [isListCut, or_assoc]

theorem listPieces_eq (s : String) : listPieces s = piecesBetween s := by
  have hcut : isListCut = fun c => decide (c = ',' ∨ c = '\r' ∨ c = '\n') := by
    funext c
    exact Bool.eq_iff_iff.mpr (isListCut_iff.trans decide_eq_true_iff.symm)
  rw [listPieces, piecesBetween, splitBy_eq_splitOnP, ← hcut]
  simp [trim]

theorem listPieces_append_cons (hc : isListCut c = true) (u v : List Char) :
    listPieces (String.ofList (u ++ c :: v)) =
      listPieces (String.ofList u) ++ listPieces (String.ofList v) := by
  simp only [listPieces, String.toList_ofList, splitBy_eq_splitOnP]
  rw [List.splitOnP_append_cons u v hc, List.map_append, List.filter_append]

/-- A text of commas and line breaks keeps pieces apart. -/
theorem listPieces_append_append (hne : sep ≠ "") (hcut : ∀ c ∈ sep.toList, isListCut c = true)
    (s t : String) : listPieces (s ++ sep ++ t) = listPieces s ++ listPieces t := by
  obtain ⟨c, cs, hsep⟩ := List.exists_cons_of_ne_nil fun h => hne (String.toList_eq_nil_iff.mp h)
  rw [hsep, List.forall_mem_cons] at hcut
  have hrest : listPieces (String.ofList (cs ++ t.toList)) = listPieces t := by
    have hcs := hcut.2
    clear hsep hcut
    induction cs with
    | nil => simp
    | cons d cs ih =>
        obtain ⟨hd, hcs⟩ := List.forall_mem_cons.mp hcs
        exact (listPieces_append_cons hd [] _).trans (ih hcs)
  have htext : s ++ sep ++ t = String.ofList (s.toList ++ c :: (cs ++ t.toList)) := by
    rw [← String.toList_inj]
    simp [hsep]
  rw [htext, listPieces_append_cons hcut.1, hrest, String.ofList_toList]

/-- A text that can be an item: trimmed, not blank, and in one piece. -/
structure IsItem (s : String) : Prop where
  filled : allBlank s = false
  trimmed : trim s = s
  whole : ∀ c ∈ s.toList, c ≠ ',' ∧ c ≠ '\r' ∧ c ≠ '\n'

theorem isListCut_eq_false_iff : isListCut c = false ↔ c ≠ ',' ∧ c ≠ '\r' ∧ c ≠ '\n' := by
  rw [← Bool.not_eq_true, isListCut_iff, not_or, not_or]

theorem isItem_of_mem_listPieces (h : piece ∈ listPieces s) : IsItem piece := by
  rw [listPieces, List.mem_filter, List.mem_map] at h
  obtain ⟨⟨cs, hcs, rfl⟩, hne⟩ := h
  have htrimmed : trim (String.ofList (trimChars cs)) = String.ofList (trimChars cs) := by
    rw [trim, String.toList_ofList, trimChars_eq_self_iff.mpr (isTrimmed_trimChars cs)]
  refine ⟨?_, htrimmed, fun c hc => ?_⟩
  · rw [← Bool.not_eq_true, ← trim_eq_empty_iff, htrimmed]
    exact bne_iff_ne.mp hne
  · rw [String.toList_ofList] at hc
    exact isListCut_eq_false_iff.mp
      (not_isCut_of_mem_splitBy hcs c ((trimChars_isInfix cs).subset hc))

theorem IsItem.listPieces_eq (h : IsItem s) : listPieces s = [s] := by
  have hsplit : splitBy isListCut s.toList = [s.toList] :=
    splitBy_of_not_isCut fun c hc => isListCut_eq_false_iff.mpr (h.whole c hc)
  have hne : s ≠ "" := by
    have hfilled := h.filled
    rw [← Bool.not_eq_true, ← trim_eq_empty_iff, h.trimmed] at hfilled
    exact hfilled
  have htrim : String.ofList (trimChars s.toList) = s := h.trimmed
  rw [listPieces, hsplit, List.map_singleton, htrim]
  simp [hne]

/-- Items that are joined by commas and line breaks are the pieces of the text. -/
theorem listPieces_intercalate (hne : sep ≠ "") (hcut : ∀ c ∈ sep.toList, isListCut c = true)
    (h : ∀ item ∈ items, IsItem item) : listPieces (sep.intercalate items) = items := by
  induction items with
  | nil => rfl
  | cons item items ih =>
      obtain ⟨hitem, hitems⟩ := List.forall_mem_cons.mp h
      cases items with
      | nil => exact hitem.listPieces_eq
      | cons next items =>
          rw [String.intercalate_cons_cons, listPieces_append_append hne hcut, ih hitems,
            hitem.listPieces_eq]
          rfl

/-! ### Items -/

theorem splitList_append_append (hne : sep ≠ "") (hcut : ∀ c ∈ sep.toList, isListCut c = true)
    (s t : String) : splitList (s ++ sep ++ t) = splitList s ++
      (splitList t).filter fun item => caseFold item ∉ (splitList s).map caseFold := by
  rw [splitList, listPieces_append_append hne hcut, keepFirst_append]
  simp [splitList]

theorem isItem_of_mem_splitList (h : item ∈ splitList s) : IsItem item :=
  isItem_of_mem_listPieces (mem_of_mem_keepFirst h)

/-- The items of a list joined again are those items. -/
theorem splitList_intercalate (hne : sep ≠ "") (hcut : ∀ c ∈ sep.toList, isListCut c = true)
    (s : String) : splitList (sep.intercalate (splitList s)) = splitList s := by
  rw [splitList, listPieces_intercalate hne hcut fun _ => isItem_of_mem_splitList]
  exact keepFirst_of_nodup (nodup_keepFirst [] _) (by simp)

/-- The items of a list are its pieces without those that repeat an earlier one up to case.  Each of
them can be an item, no two of them are the same up to case, and for each piece there is exactly one
that is the same up to case, the piece itself or one before it.  Joined by commas or line breaks they
are the items of the text, and a list after another one adds the items that are new. -/
theorem splitList_firsts (s : String) :
    splitList s = firstPieces (piecesBetween s) ∧
      (∀ item ∈ splitList s, IsItem item) ∧
      ((splitList s).map caseFold).Nodup ∧
      (∀ before piece after, piecesBetween s = before ++ piece :: after →
        ∃ item ∈ splitList s, caseFold item = caseFold piece ∧ item ∈ before ++ [piece] ∧
          ∀ other ∈ splitList s, caseFold other = caseFold piece → other = item) ∧
      (∀ sep, sep ≠ "" → (∀ c ∈ sep.toList, c = ',' ∨ c = '\r' ∨ c = '\n') →
        splitList (sep.intercalate (splitList s)) = splitList s) ∧
      ∀ t, splitList (s ++ "," ++ t) = splitList s ++
        (splitList t).filter fun item => caseFold item ∉ (splitList s).map caseFold := by
  have hnodup : ((splitList s).map caseFold).Nodup := nodup_keepFirst [] _
  refine ⟨?_, fun item => isItem_of_mem_splitList, hnodup, ?_, ?_, ?_⟩
  · rw [splitList, keepFirst_nil_eq, listPieces_eq]
  · intro before piece after hpieces
    have hseen : caseFold piece ∉ ([] : List String) := List.not_mem_nil
    obtain ⟨item, hitem, hsame, hmem⟩ := exists_mem_keepFirst hseen before after
    have hitem : item ∈ splitList s := by rwa [splitList, listPieces_eq, hpieces]
    refine ⟨item, hitem, hsame, hmem, fun other hother hsame' => ?_⟩
    exact List.inj_on_of_nodup_map hnodup hother hitem (hsame'.trans hsame.symm)
  · intro sep hne hcut
    exact splitList_intercalate hne (fun c hc => isListCut_iff.mpr (hcut c hc)) s
  · exact splitList_append_append (by decide) (by simp [isListCut]) s

/-- A list with blank pieces, two kinds of cuts side by side, and two words in two spellings each. -/
def mixedList : String := "Work, work\r\n\tStraße ,, STRASSE,x"

theorem splitList_mixedList : splitList mixedList = ["Work", "Straße", "x"] := by
  decide +kernel

theorem splitList_firsts_mixedList :
    piecesBetween mixedList = ["Work", "work", "Straße"] ++ "STRASSE" :: ["x"] ∧
      (∃ item ∈ splitList mixedList, caseFold item = caseFold "STRASSE" ∧
        item ∈ ["Work", "work", "Straße", "STRASSE"]) ∧
      ("\r\n" ≠ "" ∧ ∀ c ∈ "\r\n".toList, c = ',' ∨ c = '\r' ∨ c = '\n') ∧
      splitList ("\r\n".intercalate ["Work", "Straße", "x"]) = ["Work", "Straße", "x"] := by
  have hpieces : piecesBetween mixedList = ["Work", "work", "Straße"] ++ "STRASSE" :: ["x"] := by
    decide +kernel
  obtain ⟨-, -, -, hpiece, hjoin, -⟩ := splitList_firsts mixedList
  obtain ⟨item, hitem, hsame, hmem, -⟩ := hpiece _ _ _ hpieces
  have hcut : ∀ c ∈ "\r\n".toList, c = ',' ∨ c = '\r' ∨ c = '\n' := by simp
  have hjoin := hjoin "\r\n" (by decide) hcut
  rw [splitList_mixedList] at hjoin
  exact ⟨hpieces, ⟨item, hitem, hsame, hmem⟩, ⟨by decide, hcut⟩, hjoin⟩

end TabNotes.Frontmatter
