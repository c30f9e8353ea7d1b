import TabNotes.Proofs.Number.Digits
import TabNotes.Proofs.Template.DigitLimits
import TabNotes.Proofs.Text.Search

/-! # Sections and dotted paths

A section goes into a value by pushing it on the stack, a dotted path by walking on from where it
stands.  The two meet because a frame that lacks a path lacks every longer one
(`follow_append`): whatever frame resolves a name is also the one that resolves the paths below it
(`resolve_below`), and no inner frame comes between.  So a section over a list gives what the paths
of its items give, and one over a map what the path into the map gives
(`renderOver_section_eq_paths`). -/

namespace TabNotes.Template

open TabNotes.Text TabNotes.Number

variable {name path : String} {frames : List Value} {v w : Value}

/-! ### Paths -/

/-- A path goes on from where its first part leads. -/
theorem follow_append (first more : List String) (v : Value) :
    follow (first ++ more) v =
      match follow first v with
      | .error fault => .error fault
      | .ok none => .ok none
      | .ok (some w) => follow more w := by
  induction first generalizing v with
  | nil => rw [List.nil_append, follow]
  | cons segment first ih =>
      rw [List.cons_append, follow_cons, follow_cons segment first]
      rcases follow [segment] v with fault | _ | w
      · rfl
      · rfl
      · exact ih w

/-- The frame that resolves a path is the first one that does not lack a longer one. -/
theorem findPath_append {first more : List String} (h : findPath first frames = .ok (some v))
    (hmore : follow more v = .ok (some w)) : findPath (first ++ more) frames = .ok (some w) := by
  induction frames with
  | nil => cases h
  | cons frame frames ih =>
      rw [findPath] at h ⊢
      obtain ⟨found, hfound, h⟩ := bind_eq_ok_iff.mp h
      rw [follow_append, hfound]
      cases found with
      | none => exact ih h
      | some u =>
          cases h
          dsimp only
          rw [hmore]
          rfl

theorem splitOnChar_append (sep : Char) (s t : String) :
    splitOnChar sep (s ++ String.singleton sep ++ t) = splitOnChar sep s ++ splitOnChar sep t := by
  have hlist : (s ++ String.singleton sep ++ t).toList = s.toList ++ sep :: t.toList := by simp
  rw [splitOnChar, splitOnChar, splitOnChar, hlist, ← List.map_append]
  refine congrArg (List.map String.ofList) ?_
  induction s.toList with
  | nil => exact splitBy_cons_of_isCut (by simp) _
  | cons c cs ih =>
      obtain ⟨piece, pieces, hpieces⟩ := List.exists_cons_of_ne_nil (splitBy_ne_nil (· == sep) cs)
      rw [hpieces] at ih
      rw [List.cons_append, splitBy, splitBy, ih, hpieces]
      dsimp only [List.cons_append]
      split <;> rfl

/-- The name of what a path leads to below a name. -/
def below (name path : String) : String := name ++ "." ++ path

theorem below_ne_dot (hname : name ≠ "") : below name path ≠ "." := by
  intro h
  have hlength := congrArg String.length h
  have hpos : name.length ≠ 0 := by simpa using hname
  simp only [below, String.length_append] at hlength
  have : ".".length = 1 := rfl
  omega

/-- A path that can be followed from the value of a name is resolved below that name. -/
theorem resolve_below (hname : name ≠ "") (hdot : name ≠ ".")
    (h : resolve name frames = .ok (some v))
    (hpath : follow (splitOnChar '.' path) v = .ok (some w)) :
    resolve (below name path) frames = .ok (some w) := by
  rw [resolve, if_neg (by simpa using hdot)] at h
  rw [resolve, if_neg (by simpa using below_ne_dot hname)]
  have hsplit : splitOnChar '.' (below name path) =
      splitOnChar '.' name ++ splitOnChar '.' path := splitOnChar_append '.' name path
  rw [hsplit]
  exact findPath_append h hpath

theorem lookup_of_resolve {found : Option Value} (h : resolve name frames = .ok found) :
    lookup name frames = givenValue found := by
  rw [lookup_eq, h]
  rfl

/-! ### Positions -/

theorem isPosition_toString (i : Nat) : isPosition (toString i) = true := by
  rw [isPosition, Bool.and_eq_true, List.all_eq_true]
  refine ⟨?_, fun c hc => isDigit_of_mem_toString hc⟩
  rw [bne_iff_ne, ne_eq, ← String.toList_inj, Nat.toString_eq_repr, Nat.toList_repr]
  exact Nat.toDigits_ne_nil

/-- The number of a position leads to the item there. -/
theorem follow_position (fixed : Bool) (items : List Value) {i : Nat}
    (h : i < Nat.pow 10 digitLimit) :
    follow (splitOnChar '.' (toString i)) (.list fixed items) = .ok items[i]? := by
  have hnone : ∀ c ∈ (toString i).toList, (c == '.') = false := by
    intro c hc
    refine beq_false_of_ne ?_
    rintro rfl
    exact absurd (isDigit_of_mem_toString hc) (by decide)
  have hsplit : splitOnChar '.' (toString i) = [toString i] := by
    rw [splitOnChar, splitBy_of_not_isCut hnone, List.map_singleton, String.ofList_toList]
  rw [hsplit, follow, if_pos (isPosition_toString i), readDigits_toString h]
  dsimp only
  cases items[i]? <;> rfl

/-! ### Output -/

theorem mapM_congr_map {α β γ ε : Type} {f : α → Except ε γ} {g : β → Except ε γ} {as : List α}
    {bs : List β} (h : as.map f = bs.map g) : as.mapM f = bs.mapM g := by
  have hf : (as.map f).mapM id = as.mapM f := List.mapM_map (f := f) (g := id)
  have hg : (bs.map g).mapM id = bs.mapM g := List.mapM_map (f := g) (g := id)
  rw [← hf, ← hg, h]

/-- Tokens give their texts one after the other. -/
theorem output_map {α : Type} (token : α → Token) (items : List α) (frames : List Value) :
    output (items.map token) frames = (do
      let parts ← items.mapM fun item => (token item).output frames
      return String.join parts) := by
  induction items with
  | nil => rfl
  | cons item items ih =>
      rw [List.map_cons, output, ih, List.mapM_cons]
      cases (token item).output frames with
      | error fault => rfl
      | ok first =>
          cases items.mapM fun item => (token item).output frames with
          | error fault => rfl
          | ok rest => simp [bind, Except.bind, pure, Except.pure]

theorem output_singleton (token : Token) (frames : List Value) :
    output [token] frames = token.output frames := by
  rw [output, output]
  cases token.output frames with
  | error fault => rfl
  | ok s => simp [bind, Except.bind, pure, Except.pure]

theorem output_escaped_congr {other : String} {frames' : List Value}
    (h : lookup name frames = lookup other frames') :
    (Token.escaped name).output frames = (Token.escaped other).output frames' := by
  rw [Token.output, Token.output, h]

/-- A section over a list, with a tag for its items, gives what tags for the positions give. -/
theorem output_section_items {fixed : Bool} {items : List Value} (hname : name ≠ "")
    (hdot : name ≠ ".") (h : resolve name frames = .ok (some (.list fixed items)))
    (hlength : items.length ≤ Nat.pow 10 digitLimit) :
    output [.block name [.escaped "."]] frames =
      output ((List.range items.length).map fun i => .escaped (below name (toString i))) frames := by
  have hitem : ∀ i (hi : i < items.length), output [.escaped "."] (items[i] :: frames) =
      (Token.escaped (below name (toString i))).output frames := by
    intro i hi
    have hfollow := follow_position fixed items (hi.trans_le hlength)
    rw [List.getElem?_eq_getElem hi] at hfollow
    rw [output_singleton]
    refine output_escaped_congr ?_
    rw [lookup_of_resolve (resolve_below hname hdot h hfollow)]
    exact lookup_of_resolve rfl
  have hparts : (items.mapM fun item => output [.escaped "."] (item :: frames)) =
      (List.range items.length).mapM fun i =>
        (Token.escaped (below name (toString i))).output frames := by
    refine mapM_congr_map (List.ext_getElem (by simp) fun i hi _ => ?_)
    rw [List.getElem_map, List.getElem_map, List.getElem_range]
    exact hitem i (by simpa using hi)
  rw [output_map, ← hparts, output_singleton, Token.output, lookup_of_resolve h]
  rfl

/-- A section over a map, with a tag for a path in it, gives what a tag for the whole path gives. -/
theorem output_section_path {entries : Entries} (hname : name ≠ "") (hdot : name ≠ ".")
    (h : resolve name frames = .ok (some (.map entries))) (hpath : path ≠ ".")
    (hfollow : follow (splitOnChar '.' path) (.map entries) = .ok (some v)) :
    output [.block name [.escaped path]] frames = output [.escaped (below name path)] frames := by
  have hinner : resolve path (.map entries :: frames) = .ok (some v) := by
    rw [resolve, if_neg (by simpa using hpath), findPath, hfollow]
    rfl
  have hlookup : lookup path (.map entries :: frames) = lookup (below name path) frames := by
    rw [lookup_of_resolve hinner, lookup_of_resolve (resolve_below hname hdot h hfollow)]
  have hsection : (Token.block name [.escaped path]).output frames =
      output [.escaped path] (.map entries :: frames) := by
    rw [Token.output, lookup_of_resolve h]
    rfl
  rw [output_singleton, hsection, output_singleton, output_singleton,
    output_escaped_congr hlookup]

/-- Where a name resolves to a list, its section with the single tag `.` renders as the tags of the
positions do, one after the other; where it resolves to a map, its section with the single tag of a
path that the map resolves renders as the tag of the whole path does.  The bound on the list says
that its positions can be written in the digits that are read, and so leaves out no list that fits
into memory. -/
theorem renderOver_section_eq_paths (hname : name ≠ "") (hdot : name ≠ ".") :
    (∀ fixed items, resolve name frames = .ok (some (.list fixed items)) →
      items.length ≤ Nat.pow 10 digitLimit →
        renderOver [.block name [.escaped "."]] frames =
          renderOver ((List.range items.length).map fun i =>
            .escaped (name ++ "." ++ toString i)) frames) ∧
    ∀ entries path v, resolve name frames = .ok (some (.map entries)) → path ≠ "." →
      follow (splitOnChar '.' path) (.map entries) = .ok (some v) →
        renderOver [.block name [.escaped path]] frames =
          renderOver [.escaped (name ++ "." ++ path)] frames := by
  constructor
  · intro fixed items h hlength
    rw [renderOver_eq, renderOver_eq, output_section_items hname hdot h hlength]
    rfl
  · intro entries path v h hpath hfollow
    rw [renderOver_eq, renderOver_eq, output_section_path hname hdot h hpath hfollow]
    rfl

/-- The inner frame has the first segment of both names, but not the whole of either. -/
theorem renderOver_section_eq_paths_shadowed :
    let cells := [Value.text "a<b", .ofList [.text "c", .text "d"]]
    let frames := [Value.record [("row", .record [("size", .text "none")])],
      .record [("row", .record [("cells", .ofList cells), ("head", .record [("0", .text "&")])])]]
    renderOver [.block "row.cells" [.escaped "."]] frames =
        renderOver [.escaped "row.cells.0", .escaped "row.cells.1"] frames ∧
      renderOver [.block "row.head" [.escaped "0"]] frames =
        renderOver [.escaped "row.head.0"] frames ∧
      (renderOver [.escaped "row.cells.0", .escaped "row.cells.1", .escaped "row.head.0"] frames).1 =
        .ok "a&lt;bc,d&amp;" := by
  intro cells frames
  have hlength : cells.length ≤ Nat.pow 10 digitLimit := by
    have hpos : 1 ≤ digitLimit := by decide
    have htwo : cells.length = 2 ^ 1 := rfl
    generalize digitLimit = k at hpos ⊢
    rw [htwo, Nat.pow_eq]
    exact two_pow_le_ten_pow hpos
  have hitems := (renderOver_section_eq_paths (by decide) (by decide)).1 false cells
    (show resolve "row.cells" frames = _ from rfl) hlength
  have hpath := (renderOver_section_eq_paths (by decide) (by decide)).2
    [(.text "0", .text "&")] "0" (.text "&") (show resolve "row.head" frames = _ from rfl)
    (by decide) rfl
  exact ⟨hitems, hpath, rfl⟩

end TabNotes.Template
