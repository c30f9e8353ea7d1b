import TabNotes.Proofs.Template.Lexemes
import TabNotes.Proofs.Template.Reading

/-! # Parsing in a single pass

The parser goes into a section by calling itself; `build` goes through the lexemes once and keeps
the open sections on a stack.  `readOn_lexChars` relates the two: what is left to do for the machine
is what the parser does in the innermost open section, and then what is left after its closing tag.
So both give the same tokens or the same fault (`parse_eq_build_lex`). -/

namespace TabNotes.Template

open TabNotes.Text

variable {limit : Int} {cs before after rest : List Char} {name : String} {ts tokens : List Token}

namespace Machine

/-! ### What the machine holds -/

/-- Adds tokens to the innermost open section. -/
def addAll (m : Machine) (ts : List Token) : Machine := ts.foldl add m

/-- The name of the innermost open section. -/
def innermost? (m : Machine) : Option String := m.stack.head?.map (·.name)

/-- The machine after the closing tag of the innermost open section; there is none outside of all
sections. -/
def closed? (m : Machine) : Option Machine :=
  match m.stack with
  | [] => none
  | s :: outer => some (add { m with stack := outer } s.token)

theorem addAll_append (m : Machine) (ts more : List Token) :
    m.addAll (ts ++ more) = (m.addAll ts).addAll more :=
  List.foldl_append

theorem addAll_top (top ts : List Token) : (⟨top, []⟩ : Machine).addAll ts = ⟨top ++ ts, []⟩ := by
  induction ts generalizing top with
  | nil => rw [List.append_nil]; rfl
  | cons token ts ih => exact (ih (top ++ [token])).trans (by rw [List.append_assoc]; rfl)

theorem addAll_section (top : List Token) (s : OpenSection) (outer : List OpenSection)
    (ts : List Token) :
    (⟨top, s :: outer⟩ : Machine).addAll ts =
      ⟨top, { s with children := s.children ++ ts } :: outer⟩ := by
  induction ts generalizing s with
  | nil => rw [List.append_nil]; rfl
  | cons token ts ih =>
      exact (ih { s with children := s.children ++ [token] }).trans (by rw [List.append_assoc]; rfl)

theorem length_stack_addAll (m : Machine) (ts : List Token) :
    (m.addAll ts).stack.length = m.stack.length := by
  obtain ⟨top, _ | ⟨s, outer⟩⟩ := m
  · rw [addAll_top]
  · rw [addAll_section]
    rfl

theorem innermost?_addAll (m : Machine) (ts : List Token) :
    (m.addAll ts).innermost? = m.innermost? := by
  obtain ⟨top, _ | ⟨s, outer⟩⟩ := m
  · rw [addAll_top]
    rfl
  · rw [addAll_section]
    rfl

/-! ### What a tag does to the machine -/

/-- Does what a tag asks for. -/
def obey (limit : Int) (m : Machine) : Tag → Except SyntaxFault Machine
  | .leaf tokens => .ok (m.addAll tokens)
  | .opening isInverted name => m.enter limit isInverted name
  | .closing name => m.leave name
  | .partialTag => .error .partialTag

theorem foldlM_literalLexemes (m : Machine) (cs : List Char) :
    (literalLexemes cs).foldlM (step limit) m = .ok (m.addAll (literal cs)) := by
  cases cs <;> rfl

theorem stepTag_eq (m : Machine) {inner more : List Char} {first : Char}
    (h : trimChars inner = first :: more) :
    m.stepTag limit first more = m.obey limit (.ofInner inner) := by
  rw [Tag.ofInner, h]
  unfold stepTag
  split
  · rfl
  · rfl
  · rfl
  · rfl
  · rfl
  · rfl
  · rename_i h1 h2 h3 h4 h5 h6
    simp [beq_false_of_ne h1, beq_false_of_ne h2, beq_false_of_ne h3, beq_false_of_ne h4,
      beq_false_of_ne h5, beq_false_of_ne h6]
    rfl

theorem foldlM_tagLexemes (m : Machine) (inner : List Char) :
    (tagLexemes inner).foldlM (step limit) m = m.obey limit (.ofInner inner) := by
  unfold tagLexemes
  split
  · rename_i h
    rw [Tag.ofInner, h]
    rfl
  · rename_i h
    rw [List.foldlM_cons, step, stepTag_eq m h]
    exact bind_pure _

/-- The lexemes of a tag do what the tag asks for; of a tag that does not end there is one lexeme,
which is refused. -/
theorem foldlM_lexTag (limit : Int) (m : Machine) (cs : List Char) :
    match readTag cs with
    | .error fault => ∃ lexeme, lexTag cs = ([lexeme], none) ∧ m.step limit lexeme = .error fault
    | .ok (tag, rest) =>
      (lexTag cs).2 = some rest ∧ (lexTag cs).1.foldlM (step limit) m = m.obey limit tag := by
  fun_cases lexTag cs with
  | case1 cs inner rest hcut =>
      rw [readTag, hcut]
      exact ⟨rfl, rfl⟩
  | case2 cs hcut =>
      rw [readTag, hcut]
      exact ⟨_, rfl, rfl⟩
  | case3 _ hcs inner rest hcut =>
      rw [readTag, hcut]
      · exact ⟨rfl, foldlM_tagLexemes m inner⟩
      · exact hcs
  | case4 _ hcs hcut =>
      rw [readTag, hcut]
      · exact ⟨_, rfl, rfl⟩
      · exact hcs

/-! ### The machine and the parser -/

/-- What the machine reads in lexemes until there are none left. -/
def readOn (limit : Int) (m : Machine) (lexemes : List Lexeme) :
    Except SyntaxFault (List Token) := do
  let m ← lexemes.foldlM (step limit) m
  m.finish

theorem readOn_append (m : Machine) (lexemes more : List Lexeme) :
    m.readOn limit (lexemes ++ more) =
      lexemes.foldlM (step limit) m >>= fun m => m.readOn limit more := by
  rw [readOn, List.foldlM_append, bind_assoc]
  rfl

/-- What the machine reads after the parser has read in the innermost open section: it closes that
section and reads on, or it is done. -/
def resume (limit : Int) (m : Machine) (result : List Token × List Char) :
    Except SyntaxFault (List Token) :=
  match (m.addAll result.1).closed? with
  | none => .ok (m.addAll result.1).top
  | some outer => outer.readOn limit (lexChars result.2)

theorem resume_readBefore (m : Machine) (ts : List Token) (result : List Token × List Char) :
    m.resume limit (readBefore ts result) = (m.addAll ts).resume limit result := by
  rw [resume, readBefore, addAll_append]
  rfl

theorem map_readBefore_bind_resume (m : Machine) (ts : List Token)
    (result : Except SyntaxFault (List Token × List Char)) :
    (result.map (readBefore ts)) >>= m.resume limit = result >>= (m.addAll ts).resume limit := by
  cases result with
  | error fault => rfl
  | ok result => exact resume_readBefore m ts result

theorem resume_top (top ts : List Token) (rest : List Char) :
    (⟨top, []⟩ : Machine).resume limit (ts, rest) = .ok (top ++ ts) := by
  rw [resume, addAll_top]
  rfl

theorem resume_section (top : List Token) (s : OpenSection) (outer : List OpenSection)
    (ts : List Token) (rest : List Char) :
    (⟨top, s :: outer⟩ : Machine).resume limit (ts, rest) =
      (add ⟨top, outer⟩ { s with children := s.children ++ ts }.token).readOn limit
        (lexChars rest) := by
  rw [resume, addAll_section]
  rfl

/-- A closing tag ends what the parser reads in a section, if it has the name of the section. -/
theorem leave_bind_readOn (m : Machine) (ts : List Token) (name : String) (rest : List Char) :
    ((m.addAll ts).leave name >>= fun m => m.readOn limit (lexChars rest)) =
      (if m.innermost? = some name then .ok (ts, rest) else .error (.unexpectedClose name)) >>=
        m.resume limit := by
  obtain ⟨top, _ | ⟨s, outer⟩⟩ := m
  · rw [addAll_top]
    rfl
  · rw [addAll_section]
    change (if s.name = name then _ else _) >>= _ = (if some s.name = some name then _ else _) >>= _
    by_cases hname : s.name = name
    · rw [if_pos hname, if_pos (congrArg some hname)]
      exact (resume_section top s outer ts rest).symm
    · rw [if_neg hname, if_neg fun h => hname (Option.some.inj h)]
      rfl

/-- What the parser reads in a section becomes the children of the section. -/
theorem resume_inside (m : Machine) (isInverted : Bool) (name : String) (ts : List Token)
    (rest : List Char) :
    (⟨m.top, ⟨isInverted, name, []⟩ :: m.stack⟩ : Machine).resume limit (ts, rest) =
      (m.addAll [section? isInverted name ts]).readOn limit (lexChars rest) := by
  rw [resume_section]
  cases isInverted <;> rfl

/-- That the machine reads what the parser reads in the innermost open section, and goes on from
there. -/
def FollowsParser (limit : Int) (cs : List Char) : Prop :=
  ∀ m : Machine, m.readOn limit (lexChars cs) =
    parseRest limit m.innermost? m.stack.length cs >>= m.resume limit

/-- An opening tag is followed by what the parser reads in its section, and then by what it reads
after the section. -/
theorem enter_bind_readOn (m : Machine) (ts : List Token) (isInverted : Bool) (name : String)
    (h : ∀ cs : List Char, cs.length ≤ rest.length → FollowsParser limit cs) :
    ((m.addAll ts).enter limit isInverted name >>= fun m => m.readOn limit (lexChars rest)) =
      (if name = "" then .error .missingName
        else if limit < m.stack.length + 1 then .error (.tooDeep limit)
        else
          match parseRest limit (some name) (m.stack.length + 1) rest with
          | .error fault => .error fault
          | .ok (children, inner) =>
            (parseRest limit m.innermost? m.stack.length inner).map
              (readBefore (ts ++ [section? isInverted name children]))) >>= m.resume limit := by
  rw [enter, length_stack_addAll]
  split
  · rfl
  split
  · rfl
  let inside : Machine := ⟨(m.addAll ts).top, ⟨isInverted, name, []⟩ :: (m.addAll ts).stack⟩
  have hlength : inside.stack.length = m.stack.length + 1 :=
    congrArg (· + 1) (length_stack_addAll m ts)
  change inside.readOn limit (lexChars rest) = _
  rw [h rest (Nat.le_refl _) inside, hlength]
  change parseRest limit (some name) (m.stack.length + 1) rest >>= inside.resume limit = _
  cases hchildren : parseRest limit (some name) (m.stack.length + 1) rest with
  | error fault => rfl
  | ok result =>
      obtain ⟨children, inner⟩ := result
      change inside.resume limit (children, inner) = _
      dsimp only
      rw [resume_inside, map_readBefore_bind_resume, addAll_append,
        h inner (length_le_of_parseRest hchildren), innermost?_addAll, innermost?_addAll,
        length_stack_addAll, length_stack_addAll]

theorem followsParser (limit : Int) (cs : List Char) : FollowsParser limit cs := by
  induction hn : cs.length using Nat.strongRecOn generalizing cs with
  | ind n ih =>
      intro m
      rw [lexChars_eq, parseRest_eq]
      cases hcut : cutAt tagOpen cs with
      | none =>
          dsimp only
          rw [readOn, foldlM_literalLexemes]
          obtain ⟨top, _ | ⟨s, outer⟩⟩ := m
          · rw [addAll_top]
            exact (resume_top top (literal cs) []).symm
          · rw [addAll_section]
            rfl
      | some cut =>
          obtain ⟨before, after⟩ := cut
          have hafter := length_after_cutAt hcut
          simp only [tagOpen, List.length_cons, List.length_nil] at hafter
          have hlex := foldlM_lexTag limit (m.addAll (literal before)) after
          dsimp only
          rw [readOn_append, foldlM_literalLexemes]
          cases htag : readTag after with
          | error fault =>
              rw [htag] at hlex
              obtain ⟨lexeme, hlexeme, hstep⟩ := hlex
              rw [hlexeme]
              change (step limit (m.addAll (literal before)) lexeme >>= _) >>= _ = _
              rw [hstep]
              rfl
          | ok result =>
              obtain ⟨tag, rest⟩ := result
              have hrest := length_rest_le_of_readTag htag
              rw [htag] at hlex
              rw [hlex.1]
              change (m.addAll (literal before)).readOn limit (_ ++ lexChars rest) = _
              rw [readOn_append, hlex.2]
              cases tag with
              | partialTag => rfl
              | closing name => exact leave_bind_readOn m (literal before) name rest
              | opening isInverted name =>
                  exact enter_bind_readOn m (literal before) isInverted name fun cs hcs =>
                    ih cs.length (by omega) cs rfl
              | leaf tokens =>
                  change ((m.addAll (literal before)).addAll tokens).readOn limit (lexChars rest) = _
                  dsimp only
                  rw [map_readBefore_bind_resume, ← addAll_append,
                    ih rest.length (by omega) rest rfl, innermost?_addAll, length_stack_addAll]

end Machine

/-! ### Where reading stops -/

/-- Going through a list fails at the first item that cannot be taken. -/
theorem foldlM_eq_error_iff {σ α ε : Type} {f : σ → α → Except ε σ} {s : σ} {items : List α}
    {e : ε} :
    items.foldlM f s = .error e ↔ ∃ before item after s', items = before ++ item :: after ∧
      before.foldlM f s = .ok s' ∧ f s' item = .error e := by
  induction items generalizing s with
  | nil => simp [pure, Except.pure]
  | cons x items ih =>
      rw [List.foldlM_cons, bind_eq_error_iff]
      constructor
      · rintro (hx | ⟨s', hs', h⟩)
        · exact ⟨[], x, items, s, rfl, rfl, hx⟩
        · obtain ⟨before, item, after, s'', rfl, hbefore, hitem⟩ := ih.mp h
          refine ⟨x :: before, item, after, s'', rfl, ?_, hitem⟩
          rw [List.foldlM_cons, hs']
          exact hbefore
      · rintro ⟨before, item, after, s', hitems, hbefore, hitem⟩
        cases before with
        | nil =>
            obtain ⟨rfl, rfl⟩ := List.cons.inj hitems
            cases hbefore
            exact .inl hitem
        | cons y before =>
            obtain ⟨rfl, rfl⟩ := List.cons.inj hitems
            rw [List.foldlM_cons] at hbefore
            obtain ⟨s'', hs'', hbefore⟩ := bind_eq_ok_iff.mp hbefore
            exact .inr ⟨s'', hs'', ih.mpr ⟨before, item, after, s', rfl, hbefore, hitem⟩⟩

/-- A single pass fails at the first lexeme that is out of place, and at the end of the lexemes if a
section is open. -/
theorem build_eq_error_iff {lexemes : List Lexeme} {fault : SyntaxFault} :
    build lexemes limit = .error fault ↔
      (∃ before lexeme after m, lexemes = before ++ lexeme :: after ∧
        before.foldlM (Machine.step limit) Machine.start = .ok m ∧
        m.step limit lexeme = .error fault) ∨
      ∃ m, lexemes.foldlM (Machine.step limit) Machine.start = .ok m ∧ m.finish = .error fault := by
  rw [build, bind_eq_error_iff, foldlM_eq_error_iff]

/-- The parser gives the tokens that a single pass over the lexemes gives, or the fault of the first
lexeme that is out of place. -/
theorem parse_eq_build_lex (template : String) (limit : Int) :
    parse template limit = build (lex template) limit ∧
      ∀ fault, parse template limit = .error fault ↔
        (∃ before lexeme after m, lex template = before ++ lexeme :: after ∧
          before.foldlM (Machine.step limit) Machine.start = .ok m ∧
          m.step limit lexeme = .error fault) ∨
        ∃ m, (lex template).foldlM (Machine.step limit) Machine.start = .ok m ∧
          m.finish = .error fault := by
  have hparse : parse template limit = build (lex template) limit := by
    have hread := Machine.followsParser limit template.toList .start
    rw [parse_eq_map_parseRest]
    refine Eq.trans ?_ hread.symm
    change _ = parseRest limit none 0 template.toList >>= Machine.start.resume limit
    cases parseRest limit none 0 template.toList with
    | error fault => rfl
    | ok result => exact (Machine.resume_top [] result.1 result.2).symm
  exact ⟨hparse, fun fault => by rw [hparse, build_eq_error_iff]⟩

end TabNotes.Template
