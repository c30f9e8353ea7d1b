import TabNotes.Proofs.Runs
import TabNotes.Template.Render

/-! # Rendering without the stack

`output` renders tokens over frames that it is given, where `renderTokens` keeps the frames in a
stack that sections push to and pop from.  The two agree, and the stack that is left is the stack at
the start, whether or not rendering succeeds (`renderOver_eq`).  So runs over one stack do not
disturb each other (`stack_restored`). -/

namespace TabNotes.Template

/-- The text of a section over a value, where `body` gives the text of what stands in it. -/
def sectionOutput (body : List Value → Except Fault String) (v : Value) (frames : List Value) :
    Except Fault String :=
  match v with
  | .list _ items => do
    let parts ← items.mapM fun item => body (item :: frames)
    return String.join parts
  | .map entries => body (.map entries :: frames)
  | v => if isShown v then body frames else return ""

mutual

/-- The text of a token over frames. -/
def Token.output : Token → List Value → Except Fault String
  | .text s, _ => .ok s
  | .comment, _ => .ok ""
  | .escaped name, frames => do
    let v ← lookup name frames
    let s ← valueText v
    return escapeMarkup s
  | .raw name, frames => do
    let v ← lookup name frames
    valueText v
  | .block name children, frames => do
    let v ← lookup name frames
    sectionOutput (output children) v frames
  | .inverted name children, frames => do
    let v ← lookup name frames
    if isShown v then return "" else output children frames
  | .foreign v, _ => do
    let shown ← v.shown
    .error (.template (.unsupportedToken shown))

/-- The text of tokens over frames. -/
def output : List Token → List Value → Except Fault String
  | [], _ => .ok ""
  | token :: tokens, frames => do
    let first ← token.output frames
    let rest ← output tokens frames
    return first ++ rest

end

/-! ### Computations over the stack -/

/-- A computation that has the given result over every stack, and leaves the stack as it was. -/
def GivesBack {α : Type} (body : Render α) (result : List Value → Except Fault α) : Prop :=
  ∀ frames, body.run.run frames = (result frames, frames)

section computations

variable {α β : Type}

theorem givesBack_pure (a : α) : GivesBack (pure a) fun _ => .ok a := fun _ => rfl

theorem givesBack_ofResult (result : Except Fault α) :
    GivesBack (Render.ofResult result) fun _ => result := fun _ => rfl

theorem givesBack_throw (fault : Fault) :
    GivesBack (throw fault : Render α) fun _ => .error fault := fun _ => rfl

theorem givesBack_bind {body : Render α} {result : List Value → Except Fault α}
    {next : α → Render β} {after : α → List Value → Except Fault β} (h : GivesBack body result)
    (hnext : ∀ a, GivesBack (next a) (after a)) :
    GivesBack (body >>= next) fun frames => result frames >>= fun a => after a frames := by
  intro frames
  rw [run_bind, h frames]
  dsimp only
  cases result frames with
  | error fault => rfl
  | ok a => exact hnext a frames

theorem givesBack_mapM {f : α → Render β} {g : α → List Value → Except Fault β}
    (h : ∀ a, GivesBack (f a) (g a)) (items : List α) :
    GivesBack (items.mapM f) fun frames => items.mapM fun a => g a frames := by
  induction items with
  | nil => exact givesBack_pure []
  | cons item items ih =>
      simp only [List.mapM_cons]
      exact givesBack_bind (h item) fun b =>
        givesBack_bind ih fun bs => givesBack_pure (b :: bs)

theorem givesBack_lookupName (name : String) : GivesBack (Render.lookupName name) (lookup name) :=
  fun _ => rfl

theorem givesBack_textOfName (name : String) :
    GivesBack (Render.textOfName name) fun frames => lookup name frames >>= valueText :=
  givesBack_bind (givesBack_lookupName name) fun v => givesBack_ofResult (valueText v)

theorem givesBack_within {body : Render α} {result : List Value → Except Fault α} (frame : Value)
    (h : GivesBack body result) :
    GivesBack (Render.within frame body) fun frames => result (frame :: frames) := by
  intro frames
  have hrun : (Render.within frame body).run.run frames =
      ((body.run.run (frame :: frames)).1, (body.run.run (frame :: frames)).2.tail) := rfl
  rw [hrun, h (frame :: frames)]
  rfl

theorem givesBack_ite {c : Prop} [Decidable c] {body body' : Render α}
    {result result' : List Value → Except Fault α} (h : GivesBack body result)
    (h' : GivesBack body' result') :
    GivesBack (if c then body else body') fun frames =>
      if c then result frames else result' frames := by
  intro frames
  split
  · exact h frames
  · exact h' frames

theorem givesBack_section {body : Render String} {result : List Value → Except Fault String}
    (h : GivesBack body result) (v : Value) :
    GivesBack (match v with
      | .list _ items => do
        let parts ← items.mapM fun item => Render.within item body
        return String.join parts
      | .map entries => Render.within (.map entries) body
      | v => if isShown v then body else pure "") (sectionOutput result v) := by
  cases v with
  | list fixed items =>
      exact givesBack_bind (givesBack_mapM (fun item => givesBack_within item h) items)
        fun parts => givesBack_pure (String.join parts)
  | map entries => exact givesBack_within (.map entries) h
  | _ => exact givesBack_ite h (givesBack_pure "")

end computations

/-! ### Tokens -/

mutual

theorem givesBack_renderToken : ∀ token : Token, GivesBack (renderToken token) token.output
  | .text s => by
      rw [renderToken]
      exact givesBack_pure s
  | .comment => by
      rw [renderToken]
      exact givesBack_pure ""
  | .escaped name => by
      intro frames
      rw [renderToken, Token.output, ← bind_assoc]
      exact givesBack_bind (givesBack_textOfName name) (fun s => givesBack_pure (escapeMarkup s))
        frames
  | .raw name => by
      intro frames
      rw [renderToken, Token.output]
      exact givesBack_textOfName name frames
  | .block name children => by
      intro frames
      rw [renderToken, Token.output]
      exact givesBack_bind (givesBack_lookupName name)
        (fun v => givesBack_section (givesBack_renderTokens children) v) frames
  | .inverted name children => by
      intro frames
      rw [renderToken, Token.output]
      exact givesBack_bind (givesBack_lookupName name)
        (fun v => givesBack_ite (givesBack_pure "") (givesBack_renderTokens children)) frames
  | .foreign v => by
      intro frames
      rw [renderToken, Token.output]
      exact givesBack_bind (givesBack_ofResult v.shown) (fun shown => givesBack_throw _) frames

theorem givesBack_renderTokens :
    ∀ tokens : List Token, GivesBack (renderTokens tokens) (output tokens)
  | [] => by
      rw [renderTokens]
      exact givesBack_pure ""
  | token :: tokens => by
      intro frames
      rw [renderTokens, output]
      exact givesBack_bind (givesBack_renderToken token)
        (fun first => givesBack_bind (givesBack_renderTokens tokens) fun rest =>
          givesBack_pure (first ++ rest)) frames

end

/-- Rendering over a stack gives the output over its frames, and the stack back. -/
theorem renderOver_eq (tokens : List Token) (frames : List Value) :
    renderOver tokens frames = (output tokens frames, frames) :=
  givesBack_renderTokens tokens frames

/-- Renders token lists one after the other over one stack, each from what the runs before it left
there, whether or not they succeeded. -/
def renderEach : List (List Token) → StateM (List Value) (List (Except Fault String))
  | [] => pure []
  | tokens :: runs => do
    let answer ← (renderTokens tokens).run
    let answers ← renderEach runs
    return answer :: answers

/-- What the first run leaves on the stack is what the other runs start from. -/
theorem run_renderEach_cons (tokens : List Token) (runs : List (List Token)) (frames : List Value) :
    (renderEach (tokens :: runs)).run frames =
      let (answer, left) := renderOver tokens frames
      let (answers, left) := (renderEach runs).run left
      (answer :: answers, left) := rfl

/-- Every run of the renderer ends with the stack that it started from, and so runs over one stack
give the answers that each of them gives alone. -/
theorem stack_restored :
    (∀ tokens frames, (renderOver tokens frames).2 = frames) ∧
      ∀ runs frames, (renderEach runs).run frames =
        (runs.map fun tokens => (renderOver tokens frames).1, frames) := by
  refine ⟨fun tokens frames => by rw [renderOver_eq], fun runs frames => ?_⟩
  induction runs with
  | nil => rfl
  | cons tokens runs ih =>
      -- The run leaves `frames`, so that the induction hypothesis is about the runs after it.
      rw [run_renderEach_cons, List.map_cons, renderOver_eq tokens frames]
      dsimp only
      rw [ih]

theorem render_eq (template : String) (context : Value) :
    render template context =
      match parse template defaultDepth with
      | .error fault => .error (.template (.malformed fault))
      | .ok tokens => output tokens [context] := by
  rw [render, renderValue, parseValue]
  cases parse template defaultDepth with
  | error fault => rfl
  | ok tokens => exact congrArg Prod.fst (renderOver_eq tokens [context])

end TabNotes.Template
