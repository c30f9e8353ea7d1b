import TabNotes.Fault

/-! # Notices

What an export tells its user while it goes on.  A `Report` computes a result or a fault and
collects the notices given on the way, which stay given when a fault comes after them. -/

namespace TabNotes

/-- Something to tell the user. -/
inductive Notice where
  /-- The template of a frontmatter field was replaced by its default. -/
  | fieldTemplateFailed (cause : TemplateFault)
  /-- The template of the note was replaced by the default one. -/
  | noteTemplateFailed (cause : TemplateFault)

/-- The wording of a notice. -/
def Notice.message : Notice → String
  | fieldTemplateFailed cause =>
    "warn: frontmatter template failed (" ++ cause.message ++ "); using default"
  | noteTemplateFailed cause =>
    "warn: template render failed (" ++ cause.message ++ "); using default template"

/-- A computation that gives notices and may end in a fault. -/
abbrev Report := ExceptT Fault (StateM (List Notice))

namespace Report

/-- A result that comes without notices. -/
def ofResult {α : Type} (result : Except Fault α) : Report α := ExceptT.mk (pure result)

/-- Gives a notice. -/
def tell (notice : Notice) : Report Unit := modify (· ++ [notice])

/-- The outcome of a computation and the notices it gave. -/
def outcome {α : Type} (report : Report α) : Except Fault α × List Notice := report.run.run []

/-- The first result, or the second one with a notice when the first is a template fault. -/
def orDefault {α : Type} (notice : TemplateFault → Notice) (result fallback : Except Fault α) :
    Report α :=
  match result with
  | .error (.template cause) => do
    tell (notice cause)
    ofResult fallback
  | result => ofResult result

end Report

end TabNotes
