import TabNotes.Obsidian.Link
import TabNotes.Obsidian.NotePath
import TabNotes.Value.Access

/-! # Planning the hand-over of a note

A note goes to the application by a link.  When the note is on the clipboard too, its content is put
into the link only as long as that stays within the limit; otherwise a link that is too long is not
opened at all. -/

namespace TabNotes.Obsidian

/-- How a note is handed over. -/
inductive Plan where
  /-- The application is not used. -/
  | off
  /-- The link would have the given length, which is beyond the limit. -/
  | tooLong (notePath : String) (length : Nat)
  | openLink (link notePath : String)

/-- The path of the note, empty when the application is not used. -/
def Plan.notePath : Plan → String
  | off => ""
  | tooLong path _ => path
  | openLink _ path => path

/-- The link to open. -/
def Plan.link? : Plan → Option String
  | openLink link _ => some link
  | _ => none

/-- Why there is no link to open. -/
def Plan.reason? : Plan → Option String
  | off => some "disabled"
  | tooLong _ _ => some "url_too_long"
  | openLink _ _ => none

/-- The length of the link, also of one that is not opened. -/
def Plan.totalLength? : Plan → Option Nat
  | off => none
  | tooLong _ length => some length
  | openLink link _ => some link.length

/-- The settings of a place. -/
def Place.settings (p : Place) : Value :=
  .record [("enabled", .bool p.isUsable), ("vault", .text p.vault), ("notePath", .text p.notePath)]

/-- Plans the hand-over, given whether the link with the content is too long. -/
def planFor (request : Request) (isTooLong : Bool) : Plan :=
  if isTooLong then
    if request.clipboard then .openLink { request with content := "" }.link request.file
    else .tooLong request.file request.totalLength
  else .openLink request.link request.file

/-- Plans the hand-over with a limit on the length of links. -/
def plan (request : Request) (limit : Int) : Plan :=
  planFor request (limit < request.totalLength)

/-- Whether a length is beyond a limit, which has to be a number. -/
def isBeyond (limit : Value) (length : Nat) : Except Fault Bool :=
  match limit with
  | .int n => .ok (n < length)
  | .bool b => .ok ((if b then 1 else 0) < length)
  | .float x =>
    match Number.parts x with
    | .nan => .ok false
    | .infinite negative => .ok negative
    | .finite negative m e =>
      -- a length is beyond a number exactly when it is beyond its integer part, or equals the
      -- integer part of a negative fraction
      let whole := Number.truncated negative m e
      .ok (whole < length || (negative && (Number.toInt? x).isNone && whole ≤ length))
  | v => .error (.notComparable "int" v.typeName)

/-- Plans the hand-over of a note after settings with the entries `enabled`, `vault` and
`notePath`. -/
def planOf (markdown stamp settings : Value) (clipboard : Bool) (limit : Value) :
    Except Fault Plan := do
  let enabled ← settings.field "enabled"
  if enabled.isTrue then
    let path ← ((settings.get "notePath").orElse (.text "")).asText "replace"
    let stampText ←
      match stamp with
      | .text s => pure s
      | v => .error (.badReplacement v.typeName)
    let request ← Request.ofValues (settings.get "vault") (.text (stampedPath path stampText))
      markdown clipboard true false
    return planFor request (← isBeyond limit request.totalLength)
  else return .off

end TabNotes.Obsidian
