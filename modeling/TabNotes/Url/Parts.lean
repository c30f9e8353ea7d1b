import TabNotes.Text.Blank
import TabNotes.Url.Split
import TabNotes.Value.Basic

/-! # The parts of a URL in a note

The parts that templates can name, each with its delimiter: `https:`, `?q=1`, `#top`.  A URL that
cannot be split, has no scheme, or lacks the host that its scheme asks for has empty parts. -/

namespace TabNotes.Url

open TabNotes.Text

/-- The parts of a URL. -/
structure Parts where
  hostname : String
  /-- Scheme, host and a port that is not the scheme's own one. -/
  origin : String
  protocol : String
  pathname : String
  search : String
  hash : String
deriving DecidableEq

/-- The parts of a URL that is not understood. -/
def Parts.empty : Parts := ⟨"", "", "", "", "", ""⟩

/-- The schemes whose URLs have an origin, with the port each one uses by default. -/
def originPorts : List (String × Nat) :=
  [("http", 80), ("https", 443), ("ftp", 21), ("ws", 80), ("wss", 443)]

/-- A part with its delimiter in front; an empty part has none. -/
def delimited (delimiter : String) (cs : List Char) : String :=
  if cs.isEmpty then "" else delimiter ++ String.ofList cs

/-- Scheme, host and port as an origin. -/
def originText (scheme host : String) (defaultPort : Nat) (port : Option Nat) : String :=
  scheme ++ "://" ++ host ++
    match port with
    | some p => if p == defaultPort then "" else ":" ++ toString p
    | none => ""

/-- The parts of a split URL. -/
def Parts.ofSplit (s : Split) : Parts :=
  let scheme := String.ofList s.scheme
  let host := String.ofList s.host
  let defaultPort := originPorts.lookup scheme
  if scheme == "" then .empty
  else if defaultPort.isSome && host == "" then .empty
  else
    { hostname := host
      origin :=
        match defaultPort with
        | some standard => originText scheme host standard s.port
        | none => ""
      protocol := scheme ++ ":"
      pathname :=
        if (defaultPort.isSome || scheme == "file") && s.path.isEmpty then "/"
        else String.ofList s.path
      search := delimited "?" s.query
      hash := delimited "#" s.fragment }

/-- The parts of a URL. -/
def Parts.of (url : String) : Parts :=
  let cs := trimChars url.toList
  if cs.isEmpty then .empty
  else
    match Split.of? cs with
    | some s => .ofSplit s
    | none => .empty

/-- The parts as fields of a record. -/
def Parts.fields (p : Parts) : List (String × Value) :=
  [("hostname", .text p.hostname), ("origin", .text p.origin), ("protocol", .text p.protocol),
    ("pathname", .text p.pathname), ("search", .text p.search), ("hash", .text p.hash)]

end TabNotes.Url
