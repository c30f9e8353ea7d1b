import TabNotes.Preferences
import TabNotes.Text.Blank
import TabNotes.Text.LowerCase
import TabNotes.Text.Search
import TabNotes.Text.WordCharacter

/-! # Note paths and vaults

A note path names a Markdown file in a vault.  Its segments stand between slashes or backslashes and
are taken without the white space around them; blank ones are dropped.  `.` and `..` are no
segments.  `resolve` reads what an export uses, and `Check.of` tells users what is wrong with what
they entered. -/

namespace TabNotes.Obsidian

open TabNotes.Text

/-- A character between the segments of a path. -/
def isSeparator (c : Char) : Bool := c == '/' || c == '\\'

/-- The trimmed segments of a path that are not blank. -/
def segments (path : String) : List String :=
  ((splitBy isSeparator path.toList).map fun piece => String.ofList (trimChars piece)).filter
    (· != "")

/-- The segments joined by slashes. -/
def joinSegments (path : String) : String := String.intercalate "/" (segments path)

/-- The ending of a Markdown file. -/
def markdownEnding : String := ".md"

/-- Whether a path names a Markdown file, in whatever case. -/
def isMarkdownPath (path : String) : Bool := endsWith markdownEnding (lower path)

/-- Whether a path has `.` or `..` among its segments. -/
def hasDotSegment (path : String) : Bool :=
  (splitOnChar '/' path).any fun segment => segment == "." || segment == ".."

/-- The path as an export uses it; empty when it cannot be used. -/
def cleanPath (path : String) : String :=
  let joined := joinSegments (trim path)
  if joined == "" then ""
  else
    let file := if isMarkdownPath joined then joined else joined ++ markdownEnding
    if hasDotSegment file then "" else file

/-- `cleanPath` for a value; only texts are paths. -/
def cleanPathOf (v : Value) : String :=
  match v with
  | .text s => cleanPath s
  | _ => ""

/-- The path for a given time of export. -/
def stampedPath (path stamp : String) : String :=
  replaceAll Preferences.timestampMark stamp path

/-- The name of the file that a note is written to when no other one is given. -/
def fileNameFor (stamp : String) : String := stamp ++ "_OpenTabs.md"

/-! ### Preferences -/

/-- Where notes go. -/
structure Place where
  vault : String
  notePath : String

/-- Whether notes can go there. -/
def Place.isUsable (p : Place) : Bool := p.vault != "" && p.notePath != ""

/-- The place that preferences give; a blank note path stands for the default one. -/
def Place.ofPreferences (preferences : Value) : Except Fault Place := do
  let vault ← preferences.field "obsidianVault"
  let path :=
    match preferences.get "obsidianNotePath" with
    | .text s => if allBlank s then Preferences.defaultNotePath else s
    | _ => Preferences.defaultNotePath
  return ⟨trim vault.textOrEmpty, cleanPath path⟩

/-! ### Checking what users enter -/

/-- What is wrong with a place. -/
inductive PlaceFault where
  | vaultMissing
  | badVault
  | pathMissing
  | notMarkdown
  | dotSegment
  | badPath
deriving DecidableEq

/-- The wording of what is wrong. -/
def PlaceFault.message : PlaceFault → String
  | vaultMissing => "Vault name is required when configuring Obsidian exports."
  | badVault => "Vault name may include letters, numbers, spaces, underscores, and hyphens."
  | pathMissing => "Provide a note path within your Obsidian vault."
  | notMarkdown => "Obsidian note paths must end with .md."
  | dotSegment => "Note paths cannot traverse parent directories."
  | badPath =>
    "Note paths may only include letters, numbers, spaces, hyphens, slashes, dots, and " ++
      Preferences.timestampMark ++ "."

/-- Whether a text can be the name of a vault: word characters, hyphens and, except at the start,
spaces. -/
def isVaultName (s : String) : Bool :=
  match s.toList with
  | c :: cs =>
    (isWordCharacter c || c == '-') &&
      cs.all fun c => isWordCharacter c || c == '-' || c == ' '
  | [] => false

/-- A character that a note path may have. -/
def isPathCharacter (c : Char) : Bool :=
  c.isAlphanum || [' ', '_', '-', '/', '{', '}', '.'].contains c

/-- A place as entered, tidied up, with what is wrong with it. -/
structure Check where
  vault : String
  notePath : String
  fault : Option PlaceFault

/-- What is wrong with a joined path. -/
def pathFault? (path : String) : Option PlaceFault :=
  if path == "" then some .pathMissing
  else if !isMarkdownPath path then some .notMarkdown
  else if hasDotSegment path then some .dotSegment
  else if !path.toList.all isPathCharacter then some .badPath
  else none

/-- Checks a vault and a note path, both trimmed; a missing path stands for the default one, and
nothing at all is no fault. -/
def Check.ofTrimmed (vault path : String) : Check :=
  if vault == "" then
    if path == "" then ⟨"", "", none⟩ else ⟨"", path, some .vaultMissing⟩
  else if !isVaultName vault then ⟨vault, path, some .badVault⟩
  else
    let joined := joinSegments (if path == "" then Preferences.defaultNotePath else path)
    ⟨vault, joined, pathFault? joined⟩

/-- Checks a vault and a note path as entered; anything else than a text counts as missing. -/
def Check.of (vault path : Value) : Check :=
  .ofTrimmed (trim vault.textOrEmpty) (trim path.textOrEmpty)

end TabNotes.Obsidian
