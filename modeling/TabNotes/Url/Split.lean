import TabNotes.Number.Integer
import TabNotes.Text.LowerCase
import TabNotes.Url.Address

/-! # Splitting URLs

`Split.of?` cuts a URL into scheme, authority, path, query and fragment, and the authority into host
and port.  Tabs and line breaks count nowhere, and control characters and spaces not at the start.
A URL is refused when its brackets do not enclose an IP address, when its port is no number up to
65535, or when a character of its authority is equivalent to text with a delimiter in it. -/

namespace TabNotes.Url

open TabNotes.Text TabNotes.Number

/-- The parts of a URL, without the delimiters between them. -/
structure Split where
  scheme : List Char
  /-- Without brackets; in lower case up to a zone. -/
  host : List Char
  port : Option Nat
  path : List Char
  query : List Char
  fragment : List Char

/-- A character that a scheme may have. -/
def isSchemeCharacter (c : Char) : Bool :=
  c.isAlphanum || c == '+' || c == '-' || c == '.'

/-- The URL without the characters that do not count. -/
def countedCharacters (cs : List Char) : List Char :=
  (cs.dropWhile fun c => c.toNat ≤ 0x20).filter fun c => c != '\t' && c != '\r' && c != '\n'

/-- The scheme in lower case, empty when there is none, and what follows its colon. -/
def takeScheme (cs : List Char) : List Char × List Char :=
  match cutAtChar ':' cs with
  | (c :: scheme, some rest) =>
    if c.isAlpha && scheme.all isSchemeCharacter then ((c :: scheme).map Char.toLower, rest)
    else ([], cs)
  | _ => ([], cs)

/-- A character that ends an authority. -/
def endsAuthority (c : Char) : Bool := c == '/' || c == '?' || c == '#'

/-- The authority, which two slashes announce, and what follows it. -/
def takeAuthority (cs : List Char) : List Char × List Char :=
  match cs with
  | '/' :: '/' :: rest =>
    (rest.takeWhile (!endsAuthority ·), rest.dropWhile (!endsAuthority ·))
  | _ => ([], cs)

/-- The characters that are equivalent, under compatibility normalisation, to text with one of
`/?#@:` in it. -/
def disguisedDelimiters : List Nat :=
  [0x2047, 0x2048, 0x2049, 0x2100, 0x2101, 0x2105, 0x2106, 0x2A74, 0xFE13, 0xFE16, 0xFE55, 0xFE56,
    0xFE5F, 0xFE6B, 0xFF03, 0xFF0F, 0xFF1A, 0xFF1F, 0xFF20]

/-- The host and the port as written, from an authority without user information. -/
def hostAndPort (cs : List Char) : List Char × List Char :=
  match cutAtChar '[' cs with
  | (_, some bracketed) =>
    let (host, rest) := cutAtChar ']' bracketed
    (host, ((cutAtChar ':' (rest.getD [])).2).getD [])
  | (_, none) =>
    let (host, port) := cutAtChar ':' cs
    (host, port.getD [])

/-- Whether the brackets of an authority are in order: nothing before them, at most a port after
them, and an IP address between them.  Brackets in the user information alone ask the same of the
host. -/
def bracketsAreSound (authority : List Char) : Bool :=
  let hasOpen := authority.contains '['
  let hasClose := authority.contains ']'
  if hasOpen && hasClose then
    let place := afterLast '@' authority
    match cutAtChar '[' place with
    | (before, some bracketed) =>
      let (host, rest) := cutAtChar ']' bracketed
      let after := rest.getD []
      before.isEmpty && (after.isEmpty || after.head? == some ':') && isBracketedHost host
    | (_, none) => isBracketedHost (cutAtChar ':' place).1
  else !hasOpen && !hasClose

/-- The port written in an authority, none when it is empty; refused when it is no number up to
65535. -/
def readPort (cs : List Char) : Option (Option Nat) :=
  if cs.isEmpty then some none
  else if cs.all Char.isDigit then
    if cs.length ≤ digitLimit && ofAsciiDigits cs ≤ 65535 then some (some (ofAsciiDigits cs))
    else none
  else none

/-- A host in lower case up to a zone. -/
def lowerHost (cs : List Char) : List Char :=
  match cutAtChar '%' cs with
  | (host, none) => lowerChars host
  | (host, some zone) => lowerChars host ++ '%' :: zone

/-- Splits a URL. -/
def Split.of? (url : List Char) : Option Split :=
  let (scheme, rest) := takeScheme (countedCharacters url)
  let (authority, rest) := takeAuthority rest
  let (rest, fragment) := cutAtChar '#' rest
  let (path, query) := cutAtChar '?' rest
  let (host, portText) := hostAndPort (afterLast '@' authority)
  if !bracketsAreSound authority then none
  else if authority.any fun c => disguisedDelimiters.contains c.toNat then none
  else
    match readPort portText with
    | none => none
    | some port =>
      some {
        scheme := scheme
        host := lowerHost host
        port := port
        path := path
        query := query.getD []
        fragment := fragment.getD [] }

end TabNotes.Url
