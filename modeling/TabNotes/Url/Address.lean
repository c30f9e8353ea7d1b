import TabNotes.Number.Integer
import TabNotes.Text.Hexadecimal
import TabNotes.Text.Search

/-! # IP addresses

Which texts are addresses of version 4 or 6, and which may stand between the brackets of a URL's
host: an address of version 6, with an optional zone after `%`, or one of a later version written
`v`, hexadecimal digits, a point and anything. -/

namespace TabNotes.Url

open TabNotes.Text TabNotes.Number

/-- Whether a text is a number from 0 to 255 in at most three digits without needless zeros. -/
def isOctet (cs : List Char) : Bool :=
  !cs.isEmpty && cs.all Char.isDigit && cs.length ≤ 3 && (cs == ['0'] || cs.head? != some '0') &&
    ofAsciiDigits cs ≤ 255

/-- Whether a text is an address of version 4. -/
def isIPv4 (cs : List Char) : Bool :=
  let octets := splitBy (· == '.') cs
  octets.length == 4 && octets.all isOctet

/-- Whether a text is one of the eight parts of an address of version 6. -/
def isHextet (cs : List Char) : Bool := !cs.isEmpty && cs.length ≤ 4 && cs.all isHexDigit

/-- The parts of an address of version 6 between its colons; an address of version 4 at the end
counts as two. -/
def hextets? (cs : List Char) : Option (List (List Char)) :=
  let parts := splitBy (· == ':') cs
  if parts.length < 3 then none
  else
    let last := parts.getLastD []
    if last.contains '.' then
      if isIPv4 last then some (parts.dropLast ++ [['0'], ['0']]) else none
    else some parts

/-- Whether the parts are an address of version 6: eight hextets, or fewer with one empty part in
place of the missing ones.  An address that starts or ends with the gap has a further empty part
there. -/
def areHextets (parts : List (List Char)) : Bool :=
  if 9 < parts.length then false
  else
    let inner := (parts.drop 1).dropLast
    match inner.countP (·.isEmpty) with
    | 0 => parts.length == 8 && parts.all isHextet
    | 1 =>
      let gap := inner.findIdx (·.isEmpty) + 1
      let before := parts.take gap
      let after := parts.drop (gap + 1)
      let startsWithGap := before.head? == some []
      let endsWithGap := after.getLast? == some []
      let high := if startsWithGap then [] else before
      let low := if endsWithGap then [] else after
      !(startsWithGap && gap != 1) && !(endsWithGap && after.length != 1) &&
        high.length + low.length < 8 && high.all isHextet && low.all isHextet
    | _ => false

/-- Whether a text is an address of version 6 without zone. -/
def isIPv6 (cs : List Char) : Bool :=
  match hextets? cs with
  | some parts => areHextets parts
  | none => false

/-- Whether a text is an address of version 6; a zone is not empty and has no `%`. -/
def isZonedIPv6 (cs : List Char) : Bool :=
  match cutAtChar '%' cs with
  | (address, none) => isIPv6 address
  | (address, some zone) => !zone.isEmpty && !zone.contains '%' && isIPv6 address

/-- Whether a text is an address of a later version. -/
def isLaterIP (cs : List Char) : Bool :=
  match cs with
  | 'v' :: rest =>
    let version := rest.takeWhile isHexDigit
    match rest.dropWhile isHexDigit with
    | '.' :: body => !version.isEmpty && !body.isEmpty
    | _ => false
  | _ => false

/-- Whether a text may stand between the brackets of a host. -/
def isBracketedHost (cs : List Char) : Bool :=
  if cs.head? == some 'v' then isLaterIP cs else isZonedIPv6 cs

end TabNotes.Url
