import TabNotes.Fault
import TabNotes.Files.Path
import TabNotes.Text.Blank
import TabNotes.Text.Quoted
import TabNotes.Text.Utf8

/-! # File trees

A tree gives the nodes at locations; the root is always a directory.  Reading, writing and making
directories follow a path name by name: each name but the last has to be that of a directory, also
in front of two dots.  A fault shows the path that was asked for.

`put_node?` says what a change does to the nodes: the one at its location is new, and all others
stay. -/

namespace TabNotes.Files

open TabNotes.Text

/-- What stands at a location. -/
inductive Node where
  | directory
  | file (content : List UInt8)
deriving DecidableEq

/-- A file tree: its nodes below the root by their locations. -/
structure Tree where
  nodes : List (Location × Node)
deriving DecidableEq

namespace Tree

/-- A tree with nothing but its root. -/
def empty : Tree := ⟨[]⟩

/-- The node at a location. -/
def node? (t : Tree) (l : Location) : Option Node :=
  if l == [] then some .directory else t.nodes.lookup l

/-- Sets the node at a location. -/
def put (t : Tree) (l : Location) (n : Node) : Tree :=
  ⟨(l, n) :: t.nodes.filter fun entry => entry.1 != l⟩

/-- Takes away the node at a location and all below it. -/
def erase (t : Tree) (l : Location) : Tree :=
  ⟨t.nodes.filter fun entry => !l.isPrefixOf entry.1⟩

/-- Looking up in a filtered list a key that the filter keeps. -/
theorem lookup_filter {nodes : List (Location × Node)} {l m : Location} (h : m ≠ l) :
    (nodes.filter fun entry => entry.1 != l).lookup m = nodes.lookup m := by
  induction nodes with
  | nil => rfl
  | cons entry nodes ih =>
    obtain ⟨k, n⟩ := entry
    by_cases hk : k = l
    · subst hk
      simp [List.lookup_cons, ih, beq_eq_false_iff_ne.2 h]
    · simp only [List.filter_cons, bne_iff_ne, ne_eq, hk, not_false_eq_true, ite_true,
        List.lookup_cons, ih]

/-- What setting a node below the root does to the nodes. -/
theorem node?_put {t : Tree} {l m : Location} {n : Node} (h : l ≠ []) :
    (t.put l n).node? m = if m = l then some n else t.node? m := by
  unfold node? put
  by_cases hm : m = l
  · subst hm
    simp [h]
  · simp only [List.lookup_cons, beq_eq_false_iff_ne.2 hm, lookup_filter hm, hm, ite_false]

/-! ### Following paths -/

/-- The longest name that a node can have, in bytes. -/
def longestName : Nat := 255

/-- Whether a name is longer than that of any node. -/
def isTooLong (name : String) : Bool := longestName < (Utf8.encode name.toList).length

/-- Follows a name from a location, which has to be that of a directory. -/
def step (t : Tree) (l : Location) (name : String) : Except FileRefusal Location :=
  match t.node? l with
  | some .directory =>
    if name != above && isTooLong name then .error .nameTooLong else .ok (Path.follow l name)
  | some (.file _) => .error .notDirectory
  | none => .error .missing

/-- Follows names from a location.  Nothing needs to stand where they lead. -/
def walk (t : Tree) (l : Location) : List String → Except FileRefusal Location
  | [] => .ok l
  | name :: names => do
    let next ← t.step l name
    t.walk next names

/-- The location where a path leads. -/
def locate (t : Tree) (workingDirectory : Location) (p : Path) : Except FileRefusal Location :=
  t.walk (p.origin workingDirectory) p.names

/-- The fault for what is refused at a path. -/
def refusal (p : Path) (cause : FileRefusal) : Fault := .file cause (quoted p.text)

/-- Whether a text holds the character zero, which no name has. -/
def holdsNul (p : Path) : Bool := p.names.any fun name => name.toList.contains '\x00'

/-! ### Operations -/

/-- Whether something stands where a path leads; a name that is too long is refused. -/
def exists? (t : Tree) (workingDirectory : Location) (p : Path) : Except Fault Bool :=
  if holdsNul p then .ok false
  else
    match t.locate workingDirectory p with
    | .ok l => .ok (t.node? l).isSome
    | .error .nameTooLong => .error (refusal p .nameTooLong)
    | .error _ => .ok false

/-- The bytes of the file where a path leads. -/
def read (t : Tree) (workingDirectory : Location) (p : Path) : Except Fault (List UInt8) :=
  if holdsNul p then .error .nulInFileName
  else
    match t.locate workingDirectory p with
    | .error cause => .error (refusal p cause)
    | .ok l =>
      match t.node? l with
      | some (.file content) => .ok content
      | some .directory => .error (refusal p .isDirectory)
      | none => .error (refusal p .missing)

/-- The text of some bytes in UTF-8, with every line break as a line feed. -/
def textOf (content : List UInt8) : Except Fault String :=
  match Utf8.decode (content.map UInt8.toNat) with
  | .ok cs => .ok (String.ofList (unifyLineBreaks cs))
  | .error cause => .error (.encoding cause)

/-- The bytes of a text in UTF-8. -/
def bytesOf (s : String) : List UInt8 := (Utf8.encode s.toList).map UInt8.ofNat

/-- The text of the file where a path leads. -/
def readText (t : Tree) (workingDirectory : Location) (p : Path) : Except Fault String := do
  let content ← t.read workingDirectory p
  textOf content

/-- Writes a file where a path leads. -/
def write (t : Tree) (workingDirectory : Location) (p : Path) (content : List UInt8) :
    Except Fault Tree :=
  if holdsNul p then .error .nulInFileName
  else
    match t.locate workingDirectory p with
    | .error cause => .error (refusal p cause)
    | .ok l =>
      match t.node? l with
      | some .directory => .error (refusal p .isDirectory)
      | _ => .ok (t.put l (.file content))

/-- Makes a directory where a path leads; one that is there already will do. -/
def makeDirectory (t : Tree) (workingDirectory : Location) (p : Path) :
    Except FileRefusal Tree := do
  let l ← t.locate workingDirectory p
  match t.node? l with
  | some .directory => return t
  | some (.file _) => .error .alreadyThere
  | none => return t.put l .directory

/-- One attempt at making a directory: the outcome, and the tree after it. -/
def attemptDirectory (t : Tree) (workingDirectory : Location) (p : Path) :
    Except Fault Unit × Tree :=
  match t.makeDirectory workingDirectory p with
  | .ok made => (.ok (), made)
  | .error cause => (.error (refusal p cause), t)

/-- Makes the directory of a path whose names are given from the last one to the first one.  When
the place for it is missing, the directory above is made first; it stays also if a fault comes
later. -/
def makeDirectoriesFrom (workingDirectory : Location) (start : Start) (t : Tree) :
    List String → Except Fault Unit × Tree
  | [] => t.attemptDirectory workingDirectory ⟨start, []⟩
  | name :: names =>
    let p : Path := ⟨start, (name :: names).reverse⟩
    match t.makeDirectory workingDirectory p with
    | .error .missing =>
      match makeDirectoriesFrom workingDirectory start t names with
      | (.ok (), made) => made.attemptDirectory workingDirectory p
      | (.error fault, made) => (.error fault, made)
    | _ => t.attemptDirectory workingDirectory p

/-- Makes the directory where a path leads and those above it. -/
def makeDirectories (t : Tree) (workingDirectory : Location) (p : Path) :
    Except Fault Unit × Tree :=
  if holdsNul p then (.error .nulInDirectoryName, t)
  else makeDirectoriesFrom workingDirectory p.start t p.names.reverse

end Tree

end TabNotes.Files
