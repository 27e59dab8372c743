import SshTunnel.Files.Tree

/-!
# Changing a file tree

Directories are made, entries are put in the place of others, and files are made by opening
them. A change is made where a path leads, through the links on the way. When it is refused,
the directories that were made for it stay.
-/

namespace SshTunnel.Files

/-- A tree after a change was tried, and why the change was refused, if it was. -/
structure Tried where
  tree : Tree
  refusal : Option Refusal

/-- Goes on with another change, unless the first one was refused. -/
def Tried.andThen (t : Tried) (change : Tree → Tried) : Tried :=
  if t.refusal.isNone then change t.tree else t

/-- The directory part of a path. -/
def parentOf (path : Text) : Text := (splitLast path.reverse).2.reverse

namespace Tree

/-- Puts a node at a location that is free. -/
def add (t : Tree) (place : Location) (node : Node) : Tree :=
  { t with nodes := t.nodes ++ [(place, node)] }

/-- The tree without a location and everything below it. -/
def remove (t : Tree) (place : Location) : Tree :=
  { t with nodes := t.nodes.filter fun entry => !place.isPrefixOf entry.1 }

/-- Changes the content of the file at a location. -/
def setContent (t : Tree) (place : Location) (content : Bytes) : Tree :=
  { t with nodes := t.nodes.map fun entry =>
      if entry.1 = place then (place, .file content) else entry }

/-- The tree without what stands under a path, if anything does. A link goes, not what it
leads to. -/
def removeAt (t : Tree) (path : Text) : Tree :=
  match t.locate .entry path with
  | .ok place => t.remove place
  | .error _ => t

/-- The path without slashes at its end, unless it is nothing but slashes. -/
def withoutEnd (path : Text) : Text :=
  let bare := Text.dropEnd (· = '/') path
  if bare.isEmpty then path else bare

/-- Puts a node under the last name of a path, which has to be free. -/
def addAt (t : Tree) (path : Text) (node : Node) : Tried :=
  match t.locate .made path with
  | .error reason => ⟨t, some ⟨reason, path⟩⟩
  | .ok place =>
      if (t.node? place).isSome then ⟨t, some ⟨.taken, path⟩⟩ else ⟨t.add place node, none⟩

/-- Makes a directory; one that is there already will do. -/
def ensureDirectory (t : Tree) (path : Text) : Tried :=
  match t.addAt (withoutEnd path) .directory with
  | ⟨u, none⟩ => ⟨u, none⟩
  | ⟨_, some e⟩ => if t.isDirectory path then ⟨t, none⟩ else ⟨t, some { e with path := path }⟩

/-- The two parts of a reversed path; slashes at its end are passed over. -/
def lastParts (reversed : Text) : Text × Text :=
  let parts := splitLast reversed
  if parts.1.isEmpty then splitLast parts.2 else parts

/-- The path leads to something. -/
def leadsSomewhere (t : Tree) (path : Text) : Bool := (t.find path).isOk

/-- Makes the directory of a reversed path and those above it that are not there. When one
above is something else, the directory itself cannot be made either, and says so. -/
def ensureReversed (t : Tree) (reversed : Text) : Tried :=
  let parts := lastParts reversed
  let path := reversed.reverse
  if _h : !parts.1.isEmpty ∧ !t.leadsSomewhere parts.2.reverse
      ∧ parts.2.length < reversed.length ∧ parts.2 ≠ [] then
    let above := ensureReversed t parts.2
    if above.refusal.any (·.reason ≠ .taken) then above
    else if parts.1 = ['.'] then ⟨above.tree, none⟩
    else above.tree.ensureDirectory path
  else t.ensureDirectory path
termination_by reversed.length
decreasing_by exact _h.2.2.1

/-- Makes the directory that a path names and those above it that are not there. -/
def ensureDirectories (t : Tree) (path : Text) : Tried := t.ensureReversed path.reverse

/-- Makes the directories above a path that are not there. -/
def ensureParents (t : Tree) (path : Text) : Tried :=
  let parent := parentOf path
  if parent.isEmpty then ⟨t, none⟩ else t.ensureDirectories parent

/-- Puts a node under a path, in the place of what is there, with the directories above. -/
def put (t : Tree) (path : Text) (node : Node) : Tried :=
  (t.ensureParents path).andThen fun u => (u.removeAt path).addAt path node

/-- Opens a file: the tree, and the location of the file or why there is none. A file that is
not there is made, unless it is `needed`; directories above it are made in any case. -/
def openFile (t : Tree) (needed : Bool) (path : Text) : Tree × Except Refusal Location :=
  match t.ensureParents path with
  | ⟨u, some e⟩ => (u, .error e)
  | ⟨u, none⟩ =>
      match u.locate (if needed then .target else .opened) path with
      | .error reason => (u, .error ⟨reason, path⟩)
      | .ok place =>
          match u.node? place with
          | some .directory => (u, .error ⟨.isDirectory, path⟩)
          | some _ => (u, .ok place)
          | none => (u.add place (.file []), .ok place)

end Tree

end SshTunnel.Files
