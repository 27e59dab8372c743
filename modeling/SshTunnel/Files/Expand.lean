import SshTunnel.Files.Tree
import SshTunnel.Text.Glob

/-!
# Wildcards in paths

The paths in a tree that a pattern describes. Wildcards stand for names one directory at a
time; a name that starts with a dot is found only by a pattern that starts with one.
-/

namespace SshTunnel.Files

/-- A name inside a directory. -/
def inside (directory name : Text) : Text :=
  if directory.isEmpty || directory.getLast? = some '/' then directory ++ name
  else directory ++ '/' :: name

/-- A name that is passed over unless a pattern asks for it. -/
def isHidden (name : Text) : Bool := name.head? = some '.'

namespace Tree

/-- The names in a directory that a pattern for names describes. With `onlyDirectories` a
name counts only if it leads to a directory. -/
def matching (t : Tree) (directory pattern : Text) (onlyDirectories : Bool) :
    Except BadPath (List Text) :=
  let place : Text := if directory.isEmpty then ['.'] else directory
  if place.contains nul then .error ⟨⟩
  else
    .ok ((t.list place).filter fun name =>
      (!onlyDirectories || t.isDirectory (inside place name))
        && (isHidden pattern || !isHidden name) && Text.Glob.isMatch pattern name)

/-- The name itself, if it is in the directory; the empty name asks whether the directory
is one. -/
def literal (t : Tree) (directory name : Text) : List Text :=
  if name.isEmpty then (if t.isDirectory directory then [[]] else [])
  else if t.isPresent (inside directory name) then [name] else []

/-- The paths in a directory that the last part of a pattern describes. -/
def expandLast (t : Tree) (last : Text) (onlyDirectories : Bool) (directory : Text) :
    Except BadPath (List Text) :=
  (if Text.Glob.hasWildcard last then t.matching directory last onlyDirectories
    else .ok (t.literal directory last)).map fun names => names.map (inside directory)

/-- The paths that a reversed pattern describes. With `onlyDirectories` only those are
wanted that lead to directories. -/
def expandReversed (t : Tree) (onlyDirectories : Bool) (reversed : Text) :
    Except BadPath (List Text) :=
  let parts := splitLast reversed
  let last := parts.1.reverse
  let directory := parts.2.reverse
  if !Text.Glob.hasWildcard reversed then
    let pattern := reversed.reverse
    let found := if last.isEmpty then t.isDirectory directory else t.isPresent pattern
    .ok (if found then [pattern] else [])
  else if directory.isEmpty then t.matching [] last onlyDirectories
  else if _h : Text.Glob.hasWildcard parts.2 ∧ parts.2.length < reversed.length then
    (expandReversed t true parts.2).bind fun directories =>
      (directories.mapM (t.expandLast last onlyDirectories)).map List.flatten
  else t.expandLast last onlyDirectories directory
termination_by reversed.length
decreasing_by exact _h.2

/-- The paths that a pattern describes, in alphabetic order. -/
def expand (t : Tree) (pattern : Text) : Except BadPath (List Text) :=
  (t.expandReversed false pattern.reverse).map fun found => found.mergeSort Text.atMost

end Tree

end SshTunnel.Files
