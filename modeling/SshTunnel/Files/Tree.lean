import SshTunnel.Path
import SshTunnel.Text.Quoted
import SshTunnel.Text.Utf8

/-!
# File trees

A tree of directories, files and symbolic links, as a list of locations. A name is looked
up from the working directory or from the root, through links, and the lookup either ends
at a location or is refused for a reason.
-/

namespace SshTunnel.Files

/-- The names from the root down to a place in the tree. -/
abbrev Location := List Text

/-- What is at a place. -/
inductive Node where
  | directory
  | file (content : Bytes)
  | link (target : Text)
deriving DecidableEq, Repr

/-- A file tree with a working directory. -/
structure Tree where
  nodes : List (Location × Node)
  workingDirectory : Location

/-- Why a lookup or an access is refused. -/
inductive Reason where
  | missing
  | taken
  | notDirectory
  | isDirectory
  | nameTooLong
  | tooManyLinks
deriving DecidableEq, Repr

/-- The number and the words of a reason. -/
def Reason.code : Reason → Nat × Text
  | missing => (2, "No such file or directory".toList)
  | taken => (17, "File exists".toList)
  | notDirectory => (20, "Not a directory".toList)
  | isDirectory => (21, "Is a directory".toList)
  | nameTooLong => (36, "File name too long".toList)
  | tooManyLinks => (40, "Too many levels of symbolic links".toList)

/-- A refused access to a path. -/
structure Refusal where
  reason : Reason
  path : Text
deriving DecidableEq, Repr

/-- The message of a refusal. -/
def Refusal.message (r : Refusal) : Text :=
  "[Errno ".toList ++ Text.ofNat r.reason.code.1 ++ "] ".toList ++ r.reason.code.2 ++ ": ".toList
    ++ Text.quoted r.path

/-- The longest name in bytes. -/
def maxNameBytes : Nat := 255

/-- One more than the longest path in bytes. -/
def pathLimit : Nat := 4096

/-- The most symbolic links that one lookup follows. -/
def maxLinks : Nat := 40

/-- The character that no path may have. -/
def nul : Char := Char.ofNat 0

/-- How a lookup takes the last name of a path: whether it goes on behind a link there, and
whether the name may be free. -/
structure Goal where
  follow : Bool
  free : Bool
deriving DecidableEq, Repr

/-- What a path leads to. -/
def Goal.target : Goal := ⟨true, false⟩

/-- What stands under the last name, be it a link. -/
def Goal.entry : Goal := ⟨false, false⟩

/-- The place of a file to be opened or made. -/
def Goal.opened : Goal := ⟨true, true⟩

/-- The place of a new entry. -/
def Goal.made : Goal := ⟨false, true⟩

/-- A path has the character that no path may have. -/
structure BadPath where
deriving DecidableEq, Repr

/-- The message for a path that no access can be tried with. -/
def BadPath.message : BadPath → Text := fun _ => "embedded null byte".toList

/-- A path cut behind its last slash, read from its end: the reversed last part, and the
reversed rest without the slashes at its end, unless it is nothing but slashes. -/
def splitLast (reversed : Text) : Text × Text :=
  let last := reversed.takeWhile (· ≠ '/')
  let front := reversed.dropWhile (· ≠ '/')
  let bare := front.dropWhile (· = '/')
  (last, if bare.isEmpty then front else bare)

namespace Tree

/-- What is at a location. The root is a directory. -/
def node? (t : Tree) (place : Location) : Option Node :=
  if place.isEmpty then some .directory else List.lookup place t.nodes

/-- Where a text starts, and the names in it. A slash at its end asks for a directory: it
stands as an empty name. -/
def route (origin : Location) (path : Text) : Location × List Text :=
  let names := (path.splitOn '/').filter (! ·.isEmpty)
  (if path.head? = some '/' then [] else origin,
    if path.getLast? = some '/' then names ++ [[]] else names)

/-- Walks down the names from a location. `follow` continues at the target of a link. No file
can be opened under a name with a slash behind it. -/
def descend (t : Tree) (follow : Location → List Text → Except Reason Location) (goal : Goal)
    (place : Location) : List Text → Except Reason Location
  | [] => .ok place
  | name :: rest =>
      if t.node? place = some .directory then
        if name.isEmpty || name = ['.'] then descend t follow goal place rest
        else if name = ['.', '.'] then descend t follow goal place.dropLast rest
        else if goal = .opened && rest = [[]] then .error .isDirectory
        else if maxNameBytes < (Utf8.encode name).length then .error .nameTooLong
        else
          match t.node? (place ++ [name]) with
          | none => if rest.isEmpty && goal.free then .ok (place ++ [name]) else .error .missing
          | some (.link target) =>
              if rest.isEmpty && !goal.follow then .ok (place ++ [name])
              else
                let r := route place target
                follow r.1 (r.2 ++ rest)
          | some _ => descend t follow goal (place ++ [name]) rest
      else .error .notDirectory

/-- Walks down the names, through at most `links` links. -/
def walk (t : Tree) (goal : Goal) : Nat → Location → List Text → Except Reason Location
  | 0 => descend t (fun _ _ => .error .tooManyLinks) goal
  | links + 1 => descend t (walk t goal links) goal

/-- The location that a path names. -/
def locate (t : Tree) (goal : Goal) (path : Text) : Except Reason Location :=
  if path.isEmpty then .error .missing
  else if pathLimit ≤ (Utf8.encode path).length then .error .nameTooLong
  else
    let r := route t.workingDirectory path
    walk t goal maxLinks r.1 r.2

/-- What a path names, through links. -/
def find (t : Tree) (path : Text) : Except Reason Node :=
  (t.locate .target path).bind fun place =>
    match t.node? place with
    | some node => .ok node
    | none => .error .missing

/-- The path names something, be it a link that leads nowhere. -/
def isPresent (t : Tree) (path : Text) : Bool :=
  !path.contains (nul) && (t.locate .entry path).isOk

/-- The path names a directory. -/
def isDirectory (t : Tree) (path : Text) : Bool :=
  !path.contains (nul) &&
    match t.find path with
    | .ok .directory => true
    | _ => false

/-- The path names a file. A link to a name that is too long is refused; nothing else is. -/
def isFile (t : Tree) (path : Text) : Except Refusal Bool :=
  if path.contains nul then .ok false
  else
    match t.find path with
    | .ok (.file _) => .ok true
    | .error .nameTooLong => .error ⟨.nameTooLong, path⟩
    | _ => .ok false

/-- The content of the file that a path names. -/
def read (t : Tree) (path : Text) : Except Refusal Bytes :=
  match t.find path with
  | .ok (.file content) => .ok content
  | .ok _ => .error ⟨.isDirectory, path⟩
  | .error reason => .error ⟨reason, path⟩

/-- The names in the directory at a location. -/
def namesAt (t : Tree) (place : Location) : List Text :=
  t.nodes.filterMap fun entry =>
    if entry.1 ≠ [] ∧ entry.1.dropLast = place then entry.1.getLast? else none

/-- The names in a directory; none when the path does not name one. -/
def list (t : Tree) (path : Text) : List Text :=
  match t.locate .target path with
  | .error _ => []
  | .ok place => if t.node? place = some .directory then t.namesAt place else []

end Tree

end SshTunnel.Files
