import SshTunnel.Text.Basic

/-!
# Paths

A path is where it starts and the names that follow. Empty names and `.` say nothing and
are dropped, `..` is kept as written.
-/

namespace SshTunnel

/-- Where a path starts: at the working directory, at the root, or at the root written with
exactly two slashes, which stays so. -/
inductive Path.Start where
  | here
  | root
  | doubleRoot
deriving DecidableEq, Repr

/-- A path without empty names and without `.`. -/
structure Path where
  start : Path.Start
  names : List Text
deriving DecidableEq, Repr

namespace Path

/-- What the slashes at the start of a text say. -/
def Start.ofText : Text → Start
  | '/' :: '/' :: '/' :: _ => .root
  | '/' :: '/' :: _ => .doubleRoot
  | '/' :: _ => .root
  | _ => .here

/-- The slashes of a start. -/
def Start.text : Start → Text
  | here => []
  | root => ['/']
  | doubleRoot => ['/', '/']

/-- A name that a path keeps. -/
def isName (t : Text) : Bool := t != [] && t != ['.']

/-- The path that a text writes. -/
def ofText (t : Text) : Path := ⟨Start.ofText t, (t.splitOn '/').filter isName⟩

/-- The path as text; the working directory itself is `.`. -/
def text (p : Path) : Text :=
  match p.start, p.names with
  | .here, [] => ['.']
  | start, names => start.text ++ Text.join ['/'] names

/-- The path does not depend on the working directory. -/
def isAbsolute (p : Path) : Bool := p.start != .here

/-- The path that a text writes, seen from a path: an absolute one is taken as it is. -/
def join (p : Path) (t : Text) : Path :=
  let q := ofText t
  if q.isAbsolute then q else ⟨p.start, p.names ++ q.names⟩

/-- Expands `~` alone or in front of a slash; every other text stays as it is. -/
def fillHome (home path : Text) : Text :=
  match path with
  | ['~'] => home
  | '~' :: '/' :: rest => ((ofText home).join rest).text
  | _ => path

end Path

end SshTunnel
