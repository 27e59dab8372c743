import SshTunnel.HostConfig.Contents
import SshTunnel.Environment
import SshTunnel.Files.Expand
import SshTunnel.Text.Lines

/-!
# Loading a host configuration

A configuration file is read line by line, and an Include line reads the files it names on
the spot, up to a depth. A file that is not there or cannot be opened says nothing.
-/

namespace SshTunnel.HostConfig

/-- The depth up to which files may name further files. -/
def maxIncludeDepth : Nat := 5

/-- A line that could not be read. -/
structure LineError where
  path : Text
  line : Nat
  problem : LineProblem
deriving DecidableEq, Repr

/-- The message for a line that could not be read. -/
def LineError.message (e : LineError) : Text :=
  e.path ++ ':' :: Text.ofNat e.line ++ ": ".toList ++ e.problem.words

/-- Why a configuration could not be loaded. -/
inductive LoadError where
  | line (e : LineError)
  | badPath (e : Files.BadPath)
  | refused (e : Files.Refusal)
  | noHome (e : NoHome)
deriving DecidableEq, Repr

/-- The text of a configuration file. -/
def textOf (content : Bytes) : Text := Text.unifyNewlines (Utf8.decodeLossy content)

/-- Takes the lines of a file into what has been read. `includes` reads the files that an
Include line names, given the scope, the line's number and its argument text. -/
def readLines (path : Text) (outer : Scope)
    (includes : Scope → Nat → Text → Except LoadError Contents) :
    Progress → List (Nat × Text) → Except LoadError Progress
  | p, [] => .ok p
  | p, (number, line) :: rest =>
      match Statement.ofLine line with
      | .error problem => .error (.line ⟨path, number, problem⟩)
      | .ok none => readLines path outer includes p rest
      | .ok (some (.host patterns)) =>
          readLines path outer includes (p.openSection (outer ++ [patterns])) rest
      | .ok (some (.directive d)) => readLines path outer includes (p.add [d]) rest
      | .ok (some (.files arguments)) =>
          match includes (p.scope outer) number arguments with
          | .error e => .error e
          | .ok c => readLines path outer includes (p.takeIn outer c) rest

/-- Reads a text that stands at a path, for a scope. -/
def readText (path : Text) (outer : Scope)
    (includes : Scope → Nat → Text → Except LoadError Contents) (text : Text) :
    Except LoadError Contents :=
  (readLines path outer includes Progress.start (Text.numberedLines text)).map (·.contents)

/-- Reads the file at a path, for a scope. -/
def readFile (files : Files.Tree)
    (includes : Text → Scope → Nat → Text → Except LoadError Contents)
    (outer : Scope) (path : Text) : Except LoadError Contents :=
  if path.contains Files.nul then .error (.badPath ⟨⟩)
  else
    match files.read path with
    | .error _ => .ok Contents.empty
    | .ok content => readText path outer (includes path) (textOf content)

/-- The pattern for paths that an argument of an Include line stands for: `~` is expanded,
and a relative one is taken from the per-user directory. -/
def includePattern (env : Environment) (argument : Text) : Text :=
  let pattern := Path.fillHome env.homeDirectory.text argument
  if (Path.ofText pattern).isAbsolute then pattern
  else (env.homeDirectory.sshDirectory.join pattern).text

/-- Puts together what a list of items says, in order. -/
def gather {α : Type} (f : α → Except LoadError Contents) :
    List α → Except LoadError Contents
  | [] => .ok Contents.empty
  | x :: rest => (f x).bind fun c => (gather f rest).map c.append

/-- Reads a found path if it is a file. -/
def readFound (files : Files.Tree) (load : Text → Except LoadError Contents) (found : Text) :
    Except LoadError Contents :=
  let path := (Path.ofText found).text
  match files.isFile path with
  | .error e => .error (.refused e)
  | .ok false => .ok Contents.empty
  | .ok true => load path

/-- The paths that an argument of an Include line stands for. Every argument asks for the home
directory. -/
def expandArgument (env : Environment) (argument : Text) : Except LoadError (List Text) :=
  if env.tellsHome then (env.files.expand (includePattern env argument)).mapError .badPath
  else .error (.noHome ⟨⟩)

/-- Reads the files that one argument of an Include line names. -/
def readArgument (env : Environment) (load : Text → Except LoadError Contents)
    (argument : Text) : Except LoadError Contents :=
  (expandArgument env argument).bind (gather (readFound env.files load))

/-- Reads the files that an Include line names: arguments from left to right, the files of
each in alphabetic order. -/
def readIncluded (env : Environment) (load : Scope → Text → Except LoadError Contents)
    (path : Text) (scope : Scope) (number : Nat) (arguments : Text) :
    Except LoadError Contents :=
  match arguments? arguments with
  | none => .error (.line ⟨path, number, .unbalancedQuotes⟩)
  | some list => gather (readArgument env (load scope)) list

/-- Reads the file at a path for a scope; Include lines may go `depth` files deeper. -/
def load (env : Environment) : Nat → Scope → Text → Except LoadError Contents
  | 0 =>
      readFile env.files fun path _ number _ => .error (.line ⟨path, number, .includeTooDeep⟩)
  | depth + 1 => readFile env.files (readIncluded env (load env depth))

end SshTunnel.HostConfig

namespace SshTunnel

/-- A loaded host configuration. -/
structure HostConfig where
  path : Path
  contents : HostConfig.Contents
deriving DecidableEq, Repr

namespace HostConfig

/-- Loads the configuration at a path. -/
def ofFile (env : Environment) (path : Path) : Except LoadError HostConfig :=
  (load env maxIncludeDepth [] path.text).map fun contents => ⟨path, contents⟩

end HostConfig

end SshTunnel
