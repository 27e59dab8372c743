import SshTunnel.Files.Change
import SshTunnel.Resolve.Resolver

/-!
# Sessions

A resolver in use: it is asked time and again, while files are written and deleted around it.
What it logs on the way goes to its sink at the time of the request.
-/

namespace SshTunnel.Resolve

/-- A resolver in its environment, with the desk where it logs. -/
structure Session where
  resolver : Resolver
  env : Environment
  desk : Log.Desk

namespace Session

/-- The session with another file tree. -/
def withFiles (s : Session) (files : Files.Tree) : Session :=
  { s with env := { s.env with files := files } }

/-- Runs to a result or a failure, with the session afterwards. -/
def run {α : Type} (s : Session) (action : Logging α) : Except Failure α × Session :=
  let ended := action.runAt s.desk
  (ended.1, { s with desk := ended.2 })

/-- Resolves a declaration. -/
def resolve (s : Session) (lib : Key.Library) (d : Declaration) :
    Except Failure RunConfig × Session :=
  s.run (s.resolver.resolve lib s.env d)

/-- Resolves declarations independently of each other. -/
def resolveAll (s : Session) (lib : Key.Library) (ds : List Declaration) :
    Except Failure (Named (Except Failure RunConfig)) × Session :=
  s.run (s.resolver.resolveAll lib s.env ds)

/-- What the reader or the host configuration says about an alias. -/
def readHostConfig (s : Session) (host : Text) : Except Failure HostEntry :=
  s.resolver.readHostConfig s.env host

/-- Puts a file or a link under a path, in the place of what is there. -/
def write (s : Session) (path : Text) (node : Files.Node) : Option Files.Refusal × Session :=
  let tried := (s.env.files.removeAt path).put path node
  (tried.refusal, s.withFiles tried.tree)

/-- Removes what stands under a path. -/
def delete (s : Session) (path : Text) : Session := s.withFiles (s.env.files.removeAt path)

end Session

/-- What can be done in a session. -/
inductive Action where
  | resolve (d : Declaration)
  | resolveAll (ds : List Declaration)
  | readHostConfig (host : Text)
  | write (path : Text) (node : Files.Node)
  | delete (path : Text)
  | wait (clock : Log.Clock)

namespace Session

/-- The session after something was done. -/
def after (lib : Key.Library) (s : Session) : Action → Session
  | .resolve d => (s.resolve lib d).2
  | .resolveAll ds => (s.resolveAll lib ds).2
  | .readHostConfig _ => s
  | .write path node => (s.write path node).2
  | .delete path => s.delete path
  | .wait clock => { s with desk := { s.desk with clock := clock } }

/-- The session after one thing and another was done. -/
def afterAll (lib : Key.Library) (s : Session) (history : List Action) : Session :=
  history.foldl (after lib) s

end Session

end SshTunnel.Resolve
