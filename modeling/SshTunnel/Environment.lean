import SshTunnel.Files.Tree

/-!
# The environment of a run

What a run reads from outside: the file tree, the home directory and the request for
debug output. The per-user files lie below the home directory.
-/

namespace SshTunnel

/-- Everything that a run reads and does not change. `home` and `debug` are the values of
environment variables, `accountHome` is what `~` stands for in the user's account, and `~`
itself when there is no such account. -/
structure Environment where
  files : Files.Tree
  home : Option Text
  accountHome : Text
  debug : Option Text

/-- There is no telling what the home directory is. -/
structure NoHome where
deriving DecidableEq, Repr

/-- The message for a missing home directory. -/
def NoHome.message : NoHome → Text := fun _ => "Could not determine home directory.".toList

namespace Environment

/-- The home directory can be told: by the variable, or by the user's account. -/
def tellsHome (env : Environment) : Bool := env.home.isSome || env.accountHome.head? != some '~'

/-- The home directory of the run, if it can be told: an empty value of the variable stands for
the root, and without any the account decides. -/
def homeDirectory (env : Environment) : Path :=
  match env.home with
  | none => Path.ofText env.accountHome
  | some h => Path.ofText (if h.isEmpty then ['/'] else h)

/-- What `~` stands for in a run: its home directory without slashes at the end, unless that
is written with `~` itself. -/
def expandedHome (env : Environment) : Except NoHome Path :=
  match env.home with
  | none => if env.tellsHome then .ok (Path.ofText env.accountHome) else .error ⟨⟩
  | some ('~' :: _) => .error ⟨⟩
  | some h =>
      let bare := Text.dropEnd (· = '/') h
      .ok (Path.ofText (if bare.isEmpty then ['/'] else bare))

/-- The home directory that a value of the variable asks for; without one, or with an empty
one, it is what `~` stands for. -/
def homeFrom (env : Environment) (value : Option Text) : Except NoHome Path :=
  match value with
  | some (c :: rest) => .ok (Path.ofText (c :: rest))
  | _ => env.expandedHome

/-- Debug output is asked for. -/
def wantsDebug (env : Environment) : Bool := !(env.debug.getD []).isEmpty

end Environment

namespace Path

/-- The directory of the per-user files below a home directory. -/
def sshDirectory (home : Path) : Path := home.join ".ssh".toList

/-- The per-user host configuration below a home directory. -/
def userConfig (home : Path) : Path := home.sshDirectory.join "config".toList

/-- The per-user trust store below a home directory. -/
def userKnownHosts (home : Path) : Path := home.sshDirectory.join "known_hosts".toList

/-- The private keys that are tried after a configured one, as a user would write them. -/
def defaultKeys : List Text :=
  ["~/.ssh/id_rsa".toList, "~/.ssh/id_ecdsa".toList, "~/.ssh/id_ed25519".toList]

end Path

end SshTunnel
