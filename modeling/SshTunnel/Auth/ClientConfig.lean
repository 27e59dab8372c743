import SshTunnel.Auth.Candidate
import SshTunnel.Decimal.Nearest
import SshTunnel.KnownHosts.Store

/-!
# Client configuration

What the connection layer needs to authenticate: a user, keys, a trust store and a time
limit. It is built from the identity file and the default keys, and from the trust store.
-/

namespace SshTunnel

/-- The seconds that a connection may take to come up. -/
def Auth.defaultTimeout : Datum := .real 10.0

/-- Everything needed to authenticate a connection; `timeout` is a number of seconds. -/
structure ClientConfig where
  username : Datum
  signers : List PublicKey
  knownHosts : KnownHosts
  timeout : Datum

namespace ClientConfig

/-- A configuration; there has to be a user, a key and a positive time. -/
def make (username : Datum) (signers : List PublicKey) (knownHosts : KnownHosts)
    (timeout : Datum) : Except Misuse ClientConfig :=
  if !username.isGiven then .error .noUser
  else if signers.isEmpty then .error .noSigner
  else
    match timeout.exceeds 0 with
    | .error m => .error (.unfit m)
    | .ok false => .error (.of .timeout timeout.shown)
    | .ok true => .ok ⟨username, signers, knownHosts, timeout⟩

/-- The configuration as a log record, without keys. -/
def toRecord (c : ClientConfig) : Record :=
  [("username".toList, c.username), ("signers".toList, .int c.signers.length),
    ("known_hosts".toList, (c.knownHosts.path.map fun p => Datum.text p.text).getD .null),
    ("connect_timeout".toList, c.timeout)]

/-- The options of a connection with this configuration, but for the keys and the client:
no password, no agent, no configuration file, and empty lists of trusted keys, so that
every host key is shown to the client. -/
def connectOptions (c : ClientConfig) : Record :=
  [("username".toList, c.username), ("password".toList, .null),
    ("agent_path".toList, .null), ("config".toList, .null),
    ("connect_timeout".toList, c.timeout),
    ("known_hosts".toList, .list [.list [], .list [], .list []])]

/-- The time limit in seconds as the connection layer counts it, if it can. -/
def seconds (c : ClientConfig) : Except Failure Float :=
  match c.timeout with
  | .real x => .ok x
  | d =>
      match d.whole?.bind Decimal.ofInt? with
      | some x => .ok x
      | none => .error .tooLarge

/-- The client that judges host keys for this configuration. -/
def client (c : ClientConfig) : KnownHosts.Client := .ofStore c.knownHosts

/-- The candidates for a key: the identity file, then the default keys. -/
def candidates (identityFile : Text) : List Text := identityFile :: Path.defaultKeys

/-- The failure that none of the candidates is a usable key. -/
def noKeys (user : Datum) (identityFile : Text) : Failure :=
  .ofMade (Report.noKeys (.list ((candidates identityFile).map .text))
    { Context.empty with username := user }).outcome none

/-- Builds the configuration around keys that have been found. -/
def ofSigners (lib : Key.Library) (files : Files.Tree) (user : Datum) (signers : List PublicKey)
    (store : Path) : Except Failure ClientConfig :=
  match KnownHosts.ofFile lib files store with
  | .error e => .error e.failure
  | .ok knownHosts =>
      match make user signers knownHosts Auth.defaultTimeout with
      | .ok c => .ok c
      | .error e => .error (.misuse e)

/-- The path of the trust store: the one that is given, or the one below the home directory. -/
def storePath (home : Path) (store : Option Text) : Path :=
  (store.map Path.ofText).getD home.userKnownHosts

/-- Builds the configuration for a user and an identity file. `store` is the path of the trust
store, if it is not the one below the home directory. An identity file that is no text has no
`~` to look for. -/
def build (lib : Key.Library) (files : Files.Tree) (home : Path) (store : Option Text)
    (user identityFile : Datum) : Logging ClientConfig :=
  match identityFile with
  | .text file => do
      let signers ← Auth.scan lib files home.text (candidates file)
      if signers.isEmpty then throw (noKeys user file)
      else ofSigners lib files user signers (storePath home store)
  | other => throw (.misuse (.unfit (.noMember other "startswith".toList)))

end ClientConfig

end SshTunnel
