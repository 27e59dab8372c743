import SshTunnel.Failure
import SshTunnel.KnownHosts.Entry
import SshTunnel.KnownHosts.Pattern

/-!
# Trust stores

A store is loaded as a whole or not at all. It judges the key of a host: a revoked key is
never trusted, a host without entries is unknown, and the key of a known host has to be one
of those in its entries. Entries for certificate authorities take no part.
-/

namespace SshTunnel

/-- Entries, and the path they were read from. -/
structure KnownHosts where
  entries : List KnownHosts.Entry
  path : Option Path
deriving DecidableEq, Repr

namespace KnownHosts

/-- Why a store could not be loaded. -/
inductive LoadError where
  | badPath (e : Files.BadPath)
  | refused (path : Text) (e : Files.Refusal)
  | notUtf8 (path : Text) (e : Utf8.Malformed)
  | line (path : Option Text) (e : LineError)
deriving DecidableEq, Repr

/-- The failure that a problem with a line rests on. -/
def LineProblem.cause? : LineProblem → Option Failure
  | keyData flaw => some (.notBase64 flaw)
  | publicKey problem => some (.badKey problem)
  | _ => none

/-- The problem of the library that is let through. -/
def LineProblem.escaping? : LineProblem → Option Key.Problem
  | publicKey problem => if problem.isNotKey then none else some problem
  | _ => none

/-- A path, or the word for none. -/
def pathWord (path : Option Text) : Text := path.getD "None".toList

/-- The failure of a store that could not be loaded. A problem of the library other than that
there is no key is not taken up in a report. -/
def LoadError.failure : LoadError → Failure
  | badPath e => .badPath e
  | refused path e =>
      .ofMade (Report.trustStore
        (.text ("could not read known_hosts ".toList ++ path ++ ": ".toList ++ e.message))
        (.text path) .null Context.empty).outcome (some (.refused e))
  | notUtf8 path e =>
      .ofMade (Report.trustStore
        (.text ("could not read known_hosts ".toList ++ path ++ ": ".toList ++ e.message))
        (.text path) .null Context.empty).outcome (some (.notUtf8 e))
  | line path e =>
      match e.problem.escaping? with
      | some problem => .badKey problem
      | none =>
          .ofMade (Report.trustStore
            (.text (pathWord path ++ ':' :: Text.ofNat e.line ++ ": ".toList ++ e.problem.words))
            ((path.map Datum.text).getD .null) (.int e.line)
            Context.empty).outcome e.problem.cause?

/-- The store that a text writes, without a path. -/
def ofText (lib : Key.Library) (t : Text) : Except LoadError KnownHosts :=
  match parse lib t with
  | .error e => .error (.line none e)
  | .ok entries => .ok ⟨entries, none⟩

/-- The store in the file at a path. -/
def ofFile (lib : Key.Library) (files : Files.Tree) (path : Path) : Except LoadError KnownHosts :=
  let name := path.text
  if name.contains Files.nul then .error (.badPath ⟨⟩)
  else
    match files.read name with
    | .error e => .error (.refused name e)
    | .ok content =>
        match Utf8.decode content with
        | .error e => .error (.notUtf8 name e)
        | .ok t =>
            match parse lib (Text.unifyNewlines t) with
            | .error e => .error (.line (some name) e)
            | .ok entries => .ok ⟨entries, some path⟩

/-- What a store says about the key of a host. -/
inductive Verdict where
  | trusted
  | unknown
  | changed
  | revoked
deriving DecidableEq, Repr

/-- The word for a verdict. -/
def Verdict.word : Verdict → Text
  | trusted => "trusted".toList
  | unknown => "unknown".toList
  | changed => "changed".toList
  | revoked => "revoked".toList

/-- The entries whose patterns cover a host, without those of certificate authorities. -/
def covering (host : Text) (port : Int) :
    List Entry → Except Text.Numeral.TooLong (List Entry)
  | [] => .ok []
  | entry :: more =>
      if entry.marker = .certAuthority then covering host port more
      else
        (listCovers host port entry.hosts).bind fun hit =>
          (covering host port more).map fun rest => if hit then entry :: rest else rest

/-- The entry has exactly this key. -/
def Entry.hasKey (entry : Entry) (key : PublicKey) : Bool :=
  entry.keyType = key.algorithm && entry.keyData = key.blob

/-- The verdict, given the entries that cover the host. -/
def judge (entries covered : List Entry) (key : PublicKey) : Verdict :=
  if entries.any fun e => e.marker = .revoked && e.keyData = key.blob then .revoked
  else if covered.isEmpty then .unknown
  else if covered.any (·.hasKey key) then .trusted
  else .changed

/-- What the store says about the key that a host at a port presents. -/
def check (store : KnownHosts) (host : Text) (port : Int) (key : PublicKey) :
    Except Text.Numeral.TooLong Verdict :=
  (covering host port store.entries).map fun covered => judge store.entries covered key

/-- The kind and the message of the report for a verdict other than trusted. -/
def Verdict.complaint (host : Text) : Verdict → Option (Report.Kind × Text)
  | trusted => none
  | revoked =>
      some (.hostKeyRevoked, "host key for ".toList ++ host ++ " is revoked".toList)
  | changed =>
      some (.hostKeyMismatch,
        "host key for ".toList ++ host ++ " does not match known_hosts".toList)
  | unknown =>
      some (.hostKeyUnknown, "host ".toList ++ host ++ " is not in known_hosts".toList)

/-- Accepts the key only if the store trusts it. -/
def verify (store : KnownHosts) (host : Text) (port : Int) (key : PublicKey) :
    Except Failure Unit :=
  match store.check host port key with
  | .error e => .error (.longNumeral e)
  | .ok verdict =>
      match verdict.complaint host with
      | none => .ok ()
      | some (kind, message) =>
          .error (.ofMade
            (Report.hostKey kind (.text message) (.text host) (.int port)
              (.text key.fingerprint)) none)

/-- A client that asks the store about the keys it is shown and remembers the last verdict. -/
structure Client where
  store : KnownHosts
  verdict : Option Verdict

namespace Client

/-- A client that has not been shown a key. -/
def ofStore (store : KnownHosts) : Client := ⟨store, none⟩

/-- The name that the client looks up: the host as it was asked for, or else its address. -/
def nameOf (host address : Text) : Text := if host.isEmpty then address else host

/-- Shows a key to the client: whether it accepts, and the client afterwards. -/
def validate (client : Client) (host address : Text) (port : Int) (key : PublicKey) :
    Except Text.Numeral.TooLong (Bool × Client) :=
  (client.store.check (nameOf host address) port key).map fun verdict =>
    (verdict = .trusted, { client with verdict := some verdict })

end Client

end KnownHosts

end SshTunnel
