import SshTunnel.Auth.ClientConfig
import SshTunnel.HostConfig.Entry
import SshTunnel.Resolve.Declaration

/-!
# Resolving tunnels

A declaration, the host configuration and the defaults give the fields of a connection. All
that is required has to be there before any key or the trust store is read. Resolving gives
a run configuration or a failure, and logs on the way.
-/

namespace SshTunnel

/-- The failure of a host configuration that could not be loaded. -/
def HostConfig.LoadError.failure : HostConfig.LoadError → Failure
  | .badPath e => .badPath e
  | .refused e => .refused e
  | .noHome e => .noHome e
  | .line e =>
      .ofMade (Report.sshConfig (.text e.message) (.text e.path) (.int e.line)
        Context.empty).outcome none

namespace Resolve

/-- A tunnel that is ready to run. -/
structure RunConfig where
  localAddress : Text
  remoteAddress : Text
  hostname : Datum
  user : Datum
  port : Datum
  identityFile : Datum
  client : ClientConfig

/-- How tunnels are resolved: a home directory and paths that take the place of the usual
ones, a reader that takes the place of the host configuration, and the defaults. -/
structure Resolver where
  home : Option Path
  configPath : Option Text
  knownHostsPath : Option Text
  reader : Option (Text → Except Failure HostEntry)
  defaults : Datum

/-- The fields of a connection when all sources are merged. A default may be any value. -/
structure Connection where
  hostname : Datum
  user : Datum
  port : Datum
  identityFile : Datum

namespace Resolver

/-- The home directory. -/
def homeDirectory (r : Resolver) (env : Environment) : Except Failure Path :=
  match r.home with
  | some home => .ok home
  | none => if env.tellsHome then .ok env.homeDirectory else .error (.noHome ⟨⟩)

/-- The failure of a configuration for an alias, resting on the failure to load it. -/
def configFailure (host : Text) (cause : Failure) : Failure :=
  match cause.report? with
  | none => cause
  | some inner =>
      .ofMade
        (Report.plain .config (.text ("could not parse SSH config: ".toList ++ inner.message))
          { Context.empty with
            host := .text host
            underlying := .text inner.message
            extra := inner.context.extra }).outcome (some cause)

/-- The path of the host configuration. -/
def configFile (r : Resolver) (env : Environment) : Except Failure Path :=
  match r.configPath with
  | some path => .ok (Path.ofText path)
  | none => (r.homeDirectory env).map (·.userConfig)

/-- What the reader or the host configuration says about an alias. -/
def readHostConfig (r : Resolver) (env : Environment) (host : Text) :
    Except Failure HostEntry :=
  match r.reader with
  | some read => read host
  | none =>
      (r.configFile env).bind fun path =>
        match HostConfig.ofFile env path with
        | .ok config => .ok (config.lookup host)
        | .error e => .error (configFailure host e.failure)

/-- The port of an entry is no port. -/
def hasBadPort (e : HostEntry) : Bool := !e.port.isEmpty && e.portNumber ≤ 0

/-- What an entry says about the connection; a port that is none says nothing. -/
def entrySource (e : HostEntry) : Source
  | .hostname => some (.text e.hostname)
  | .user => some (.text e.user)
  | .port => some (.int (if hasBadPort e then 0 else e.portNumber))
  | .identityFile => some (.text e.identityFile)

/-- What is said about an entry. -/
def warning? (e : HostEntry) : Option Log.Message :=
  if hasBadPort e then
    some ⟨.warning, "Ignoring invalid Port %r in SSH config".toList, [.text e.port]⟩
  else none

/-- The fields of a connection: the declaration first, then the entry, then the defaults. A
host name that none of them sets is the alias itself. -/
def connection (r : Resolver) (d : Declaration) (e : HostEntry) : Except Misfit Connection :=
  (mergeChecked [.ok d.source, .ok (entrySource e), Source.ofDatum r.defaults]).map fun m =>
    { hostname := if (m .hostname).isGiven then m .hostname else .text d.host
      user := m .user
      port := m .port
      identityFile := m .identityFile }

/-- A value that says something, or nothing. -/
def givenOrNull (d : Datum) : Datum := if d.isGiven then d else .null

/-- The context of what is said about the fields of a connection. -/
def fieldContext (d : Declaration) (c : Connection) : Context :=
  { Context.empty with
    host := givenOrNull c.hostname
    username := givenOrNull c.user
    extra := .record [("tunnel".toList, .text d.name)] }

/-- The first required field that is not set. -/
def missing? (c : Connection) : Option Field :=
  if !c.hostname.isGiven then some .hostname
  else if !c.user.isGiven then some .user
  else if !c.port.isGiven then some .port
  else none

/-- The largest port. -/
def largestPort : Nat := 65535

/-- The failure of a port that is too large, if its number can be written. -/
def portFailure (d : Declaration) (c : Connection) : Failure :=
  match c.port.shown with
  | .error e => .longNumeral e
  | .ok port =>
      .ofMade
        (Report.plain .config (.text ("invalid port ".toList ++ port)) (fieldContext d c)).outcome
        none

/-- Why the fields of a connection cannot be used. -/
def fieldFailure? (d : Declaration) (c : Connection) : Option Failure :=
  match missing? c with
  | some f =>
      some (.ofMade (Report.missingField (.text f.name) (fieldContext d c)).outcome none)
  | none =>
      match c.port.exceeds largestPort with
      | .error m => some (.misuse (.unfit m))
      | .ok false => none
      | .ok true => some (portFailure d c)

/-- The failure of the client configuration, resting on the failure to build it; only
reports about authentication are taken up. -/
def authFailure (d : Declaration) (c : Connection) (cause : Failure) : Failure :=
  match cause.report? with
  | none => cause
  | some inner =>
      if .auth ∈ inner.kind.lineage then
        match Context.checked
            { host := c.hostname
              port := c.port
              username := c.user
              keyPath := .null
              underlying := .text inner.message
              extra := .record [("tunnel".toList, .text d.name),
                ("cause".toList, .text inner.kind.name)] } with
        | .error e => .misuse e
        | .ok context =>
            .ofMade
              (Report.plain .auth
                (.text ("could not make client config: ".toList ++ inner.message))
                context).outcome (some cause)
      else cause

/-- The run configuration of a connection. -/
def runConfig (d : Declaration) (c : Connection) (client : ClientConfig) : RunConfig :=
  { localAddress := normalizeLocalAddress d.localAddress
    remoteAddress := d.remoteAddress
    hostname := c.hostname
    user := c.user
    port := c.port
    identityFile := c.identityFile
    client := client }

/-- Builds the client configuration of a connection. -/
def buildClient (r : Resolver) (lib : Key.Library) (env : Environment) (c : Connection) :
    Logging ClientConfig := do
  let home ← r.homeDirectory env
  ClientConfig.build lib env.files home r.knownHostsPath c.user c.identityFile

/-- Resolves a declaration whose alias has this entry. -/
def resolveEntry (r : Resolver) (lib : Key.Library) (env : Environment) (d : Declaration)
    (e : HostEntry) : Logging RunConfig := do
  Logging.tellAny (warning? e)
  let c ← (r.connection d e).mapError fun m => Failure.misuse (.unfit m)
  if let some failure := fieldFailure? d c then throw failure
  let client ← (r.buildClient lib env c).adapt (authFailure d c)
  return runConfig d c client

/-- Resolves a declaration. -/
def resolve (r : Resolver) (lib : Key.Library) (env : Environment) (d : Declaration) :
    Logging RunConfig := do
  let entry ← r.readHostConfig env d.host
  r.resolveEntry lib env d entry

/-- Resolves declarations one after the other, on top of the results so far. A failure that
is a report is a result; any other one ends it all. Results are kept by the name of the
declaration, and a later one takes the place of an earlier one of the same name. -/
def resolveOnto (r : Resolver) (lib : Key.Library) (env : Environment)
    (results : Named (Except Failure RunConfig)) :
    List Declaration → Logging (Named (Except Failure RunConfig))
  | [] => return results
  | d :: more => do
      let outcome ← (r.resolve lib env d).reported
      r.resolveOnto lib env (results.set d.name outcome) more

/-- Resolves declarations independently of each other. -/
def resolveAll (r : Resolver) (lib : Key.Library) (env : Environment) (ds : List Declaration) :
    Logging (Named (Except Failure RunConfig)) :=
  r.resolveOnto lib env [] ds

end Resolver

end Resolve

end SshTunnel
