import SshTunnel.Report.Context
import SshTunnel.Text.Blank

/-!
# Reports

A report is an error of this library as it is shown: its kind, its message and its context.
Kinds form a tree below the general tunnel error. A report is made from what the caller
gives; making one also changes the context that was handed in.
-/

namespace SshTunnel

namespace Report

/-- The kinds of reports. -/
inductive Kind where
  | tunnel
  | config
  | sshConfig
  | missingField
  | auth
  | noKeys
  | keyLoad
  | trustStore
  | hostKey
  | hostKeyUnknown
  | hostKeyMismatch
  | hostKeyRevoked
deriving DecidableEq, Repr

namespace Kind

/-- All kinds. -/
def all : List Kind :=
  [tunnel, config, sshConfig, missingField, auth, noKeys, keyLoad, trustStore, hostKey,
    hostKeyUnknown, hostKeyMismatch, hostKeyRevoked]

/-- The name of a kind. -/
def name : Kind → Text
  | tunnel => "TunnelError".toList
  | config => "ConfigError".toList
  | sshConfig => "SSHConfigError".toList
  | missingField => "MissingFieldError".toList
  | auth => "AuthError".toList
  | noKeys => "NoKeysFoundError".toList
  | keyLoad => "KeyLoadError".toList
  | trustStore => "TrustStoreError".toList
  | hostKey => "HostKeyError".toList
  | hostKeyUnknown => "HostKeyUnknown".toList
  | hostKeyMismatch => "HostKeyMismatch".toList
  | hostKeyRevoked => "HostKeyRevoked".toList

/-- The kinds that a kind belongs to, from itself up to the most general one. -/
def lineage : Kind → List Kind
  | tunnel => [tunnel]
  | config => [config, tunnel]
  | sshConfig => [sshConfig, config, tunnel]
  | missingField => [missingField, config, tunnel]
  | auth => [auth, tunnel]
  | noKeys => [noKeys, auth, tunnel]
  | keyLoad => [keyLoad, auth, tunnel]
  | trustStore => [trustStore, auth, tunnel]
  | hostKey => [hostKey, auth, tunnel]
  | hostKeyUnknown => [hostKeyUnknown, hostKey, auth, tunnel]
  | hostKeyMismatch => [hostKeyMismatch, hostKey, auth, tunnel]
  | hostKeyRevoked => [hostKeyRevoked, hostKey, auth, tunnel]

/-- What a report of a kind is made from. A report about the key of a host has a context of
its own. -/
def signature (kind : Kind) : Signature :=
  let needs (owner : String) (required optional : List String) : Signature :=
    ⟨owner.toList, required.map String.toList, optional.map String.toList⟩
  match kind with
  | tunnel | config | auth => needs "TunnelError" ["message"] ["context"]
  | sshConfig => needs "SSHConfigError" ["message"] ["path", "line_no", "context"]
  | trustStore => needs "TrustStoreError" ["message"] ["path", "line_no", "context"]
  | missingField => needs "MissingFieldError" ["field_name"] ["context"]
  | noKeys => needs "NoKeysFoundError" [] ["candidates", "context"]
  | keyLoad => needs "KeyLoadError" ["message"] ["key_path", "reason", "context"]
  | hostKey | hostKeyUnknown | hostKeyMismatch | hostKeyRevoked =>
      needs "HostKeyError" ["message", "host", "port"] ["fingerprint"]

end Kind

end Report

/-- An error as it is shown. `attributes` are the values that its kind carries besides. -/
structure Report where
  kind : Report.Kind
  message : Text
  context : Context
  attributes : Record

namespace Report

/-- The report as a structured log record: kind, message, then the context. -/
def toRecord (r : Report) : Except Misuse Record :=
  r.context.toRecord.map fun more =>
    Named.update
      [("error_type".toList, .text r.kind.name), ("message".toList, .text r.message)] more

/-- A new report, or why there can be none, and the context that was handed in as it is
left behind. -/
structure Made where
  context : Context
  outcome : Except Misuse Report

/-- A report of a kind. Its message must be a text that is not blank. -/
def make (kind : Kind) (message : Datum) (context : Context) (attributes : Record) : Made :=
  ⟨context,
    match message with
    | .text t =>
        if Text.isBlankText t then .error (.of .blankMessage message.quoted)
        else .ok ⟨kind, t, context, attributes⟩
    | _ => .error (.of .blankMessage message.quoted)⟩

/-- Goes on with a changed context. When the change cannot be made, there is no report and
the context stays as it is. -/
def Made.after (context : Context) (changed : Except Misuse Context) (next : Context → Made) :
    Made :=
  match changed with
  | .ok c => next c
  | .error e => ⟨context, .error e⟩

/-- A report without values of its own. -/
def plain (kind : Kind) (message : Datum) (context : Context) : Made :=
  make kind message context []

/-- A report about a line of a file. The context gets the path under `pathName` unless it is
empty, and the line unless it is not set. -/
def located (kind : Kind) (pathName : Text) (message path line : Datum) (context : Context) :
    Made :=
  .after context (context.withOptional path.isGiven pathName path) fun withPath =>
    .after withPath (withPath.withOptional line.isSet "line".toList line) fun withLine =>
      make kind message withLine [("path".toList, path), ("line_no".toList, line)]

/-- A report about a host configuration. -/
def sshConfig (message path line : Datum) (context : Context) : Made :=
  located .sshConfig "config_path".toList message path line context

/-- A report about a trust store. -/
def trustStore (message path line : Datum) (context : Context) : Made :=
  located .trustStore "known_hosts_path".toList message path line context

/-- The fields without which there is no connection. -/
def requiredFields : List Text := ["hostname".toList, "user".toList, "port".toList]

/-- A report about a required field that is not set. -/
def missingField (field : Datum) (context : Context) : Made :=
  match field with
  | .text name =>
      if name ∈ requiredFields then
        .after context (context.withExtra "field".toList field) fun c =>
          make .missingField (.text ("no ".toList ++ name ++ " specified".toList)) c
            [("field".toList, field)]
      else ⟨context, .error (.of .unknownField field.quoted)⟩
  | _ => ⟨context, .error (.of .unknownField field.quoted)⟩

/-- The context with the candidates that are given, as a list. -/
def withCandidates (candidates : Datum) (context : Context) : Except Misuse Context :=
  if candidates.isSet then
    match candidates.items with
    | .ok items => context.withExtra "candidates".toList (.list items)
    | .error m => .error (.unfit m)
  else .ok context

/-- A report that none of the candidates is a usable key. -/
def noKeys (candidates : Datum) (context : Context) : Made :=
  .after context (withCandidates candidates context) fun c =>
    make .noKeys (.text "no key files found".toList) c []

/-- The path of a key file: a text that is not blank, or not set. -/
def isKeyPath : Datum → Bool
  | .null => true
  | .text t => !Text.isBlankText t
  | _ => false

/-- A report about a key file. -/
def keyLoad (message keyPath reason : Datum) (context : Context) : Made :=
  if isKeyPath keyPath then
    let withPath := { context with keyPath := keyPath }
    .after withPath (withPath.withOptional reason.isGiven "reason".toList reason)
      (plain .keyLoad message)
  else ⟨context, .error (.of .blankKeyPath keyPath.quoted)⟩

/-- A report about the key of a host. -/
def hostKey (kind : Kind) (message host port fingerprint : Datum) : Except Misuse Report :=
  (Context.checked { Context.empty with host := host, port := port }).bind fun context =>
    (context.withOptional fingerprint.isGiven "fingerprint".toList fingerprint).bind fun c =>
      (make kind message c
        [("host".toList, host), ("port".toList, port), ("fingerprint".toList, fingerprint)]).outcome

end Report

end SshTunnel
