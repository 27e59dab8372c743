import SshTunnel.HostConfig.Load
import SshTunnel.Text.Numeral

/-!
# Looking up an alias

Of every directive that applies to an alias the first value counts. Identity files are
also listed in full.
-/

namespace SshTunnel

/-- What a configuration says about an alias; an empty text is a field that is not set. -/
structure HostEntry where
  hostname : Text
  user : Text
  port : Text
  identityFile : Text
  identityFiles : List Text
deriving DecidableEq, Repr

namespace HostEntry

/-- An entry that sets nothing. -/
def empty : HostEntry := ⟨[], [], [], [], []⟩

/-- The port as a number, or zero when it is not one. -/
def portNumber (e : HostEntry) : Int := (Text.Numeral.parse? e.port).getD 0

end HostEntry

namespace HostConfig

/-- The values of a keyword among directives, in order. -/
def valuesOf (keyword : Text) (ds : List Directive) : List Text :=
  (ds.filter fun d => d.keyword = keyword).map (·.value)

/-- What directives in order of precedence say. -/
def entryOf (ds : List Directive) : HostEntry :=
  let first := fun keyword : Text => (valuesOf keyword ds).headD []
  { hostname := first "hostname".toList
    user := first "user".toList
    port := first "port".toList
    identityFile := first "identityfile".toList
    identityFiles := valuesOf "identityfile".toList ds }

/-- What the configuration says about an alias. -/
def lookup (config : HostConfig) (host : Text) : HostEntry :=
  entryOf (config.contents.applying host)

end HostConfig

end SshTunnel
