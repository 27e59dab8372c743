import SshTunnel.Report.Signature
import SshTunnel.Resolve.Source

/-!
# Declared tunnels

A tunnel as its user declares it: an alias or a host, the two addresses, and what else is
to be said about the connection.
-/

namespace SshTunnel.Resolve

/-- A whole number that is not negative; truth values count as numbers. -/
def isDeclaredPort (d : Datum) : Bool := d.whole?.any fun n => 0 ≤ n

/-- A declared tunnel. An empty user or identity file and port zero say nothing. -/
structure Declaration where
  host : Text
  localAddress : Text
  remoteAddress : Text
  user : Datum
  port : Datum
  identityFile : Datum
  name : Text
  port_declared : isDeclaredPort port = true

namespace Declaration

/-- What a declaration is made from. -/
def signature : Signature :=
  ⟨"TunnelDeclaration".toList, ["host", "local_address", "remote_address"].map String.toList,
    ["user", "port", "identity_file", "name"].map String.toList⟩

/-- A declaration; without a name it is called as its host, and its port has to be a whole
number that is not negative. -/
def make (host localAddress remoteAddress : Text) (user port identityFile : Datum)
    (name : Text) : Except Misuse Declaration :=
  if h : isDeclaredPort port = true then
    .ok
      { host, localAddress, remoteAddress, user, port, identityFile
        name := if name.isEmpty then host else name
        port_declared := h }
  else .error (.of .declaredPort port.quoted)

/-- What the declaration says about the connection. -/
def source (d : Declaration) : Source
  | .hostname => none
  | .user => some d.user
  | .port => some d.port
  | .identityFile => some d.identityFile

end Declaration

/-- A local address: a port alone is one of the local host. -/
def normalizeLocalAddress (address : Text) : Text :=
  if address.contains ':' then address else "localhost:".toList ++ address

end SshTunnel.Resolve
