import SshTunnel.Report.Signature

/-!
# Context of a report

What is known about the place of an error: five fields of their own and any others under
names of their own. As a structured record the fields that are set come first. Further
fields can only be set, and read, when they are kept as a record.
-/

namespace SshTunnel

/-- The context of an error. A field that is not set is null. -/
structure Context where
  host : Datum
  port : Datum
  username : Datum
  keyPath : Datum
  underlying : Datum
  extra : Datum

namespace Context

/-- Nothing is known. -/
def empty : Context := ⟨.null, .null, .null, .null, .null, .record []⟩

/-- A context is made from any of its fields. -/
def signature : Signature :=
  ⟨"ErrorContext".toList, [],
    ["host", "port", "username", "key_path", "original_error", "extra"].map String.toList⟩

/-- The number of a port that a connection can have. -/
def isPort (d : Datum) : Bool := d.whole?.any fun n => 1 ≤ n && n ≤ 65535

/-- The context, if its port is not set or can be the port of a connection. -/
def checked (c : Context) : Except Misuse Context :=
  match c.port with
  | .null => .ok c
  | port => if isPort port then .ok c else .error (.of .contextPort port.shown)

/-- The context with a further field. -/
def withExtra (c : Context) (name : Text) (value : Datum) : Except Misuse Context :=
  match c.extra.withEntry name value with
  | .ok extra => .ok { c with extra := extra }
  | .error m => .error (.unfit m)

/-- The context with a further field, if it is wanted. -/
def withOptional (c : Context) (wanted : Bool) (name : Text) (value : Datum) :
    Except Misuse Context :=
  if wanted then c.withExtra name value else .ok c

/-- The fields under their names. -/
def fields (c : Context) : Record :=
  [("host".toList, c.host), ("port".toList, c.port), ("username".toList, c.username),
    ("key_path".toList, c.keyPath), ("original_error".toList, c.underlying)]

/-- The fields that are set. -/
def setFields (c : Context) : Record :=
  c.fields.filter fun entry => entry.2.isSet

/-- The names of fields that a further field has taken. -/
def takenNames (c : Context) (further : Record) : List Text :=
  c.fields.names.filter fun name => further.names.contains name

/-- The context as a record, unless a further field has taken the name of a field. -/
def toRecord (c : Context) : Except Misuse Record :=
  match c.extra with
  | .null => .ok c.setFields
  | .record further =>
      let taken := c.takenNames further
      if taken.isEmpty then .ok (c.setFields.update further) else .error (.extraNames taken)
  | other => .error (.unfit (.noMember other "keys".toList))

end Context

end SshTunnel
