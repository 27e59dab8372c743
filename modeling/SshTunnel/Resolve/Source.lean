import SshTunnel.Misfit

/-!
# Sources of connection fields

A source gives values for some of the four fields of a connection. Sources are merged in
order of precedence: for each field the first value that says something counts.
-/

namespace SshTunnel.Resolve

/-- The fields of a connection. -/
inductive Field where
  | hostname
  | user
  | port
  | identityFile
deriving DecidableEq, Repr

/-- All fields. -/
def Field.all : List Field := [hostname, user, port, identityFile]

/-- The name of a field. -/
def Field.name : Field → Text
  | hostname => "hostname".toList
  | user => "user".toList
  | port => "port".toList
  | identityFile => "identity_file".toList

/-- The value of a field that no source sets. -/
def Field.blank : Field → Datum
  | port => .int 0
  | _ => .text []

/-- Values for some of the fields. -/
abbrev Source := Field → Option Datum

/-- The source that a record is, by the names of the fields. -/
def Source.ofRecord (r : Record) : Source := fun f => r.get? f.name

/-- The source that a value is; only a record can be asked for a field. -/
def Source.ofDatum : Datum → Except Misfit Source
  | .record r => .ok (.ofRecord r)
  | d => .error (.noMember d "get".toList)

/-- A value for every field. -/
abbrev Merged := Field → Datum

/-- Merged fields as a source. -/
def Merged.source (m : Merged) : Source := fun f => some (m f)

/-- The first value for a field that says something. -/
def firstGiven (sources : List Source) (f : Field) : Option Datum :=
  sources.findSome? fun s => (s f).filter Datum.isGiven

/-- For every field the first value that says something, or the blank one. -/
def merge (sources : List Source) : Merged := fun f => (firstGiven sources f).getD f.blank

/-- What is met on the way to the first value for a field that cannot be asked for it. -/
def misfit? (f : Field) : List (Except Misfit Source) → Option Misfit
  | [] => none
  | .error m :: _ => some m
  | .ok s :: more => if ((s f).filter Datum.isGiven).isSome then none else misfit? f more

/-- Merges what may not all be sources. It does not matter what lies behind the first value
for every field. -/
def mergeChecked (sources : List (Except Misfit Source)) : Except Misfit Merged :=
  match Field.all.findSome? fun f => misfit? f sources with
  | some m => .error m
  | none => .ok (merge (sources.filterMap Except.toOption))

/-- What counts when nothing else is said: the usual port. -/
def builtin : Record := [("port".toList, .int 22)]

end SshTunnel.Resolve
