import SshTunnel.Report.Misuse

/-!
# Named arguments

What something is made from is given under names. Some names have to be there, others may,
and no others are known.
-/

namespace SshTunnel

/-- The names of the arguments that something is made from. -/
structure Signature where
  owner : Text
  required : List Text
  optional : List Text
deriving DecidableEq, Repr

namespace Signature

/-- The argument is known. -/
def knows (s : Signature) (name : Text) : Bool :=
  s.required.contains name || s.optional.contains name

/-- The required arguments that are not given, in their order. -/
def missing (s : Signature) (given : List Text) : List Text :=
  s.required.filter fun name => !given.contains name

/-- Refuses the first argument that is not known, or else what is missing. -/
def check (s : Signature) (given : List Text) : Except Misuse Unit :=
  match given.find? fun name => !s.knows name with
  | some name => .error (.unknownArgument s.owner name)
  | none =>
      if (s.missing given).isEmpty then .ok ()
      else .error (.missingArguments s.owner (s.missing given))

end Signature

end SshTunnel
