import SshTunnel.Base64
import SshTunnel.Hash.Hmac
import SshTunnel.HostConfig.Contents
import SshTunnel.Text.Numeral
import SshTunnel.Text.Utf8

/-!
# Host patterns of a trust store

A host name stands for port 22, `[name]:port` for another one. A pattern is a hashed name,
a bracketed name with a port, or a name for port 22; names may have wildcards. A port with too
many digits can neither be read from a pattern nor be written into a name to be hashed.
-/

namespace SshTunnel.KnownHosts

/-- The port that a name without brackets stands for. -/
def defaultPort : Int := 22

/-- A host and a port as the store writes them, unless the port takes too many digits. -/
def hostText (host : Text) (port : Int) : Except Text.Numeral.TooLong Text :=
  if port = defaultPort then .ok host
  else (Text.Numeral.write port).map fun digits => '[' :: host ++ "]:".toList ++ digits

/-- A pattern for hosts. A hashed name that is not well formed is unmatched. -/
inductive HostPattern where
  | hashed (salt code : Bytes)
  | bracketed (body : Text) (digits : List Nat)
  | plain (body : Text)
  | unmatched
deriving DecidableEq, Repr

/-- The salt and the code of a hashed name: third and fourth of four parts between bars,
the second being `1`. -/
def HostPattern.hashedOf (pattern : Text) : HostPattern :=
  match pattern.splitOn '|' with
  | [_, ['1'], salt, code] =>
      match Base64.decodeLenient salt, Base64.decodeLenient code with
      | .ok s, .ok c => .hashed s c
      | _, _ => .unmatched
  | _ => .unmatched

/-- The code of a host under a salt. -/
def hostCode (salt : Bytes) (host : Text) : Bytes := Hash.Hmac.sha1 salt (Utf8.encode host)

/-- A hashed pattern stands for a host, written as the store writes it. -/
def hashedCovers (pattern host : Text) : Bool :=
  match HostPattern.hashedOf pattern with
  | .hashed salt code => hostCode salt host = code
  | _ => false

/-- The digit values of a text of digits, not empty; a line feed may follow. -/
def portDigits? (t : Text) : Option (List Nat) :=
  let bare := if t.getLast? = some '\n' then t.dropLast else t
  if bare.isEmpty then none else bare.mapM Text.digitValue?

/-- The name and the port digits of a bracketed pattern. -/
def bracketed? (pattern : Text) : Option (Text × List Nat) :=
  match pattern with
  | '[' :: rest =>
      let body := rest.takeWhile (· ≠ ']')
      match rest.dropWhile (· ≠ ']') with
      | ']' :: ':' :: tail =>
          if body.isEmpty then none else (portDigits? tail).map fun digits => (body, digits)
      | _ => none
  | _ => none

/-- The pattern that a text without a leading `!` writes. -/
def HostPattern.ofText (pattern : Text) : HostPattern :=
  if "|1|".toList.isPrefixOf pattern then hashedOf pattern
  else
    match bracketed? pattern with
    | some (body, digits) => .bracketed body digits
    | none => .plain pattern

/-- The pattern stands for a host at a port. A port with too many digits is refused: that of a
bracketed pattern, and the one asked about where the host is to be written with it. -/
def HostPattern.covers (host : Text) (port : Int) :
    HostPattern → Except Text.Numeral.TooLong Bool
  | .hashed salt code =>
      (hostText host port).map fun name => hostCode salt name = code
  | .bracketed body digits =>
      (Text.Numeral.bounded digits).map fun n =>
        port = (n : Int) && HostConfig.patternMatches host body
  | .plain body => .ok (port = defaultPort && HostConfig.patternMatches host body)
  | .unmatched => (hostText host port).map fun _ => false

/-- A text stands for a host at a port. -/
def patternCovers (host : Text) (port : Int) (pattern : Text) :
    Except Text.Numeral.TooLong Bool :=
  (HostPattern.ofText pattern).covers host port

/-- Goes through a list of patterns; `found` says that a positive one has covered the host.
A negated one that covers it ends the search. -/
def searchPatterns (host : Text) (port : Int) (found : Bool) :
    List Text → Except Text.Numeral.TooLong Bool
  | [] => .ok found
  | pattern :: more =>
      match HostConfig.negated? pattern with
      | some body =>
          (patternCovers host port body).bind fun hit =>
            if hit then .ok false else searchPatterns host port found more
      | none =>
          (patternCovers host port pattern).bind fun hit =>
            searchPatterns host port (found || hit) more

/-- Some positive pattern covers the host and no negated one does. -/
def listCovers (host : Text) (port : Int) (patterns : List Text) :
    Except Text.Numeral.TooLong Bool :=
  searchPatterns host port false patterns

end SshTunnel.KnownHosts
