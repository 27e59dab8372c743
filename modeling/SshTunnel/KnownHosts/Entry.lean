import SshTunnel.Base64
import SshTunnel.Key.Library
import SshTunnel.Text.Blank
import SshTunnel.Text.Lines

/-!
# Lines of a trust store

A line names hosts, the type of a key and the key, behind a marker or none. Blank lines and
lines that start with `#` say nothing; every other line has to be well formed, and its key one
that the library can decode.
-/

namespace SshTunnel.KnownHosts

/-- The marker of a line. -/
inductive Marker where
  | none
  | revoked
  | certAuthority
deriving DecidableEq, Repr

/-- The text of a marker. -/
def Marker.text : Marker → Text
  | none => []
  | revoked => "@revoked".toList
  | certAuthority => "@cert-authority".toList

/-- The marker that a word writes. -/
def Marker.ofText? (word : Text) : Option Marker :=
  if word = revoked.text then some revoked
  else if word = certAuthority.text then some certAuthority
  else Option.none

/-- What a line says: patterns for hosts, the type and the blob of a key, and a marker. -/
structure Entry where
  hosts : List Text
  keyType : Text
  keyData : Bytes
  marker : Marker
  line : Nat
deriving DecidableEq, Repr

/-- What is wrong with a line. -/
inductive LineProblem where
  | unknownMarker (word : Text)
  | missingFields
  | keyData (flaw : Base64.Flaw)
  | publicKey (problem : Key.Problem)
deriving DecidableEq, Repr

/-- The words for a problem. -/
def LineProblem.words : LineProblem → Text
  | unknownMarker word => "unknown marker ".toList ++ word
  | missingFields => "expected hostnames, key type and key data".toList
  | keyData flaw => "invalid key data: ".toList ++ flaw.message
  | publicKey problem => "invalid public key: ".toList ++ problem.message

/-- A line that says something. -/
def isSignificant (trimmed : Text) : Bool := !trimmed.isEmpty && trimmed.head? != some '#'

/-- The marker in front of the fields, and the fields. -/
def splitMarker : List Text → Except LineProblem (Marker × List Text)
  | [] => .ok (.none, [])
  | word :: rest =>
      if word.head? = some '@' then
        match Marker.ofText? word with
        | some marker => .ok (marker, rest)
        | none => .error (.unknownMarker word)
      else .ok (.none, word :: rest)

/-- The patterns in a list with commas; empty ones vanish. -/
def hostList (t : Text) : List Text := (t.splitOn ',').filter (! ·.isEmpty)

/-- The entry that the fields of a line write. -/
def Entry.ofFields (lib : Key.Library) (number : Nat) (marker : Marker) :
    List Text → Except LineProblem Entry
  | hosts :: keyType :: data :: _ =>
      match Base64.decode data with
      | .error flaw => .error (.keyData flaw)
      | .ok blob =>
          match lib.decodePublic blob with
          | .error problem => .error (.publicKey problem)
          | .ok _ => .ok ⟨hostList hosts, keyType, blob, marker, number⟩
  | _ => .error .missingFields

/-- The entry that a significant line writes. -/
def Entry.ofLine (lib : Key.Library) (number : Nat) (line : Text) : Except LineProblem Entry :=
  (splitMarker (Text.words line)).bind fun parts => Entry.ofFields lib number parts.1 parts.2

/-- A line that is not well formed. -/
structure LineError where
  line : Nat
  problem : LineProblem
deriving DecidableEq, Repr

/-- The entries of numbered lines. -/
def readLines (lib : Key.Library) : List (Nat × Text) → Except LineError (List Entry)
  | [] => .ok []
  | (number, line) :: rest =>
      let trimmed := Text.trim line
      if isSignificant trimmed then
        match Entry.ofLine lib number trimmed with
        | .error problem => .error ⟨number, problem⟩
        | .ok entry => (readLines lib rest).map (entry :: ·)
      else readLines lib rest

/-- The entries of a text, one for each significant line. -/
def parse (lib : Key.Library) (t : Text) : Except LineError (List Entry) :=
  readLines lib (Text.numberedLines t)

end SshTunnel.KnownHosts
