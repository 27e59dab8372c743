import SshTunnel.Key.Library
import SshTunnel.OpenSsh.Wire
import SshTunnel.Regex.Token

/-!
# Public keys of five algorithms

A reader of key blobs: a blob is the name of an algorithm and the fields that the algorithm
asks for.
-/

namespace SshTunnel.OpenSsh

/-- The algorithms of keys. -/
inductive Algorithm where
  | rsa
  | ed25519
  | nistp256
  | nistp384
  | nistp521
deriving DecidableEq, Repr

/-- All algorithms. -/
def Algorithm.all : List Algorithm := [rsa, ed25519, nistp256, nistp384, nistp521]

/-- The name of an algorithm. -/
def Algorithm.name : Algorithm → Text
  | rsa => "ssh-rsa".toList
  | ed25519 => "ssh-ed25519".toList
  | nistp256 => "ecdsa-sha2-nistp256".toList
  | nistp384 => "ecdsa-sha2-nistp384".toList
  | nistp521 => "ecdsa-sha2-nistp521".toList

/-- The algorithm with a name. -/
def Algorithm.ofName? (name : Bytes) : Option Algorithm :=
  all.find? fun a => Bytes.ofAscii a.name = name

/-- The number of fields after the name in a public key. -/
def Algorithm.publicFields : Algorithm → Nat
  | ed25519 => 1
  | _ => 2

/-- Why a key cannot be read. -/
inductive Flaw where
  | unknownAlgorithm (name : Bytes)
  | invalidPublic
  | invalidEd25519Public
  | invalidPrivate
  | notAscii
  | badFooter (flaw : Regex.Flaw)
  | missingFooter
  | invalidPemData
  | invalidPemPrivate
  | unknownContainer
  | invalidContainer
  | passphraseNeeded
  | unknownPrivateAlgorithm
  | invalidEd25519Private
deriving DecidableEq, Repr

/-- The message for a key that cannot be read. -/
def Flaw.message : Flaw → Text
  | unknownAlgorithm name => "Unknown key algorithm: ".toList ++ Bytes.toAscii name
  | invalidPublic => "Invalid public key".toList
  | invalidEd25519Public => "Invalid EdDSA public key".toList
  | invalidPrivate => "Invalid private key".toList
  | notAscii => "Invalid encoding for key".toList
  | badFooter flaw => flaw.message
  | missingFooter => "Missing PEM footer".toList
  | invalidPemData => "Invalid PEM data".toList
  | invalidPemPrivate => "Invalid PEM private key".toList
  | unknownContainer => "Unrecognized OpenSSH private key type".toList
  | invalidContainer => "Invalid OpenSSH private key".toList
  | passphraseNeeded => "Passphrase must be specified to import encrypted private keys".toList
  | unknownPrivateAlgorithm => "Unknown OpenSSH private key algorithm".toList
  | invalidEd25519Private => "Invalid EdDSA private key".toList

/-- The key of an algorithm with these fields. -/
def keyOf (a : Algorithm) (fields : List Bytes) : PublicKey :=
  ⟨a.name, field (Bytes.ofAscii a.name) ++ fields.flatMap field⟩

/-- Checks the fields that have been read, and that nothing follows them. -/
def checkFields (a : Algorithm) : Option (List Bytes × Bytes) → Except Flaw Unit
  | some (fields, []) =>
      if a = .ed25519 ∧ fields.any (·.length ≠ 32) then .error .invalidEd25519Public else .ok ()
  | _ => .error .invalidPublic

/-- The public key that a blob holds. -/
def ofBlob (blob : Bytes) : Except Flaw PublicKey :=
  match field? blob with
  | none => .error .invalidPublic
  | some (name, rest) =>
      match Algorithm.ofName? name with
      | none => .error (.unknownAlgorithm name)
      | some a => (checkFields a (fields? a.publicFields rest)).map fun _ => ⟨a.name, blob⟩

end SshTunnel.OpenSsh
