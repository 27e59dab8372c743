import SshTunnel.OpenSsh.Pem
import SshTunnel.Ed25519

/-!
# Private keys in a container

A reader of private key files without a passphrase, as far as the public key that belongs to
one. It reads the container format of OpenSSH and refuses every other block.
-/

namespace SshTunnel.OpenSsh

/-- The first bytes of a container. -/
def containerMark : Bytes := Bytes.ofAscii "openssh-key-v1".toList ++ [0]

/-- The outer fields of a container. -/
structure Container where
  cipher : Bytes
  keys : Nat
  secret : Bytes

/-- The outer fields of a container, given the bytes after its mark. What follows the last
field is ignored. -/
def Container.ofBytes? (bytes : Bytes) : Option Container :=
  (fields? 3 bytes).bind fun first =>
    (number? first.2).bind fun count =>
      (fields? 2 count.2).map fun last =>
        { cipher := first.1.headD []
          keys := count.1
          secret := last.1.getLastD [] }

/-- The number of fields after the name in a private key. -/
def Algorithm.privateFields : Algorithm → Nat
  | rsa => 6
  | ed25519 => 2
  | _ => 3

/-- The padding behind a private key counts up from one. -/
def isPadding (bytes : Bytes) : Bool :=
  bytes.length < 256 && bytes = (List.range bytes.length).map fun i => UInt8.ofNat (i + 1)

/-- The public key that belongs to the fields of a private key. An Ed25519 secret is what
its second field has in front of a copy of the first. -/
def publicKeyOf (a : Algorithm) (fields : List Bytes) : Except Flaw PublicKey :=
  match a, fields with
  | .ed25519, [shown, pair] =>
      let secret := if shown.isEmpty then [] else pair.take (pair.length - shown.length)
      if secret.length = 32 then .ok (keyOf .ed25519 [Ed25519.publicKey secret])
      else .error .invalidEd25519Private
  | .rsa, modulus :: power :: _ =>
      .ok (keyOf .rsa [shortestNumber power, shortestNumber modulus])
  | a, fields => .ok (keyOf a (fields.take 2))

/-- Reads the secret part of a container: two equal numbers, the algorithm's name, its
fields, a comment and padding. -/
def readSecret (secret : Bytes) : Except Flaw PublicKey :=
  match number? secret with
  | none => .error .invalidContainer
  | some (check, rest) =>
      match number? rest with
      | none => .error .invalidContainer
      | some (again, rest) =>
          if check ≠ again then .error .invalidContainer
          else
            match field? rest with
            | none => .error .invalidContainer
            | some (name, rest) =>
                match Algorithm.ofName? name with
                | none => .error .unknownPrivateAlgorithm
                | some a =>
                    match fields? (a.privateFields + 1) rest with
                    | none => .error .invalidContainer
                    | some (fields, padding) =>
                        if isPadding padding then publicKeyOf a fields.dropLast
                        else .error .invalidContainer

/-- Reads a container. -/
def readContainer (data : Bytes) : Except Flaw PublicKey :=
  if containerMark.isPrefixOf data then
    match Container.ofBytes? (data.drop containerMark.length) with
    | none => .error .invalidContainer
    | some c =>
        if c.keys ≠ 1 then .error .invalidContainer
        else if c.cipher ≠ Bytes.ofAscii "none".toList then .error .passphraseNeeded
        else readSecret c.secret
  else .error .unknownContainer

/-- The block says that its data is encrypted. -/
def Pem.Block.isEncrypted (b : Pem.Block) : Bool :=
  (b.headers.reverse.lookup (Bytes.ofAscii "Proc-Type".toList))
    = some (Bytes.ofAscii "4,ENCRYPTED".toList)

/-- The public key that belongs to the private key in a file. -/
def ofPrivateFile (file : Bytes) : Except Flaw PublicKey :=
  (Pem.firstBlock file).bind fun block =>
    if block.name = Bytes.ofAscii "OPENSSH".toList then readContainer block.data
    else if block.isEncrypted then .error .passphraseNeeded
    else .error .invalidPemPrivate

/-- The public key that belongs to the private key in a text. -/
def ofPrivateText (t : Text) : Except Flaw PublicKey :=
  if t.all (·.toNat < 0x80) then ofPrivateFile (Bytes.ofAscii t) else .error .notAscii

/-- How a flaw shows to the caller. An expression for the closing line that is none is not
refused as a key. -/
def Flaw.problem : Flaw → Key.Problem
  | badFooter (.longNumeral e) => .badValue "ValueError".toList e.message
  | badFooter .tooOften => .stray "OverflowError".toList Regex.Flaw.tooOften.message
  | badFooter flaw => .stray "error".toList flaw.message
  | flaw => .notKey flaw.message

/-- The library that programs are run with. Nothing that is proved for every library rests on
it; it serves as an example of one. -/
def library : Key.Library where
  decodePublic blob := (ofBlob blob).mapError Flaw.problem
  importPrivate file := (ofPrivateFile file).mapError Flaw.problem

end SshTunnel.OpenSsh
