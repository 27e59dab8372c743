import SshTunnel.Base64
import SshTunnel.Hash.Sha2

/-!
# Keys

A public key is the name of its algorithm and its blob; its fingerprint is the SHA-256 digest
of the blob in base64. Keys are read by a library: which blobs and which files it can read, and
how it refuses the others, is not known here.
-/

namespace SshTunnel

/-- A public key. -/
structure PublicKey where
  algorithm : Text
  blob : Bytes
deriving DecidableEq, Repr

/-- The fingerprint: the digest of the blob in base64 without padding. -/
def PublicKey.fingerprint (key : PublicKey) : Text :=
  "SHA256:".toList
    ++ Text.dropEnd (· = '=') (Base64.encode (Hash.Sha2.digest Hash.Sha2.sha256 key.blob))

namespace Key

/-- How the library ends when it cannot read a key: it says that this is no key, it refuses the
value in another way, or it ends with anything else. `kind` is the name of such an end. -/
inductive Problem where
  | notKey (message : Text)
  | badValue (kind message : Text)
  | stray (kind message : Text)
deriving DecidableEq, Repr

namespace Problem

/-- The message of a problem. -/
def message : Problem → Text
  | notKey message | badValue _ message | stray _ message => message

/-- The library says that this is no key. -/
def isNotKey : Problem → Bool
  | notKey _ => true
  | _ => false

/-- The library does not refuse what it was given, but ends with something else. -/
def isStray : Problem → Bool
  | stray _ _ => true
  | _ => false

end Problem

/-- The library that reads keys: the public key in a blob, and the public key that belongs to
the private key in a file. -/
structure Library where
  decodePublic : Bytes → Except Problem PublicKey
  importPrivate : Bytes → Except Problem PublicKey

/-- Of a blob that cannot be decoded the library says that it is no key. -/
def Library.DecodesCleanly (lib : Library) : Prop :=
  ∀ blob problem, lib.decodePublic blob = .error problem → problem.isNotKey = true

/-- A file that cannot be imported is refused in one way or the other. -/
def Library.ImportsCleanly (lib : Library) : Prop :=
  ∀ file problem, lib.importPrivate file = .error problem → problem.isStray = false

end Key

end SshTunnel
