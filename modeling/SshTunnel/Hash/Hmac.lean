import SshTunnel.Hash.Sha1

/-!
# Keyed hashing

HMAC with SHA-1: the message is hashed twice, each time behind the key under a mask.
-/

namespace SshTunnel.Hash.Hmac

/-- The key as one block of 64 bytes: a longer one is hashed first, zeros fill the rest. -/
def blockKey (key : Bytes) : Bytes :=
  let short := if 64 < key.length then Sha1.digest key else key
  short ++ List.replicate (64 - short.length) 0

/-- The HMAC-SHA1 code of a message. -/
def sha1 (key message : Bytes) : Bytes :=
  let k := blockKey key
  Sha1.digest (k.map (· ^^^ 0x5c) ++ Sha1.digest (k.map (· ^^^ 0x36) ++ message))

end SshTunnel.Hash.Hmac
