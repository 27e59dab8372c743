import SshTunnel.Bytes

/-!
# Message padding

The hash functions here read a message in blocks. A one bit, zeros and the length in bits
fill the last block.
-/

namespace SshTunnel.Hash

/-- The zeros between the one bit and the length that make whole blocks. -/
def fillLength (block field size : Nat) : Nat :=
  (block - (size + 1 + field) % block) % block

/-- The message with its padding: blocks of `block` bytes, the length in `field` bytes. -/
def padded (block field : Nat) (message : Bytes) : Bytes :=
  message ++ 0x80 :: List.replicate (fillLength block field message.length) 0
    ++ Bytes.ofNat field (8 * message.length)

/-- The numbers in a block of bytes, `width` bytes each. -/
def wordsOf (width : Nat) (block : Bytes) : List Nat :=
  (Bytes.chunks width block).map Bytes.toNat

end SshTunnel.Hash
