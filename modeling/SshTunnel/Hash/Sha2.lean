import SshTunnel.Hash.Padding

/-!
# SHA-256 and SHA-512

Both change eight words by the same rounds; they differ in the size of a word, in the
rotations and in how much of the constants they keep.
-/

namespace SshTunnel.Hash.Sha2

/-- The chaining value. -/
structure State (α : Type) where
  a : α
  b : α
  c : α
  d : α
  e : α
  f : α
  g : α
  h : α
deriving DecidableEq

/-- What sets one hash function apart: its words and the functions on them. -/
structure Variant (α : Type) where
  width : Nat
  ofNat : Nat → α
  toNat : α → Nat
  add : α → α → α
  choose : α → α → α → α
  majority : α → α → α → α
  bigA : α → α
  bigE : α → α
  smallOld : α → α
  smallNew : α → α
  constants : List α
  start : State α

variable {α : Type} (v : Variant α)

/-- Appends the next word of a schedule held last word first. -/
def extend (latest : List α) : List α :=
  let word := fun i => latest.getD i (v.ofNat 0)
  v.add (v.add (v.smallNew (word 1)) (word 6)) (v.add (v.smallOld (word 14)) (word 15))
    :: latest

/-- The words of a block, one for each constant. -/
def schedule (block : Bytes) : List α :=
  ((List.range (v.constants.length - 16)).foldl (fun latest _ => extend v latest)
    ((wordsOf v.width block).map v.ofNat).reverse).reverse

/-- One round with its constant and its word. -/
def step (s : State α) (input : α × α) : State α :=
  let first := v.add (v.add (v.add s.h (v.bigE s.e)) (v.add (v.choose s.e s.f s.g) input.1)) input.2
  let second := v.add (v.bigA s.a) (v.majority s.a s.b s.c)
  ⟨v.add first second, s.a, s.b, s.c, v.add s.d first, s.e, s.f, s.g⟩

/-- The chaining value after one more block. -/
def compress (s : State α) (block : Bytes) : State α :=
  let t := (v.constants.zip (schedule v block)).foldl (step v) s
  ⟨v.add s.a t.a, v.add s.b t.b, v.add s.c t.c, v.add s.d t.d,
    v.add s.e t.e, v.add s.f t.f, v.add s.g t.g, v.add s.h t.h⟩

/-- The words as bytes. -/
def bytes (s : State α) : Bytes :=
  [s.a, s.b, s.c, s.d, s.e, s.f, s.g, s.h].flatMap fun w => Bytes.ofNat v.width (v.toNat w)

/-- The digest of a message. -/
def digest (message : Bytes) : Bytes :=
  bytes v ((Bytes.chunks (16 * v.width) (padded (16 * v.width) (2 * v.width) message)).foldl
    (compress v) v.start)

theorem length_digest (message : Bytes) : (digest v message).length = 8 * v.width := by
  simp [digest, bytes]
  omega

/-- Fractional parts of the cube roots of the first eighty primes, 64 bits each. -/
def roundConstants : List Nat := [
  0x428a2f98d728ae22, 0x7137449123ef65cd, 0xb5c0fbcfec4d3b2f, 0xe9b5dba58189dbbc,
  0x3956c25bf348b538, 0x59f111f1b605d019, 0x923f82a4af194f9b, 0xab1c5ed5da6d8118,
  0xd807aa98a3030242, 0x12835b0145706fbe, 0x243185be4ee4b28c, 0x550c7dc3d5ffb4e2,
  0x72be5d74f27b896f, 0x80deb1fe3b1696b1, 0x9bdc06a725c71235, 0xc19bf174cf692694,
  0xe49b69c19ef14ad2, 0xefbe4786384f25e3, 0x0fc19dc68b8cd5b5, 0x240ca1cc77ac9c65,
  0x2de92c6f592b0275, 0x4a7484aa6ea6e483, 0x5cb0a9dcbd41fbd4, 0x76f988da831153b5,
  0x983e5152ee66dfab, 0xa831c66d2db43210, 0xb00327c898fb213f, 0xbf597fc7beef0ee4,
  0xc6e00bf33da88fc2, 0xd5a79147930aa725, 0x06ca6351e003826f, 0x142929670a0e6e70,
  0x27b70a8546d22ffc, 0x2e1b21385c26c926, 0x4d2c6dfc5ac42aed, 0x53380d139d95b3df,
  0x650a73548baf63de, 0x766a0abb3c77b2a8, 0x81c2c92e47edaee6, 0x92722c851482353b,
  0xa2bfe8a14cf10364, 0xa81a664bbc423001, 0xc24b8b70d0f89791, 0xc76c51a30654be30,
  0xd192e819d6ef5218, 0xd69906245565a910, 0xf40e35855771202a, 0x106aa07032bbd1b8,
  0x19a4c116b8d2d0c8, 0x1e376c085141ab53, 0x2748774cdf8eeb99, 0x34b0bcb5e19b48a8,
  0x391c0cb3c5c95a63, 0x4ed8aa4ae3418acb, 0x5b9cca4f7763e373, 0x682e6ff3d6b2b8a3,
  0x748f82ee5defb2fc, 0x78a5636f43172f60, 0x84c87814a1f0ab72, 0x8cc702081a6439ec,
  0x90befffa23631e28, 0xa4506cebde82bde9, 0xbef9a3f7b2c67915, 0xc67178f2e372532b,
  0xca273eceea26619c, 0xd186b8c721c0c207, 0xeada7dd6cde0eb1e, 0xf57d4f7fee6ed178,
  0x06f067aa72176fba, 0x0a637dc5a2c898a6, 0x113f9804bef90dae, 0x1b710b35131c471b,
  0x28db77f523047d84, 0x32caab7b40c72493, 0x3c9ebe0a15c9bebc, 0x431d67c49c100d4c,
  0x4cc5d4becb3e42b6, 0x597f299cfc657e2a, 0x5fcb6fab3ad6faec, 0x6c44198c4a475817
]

/-- Fractional parts of the square roots of the first eight primes, 64 bits each. -/
def startWords : State Nat := ⟨
  0x6a09e667f3bcc908, 0xbb67ae8584caa73b, 0x3c6ef372fe94f82b, 0xa54ff53a5f1d36f1,
  0x510e527fade682d1, 0x9b05688c2b3e6c1f, 0x1f83d9abfb41bd6b, 0x5be0cd19137e2179
⟩

/-- The same function of each word. -/
def State.map {β : Type} (f : α → β) (s : State α) : State β :=
  ⟨f s.a, f s.b, f s.c, f s.d, f s.e, f s.f, f s.g, f s.h⟩

/-- Turns a word of 32 bits to the right by `n` places, for `n` from 1 to 31. -/
def rotate32 (n x : UInt32) : UInt32 := x >>> n ||| x <<< (32 - n)

/-- Turns a word of 64 bits to the right by `n` places, for `n` from 1 to 63. -/
def rotate64 (n x : UInt64) : UInt64 := x >>> n ||| x <<< (64 - n)

/-- SHA-256: words of 32 bits, the upper halves of 64 constants. -/
def sha256 : Variant UInt32 where
  width := 4
  ofNat := UInt32.ofNat
  toNat := UInt32.toNat
  add := (· + ·)
  choose x y z := (x &&& y) ^^^ ((~~~ x) &&& z)
  majority x y z := (x &&& y) ^^^ (x &&& z) ^^^ (y &&& z)
  bigA x := rotate32 2 x ^^^ rotate32 13 x ^^^ rotate32 22 x
  bigE x := rotate32 6 x ^^^ rotate32 11 x ^^^ rotate32 25 x
  smallOld x := rotate32 7 x ^^^ rotate32 18 x ^^^ x >>> 3
  smallNew x := rotate32 17 x ^^^ rotate32 19 x ^^^ x >>> 10
  constants := (roundConstants.take 64).map fun k => UInt32.ofNat (k / 0x100000000)
  start := startWords.map fun k => UInt32.ofNat (k / 0x100000000)

/-- SHA-512: words of 64 bits, eighty constants. -/
def sha512 : Variant UInt64 where
  width := 8
  ofNat := UInt64.ofNat
  toNat := UInt64.toNat
  add := (· + ·)
  choose x y z := (x &&& y) ^^^ ((~~~ x) &&& z)
  majority x y z := (x &&& y) ^^^ (x &&& z) ^^^ (y &&& z)
  bigA x := rotate64 28 x ^^^ rotate64 34 x ^^^ rotate64 39 x
  bigE x := rotate64 14 x ^^^ rotate64 18 x ^^^ rotate64 41 x
  smallOld x := rotate64 1 x ^^^ rotate64 8 x ^^^ x >>> 7
  smallNew x := rotate64 19 x ^^^ rotate64 61 x ^^^ x >>> 6
  constants := roundConstants.map UInt64.ofNat
  start := startWords.map UInt64.ofNat

end SshTunnel.Hash.Sha2
