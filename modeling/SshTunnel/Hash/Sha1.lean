import SshTunnel.Hash.Padding

/-!
# SHA-1

Five words, changed by eighty rounds for each block of 64 bytes. The digest has 20 bytes.
-/

namespace SshTunnel.Hash.Sha1

/-- The chaining value. -/
structure State where
  a : UInt32
  b : UInt32
  c : UInt32
  d : UInt32
  e : UInt32
deriving DecidableEq

/-- The chaining value before the first block. -/
def start : State := ⟨0x67452301, 0xefcdab89, 0x98badcfe, 0x10325476, 0xc3d2e1f0⟩

/-- Turns a word to the left by `n` places, for `n` from 1 to 31. -/
def rotate (n x : UInt32) : UInt32 := x <<< n ||| x >>> (32 - n)

/-- Appends the next word of a schedule held last word first. -/
def extend (latest : List UInt32) : List UInt32 :=
  rotate 1 (latest.getD 2 0 ^^^ latest.getD 7 0 ^^^ latest.getD 13 0 ^^^ latest.getD 15 0)
    :: latest

/-- The eighty words of a block. -/
def schedule (block : Bytes) : List UInt32 :=
  ((List.range 64).foldl (fun latest _ => extend latest)
    ((wordsOf 4 block).map UInt32.ofNat).reverse).reverse

/-- The function and the constant of a round. -/
def mix (round : Nat) (s : State) : UInt32 :=
  if round < 20 then ((s.b &&& s.c) ||| ((~~~ s.b) &&& s.d)) + 0x5a827999
  else if round < 40 then (s.b ^^^ s.c ^^^ s.d) + 0x6ed9eba1
  else if round < 60 then ((s.b &&& s.c) ||| (s.b &&& s.d) ||| (s.c &&& s.d)) + 0x8f1bbcdc
  else (s.b ^^^ s.c ^^^ s.d) + 0xca62c1d6

/-- One round with its word. -/
def step (s : State) (word : UInt32 × Nat) : State :=
  ⟨rotate 5 s.a + mix word.2 s + s.e + word.1, s.a, rotate 30 s.b, s.c, s.d⟩

/-- The chaining value after one more block. -/
def compress (s : State) (block : Bytes) : State :=
  let t := (schedule block).zipIdx.foldl step s
  ⟨s.a + t.a, s.b + t.b, s.c + t.c, s.d + t.d, s.e + t.e⟩

/-- The words as bytes. -/
def State.bytes (s : State) : Bytes :=
  [s.a, s.b, s.c, s.d, s.e].flatMap fun w => Bytes.ofNat 4 w.toNat

/-- The SHA-1 digest of a message. -/
def digest (message : Bytes) : Bytes :=
  ((Bytes.chunks 64 (padded 64 8 message)).foldl compress start).bytes

end SshTunnel.Hash.Sha1
