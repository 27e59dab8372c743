import SshTunnel.Text.Basic

/-!
# Numbers as bytes

Natural numbers as strings of bytes, most significant byte first or last.
-/

namespace SshTunnel.Bytes

/-- The number that the bytes write, most significant first. -/
def toNat (bytes : Bytes) : Nat := bytes.foldl (fun n b => 256 * n + b.toNat) 0

/-- The number that the bytes write, least significant first. -/
def toNatLittle (bytes : Bytes) : Nat := toNat bytes.reverse

/-- The last `width` bytes of a number, least significant first. -/
def ofNatLittle : Nat → Nat → Bytes
  | 0, _ => []
  | width + 1, n => UInt8.ofNat n :: ofNatLittle width (n / 256)

@[simp] theorem length_ofNatLittle (width n : Nat) : (ofNatLittle width n).length = width := by
  induction width generalizing n with
  | zero => rfl
  | succ width ih => simp [ofNatLittle, ih]

/-- The last `width` bytes of a number, most significant first. -/
def ofNat (width n : Nat) : Bytes := (ofNatLittle width n).reverse

@[simp] theorem length_ofNat (width n : Nat) : (ofNat width n).length = width := by
  simp [ofNat]

/-- The bytes of a text of ASCII characters; any other character keeps its low eight bits. -/
def ofAscii (t : Text) : Bytes := t.map fun c => UInt8.ofNat c.toNat

/-- ASCII text of the bytes, with a replacement character for each byte beyond ASCII. -/
def toAscii (bytes : Bytes) : Text :=
  bytes.map fun b => if b < 0x80 then Char.ofNat b.toNat else Char.ofNat 0xfffd

/-- The bytes in pieces of `size`, without what is left over at the end. -/
def chunks (size : Nat) (bytes : Bytes) : List Bytes :=
  (List.range (bytes.length / size)).map fun i => (bytes.drop (i * size)).take size

end SshTunnel.Bytes
