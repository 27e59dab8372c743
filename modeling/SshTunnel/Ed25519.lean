import SshTunnel.Bytes
import SshTunnel.Hash.Sha2

/-!
# Ed25519 public keys

The public key that belongs to a secret of 32 bytes: a multiple of the base point of the
twisted Edwards curve over the field of `2 ^ 255 - 19` elements, as its second coordinate
and the parity of its first.
-/

namespace SshTunnel.Ed25519

/-- The number of field elements. -/
def fieldSize : Nat := Nat.pow 2 255 - 19

/-- The binary digits of a number below `2 ^ width`, most significant first. -/
def bits (width n : Nat) : List Bool := (List.range width).reverse.map n.testBit

/-- A power in the field, by squaring. -/
def power (x e : Nat) : Nat :=
  (bits 255 e).foldl (fun acc b =>
    let squared := acc * acc % fieldSize
    if b then squared * x % fieldSize else squared) 1

/-- The inverse of a nonzero field element. -/
def inverse (x : Nat) : Nat := power x (fieldSize - 2)

/-- The difference of two field elements. -/
def minus (x y : Nat) : Nat := (x + fieldSize - y % fieldSize) % fieldSize

/-- The constant of the curve, `-121665 / 121666`. -/
def curveConstant : Nat := minus 0 (121665 * inverse 121666 % fieldSize)

/-- A point with coordinates `x / z` and `y / z`; `t` is `x * y / z`. -/
structure Point where
  x : Nat
  y : Nat
  z : Nat
  t : Nat
deriving DecidableEq

/-- The neutral point. -/
def Point.neutral : Point := ⟨0, 1, 1, 0⟩

/-- The sum of two points; the formula is complete on this curve. -/
def Point.add (d : Nat) (p q : Point) : Point :=
  let a := minus p.y p.x * minus q.y q.x % fieldSize
  let b := (p.y + p.x) * (q.y + q.x) % fieldSize
  let c := 2 * d * p.t * q.t % fieldSize
  let m := 2 * p.z * q.z % fieldSize
  let e := minus b a
  let f := minus m c
  let g := (m + c) % fieldSize
  let h := (b + a) % fieldSize
  ⟨e * f % fieldSize, g * h % fieldSize, f * g % fieldSize, e * h % fieldSize⟩

/-- The base point. -/
def Point.base : Point :=
  let x := 15112221349535400772501151409588531511454012693041857206046113283949847762202
  let y := 46316835694926478169428394003475163141307993866256225615783033603165251855960
  ⟨x, y, 1, x * y % fieldSize⟩

/-- A multiple of a point by a number below `2 ^ 256`, by doubling. -/
def Point.times (p : Point) (n : Nat) : Point :=
  let d := curveConstant
  (bits 256 n).foldl (fun acc b =>
    let doubled := Point.add d acc acc
    if b then Point.add d doubled p else doubled) Point.neutral

/-- A point in 32 bytes. -/
def Point.bytes (p : Point) : Bytes :=
  let back := inverse p.z
  let x := p.x * back % fieldSize
  let y := p.y * back % fieldSize
  Bytes.ofNatLittle 32 (y + x % 2 * Nat.pow 2 255)

/-- The number of a secret: half of its hash with the low three bits and the top bit
cleared and the bit below the top set. -/
def secretNumber (secret : Bytes) : Nat :=
  let n := Bytes.toNatLittle ((Hash.Sha2.digest Hash.Sha2.sha512 secret).take 32)
  n % Nat.pow 2 254 / 8 * 8 + Nat.pow 2 254

/-- The public key of a secret. -/
def publicKey (secret : Bytes) : Bytes := (Point.base.times (secretNumber secret)).bytes

end SshTunnel.Ed25519
