/-!
# Binary floating point

The parts of a floating point number: a sign, and a magnitude that is a whole number times
a power of two. A magnitude is also a ratio of natural numbers, and every computation with
it is exact.
-/

namespace SshTunnel.Decimal

/-- The weight of the lowest of the bits for the exponent; the 52 bits below it are the
fraction. -/
def exponentUnit : Nat := 0x10000000000000

/-- The weight of the sign. -/
def signUnit : Nat := 0x8000000000000000

/-- The bits of infinity; those of what is no number lie above. -/
def infinityBits : Nat := 0x7ff * exponentUnit

/-- The lowest exponent. -/
def lowestExponent : Int := -1074

/-- The number `mantissa * 2 ^ exponent`. `narrowBelow` says that the next smaller
representable number is only half a step away. -/
structure Binary where
  mantissa : Nat
  exponent : Int
  narrowBelow : Bool

/-- The parts of a finite magnitude with the given bits. -/
def Binary.ofBits (bits : Nat) : Binary :=
  let fraction := bits % exponentUnit
  let biased : Nat := bits / exponentUnit % 2048
  if biased = 0 then ⟨fraction, lowestExponent, false⟩
  else
    ⟨fraction + exponentUnit, Int.ofNat biased + (lowestExponent - 1),
      fraction == 0 && 1 < biased⟩

/-- `base ^ e`, as a numerator and a denominator. -/
def powerRatio (base : Nat) (e : Int) : Nat × Nat :=
  if e < 0 then (1, Nat.pow base (-e).toNat) else (Nat.pow base e.toNat, 1)

/-- The value in quarters of its last place, as a numerator and a denominator:
`quarters * 2 ^ exponent / 4`. -/
def Binary.ratio (b : Binary) (quarters : Nat) : Nat × Nat :=
  let p := powerRatio 2 b.exponent
  (quarters * p.1, 4 * p.2)

/-- The value as a numerator and a denominator. -/
def Binary.value (b : Binary) : Nat × Nat := b.ratio (4 * b.mantissa)

/-- A floating point number as it is told apart for writing: what is no number, or a sign
with infinity or with the bits of a finite magnitude. -/
inductive Shape where
  | notNumber
  | infinite (negative : Bool)
  | finite (negative : Bool) (magnitude : Nat)
deriving DecidableEq, Repr

/-- The shape of a floating point number. -/
def Shape.ofFloat (x : Float) : Shape :=
  let bits := x.toBits.toNat
  let negative : Bool := decide (signUnit ≤ bits)
  let magnitude := bits % signUnit
  if infinityBits < magnitude then notNumber
  else if magnitude = infinityBits then infinite negative
  else finite negative magnitude

/-- The floating point number with this sign and these bits for its magnitude. -/
def ofBits (negative : Bool) (magnitude : Nat) : Float :=
  Float.ofBits (UInt64.ofNat (if negative then signUnit + magnitude else magnitude))

/-- The least whole number that is not below a positive number; none is above infinity. -/
def ceiling? (x : Float) : Option Nat :=
  match Shape.ofFloat x with
  | .finite _ magnitude =>
      let r := (Binary.ofBits magnitude).value
      some ((r.1 + r.2 - 1) / r.2)
  | _ => none

/-- The whole number that a floating point number becomes without its fraction. -/
def truncate? (x : Float) : Option Int :=
  match Shape.ofFloat x with
  | .finite negative magnitude =>
      let r := (Binary.ofBits magnitude).value
      some (if negative then -Int.ofNat (r.1 / r.2) else Int.ofNat (r.1 / r.2))
  | _ => none

end SshTunnel.Decimal
