import SshTunnel.Decimal.Shortest

/-!
# Nearest numbers

Rounding a ratio of natural numbers to the nearest whole number and to the nearest floating
point number. A tie goes to the even neighbour.
-/

namespace SshTunnel.Decimal

/-- The whole number nearest to `num / den`. -/
def nearestWhole (num den : Nat) : Nat :=
  let below := num / den
  match compare (2 * (num % den)) den with
  | .lt => below
  | .eq => below + below % 2
  | .gt => below + 1

/-- The exponent at which `num / den` has 53 bits in front of the point, or the lowest one. -/
def exponentFor (num den : Nat) : Int :=
  let guess : Int := Int.ofNat num.log2 - Int.ofNat den.log2 - 52
  let p := powerRatio 2 guess
  max lowestExponent (if num * p.2 < exponentUnit * (den * p.1) then guess - 1 else guess)

/-- The bits of the magnitude nearest to `num / den`; too large a ratio gives those of
infinity. A mantissa that is rounded up to the next power of two runs over into the
exponent, as it should. -/
def nearestBits (num den : Nat) : Nat :=
  if num = 0 then 0
  else
    let e := exponentFor num den
    let p := powerRatio 2 e
    let mantissa := nearestWhole (num * p.2) (den * p.1)
    min infinityBits ((e - lowestExponent).toNat * exponentUnit + mantissa)

/-- The floating point number nearest to a whole number, if that is not too large. -/
def ofInt? (n : Int) : Option Float :=
  let bits := nearestBits n.natAbs 1
  if bits < infinityBits then some (ofBits (n < 0) bits) else none

/-- The floating point number nearest to a decimal with a sign. Decimals beyond any floating
point number are told by their length. -/
def Scaled.toFloat (negative : Bool) (d : Scaled) : Float :=
  let size : Int := Int.ofNat (Nat.toDigits 10 d.digits).length + d.exponent
  ofBits negative
    (if d.digits = 0 || size < -330 then 0
    else if 310 < size then infinityBits
    else
      let p := powerRatio 10 d.exponent
      nearestBits (d.digits * p.1) p.2)

end SshTunnel.Decimal
