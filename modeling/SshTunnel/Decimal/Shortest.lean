import SshTunnel.Decimal.Binary

/-!
# Shortest decimals

The fewest decimal digits that read back as a given binary fraction. A positive value is
`mantissa * 2 ^ exponent`; the numbers nearest to it form an interval, and of all decimals
in that interval one with the fewest digits is taken, of those the nearest. All comparisons
are between natural numbers.
-/

namespace SshTunnel.Decimal

/-- The decimal number `digits * 10 ^ exponent`. -/
structure Scaled where
  digits : Nat
  exponent : Int
deriving DecidableEq, Repr

/-- The place of the first digit of a positive ratio:
`10 ^ place ≤ num / den < 10 ^ (place + 1)`. -/
def leadingPlace (num den : Nat) : Int :=
  if den ≤ num then (Nat.toDigits 10 (num / den)).length - 1
  else -(((List.range 400).find? fun j => den ≤ num * Nat.pow 10 j).getD 400 : Nat)

/-- Compares a decimal with a ratio. -/
def Scaled.compareRatio (d : Scaled) (r : Nat × Nat) : Ordering :=
  let p := powerRatio 10 d.exponent
  compare (d.digits * p.1 * r.2) (r.1 * p.2)

/-- The decimal reads back as the value: it lies between the middles to the two neighbours,
ends included when the mantissa is even. -/
def Binary.readsBack (b : Binary) (d : Scaled) : Bool :=
  let low := d.compareRatio (b.ratio (4 * b.mantissa - if b.narrowBelow then 1 else 2))
  let high := d.compareRatio (b.ratio (4 * b.mantissa + 2))
  if b.mantissa % 2 = 0 then low != .lt && high != .gt else low == .gt && high == .lt

/-- The two neighbours of the value on the grid of decimals whose last place is `place`,
the nearer one first; a tie goes to the even one. -/
def Binary.neighbours (b : Binary) (place : Int) : List Scaled :=
  let r := b.value
  let p := powerRatio 10 place
  let below := r.1 * p.2 / (r.2 * p.1)
  let rest := r.1 * p.2 % (r.2 * p.1)
  let down : Scaled := ⟨below, place⟩
  let up : Scaled := ⟨below + 1, place⟩
  match compare (2 * rest) (r.2 * p.1) with
  | .lt => [down, up]
  | .gt => [up, down]
  | .eq => if below % 2 = 0 then [down, up] else [up, down]

/-- The first of the neighbours with one digit, two digits, and so on, that reads back. -/
def Binary.shortest (b : Binary) : Option Scaled :=
  let r := b.value
  let top := leadingPlace r.1 r.2
  (List.range 17).findSome? fun k : Nat => (b.neighbours (top - (k : Int))).find? b.readsBack

end SshTunnel.Decimal
