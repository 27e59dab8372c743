import SshTunnel.Decimal.Nearest
import SshTunnel.Decimal.Real

/-!
# Decimals with a given number of digits

A floating point number with so many digits behind the point, with so many digits in front
of a power of ten, or in the shorter of the two. The digits are those of the exact value,
rounded to the nearest; a tie goes to the even digit.
-/

namespace SshTunnel.Decimal

/-- How the digits of a number are laid out. -/
inductive Layout where
  | positional
  | scientific
  | general
deriving DecidableEq, Repr

/-- What stands behind the point; the point alone only when it is wanted. -/
def behindPoint (keepPoint : Bool) (fraction : Text) : Text :=
  if fraction.isEmpty && !keepPoint then [] else '.' :: fraction

/-- The whole digits of a ratio and `places` digits behind the point. -/
def fixedDigits (r : Nat × Nat) (places : Nat) : Text × Text :=
  let digits :=
    (Text.ofNat (nearestWhole (r.1 * Nat.pow 10 places) r.2)).leftpad (places + 1) '0'
  (digits.take (digits.length - places), digits.drop (digits.length - places))

/-- The first digits of a ratio, `places` of them behind the first one, and the power of ten
of the first. Digits that are rounded up to the next power have one too many. -/
def leadingDigits (r : Nat × Nat) (places : Nat) : Text × Int :=
  if r.1 = 0 then (List.replicate (places + 1) '0', 0)
  else
    let top := leadingPlace r.1 r.2
    let p := powerRatio 10 ((places : Int) - top)
    let digits := Text.ofNat (nearestWhole (r.1 * p.1) (r.2 * p.2))
    if digits.length = places + 1 then (digits, top) else (digits.dropLast, top + 1)

/-- The text of a ratio in scientific layout, given its first digits. -/
def scientificText (keepPoint : Bool) (digits : Text) (power : Int) : Text :=
  digits.take 1 ++ behindPoint keepPoint (digits.drop 1) ++ powerMark power

/-- The text of a ratio with `precision` digits: behind the point, or in all in the general
layout, which leaves out zeros at the end unless the point is to be kept. -/
def Layout.text (layout : Layout) (keepPoint : Bool) (precision : Nat)
    (r : Nat × Nat) : Text :=
  match layout with
  | positional =>
      let parts := fixedDigits r precision
      parts.1 ++ behindPoint keepPoint parts.2
  | scientific =>
      let lead := leadingDigits r precision
      scientificText keepPoint lead.1 lead.2
  | general =>
      let wanted := max precision 1
      let lead := leadingDigits r (wanted - 1)
      let trim := fun fraction : Text =>
        if keepPoint then fraction else Text.dropEnd (· = '0') fraction
      if -4 ≤ lead.2 && lead.2 < wanted then
        let parts := fixedDigits r ((wanted : Int) - 1 - lead.2).toNat
        parts.1 ++ behindPoint keepPoint (trim parts.2)
      else
        scientificText keepPoint (lead.1.take 1 ++ trim (lead.1.drop 1)) lead.2

/-- A floating point number without its sign, and whether it has one. -/
def Layout.write (layout : Layout) (keepPoint : Bool) (precision : Nat)
    (x : Float) : Bool × Text :=
  match Shape.ofFloat x with
  | .notNumber => (false, "nan".toList)
  | .infinite negative => (negative, "inf".toList)
  | .finite negative magnitude =>
      (negative, layout.text keepPoint precision (Binary.ofBits magnitude).value)

end SshTunnel.Decimal
