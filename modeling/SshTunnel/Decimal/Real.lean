import SshTunnel.Decimal.Shortest
import SshTunnel.Text.Basic

/-!
# Text of a floating point number

The shortest digits, written positionally from `10 ^ -4` up to `10 ^ 16` and with an
exponent of at least two digits elsewhere. A positional number always has a point.
-/

namespace SshTunnel.Decimal

/-- Digits with a point after the first `whole` of them. -/
def positional (digits : Text) (whole : Int) : Text :=
  if whole ≤ 0 then '0' :: '.' :: List.replicate (-whole).toNat '0' ++ digits
  else
    let n := whole.toNat
    let padded := digits ++ List.replicate (n - digits.length) '0'
    let fraction := padded.drop n
    padded.take n ++ '.' :: (if fraction.isEmpty then ['0'] else fraction)

/-- A power of ten behind a number. -/
def powerMark (power : Int) : Text :=
  'e' :: (if power < 0 then '-' else '+') :: (Text.ofNat power.natAbs).leftpad 2 '0'

/-- Digits with a point after the first and a power of ten. -/
def scientific (digits : Text) (power : Int) : Text :=
  let head := match digits with
    | [] => []
    | [d] => [d]
    | d :: more => d :: '.' :: more
  head ++ powerMark power

/-- The text of a decimal. -/
def Scaled.text (d : Scaled) : Text :=
  let all := Text.ofNat d.digits
  let digits := Text.dropEnd (· = '0') all
  let power : Int := d.exponent + all.length - 1
  if -4 ≤ power && power < 16 then positional digits (power + 1) else scientific digits power

/-- The sign of a number in front of its text. -/
def minus (negative : Bool) : Text := if negative then ['-'] else []

/-- The text of a floating point number. -/
def textOfFloat (x : Float) : Text :=
  match Shape.ofFloat x with
  | .notNumber => "nan".toList
  | .infinite negative => minus negative ++ "inf".toList
  | .finite negative 0 => minus negative ++ "0.0".toList
  | .finite negative magnitude =>
      minus negative ++ (((Binary.ofBits magnitude).shortest.map (·.text)).getD [])

end SshTunnel.Decimal
