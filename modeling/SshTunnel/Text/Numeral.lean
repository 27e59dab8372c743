import SshTunnel.Text.Blank
import SshTunnel.Text.Digit

/-!
# Numerals

Reading a whole number as people write it: blanks around it, a sign, digits of any
script, single underscores between digits. A numeral of more than 4300 digits is refused, and
a number that would take as many is not written either.
-/

namespace SshTunnel.Text.Numeral

/-- The most digits a numeral may have. -/
def maxDigits : Nat := 4300

/-- A numeral with more digits than are read, or a number with more than are written. -/
inductive TooLong where
  | read (digits : Nat)
  | written
deriving DecidableEq, Repr

/-- What a message says of the numeral that is too long. -/
def TooLong.finding : TooLong → Text
  | read digits => ": value has ".toList ++ ofNat digits ++ " digits".toList
  | written => []

/-- The message for a numeral that is too long. -/
def TooLong.message (e : TooLong) : Text :=
  "Exceeds the limit (".toList ++ ofNat maxDigits
    ++ " digits) for integer string conversion".toList ++ e.finding
    ++ "; use sys.set_int_max_str_digits() to increase the limit".toList

/-- A whole number that takes no more digits than are written. -/
def isWritable (n : Int) : Bool := (ofNat n.natAbs).length ≤ maxDigits

/-- The text of a whole number, unless it takes too many digits. -/
def write (n : Int) : Except TooLong Text :=
  if isWritable n then .ok (ofInt n) else .error .written

/-- The number that the digit values write, most significant first. -/
def value (digits : List Nat) : Nat := digits.foldl (fun n d => 10 * n + d) 0

/-- The number that the digit values write, unless there are too many of them. -/
def bounded (digits : List Nat) : Except TooLong Nat :=
  if digits.length ≤ maxDigits then .ok (value digits) else .error (.read digits.length)

/-- A blank that may stand beside a numeral; the information separators may not. -/
def isMargin (c : Char) : Bool :=
  isBlank c && !(0x1c ≤ c.toNat && c.toNat ≤ 0x1f)

/-- Digit values of a text of digits in which an underscore may stand between two digits. -/
def digits? : Text → Option (List Nat)
  | [] => none
  | [c] => (digitValue? c).map ([·])
  | c :: '_' :: rest => do
      let d ← digitValue? c
      return d :: (← digits? rest)
  | c :: rest => do
      let d ← digitValue? c
      return d :: (← digits? rest)

/-- The sign of a numeral and what follows it. -/
def signed : Text → Bool × Text
  | '-' :: rest => (true, rest)
  | '+' :: rest => (false, rest)
  | t => (false, t)

/-- The whole number that a text writes, if it is a numeral and not too long. -/
def parse? (t : Text) : Option Int := do
  let (negative, body) := signed (dropEnd isMargin (t.dropWhile isMargin))
  let ds ← digits? body
  let n ← (bounded ds).toOption
  return if negative then -(n : Int) else n

end SshTunnel.Text.Numeral
