/-!
# Text and bytes

Text is a list of Unicode scalar values and data is a list of bytes, so that every
function below is a recursion on the list it reads.
-/

namespace SshTunnel

/-- A text, one entry per Unicode scalar value. -/
abbrev Text := List Char

/-- A string of bytes. -/
abbrev Bytes := List UInt8

namespace Text

/-- The decimal digits of a natural number. -/
def ofNat (n : Nat) : Text := Nat.toDigits 10 n

/-- The decimal digits of an integer, with `-` in front of a negative one. -/
def ofInt : Int → Text
  | .ofNat n => ofNat n
  | .negSucc n => '-' :: ofNat (n + 1)

/-- `part` occurs somewhere in the text. -/
def hasPart (part : Text) : Text → Bool
  | [] => part.isEmpty
  | c :: rest => part.isPrefixOf (c :: rest) || hasPart part rest

/-- The text before the first `mark` and the text after it, when there is one. -/
def cutAt (mark : Char) : Text → Option (Text × Text)
  | [] => none
  | c :: rest =>
      if c = mark then some ([], rest)
      else (cutAt mark rest).map fun halves => (c :: halves.1, halves.2)

/-- The text without the `mark`s at its end. -/
def dropEnd (mark : Char → Bool) (t : Text) : Text :=
  (t.reverse.dropWhile mark).reverse

/-- Alphabetic order by scalar value; a text comes after its own beginnings. -/
def atMost : Text → Text → Bool
  | [], _ => true
  | _ :: _, [] => false
  | a :: s, b :: t => if a = b then atMost s t else a.toNat < b.toNat

/-- Parts with `mark` between neighbours. -/
def join (mark : Text) : List Text → Text
  | [] => []
  | [t] => t
  | t :: more => t ++ mark ++ join mark more

/-- Parts as a list in a sentence. -/
def listed : List Text → Text
  | [] => []
  | [t] => t
  | [s, t] => s ++ " and ".toList ++ t
  | parts => join ", ".toList parts.dropLast ++ ", and ".toList ++ parts.getLastD []

end Text

end SshTunnel
