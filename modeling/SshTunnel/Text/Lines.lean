import SshTunnel.Text.Basic

/-!
# Lines

Cutting a text into lines. Besides line feed and carriage return, the vertical tab, form
feed, three information separators, next line and the two Unicode separators end a line.
-/

namespace SshTunnel.Text

/-- A character that ends a line. -/
def isLineBreak (c : Char) : Bool :=
  let n := c.toNat
  (0x0a ≤ n && n ≤ 0x0d) || (0x1c ≤ n && n ≤ 0x1e) || n == 0x85 || n == 0x2028 || n == 0x2029

/-- Puts a character in front of the first line. -/
def consLine (c : Char) : List Text → List Text
  | [] => [[c]]
  | line :: more => (c :: line) :: more

/-- The lines without their breaks. A carriage return and the line feed after it are one
break, and a break at the very end starts no further line. -/
def lines : Text → List Text
  | [] => []
  | '\r' :: '\n' :: rest => [] :: lines rest
  | c :: rest => if isLineBreak c then [] :: lines rest else consLine c (lines rest)

/-- Writes every carriage return, and every carriage return with a line feed after it, as
one line feed. -/
def unifyNewlines : Text → Text
  | [] => []
  | '\r' :: '\n' :: rest => '\n' :: unifyNewlines rest
  | c :: rest => (if c = '\r' then '\n' else c) :: unifyNewlines rest

/-- Lines with their numbers, counted from one. -/
def numberedLines (t : Text) : List (Nat × Text) :=
  (lines t).zipIdx.map fun line => (line.2 + 1, line.1)

end SshTunnel.Text
