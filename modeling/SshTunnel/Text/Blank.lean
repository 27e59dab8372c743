import SshTunnel.Text.Basic

/-!
# Blank characters

The white space of configuration and trust files: the ASCII controls that separate, and
the spaces and separators of Unicode.
-/

namespace SshTunnel.Text

/-- White space that separates words: tab to carriage return, the four information
separators, space, next line and the Unicode spaces and separators. -/
def isBlank (c : Char) : Bool :=
  let n := c.toNat
  (0x09 ≤ n && n ≤ 0x0d) || (0x1c ≤ n && n ≤ 0x20) || n == 0x85 || n == 0xa0 || n == 0x1680
    || (0x2000 ≤ n && n ≤ 0x200a) || n == 0x2028 || n == 0x2029 || n == 0x202f || n == 0x205f
    || n == 0x3000

/-- The text without the blanks at its start. -/
def trimStart (t : Text) : Text := t.dropWhile isBlank

/-- The text without the blanks at its end. -/
def trimEnd (t : Text) : Text := dropEnd isBlank t

/-- The text without the blanks at its two ends. -/
def trim (t : Text) : Text := trimEnd (trimStart t)

/-- The text before the first blank. -/
def firstWord (t : Text) : Text := t.takeWhile (! isBlank ·)

/-- What follows the first word and the blanks after it. -/
def afterFirstWord (t : Text) : Text := trimStart (t.dropWhile (! isBlank ·))

/-- The longest runs of characters that are not blank, in order. -/
def words (t : Text) : List Text := (t.splitOnP isBlank).filter (! ·.isEmpty)

/-- A text with nothing but blanks in it. -/
def isBlankText (t : Text) : Bool := t.all isBlank

end SshTunnel.Text
