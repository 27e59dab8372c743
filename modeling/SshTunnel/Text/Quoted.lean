import SshTunnel.Text.Printable

/-!
# Quoted text

A text between quotes, with escapes for the quote itself, the backslash and every
character that cannot be shown. Messages quote names and values this way.
-/

namespace SshTunnel.Text

/-- The number in lower case hexadecimal digits, filled with zeros to the width. -/
def hex (width n : Nat) : Text := (Nat.toDigits 16 n).leftpad width '0'

/-- One character of a text between `quote`s; `shown` says what stands for itself. -/
def escapeChar (shown : Char → Bool) (quote c : Char) : Text :=
  let n := c.toNat
  if c = quote || c = '\\' then ['\\', c]
  else if c = '\n' then ['\\', 'n']
  else if c = '\r' then ['\\', 'r']
  else if c = '\t' then ['\\', 't']
  else if shown c then [c]
  else if n < 0x100 then '\\' :: 'x' :: hex 2 n
  else if n < 0x10000 then '\\' :: 'u' :: hex 4 n
  else '\\' :: 'U' :: hex 8 n

/-- Single quotes, unless the text holds one of them and no double quote. -/
def quoteFor (t : Text) : Char :=
  if List.contains t '\'' && !List.contains t '"' then '"' else '\''

/-- The text between quotes; `shown` says what stands for itself. -/
def quotedBy (shown : Char → Bool) (t : Text) : Text :=
  let quote := quoteFor t
  quote :: t.flatMap (escapeChar shown quote) ++ [quote]

/-- The text between quotes. -/
def quoted (t : Text) : Text := quotedBy isPrintable t

/-- The text with escapes for everything beyond ASCII. -/
def asciiOnly (t : Text) : Text :=
  t.flatMap fun c => if c.toNat < 0x80 then [c] else escapeChar (fun _ => false) ' ' c

end SshTunnel.Text
