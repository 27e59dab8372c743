import SshTunnel.OpenSsh.Public
import SshTunnel.Regex.Parse
import SshTunnel.Regex.Search

/-!
# Armoured keys

A key in a text file stands between an opening and a closing line that name it. Lines with
a colon may come first; the rest is base64. The name on the closing line has to fit the one
on the opening line, which is read as a regular expression.
-/

namespace SshTunnel.OpenSsh.Pem

/-- An armoured block: the name on its opening line, its lines with a colon, and its data. -/
structure Block where
  name : Bytes
  headers : List (Bytes × Bytes)
  data : Bytes
deriving DecidableEq, Repr

/-- A byte that is white space in ASCII. -/
def isSpace (b : UInt8) : Bool := b = 0x20 || (0x09 ≤ b && b ≤ 0x0d)

/-- The bytes without the white space at their end. -/
def trimEnd (bytes : Bytes) : Bytes := (bytes.reverse.dropWhile isSpace).reverse

/-- The bytes without the white space at their two ends. -/
def trim (bytes : Bytes) : Bytes := trimEnd (bytes.dropWhile isSpace)

/-- How an opening line starts. -/
def opening : Bytes := Bytes.ofAscii "-----BEGIN ".toList

/-- How an opening line ends. -/
def ending : Bytes := Bytes.ofAscii " PRIVATE KEY-----".toList

/-- A line that opens a private key. -/
def opensKey (line : Bytes) : Bool := opening.isPrefixOf line && ending.isSuffixOf line

/-- The name on an opening line. -/
def nameOf (line : Bytes) : Bytes :=
  let tail := line.drop opening.length
  trim (tail.take (tail.length - ending.length))

/-- The bytes as characters, one for each. -/
def asText (bytes : Bytes) : Text := bytes.map fun b => Char.ofNat b.toNat

/-- The expression for the closing line that belongs to an opening line: the same from the
start of a line on with another first word, and nothing but white space behind it. -/
def closingPattern (line : Bytes) : Text :=
  "^-----END".toList ++ asText (line.drop 10) ++ "[ \\t\\r\\f\\v]*$".toList

/-- The first opening line, without white space at its end, and the position from where on
to look for the closing one: the next line, or the very start when there is none. `position`
is where the lines begin. -/
def findOpening (position : Nat) : List Bytes → Option (Bytes × Nat)
  | [] => none
  | line :: rest =>
      let bare := trimEnd line
      let next := position + line.length + 1
      if opensKey bare then some (bare, if rest.isEmpty then 0 else next)
      else findOpening next rest

/-- A line with a colon, as a name and a value. -/
def header? (line : Bytes) : Option (Bytes × Bytes) :=
  let bare := trimEnd line
  if bare.contains 0x3a then
    some (trim (bare.takeWhile (· ≠ 0x3a)), trim ((bare.dropWhile (· ≠ 0x3a)).drop 1))
  else none

/-- The headers in front of the data, and the lines of the data. -/
def splitHeaders : List Bytes → List (Bytes × Bytes) × List Bytes
  | [] => ([], [])
  | line :: rest =>
      match header? line with
      | some h =>
          let more := splitHeaders rest
          (h :: more.1, more.2)
      | none => ([], line :: rest)

/-- The block with a name around these bytes. -/
def blockOf (name body : Bytes) : Except Flaw Block :=
  let parts := splitHeaders (body.splitOn 0x0a)
  match Base64.decodeAscii false (asText parts.2.flatten) with
  | .error _ => .error .invalidPemData
  | .ok data => .ok ⟨name, parts.1, data⟩

/-- The first private key block of a file. -/
def firstBlock (file : Bytes) : Except Flaw Block :=
  match findOpening 0 (file.splitOn 0x0a) with
  | none => .error .invalidPrivate
  | some (first, start) =>
      match Regex.parse (closingPattern first) with
      | .error flaw => .error (.badFooter flaw)
      | .ok closing =>
          match closing.find file start with
          | none => .error .missingFooter
          | some stop => blockOf (nameOf first) ((file.drop start).take (stop - start))

end SshTunnel.OpenSsh.Pem
