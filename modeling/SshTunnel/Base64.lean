import SshTunnel.Text.Basic

/-!
# Base64

Three bytes as four characters. The strict reading refuses every character outside the
alphabet and padding anywhere but where it is due; the lenient one passes over them.
-/

namespace SshTunnel.Base64

/-- The character for a value below 64. -/
def digit (n : Nat) : Char :=
  if n < 26 then Char.ofNat (0x41 + n)
  else if n < 52 then Char.ofNat (0x61 + (n - 26))
  else if n < 62 then Char.ofNat (0x30 + (n - 52))
  else if n = 62 then '+'
  else '/'

/-- The value of a character of the alphabet. -/
def value? (c : Char) : Option Nat :=
  let n := c.toNat
  if 0x41 ≤ n && n ≤ 0x5a then some (n - 0x41)
  else if 0x61 ≤ n && n ≤ 0x7a then some (n - 0x61 + 26)
  else if 0x30 ≤ n && n ≤ 0x39 then some (n - 0x30 + 52)
  else if c = '+' then some 62
  else if c = '/' then some 63
  else none

/-- The base64 text of the bytes, padded to whole groups of four. -/
def encode : Bytes → Text
  | [] => []
  | [a] =>
      let n := a.toNat
      [digit (n / 4), digit (n % 4 * 16), '=', '=']
  | [a, b] =>
      let n := a.toNat * 256 + b.toNat
      [digit (n / 1024), digit (n / 16 % 64), digit (n % 16 * 4), '=']
  | a :: b :: c :: rest =>
      let n := a.toNat * 65536 + b.toNat * 256 + c.toNat
      digit (n / 262144) :: digit (n / 4096 % 64) :: digit (n / 64 % 64) :: digit (n % 64)
        :: encode rest

/-- Why a text is not base64. -/
inductive Flaw where
  | notAscii
  | leadingPadding
  | notInAlphabet
  | innerPadding
  | afterPadding
  | strayDigit (count : Nat)
  | missingPadding
deriving DecidableEq, Repr

/-- The words for a flaw. -/
def Flaw.message : Flaw → Text
  | notAscii => "string argument should contain only ASCII characters".toList
  | leadingPadding => "Leading padding not allowed".toList
  | notInAlphabet => "Only base64 data is allowed".toList
  | innerPadding => "Discontinuous padding not allowed".toList
  | afterPadding => "Excess data after padding".toList
  | strayDigit count =>
      "Invalid base64-encoded string: number of data characters (".toList ++ Text.ofNat count
        ++ ") cannot be 1 more than a multiple of 4".toList
  | missingPadding => "Incorrect padding".toList

/-- What has been read of a group of four: how many characters, their bits that make no
byte yet, how many padding characters since the last of them, and whether there has been
padding at all. -/
structure Group where
  size : Nat
  bits : Nat
  padding : Nat
  padded : Bool
deriving DecidableEq, Repr

/-- Nothing read so far. -/
def Group.empty : Group := ⟨0, 0, 0, false⟩

/-- Takes the next value into the group: the group after it and the byte it completes. -/
def Group.push (g : Group) (v : Nat) : Group × Bytes :=
  match g.size with
  | 0 => (⟨1, v, 0, g.padded⟩, [])
  | 1 => (⟨2, v % 16, 0, g.padded⟩, [UInt8.ofNat (g.bits * 4 + v / 16)])
  | 2 => (⟨3, v % 4, 0, g.padded⟩, [UInt8.ofNat (g.bits * 16 + v / 4)])
  | _ => (⟨0, 0, 0, g.padded⟩, [UInt8.ofNat (g.bits * 64 + v)])

/-- Takes a padding character into the group; it counts from the third place on. -/
def Group.pad (g : Group) : Group :=
  ⟨g.size, g.bits, if 2 ≤ g.size then g.padding + 1 else g.padding, true⟩

/-- Characters and padding fill the group. -/
def Group.isFull (g : Group) : Bool := 2 ≤ g.size && 4 ≤ g.size + g.padding

/-- The text ends in the middle of a group, or at the end of one, after `written` bytes. -/
def finish (g : Group) (written : Nat) : Except Flaw Bytes :=
  match g.size with
  | 0 => .ok []
  | 1 => .error (.strayDigit (written / 3 * 4 + 1))
  | _ => .error .missingPadding

/-- Reads on inside a group, after `written` bytes. -/
def decodeFrom (strict : Bool) (g : Group) (written : Nat) : Text → Except Flaw Bytes
  | [] => finish g written
  | c :: rest =>
      if c = '=' then
        if g.pad.isFull then
          if strict && !rest.isEmpty then .error .afterPadding else .ok []
        else decodeFrom strict g.pad written rest
      else
        match value? c with
        | none => if strict then .error .notInAlphabet else decodeFrom strict g written rest
        | some v =>
            if strict && g.padded then .error .innerPadding
            else
              let next := g.push v
              (decodeFrom strict next.1 (written + next.2.length) rest).map (next.2 ++ ·)

/-- The bytes of a text of ASCII characters. -/
def decodeAscii (strict : Bool) (t : Text) : Except Flaw Bytes :=
  if strict && t.head? = some '=' then .error .leadingPadding
  else decodeFrom strict Group.empty 0 t

/-- The bytes of a text; `strict` refuses what does not belong to base64. -/
def decodeText (strict : Bool) (t : Text) : Except Flaw Bytes :=
  if t.all (·.toNat < 0x80) then decodeAscii strict t else .error .notAscii

/-- The strict reading. -/
def decode (t : Text) : Except Flaw Bytes := decodeText true t

/-- The lenient reading. -/
def decodeLenient (t : Text) : Except Flaw Bytes := decodeText false t

end SshTunnel.Base64
