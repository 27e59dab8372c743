import SshTunnel.Text.Basic

/-!
# UTF-8

Bytes of a text and text of bytes. Bytes are read piece by piece: a piece is a character,
or the longest start of one that went wrong. The lossy reading puts a replacement
character for each wrong piece, the strict one refuses the first.
-/

namespace SshTunnel.Utf8

/-- The bytes of one character. -/
def encodeChar (c : Char) : Bytes := String.utf8EncodeChar c

/-- The bytes of a text. -/
def encode (t : Text) : Bytes := t.flatMap encodeChar

/-- What is wrong with a piece. -/
inductive Flaw where
  | badStart
  | badContinuation
  | cutShort
deriving DecidableEq, Repr

/-- One piece of bytes: how many there are, and the character they write. -/
structure Piece where
  size : Nat
  content : Except Flaw Char

/-- A first byte: how many bytes follow it, its own bits, and the range of the next byte. -/
structure Lead where
  more : Nat
  bits : Nat
  low : Nat
  high : Nat

/-- What a first byte announces. Ranges narrower than `0x80` to `0xbf` shut out overlong
forms, surrogates and code points that are too large. -/
def lead? (b : Nat) : Option Lead :=
  if b < 0x80 then some ⟨0, b, 0x80, 0xbf⟩
  else if b < 0xc2 then none
  else if b < 0xe0 then some ⟨1, b - 0xc0, 0x80, 0xbf⟩
  else if b < 0xf0 then
    some ⟨2, b - 0xe0, if b = 0xe0 then 0xa0 else 0x80, if b = 0xed then 0x9f else 0xbf⟩
  else if b < 0xf5 then
    some ⟨3, b - 0xf0, if b = 0xf0 then 0x90 else 0x80, if b = 0xf4 then 0x8f else 0xbf⟩
  else none

/-- Reads the bytes that follow a first byte; `size` and `bits` are what has been read. -/
def follow (size bits low high : Nat) : Nat → Bytes → Piece
  | 0, _ => ⟨size, .ok (Char.ofNat bits)⟩
  | _ + 1, [] => ⟨size, .error .cutShort⟩
  | more + 1, b :: rest =>
      if low ≤ b.toNat && b.toNat ≤ high then
        follow (size + 1) (64 * bits + (b.toNat - 0x80)) 0x80 0xbf more rest
      else ⟨size, .error .badContinuation⟩

/-- The piece that starts with this byte. -/
def piece (b : UInt8) (rest : Bytes) : Piece :=
  match lead? b.toNat with
  | none => ⟨1, .error .badStart⟩
  | some l => follow 1 l.bits l.low l.high l.more rest

/-- The pieces of the bytes after the first `skip`. -/
def piecesAfter : Nat → Bytes → List Piece
  | _, [] => []
  | skip + 1, _ :: rest => piecesAfter skip rest
  | 0, b :: rest =>
      let p := piece b rest
      p :: piecesAfter (p.size - 1) rest

/-- The pieces of the bytes, in order. -/
def pieces (bytes : Bytes) : List Piece := piecesAfter 0 bytes

/-- The text of the bytes, with a replacement character for each wrong piece. -/
def decodeLossy (bytes : Bytes) : Text :=
  (pieces bytes).map fun p => p.content.toOption.getD (Char.ofNat 0xfffd)

/-- The first wrong piece of a string of bytes: the flaw, its first byte, where the piece
starts, and how many bytes it has. -/
structure Malformed where
  flaw : Flaw
  first : UInt8
  start : Nat
  size : Nat
deriving DecidableEq, Repr

/-- The words for a flaw. -/
def Flaw.words : Flaw → Text
  | .badStart => "invalid start byte".toList
  | .badContinuation => "invalid continuation byte".toList
  | .cutShort => "unexpected end of data".toList

/-- The message for bytes that are not UTF-8. -/
def Malformed.message (e : Malformed) : Text :=
  "'utf-8' codec can't decode byte".toList
    ++ (if e.size = 1 then
        " 0x".toList ++ (Nat.toDigits 16 e.first.toNat).leftpad 2 '0' ++ " in position ".toList
          ++ Text.ofNat e.start
      else
        "s in position ".toList ++ Text.ofNat e.start ++ "-".toList
          ++ Text.ofNat (e.start + e.size - 1))
    ++ ": ".toList ++ e.flaw.words

/-- Puts pieces together; `bytes` are those from the first piece on, which starts at `start`. -/
def assemble (start : Nat) (bytes : Bytes) : List Piece → Except Malformed Text
  | [] => .ok []
  | p :: more =>
      match p.content with
      | .error flaw => .error ⟨flaw, bytes.headD 0, start, p.size⟩
      | .ok c => (assemble (start + p.size) (bytes.drop p.size) more).map (c :: ·)

/-- The text of the bytes, if every piece is a character. -/
def decode (bytes : Bytes) : Except Malformed Text := assemble 0 bytes (pieces bytes)

end SshTunnel.Utf8
