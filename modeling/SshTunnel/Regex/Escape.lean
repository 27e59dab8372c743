import SshTunnel.Regex.Token

/-!
# Escapes and classes

What an escaped character stands for, by itself and inside of brackets, and the class that
brackets write.
-/

namespace SshTunnel.Regex

/-- What an escape stands for. -/
inductive Meaning where
  | byte (b : UInt8)
  | kind (c : Category) (negated : Bool)
  | place (p : Place)
  | group (number : Nat)
deriving DecidableEq, Repr

/-- The byte of a character. -/
def byteOf (c : Char) : UInt8 := UInt8.ofNat c.toNat

/-- Control characters that have a letter. -/
def control? (c : Char) : Option UInt8 :=
  if c = 'a' then some 0x07
  else if c = 'b' then some 0x08
  else if c = 't' then some 0x09
  else if c = 'n' then some 0x0a
  else if c = 'v' then some 0x0b
  else if c = 'f' then some 0x0c
  else if c = 'r' then some 0x0d
  else if c = '\\' then some 0x5c
  else none

/-- Kinds of bytes that have a letter; the capital one stands for all others. -/
def category? (c : Char) : Option Meaning :=
  if c = 'd' || c = 'D' then some (.kind .digit c.isUpper)
  else if c = 's' || c = 'S' then some (.kind .space c.isUpper)
  else if c = 'w' || c = 'W' then some (.kind .word c.isUpper)
  else none

/-- Places that have a letter. -/
def place? (c : Char) : Option Meaning :=
  if c = 'A' then some (.place .textStart)
  else if c = 'Z' then some (.place .textEnd)
  else if c = 'b' then some (.place .wordEdge)
  else if c = 'B' then some (.place .noWordEdge)
  else none

/-- The flaw of an escape that means nothing. -/
def badEscape (t : Token) : Flaw := .written ("bad escape ".toList ++ t.text) t.position

/-- A byte by two digits to base sixteen. -/
def hexByte (t : Token) (s : Source) : Except Flaw (Meaning × Source) :=
  let r := s.takeChars isHex 2
  if r.1.length = 2 then .ok (.byte (UInt8.ofNat (numberOf 16 r.1)), r.2)
  else .error (.written ("incomplete escape ".toList ++ t.text ++ r.1) t.position)

/-- A byte by digits to base eight. -/
def octalByte (t : Token) (digits : Text) (s : Source) : Except Flaw (Meaning × Source) :=
  let n := numberOf 8 digits
  if n ≤ 0xff then .ok (.byte (UInt8.ofNat n), s)
  else
    .error (.written ("octal escape value \\".toList ++ digits
      ++ " outside of range 0-0o377".toList) t.position)

/-- An escaped character without a meaning of its own stands for itself, unless it is a
letter or a digit. -/
def itself (t : Token) (s : Source) : Except Flaw (Meaning × Source) :=
  if t.char.isAlphanum then .error (badEscape t) else .ok (.byte (byteOf t.char), s)

/-- What an escape means inside of brackets, and what follows it. -/
def classEscape (t : Token) (s : Source) : Except Flaw (Meaning × Source) :=
  match control? t.char, category? t.char with
  | some b, _ => .ok (.byte b, s)
  | none, some m => .ok (m, s)
  | none, none =>
      if t.char = 'x' then hexByte t s
      else if isOctal t.char then
        let r := s.takeChars isOctal 2
        octalByte t (t.char :: r.1) r.2
      else itself t s

/-! ## Groups so far -/

/-- The groups that have been opened: the width of each that is closed, the names, and how
many there were when the outermost look-behind under way began. -/
structure Groups where
  widths : List (Option Width)
  names : List (Text × Nat)
  behind : Option Nat
deriving DecidableEq, Repr

namespace Groups

/-- The number of the next group. -/
def following (g : Groups) : Nat := g.widths.length + 1

/-- The width of a closed group. -/
def width? (g : Groups) (number : Nat) : Option Width :=
  if number = 0 then none else (g.widths[number - 1]?).join

/-- The flaw of a mention of a group inside of a look-behind, noticed at a position. -/
def behindFlaw? (g : Groups) (number position : Nat) : Option Flaw :=
  g.behind.bind fun start =>
    if (g.width? number).isNone then
      some (.written "cannot refer to an open group".toList position)
    else if start ≤ number then
      some (.written "cannot refer to group defined in the same lookbehind subpattern".toList
        position)
    else none

end Groups

/-- What an escape means outside of brackets, and what follows it. Digits are a byte to base
eight when they start with a zero or are three, and else the number of a group. -/
def outerEscape (g : Groups) (t : Token) (s : Source) : Except Flaw (Meaning × Source) :=
  match (category? t.char).or (place? t.char), control? t.char with
  | some m, _ => .ok (m, s)
  | none, some b => .ok (.byte b, s)
  | none, none =>
      if t.char = 'x' then hexByte t s
      else if t.char = '0' then
        let r := s.takeChars isOctal 2
        octalByte t (t.char :: r.1) r.2
      else if t.char.isDigit then
        let second := s.takeChars Char.isDigit 1
        let third := second.2.takeChars isOctal 1
        let digits := t.char :: second.1
        if digits.length = 2 && digits.all isOctal && !third.1.isEmpty then
          octalByte t (digits ++ third.1) third.2
        else
          let number := numberOf 10 digits
          if g.following ≤ number then
            .error (.written ("invalid group reference ".toList ++ Text.ofNat number)
              (t.position + 1))
          else if (g.width? number).isNone then
            .error (.written "cannot refer to an open group".toList t.position)
          else
            match g.behindFlaw? number second.2.position with
            | some flaw => .error flaw
            | none => .ok (.group number, second.2)
      else itself t s

/-! ## Classes -/

/-- A byte or a kind of bytes inside of brackets, and what follows. -/
def classPart (t : Token) (s : Source) : Except Flaw (Meaning × Source) :=
  if t.escaped then classEscape t s else .ok (.byte (byteOf t.char), s)

/-- The part of a class that a meaning is. -/
def Meaning.item : Meaning → Item
  | byte b => .range b b
  | kind c negated => .kind c negated
  | _ => .range 1 0

/-- The range between two meanings, if they are bytes and in order. -/
def rangeOf? : Meaning → Meaning → Option Item
  | .byte low, .byte high => if low ≤ high then some (.range low high) else none
  | _, _ => none

/-- Reads the parts of a class up to the closing bracket; one that comes first is a part.
`start` is the position of the opening bracket. -/
def classItems (start : Nat) : Nat → List Item → Source → Except Flaw (List Item × Source)
  | 0, _, _ => .error (.written "unterminated character set".toList start)
  | fuel + 1, items, s =>
      match s.next? with
      | none => .error (.written "unterminated character set".toList start)
      | some (t, s) =>
          if t.is ']' && !items.isEmpty then .ok (items, s)
          else
            match classPart t s with
            | .error flaw => .error flaw
            | .ok (low, s) =>
                match s.after? '-' with
                | none => classItems start fuel (items ++ [low.item]) s
                | some s =>
                    match s.next? with
                    | none => .error (.written "unterminated character set".toList start)
                    | some (u, s) =>
                        if u.is ']' then .ok (items ++ [low.item, .range 0x2d 0x2d], s)
                        else
                          match classPart u s with
                          | .error flaw => .error flaw
                          | .ok (high, s) =>
                              match rangeOf? low high with
                              | some item => classItems start fuel (items ++ [item]) s
                              | none =>
                                  .error (.written ("bad character range ".toList ++ t.text
                                    ++ '-' :: u.text)
                                    (s.position - t.text.length - 1 - u.text.length))

/-- Reads a class behind its opening bracket, and what follows. -/
def readClass (fold : Bool) (start : Nat) (s : Source) : Except Flaw (Class × Source) :=
  let body := (s.after? '^').getD s
  (classItems start (body.rest.length + 1) [] body).map fun r =>
    (⟨s.startsWith '^', r.1, fold⟩, r.2)

end SshTunnel.Regex
