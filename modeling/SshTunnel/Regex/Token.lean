import SshTunnel.Regex.Expression
import SshTunnel.Text.Numeral
import SshTunnel.Text.Quoted

/-!
# Tokens of a regular expression

An expression is written as characters, one for each byte. A backslash and the character
behind it are one token. What is wrong with an expression is said with the position where
it was noticed.
-/

namespace SshTunnel.Regex

/-- Why an expression cannot be used. -/
inductive Flaw where
  | written (words : Text) (position : Nat)
  | unevenLookBehind
  | tooOften
  | longNumeral (e : Text.Numeral.TooLong)
deriving DecidableEq, Repr

/-- The message for a flaw. -/
def Flaw.message : Flaw → Text
  | written words position =>
      Text.asciiOnly words ++ " at position ".toList ++ Text.ofNat position
  | unevenLookBehind => "look-behind requires fixed-width pattern".toList
  | tooOften => "the repetition number is too large".toList
  | longNumeral e => e.message

/-- A character, or an escaped one, and its position. -/
structure Token where
  position : Nat
  escaped : Bool
  char : Char
deriving DecidableEq, Repr

namespace Token

/-- The token as it is written. -/
def text (t : Token) : Text := if t.escaped then ['\\', t.char] else [t.char]

/-- The token is a character that satisfies a test. -/
def isChar (test : Char → Bool) (t : Token) : Bool := !t.escaped && test t.char

/-- The token is this character. -/
def is (c : Char) (t : Token) : Bool := t.isChar (· = c)

end Token

/-- The tokens of a text. -/
def tokensFrom (position : Nat) : Text → List Token
  | '\\' :: c :: rest => ⟨position, true, c⟩ :: tokensFrom (position + 2) rest
  | c :: rest => ⟨position, false, c⟩ :: tokensFrom (position + 1) rest
  | [] => []

/-- Tokens still to be read, and the position where they end. -/
structure Source where
  rest : List Token
  length : Nat
deriving DecidableEq, Repr

namespace Source

/-- The tokens of a text. -/
def ofText (t : Text) : Source := ⟨tokensFrom 0 t, t.length⟩

/-- The position of the next token. -/
def position (s : Source) : Nat := (s.rest.head?.map (·.position)).getD s.length

/-- The next token and what follows it. -/
def next? (s : Source) : Option (Token × Source) :=
  match s.rest with
  | [] => none
  | t :: rest => some (t, { s with rest := rest })

/-- The next token is this character. -/
def startsWith (c : Char) (s : Source) : Bool := s.rest.head?.any (·.is c)

/-- What follows a character, if it comes next. -/
def after? (c : Char) (s : Source) : Option Source :=
  if s.startsWith c then some { s with rest := s.rest.tail } else none

/-- The next token, or the flaw that there is none. -/
def next (words : String) (s : Source) : Except Flaw (Token × Source) :=
  match s.next? with
  | some r => .ok r
  | none => .error (.written words.toList s.position)

/-- The characters at the start that satisfy a test, `most` at most, and what follows. -/
def takeChars (test : Char → Bool) (most : Nat) (s : Source) : Text × Source :=
  let taken := (s.rest.take most).takeWhile (·.isChar test)
  (taken.map (·.char), { s with rest := s.rest.drop taken.length })

/-- The text up to a closing character, its position, and what follows. -/
def upTo (close : Char) (what : String) (s : Source) : Except Flaw (Text × Nat × Source) :=
  let inside := s.rest.takeWhile (! ·.is close)
  let name := inside.flatMap (·.text)
  match s.rest.drop inside.length with
  | [] =>
      .error (if name.isEmpty then .written ("missing ".toList ++ what.toList) s.length
        else .written ("missing ".toList ++ close :: ", unterminated name".toList)
          (s.length - name.length))
  | t :: rest =>
      if name.isEmpty then .error (.written ("missing ".toList ++ what.toList) t.position)
      else .ok (name, s.position, { s with rest := rest })

end Source

/-! ## Characters -/

/-- A letter of the first 256 characters. -/
def isLetter (c : Char) : Bool :=
  let n := c.toNat
  c.isAlpha || n = 0xaa || n = 0xb5 || n = 0xba || (0xc0 ≤ n && n ≠ 0xd7 && n ≠ 0xf7)

/-- The text can be a name: letters, digits and underscores, no digit first. -/
def isName (t : Text) : Bool :=
  match t with
  | [] => false
  | c :: rest =>
      (isLetter c || c = '_')
        && rest.all fun c => isLetter c || c = '_' || c.isDigit || c.toNat = 0xb7

/-- A digit to base eight. -/
def isOctal (c : Char) : Bool := '0' ≤ c && c ≤ '7'

/-- A digit to base sixteen. -/
def isHex (c : Char) : Bool := c.isDigit || ('a' ≤ c && c ≤ 'f') || ('A' ≤ c && c ≤ 'F')

/-- The value of a digit. -/
def digitOf (c : Char) : Nat :=
  if c.isDigit then c.toNat - 0x30 else if c.isLower then c.toNat - 0x57 else c.toNat - 0x37

/-- The number that digits write to a base. -/
def numberOf (base : Nat) (digits : Text) : Nat :=
  digits.foldl (fun n c => base * n + digitOf c) 0

end SshTunnel.Regex
