import SshTunnel.Regex.Bracket

/-!
# Reading a regular expression

An expression is read token by token: a token adds a part to the innermost bracket, repeats
the last part, opens a bracket or closes one. Line starts and ends count from the outset.
-/

namespace SshTunnel.Regex

namespace Parser

/-! ## Repetitions -/

/-- A number of repetitions that is too large. -/
def repeatLimit : Nat := 4294967295

/-- The number that digits write, unless it is too large. -/
def repeatCount (digits : Text) : Except Flaw Nat :=
  match Text.Numeral.bounded (digits.map digitOf) with
  | .error e => .error (.longNumeral e)
  | .ok n => if n < repeatLimit then .ok n else .error .tooOften

/-- The numbers in braces and what follows them, or nothing when they are not all there is
in the braces. -/
def readBraces (s : Source) : Except Flaw (Option (Nat × Option Nat × Source)) :=
  let low := s.takeChars Char.isDigit s.rest.length
  let comma := low.2.after? ','
  let high := match comma with
    | some s => s.takeChars Char.isDigit s.rest.length
    | none => low
  match high.2.after? '\x7d' with
  | none => .ok none
  | some after =>
      if comma.isNone && low.1.isEmpty then .ok none
      else do
        let least ← if low.1.isEmpty then .ok 0 else repeatCount low.1
        let most ← if high.1.isEmpty then .ok none else (repeatCount high.1).map some
        if most.any (· < least) then
          .error (.written "min repeat greater than max repeat".toList s.position)
        else .ok (some (least, most, after))

/-- Repeats the last part. -/
def repeatLast (p : Parser) (t : Token) (least : Nat) (most : Option Nat) (s : Source) :
    Except Flaw (Parser × Source) :=
  match p.frame.parts with
  | [] | (_, .place) :: _ => .error (.written "nothing to repeat".toList t.position)
  | (_, .repeated) :: _ => .error (.written "multiple repeat".toList t.position)
  | (x, .free) :: parts =>
      let q := { p with frame := { p.frame with parts := parts } }
      let done := fun how : Eagerness => q.add (.repeated how least most x) .repeated
      match s.after? '?', s.after? '+' with
      | some s, _ => .ok (done .lazy, s)
      | none, some s => .ok (done .possessive, s)
      | none, none => .ok (done .greedy, s)

/-- Reads a repetition in braces; braces that are none stand for themselves. -/
def repeatBraces (p : Parser) (t : Token) (s : Source) : Except Flaw (Parser × Source) :=
  match readBraces s with
  | .error flaw => .error flaw
  | .ok none => .ok (p.addByte (byteOf t.char), s)
  | .ok (some (least, most, after)) => p.repeatLast t least most after

/-! ## Tokens -/

/-- Takes what an escape means into the innermost frame. -/
def addMeaning (p : Parser) : Meaning → Parser
  | .byte b => p.addByte b
  | .kind c negated => p.addClass false [.kind c negated]
  | .place place => p.add (.place place) .place
  | .group number => p.addAgain number

/-- A blank that is passed over in verbose mode. -/
def isBlank (c : Char) : Bool := c = ' ' || ('\t' ≤ c && c ≤ '\r')

/-- Takes a token and what belongs to it. -/
def step (p : Parser) (t : Token) (s : Source) : Except Flaw (Parser × Source) :=
  let modes := p.frame.modes
  if t.is '|' then (p.nextChoice t.position).map (·, s)
  else if t.is ')' then (p.leave t.position).map (·, s)
  else if modes.verbose && t.isChar isBlank then .ok (p, s)
  else if modes.verbose && t.is '#' then
    .ok (p, { s with rest := (s.rest.dropWhile (! ·.is '\n')).drop 1 })
  else if t.escaped then
    (outerEscape p.groups t s).map fun r => (p.addMeaning r.1, r.2)
  else if t.is '[' then
    (readClass modes.fold t.position s).map fun r => (p.add (.one r.1) .free, r.2)
  else if t.is '?' then p.repeatLast t 0 (some 1) s
  else if t.is '*' then p.repeatLast t 0 none s
  else if t.is '+' then p.repeatLast t 1 none s
  else if t.is '\x7b' then p.repeatBraces t s
  else if t.is '.' then
    .ok (p.add (.one ⟨true, if modes.dotAll then [] else [.range 0x0a 0x0a], false⟩) .free, s)
  else if t.is '(' then p.openBracket t.position s
  else if t.is '^' then
    .ok (p.add (.place (if modes.multiline then .lineStart else .textStart)) .place, s)
  else if t.is '$' then
    .ok (p.add (.place (if modes.multiline then .lineEnd else .lastLineEnd)) .place, s)
  else .ok (p.addByte (byteOf t.char), s)

/-- Takes all tokens. -/
def readAll : Nat → Parser → Source → Except Flaw Parser
  | 0, p, _ => .ok p
  | fuel + 1, p, s =>
      match s.next? with
      | none => .ok p
      | some (t, s) => (p.step t s).bind fun r => readAll fuel r.1 r.2

/-- The expression that has been read, unless a bracket is open, a condition asks for a
group that there is not, or a look-behind varies in width. -/
def finish (p : Parser) : Except Flaw Node :=
  if p.frame.opener ≠ .whole then
    .error (.written "missing ), unterminated subpattern".toList p.frame.start)
  else
    match p.mentions.find? fun m => p.groups.following ≤ m.1 with
    | some (number, position) =>
        .error (.written ("invalid group reference ".toList ++ Text.ofNat number) position)
    | none => if p.uneven then .error .unevenLookBehind else .ok p.frame.node

end Parser

/-- The expression that a text of the first 256 characters writes. -/
def parse (t : Text) : Except Flaw Node :=
  let s := Source.ofText t
  (Parser.readAll s.rest.length .start s).bind Parser.finish

end SshTunnel.Regex
