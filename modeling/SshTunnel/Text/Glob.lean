import SshTunnel.Text.Basic

/-!
# Wildcard patterns

A pattern is a list of parts: `*` stands for any text, `?` for any character, a bracket for
one character of a set, and everything else for itself. `Matches` says which texts a list of
parts describes; `describes` decides it, with `matchesAt`, which finds out for all endings
of a text at once, from the last part to the first.
-/

namespace SshTunnel.Text.Glob

/-- A set of characters: ranges, and whether the set holds what lies outside of them. -/
structure CharSet where
  negated : Bool
  ranges : List (Char × Char)
deriving DecidableEq, Repr

/-- The character belongs to the set. -/
def CharSet.has (s : CharSet) (c : Char) : Bool :=
  (s.ranges.any fun r => r.1.toNat ≤ c.toNat && c.toNat ≤ r.2.toNat) != s.negated

/-- One part of a pattern. -/
inductive Part where
  | many
  | one
  | literal (c : Char)
  | set (s : CharSet)
deriving DecidableEq, Repr

/-- A part that stands for one character accepts this one. -/
def Part.accepts : Part → Char → Bool
  | .many, _ => false
  | .one, _ => true
  | .literal d, c => d = c
  | .set s, c => s.has c

/-- The texts that a list of parts describes. -/
inductive Matches : List Part → Text → Prop where
  | nil : Matches [] []
  | skip {ps : List Part} {t : Text} (h : Matches ps t) : Matches (.many :: ps) t
  | grow {ps : List Part} {c : Char} {t : Text} (h : Matches (.many :: ps) t) :
      Matches (.many :: ps) (c :: t)
  | step {p : Part} {ps : List Part} {c : Char} {t : Text} (hc : p.accepts c = true)
      (h : Matches ps t) : Matches (p :: ps) (c :: t)

/-- For every position, whether the flag is set there or later. -/
def orLater (flags : List Bool) : List Bool :=
  flags.foldr (fun b later => (b || later.headD false) :: later) []

/-- For every ending of the text, longest first, whether the parts describe it. -/
def matchesAt : List Part → Text → List Bool
  | [], t => t.map (fun _ => false) ++ [true]
  | .many :: ps, t => orLater (matchesAt ps t)
  | p :: ps, t => List.zipWith (fun c b => p.accepts c && b) t (matchesAt ps t).tail ++ [false]

/-- The parts describe the whole text. Up to the first `*` every part takes one character;
what follows has to describe some ending. -/
def describes : List Part → Text → Bool
  | [], t => t.isEmpty
  | .many :: ps, t => (matchesAt ps t).any id
  | _ :: _, [] => false
  | p :: ps, c :: t => p.accepts c && describes ps t

/-! ## Reading a bracket -/

/-- Cuts the inside of a bracket at the hyphens that can join a range: the first one not
before position `from`, then each one not before the third character of its piece. -/
def pieces (skip : Nat) : Text → List Text
  | [] => [[]]
  | c :: rest =>
      match skip with
      | k + 1 =>
          match pieces k rest with
          | [] => [[c]]
          | piece :: more => (c :: piece) :: more
      | 0 =>
          if c = '-' then [] :: pieces 2 rest
          else
            match pieces 0 rest with
            | [] => [[c]]
            | piece :: more => (c :: piece) :: more

/-- Gives the hyphen before an empty last piece back to the piece before it. -/
def mendLast : List Text → List Text
  | [] => []
  | [piece] => [piece]
  | [piece, []] => [piece ++ ['-']]
  | piece :: more => piece :: mendLast more

/-- Removes ranges that run backwards: the two pieces around the hyphen lose their ends and
become one. Later pieces are joined first. -/
def dropEmptyRanges : List Text → List Text
  | [] => []
  | piece :: more =>
      match dropEmptyRanges more with
      | [] => [piece]
      | next :: others =>
          match piece.getLast?, next.head? with
          | some a, some b =>
              if b.toNat < a.toNat then (piece.dropLast ++ next.tail) :: others
              else piece :: next :: others
          | _, _ => piece :: next :: others

/-- A character of a bracket: one that stands for itself, or a hyphen that joins its
neighbours. -/
inductive SetToken where
  | char (c : Char)
  | hyphen
deriving DecidableEq, Repr

/-- The pieces with joining hyphens between them. -/
def tokens : List Text → List SetToken
  | [] => []
  | [piece] => piece.map .char
  | piece :: more => piece.map .char ++ .hyphen :: tokens more

/-- The ranges that the tokens write; a hyphen with nothing in front stands for itself. -/
def ranges : List SetToken → List (Char × Char)
  | [] => []
  | .char a :: .hyphen :: .char b :: more => (a, b) :: ranges more
  | .char a :: more => (a, a) :: ranges more
  | .hyphen :: more => ('-', '-') :: ranges more

/-- The part that the inside of a bracket writes. A leading `!` negates the set, `!` alone
is any character, and nothing at all matches no character. -/
def bracket (inside : Text) : Part :=
  let skip := if inside.head? = some '!' then 2 else 1
  match tokens (dropEmptyRanges (mendLast (pieces skip inside))) with
  | [.char '!'] => .one
  | .char '!' :: more => .set ⟨true, ranges more⟩
  | all => .set ⟨false, ranges all⟩

/-- How many characters the inside of a bracket has, given the text after the opening one;
a closing bracket counts only after an optional `!` and one more character. -/
def insideLength? (t : Text) : Option Nat :=
  let free := if t.head? = some '!' then 2 else 1
  ((t.drop free).findIdx? (· = ']')).map (· + free)

/-- The parts of a pattern after its first `skip` characters. -/
def partsAfter : Nat → Text → List Part
  | _, [] => []
  | skip + 1, _ :: rest => partsAfter skip rest
  | 0, c :: rest =>
      if c = '*' then .many :: partsAfter 0 rest
      else if c = '?' then .one :: partsAfter 0 rest
      else if c = '[' then
        match insideLength? rest with
        | some n => bracket (rest.take n) :: partsAfter (n + 1) rest
        | none => .literal '[' :: partsAfter 0 rest
      else .literal c :: partsAfter 0 rest

/-- The parts of a pattern. -/
def parse (pattern : Text) : List Part := partsAfter 0 pattern

/-- The pattern describes the whole text. -/
def isMatch (pattern t : Text) : Bool := describes (parse pattern) t

/-- The pattern has a character with a meaning of its own. -/
def hasWildcard (pattern : Text) : Bool :=
  pattern.any fun c => c = '*' || c = '?' || c = '['

end SshTunnel.Text.Glob
