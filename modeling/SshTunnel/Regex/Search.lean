import SshTunnel.Regex.Expression

/-!
# Searching

From a place in the text an expression leads to places further on, in the order in which
they are preferred. Two ways to the same place with the same groups go on alike, so only
the first of them is kept.
-/

namespace SshTunnel.Regex

/-- A place in the text: how many bytes are before it, these bytes, last first, the bytes
after it, and what the groups hold. -/
structure Cursor where
  position : Nat
  before : Bytes
  after : Bytes
  groups : List (Nat × Bytes)
deriving DecidableEq, Repr

namespace Cursor

/-- The byte after a place, and the place behind it. -/
def next? (s : Cursor) : Option (UInt8 × Cursor) :=
  match s.after with
  | [] => none
  | b :: rest => some (b, ⟨s.position + 1, b :: s.before, rest, s.groups⟩)

/-- The place behind some more bytes. -/
def skip (s : Cursor) (n : Nat) : Cursor :=
  { s with
    position := s.position + n
    before := (s.after.take n).reverse ++ s.before
    after := s.after.drop n }

/-- The place some bytes back, if there are so many. -/
def back? (s : Cursor) (n : Nat) : Option Cursor :=
  if n ≤ s.position then
    some { s with
      position := s.position - n
      before := s.before.drop n
      after := (s.before.take n).reverse ++ s.after }
  else none

/-- What a group holds. -/
def group? (s : Cursor) (number : Nat) : Option Bytes := s.groups.lookup number

/-- Lets a group hold the bytes from an earlier place up to this one. -/
def hold (s : Cursor) (number : Nat) (start : Cursor) : Cursor :=
  let held := start.after.take (s.position - start.position)
  { s with groups := (number, held) :: s.groups.filter (·.1 ≠ number) }

/-- The byte before a place is part of a word. -/
def wordBefore (s : Cursor) : Bool := s.before.head?.any isWord

/-- The byte after a place is part of a word. -/
def wordAfter (s : Cursor) : Bool := s.after.head?.any isWord

/-- The same place in the text, with the same groups. -/
def same (s t : Cursor) : Bool := s.position = t.position && s.groups = t.groups

/-- The cursors without those seen before and without later copies. -/
def distinctFrom (seen : List Cursor) : List Cursor → List Cursor
  | [] => []
  | s :: rest =>
      if seen.any s.same then distinctFrom seen rest else s :: distinctFrom (s :: seen) rest

/-- The cursors without later copies. -/
def distinct (cursors : List Cursor) : List Cursor := distinctFrom [] cursors

end Cursor

/-- The cursor is at such a place. In an empty text there is neither an edge of a word nor
a place that is none. -/
def Place.holds : Place → Cursor → Bool
  | textStart, s => s.before.isEmpty
  | lineStart, s => s.before.isEmpty || s.before.head? = some 0x0a
  | textEnd, s => s.after.isEmpty
  | lineEnd, s => s.after.isEmpty || s.after.head? = some 0x0a
  | lastLineEnd, s => s.after.isEmpty || s.after = [0x0a]
  | wordEdge, s => s.wordBefore != s.wordAfter
  | noWordEdge, s => !(s.before.isEmpty && s.after.isEmpty) && s.wordBefore = s.wordAfter

/-! ## Repetitions -/

/-- A repetition under way: how often it has been done, up to where that makes a difference,
and whether the last time could have been left out and took nothing. -/
structure Round where
  count : Nat
  idle : Bool
  cursor : Cursor

/-- The same stage of a repetition. -/
def Round.same (r q : Round) : Bool :=
  r.count = q.count && r.idle = q.idle && r.cursor.same q.cursor

/-- How often a repetition is done: at least, and at most if there is a limit. -/
structure Range where
  least : Nat
  most : Option Nat

/-- So many times are below the limit. -/
def Range.allows (range : Range) (count : Nat) : Bool := range.most.all fun n => count < n

/-- The repetition may be done once more. -/
def Round.goesOn (r : Round) (range : Range) : Bool :=
  r.count < range.least || (range.allows r.count && !r.idle)

/-- The stage after one more time that ended at a cursor. -/
def Round.after (r : Round) (range : Range) (s : Cursor) : Round :=
  { count := min (r.count + 1) (max range.least (range.most.getD 0))
    idle := range.least ≤ r.count && s.position = r.cursor.position
    cursor := s }

/-- Where a repetition leads from a stage, and the stages that have been gone through. A
stage that comes up again leads nowhere new. `step` is where one time leads. -/
def rounds (step : Cursor → List Cursor) (lazy : Bool) (range : Range) :
    Nat → List Round → Round → List Cursor × List Round
  | 0, seen, _ => ([], seen)
  | fuel + 1, seen, r =>
      if seen.any r.same then ([], seen)
      else
        let own := if r.count < range.least then [] else [r.cursor]
        let further := if r.goesOn range then step r.cursor else []
        let more := further.foldl
          (fun acc s =>
            let found := rounds step lazy range fuel acc.2 (r.after range s)
            (acc.1 ++ found.1, found.2))
          (([], r :: seen) : List Cursor × List Round)
        (if lazy then own ++ more.1 else more.1 ++ own, more.2)

/-- Where a repetition leads that is done as often as it can be and never taken back. -/
def possessive (step : Cursor → List Cursor) (range : Range) : Nat → Round → List Cursor
  | 0, _ => []
  | fuel + 1, r =>
      let stop := if r.count < range.least then [] else [r.cursor]
      if r.goesOn range then
        match step r.cursor with
        | [] => stop
        | s :: _ => possessive step range fuel (r.after range s)
      else stop

/-- More stages than a repetition can have one after the other: those that have to be, and
two for every byte that is left. -/
def roundFuel (least bytes : Nat) : Nat := least + 2 * bytes + 3

/-! ## Running -/

namespace Node

/-- Where an expression leads from a cursor. -/
def run : Node → Cursor → List Cursor
  | empty, s => [s]
  | one c, s =>
      match s.next? with
      | some (b, t) => if c.has b then [t] else []
      | none => []
  | place p, s => if p.holds s then [s] else []
  | seq a b, s => Cursor.distinct ((a.run s).flatMap b.run)
  | either a b, s => Cursor.distinct (a.run s ++ b.run s)
  | repeated .possessive least most x, s =>
      possessive x.run ⟨least, most⟩ (roundFuel least s.after.length) ⟨0, false, s⟩
  | repeated how least most x, s =>
      let fuel := roundFuel least s.after.length
      Cursor.distinct (rounds x.run (how = .lazy) ⟨least, most⟩ fuel [] ⟨0, false, s⟩).1
  | group number x, s => (x.run s).map fun t => t.hold number s
  | again number fold _, s =>
      match s.group? number with
      | none => []
      | some held =>
          let found := s.after.take held.length
          let agrees := if fold then found.map lower = held.map lower else found = held
          if agrees then [s.skip held.length] else []
  | ahead negated x, s =>
      match x.run s, negated with
      | [], true => [s]
      | t :: _, false => [{ s with groups := t.groups }]
      | _, _ => []
  | behind negated x, s =>
      match (s.back? x.width.least).bind fun t => (x.run t).head?, negated with
      | none, true => [s]
      | some t, false => [{ s with groups := t.groups }]
      | _, _ => []
  | atomic x, s => (x.run s).take 1
  | ifGroup number yes no, s => if (s.group? number).isSome then yes.run s else no.run s

/-- The first place at or behind a position where an expression leads somewhere. -/
def findFrom (x : Node) (position : Nat) (before : Bytes) : Bytes → Option Nat
  | [] => if (x.run ⟨position, before, [], []⟩).isEmpty then none else some position
  | b :: rest =>
      if (x.run ⟨position, before, b :: rest, []⟩).isEmpty then
        findFrom x (position + 1) (b :: before) rest
      else some position

/-- The first place in a text, at or behind a position, where an expression leads
somewhere. -/
def find (x : Node) (text : Bytes) (start : Nat) : Option Nat :=
  findFrom x start (text.take start).reverse (text.drop start)

end Node

end SshTunnel.Regex
