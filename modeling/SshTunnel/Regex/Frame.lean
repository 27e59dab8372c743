import SshTunnel.Regex.Escape

/-!
# Open brackets

Every bracket of an expression that is open has a frame with the choices and the parts read so
far. The closing bracket makes them one part of the frame around it.
-/

namespace SshTunnel.Regex

/-- How parts are read: whether letter case counts, where lines start and end, whether a
point takes a line feed, and whether blanks and comments are passed over. -/
structure Modes where
  fold : Bool
  multiline : Bool
  dotAll : Bool
  verbose : Bool
deriving DecidableEq, Repr

/-- The modes from the outset. -/
def Modes.usual : Modes := ⟨false, true, false, false⟩

/-- What an opening bracket opens. -/
inductive Opener where
  | whole
  | group (number : Nat)
  | plain
  | atomic
  | ahead (negated : Bool)
  | behind (negated outermost : Bool)
  | condition (number : Nat)
deriving DecidableEq, Repr

/-- Whether a part may be repeated: a place and a repetition may not. -/
inductive Standing where
  | free
  | place
  | repeated
deriving DecidableEq, Repr

/-- A bracket that is open: its position, the modes inside, and the choices and the parts of
the last choice, each with the last one first. -/
structure Frame where
  opener : Opener
  start : Nat
  modes : Modes
  choices : List Node
  parts : List (Node × Standing)
deriving DecidableEq, Repr

namespace Frame

/-- The choice under way. -/
def lastChoice (f : Frame) : Node := .sequence (f.parts.reverse.map (·.1))

/-- What is inside of the bracket. -/
def inside (f : Frame) : Node := .choice (f.lastChoice :: f.choices).reverse

/-- The expression that the bracket is. -/
def node (f : Frame) : Node :=
  match f.opener with
  | .whole | .plain => f.inside
  | .group number => .group number f.inside
  | .atomic => .atomic f.inside
  | .ahead negated => .ahead negated f.inside
  | .behind negated _ => .behind negated f.inside
  | .condition number =>
      match f.choices with
      | [] => .ifGroup number f.lastChoice .empty
      | yes :: _ => .ifGroup number yes f.lastChoice

end Frame

/-- An expression that is being read: the innermost frame and those around it, the groups,
the numbers of groups in conditions with their positions, and whether a look-behind varies
in width. -/
structure Parser where
  frame : Frame
  outer : List Frame
  groups : Groups
  mentions : List (Nat × Nat)
  uneven : Bool
deriving DecidableEq, Repr

namespace Parser

/-- Before the first token. -/
def start : Parser :=
  ⟨⟨.whole, 0, .usual, [], []⟩, [], ⟨[], [], none⟩, [], false⟩

/-- Takes a part into the innermost frame. -/
def add (p : Parser) (x : Node) (standing : Standing) : Parser :=
  { p with frame := { p.frame with parts := (x, standing) :: p.frame.parts } }

/-- Takes a class into the innermost frame. -/
def addClass (p : Parser) (negated : Bool) (items : List Item) : Parser :=
  p.add (.one ⟨negated, items, p.frame.modes.fold⟩) .free

/-- Takes a byte into the innermost frame. -/
def addByte (p : Parser) (b : UInt8) : Parser := p.addClass false [.range b b]

/-- Takes a group's content once more into the innermost frame. -/
def addAgain (p : Parser) (number : Nat) : Parser :=
  p.add (.again number p.frame.modes.fold ((p.groups.width? number).getD ⟨0, none⟩)) .free

/-- Opens a bracket. -/
def enter (p : Parser) (opener : Opener) (start : Nat) (modes : Modes) : Parser :=
  { p with frame := ⟨opener, start, modes, [], []⟩, outer := p.frame :: p.outer }

/-- Opens the bracket of the next group. -/
def enterGroup (p : Parser) (start : Nat) : Parser :=
  { p.enter (.group p.groups.following) start p.frame.modes with
    groups := { p.groups with widths := p.groups.widths ++ [none] } }

/-- Opens the bracket of the next group, which gets a name. -/
def enterNamed (p : Parser) (start : Nat) (name : Text) : Parser :=
  let q := p.enterGroup start
  { q with groups := { q.groups with names := (name, p.groups.following) :: q.groups.names } }

/-- Opens a look-behind. -/
def enterBehind (p : Parser) (negated : Bool) (start : Nat) : Parser :=
  let q := p.enter (.behind negated p.groups.behind.isNone) start p.frame.modes
  { q with groups := { q.groups with behind := some (p.groups.behind.getD p.groups.following) } }

/-- Closes the innermost bracket. -/
def leave (p : Parser) (position : Nat) : Except Flaw Parser :=
  match p.outer with
  | [] => .error (.written "unbalanced parenthesis".toList position)
  | f :: outer =>
      let width := p.frame.inside.width
      let q := { p with frame := f, outer := outer }.add p.frame.node .free
      .ok (match p.frame.opener with
        | .group number =>
            { q with groups := { q.groups with
                widths := q.groups.widths.set (number - 1) (some width) } }
        | .behind _ outermost =>
            { q with
              groups := if outermost then { q.groups with behind := none } else q.groups
              uneven := q.uneven || !width.isFixed }
        | _ => q)

/-- Begins the next choice of the innermost frame; a condition has two at most. -/
def nextChoice (p : Parser) (position : Nat) : Except Flaw Parser :=
  match p.frame.opener, p.frame.choices with
  | .condition _, _ :: _ =>
      .error (.written "conditional backref with more than two branches".toList position)
  | _, choices =>
      .ok { p with frame := { p.frame with
        choices := p.frame.lastChoice :: choices, parts := [] } }

end Parser

end SshTunnel.Regex
