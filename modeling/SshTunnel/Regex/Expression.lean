import SshTunnel.Text.Basic

/-!
# Regular expressions over bytes

The parts of an expression: classes of bytes, places in the text, sequences, choices,
repetitions, groups and conditions. Every part takes a number of bytes between a least and,
where there is one, a greatest.
-/

namespace SshTunnel.Regex

/-- A kind of bytes. -/
inductive Category where
  | digit
  | space
  | word
deriving DecidableEq, Repr

/-- A decimal digit in ASCII. -/
def isDigit (b : UInt8) : Bool := 0x30 ≤ b && b ≤ 0x39

/-- An upper case letter in ASCII. -/
def isUpper (b : UInt8) : Bool := 0x41 ≤ b && b ≤ 0x5a

/-- A lower case letter in ASCII. -/
def isLower (b : UInt8) : Bool := 0x61 ≤ b && b ≤ 0x7a

/-- A letter, a digit or an underscore in ASCII. -/
def isWord (b : UInt8) : Bool := isDigit b || isUpper b || isLower b || b = 0x5f

/-- The byte with a capital letter made small. -/
def lower (b : UInt8) : UInt8 := if isUpper b then b + 0x20 else b

/-- The byte with a small letter made capital. -/
def upper (b : UInt8) : UInt8 := if isLower b then b - 0x20 else b

/-- The byte is of a kind. -/
def Category.has : Category → UInt8 → Bool
  | digit, b => isDigit b
  | space, b => b = 0x20 || (0x09 ≤ b && b ≤ 0x0d)
  | word, b => isWord b

/-- A part of a class. -/
inductive Item where
  | range (low high : UInt8)
  | kind (c : Category) (negated : Bool)
deriving DecidableEq, Repr

/-- The byte is in a part of a class. -/
def Item.has : Item → UInt8 → Bool
  | range low high, b => low ≤ b && b ≤ high
  | kind c negated, b => c.has b != negated

/-- A class of bytes; with `fold` letter case does not count. -/
structure Class where
  negated : Bool
  items : List Item
  fold : Bool
deriving DecidableEq, Repr

/-- The byte is in the class. -/
def Class.has (c : Class) (b : UInt8) : Bool :=
  (if c.fold then c.items.any fun i => i.has (lower b) || i.has (upper b)
    else c.items.any (·.has b)) != c.negated

/-- A place between bytes. -/
inductive Place where
  | textStart
  | lineStart
  | textEnd
  | lineEnd
  | lastLineEnd
  | wordEdge
  | noWordEdge
deriving DecidableEq, Repr

/-- In which order the numbers of repetitions are tried. A possessive repetition never gives
back what it has taken. -/
inductive Eagerness where
  | greedy
  | lazy
  | possessive
deriving DecidableEq, Repr

/-- How many bytes something takes: the least number and, if there is one, the greatest. -/
structure Width where
  least : Nat
  greatest : Option Nat
deriving DecidableEq, Repr

namespace Width

/-- One width after another. -/
def add (a b : Width) : Width :=
  ⟨a.least + b.least, a.greatest.bind fun x => b.greatest.map (x + ·)⟩

/-- One width or another. -/
def either (a b : Width) : Width :=
  ⟨min a.least b.least, a.greatest.bind fun x => b.greatest.map (max x)⟩

/-- A width some number of times. -/
def times (w : Width) (least : Nat) (most : Option Nat) : Width :=
  ⟨least * w.least,
    if w.greatest = some 0 || most = some 0 then some 0
    else w.greatest.bind fun x => most.map (x * ·)⟩

/-- The width does not vary. -/
def isFixed (w : Width) : Bool := w.greatest = some w.least

end Width

/-- An expression. -/
inductive Node where
  | empty
  | one (c : Class)
  | place (p : Place)
  | seq (a b : Node)
  | either (a b : Node)
  | repeated (how : Eagerness) (least : Nat) (most : Option Nat) (x : Node)
  | group (number : Nat) (x : Node)
  | again (number : Nat) (fold : Bool) (width : Width)
  | ahead (negated : Bool) (x : Node)
  | behind (negated : Bool) (x : Node)
  | atomic (x : Node)
  | ifGroup (number : Nat) (yes no : Node)
deriving DecidableEq, Repr

namespace Node

/-- How many bytes an expression takes. -/
def width : Node → Width
  | empty | place _ | ahead _ _ | behind _ _ => ⟨0, some 0⟩
  | one _ => ⟨1, some 1⟩
  | seq a b => a.width.add b.width
  | either a b | ifGroup _ a b => a.width.either b.width
  | repeated _ least most x => x.width.times least most
  | group _ x | atomic x => x.width
  | again _ _ w => w

/-- The parts one after the other. -/
def sequence : List Node → Node
  | [] => empty
  | [x] => x
  | x :: more => seq x (sequence more)

/-- The parts as choices, the first one preferred. -/
def choice : List Node → Node
  | [] => empty
  | [x] => x
  | x :: more => either x (choice more)

end Node

end SshTunnel.Regex
