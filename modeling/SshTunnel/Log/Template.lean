import SshTunnel.Datum
import SshTunnel.Decimal.Fixed

/-!
# Message templates

A template holds places that start with `%`. A place names a value of a record or takes the
next value of a list, and says how the value is written. A template fails as a whole when a
place is malformed, a value does not suit it, or there are too few or too many values.
-/

namespace SshTunnel.Log.Template

/-- A number in a place: not given, written out, or taken from the values. -/
inductive Size where
  | absent
  | fixed (n : Nat)
  | taken
deriving DecidableEq, Repr

/-- How a value is written. -/
structure Place where
  name : Option Text
  flags : List Char
  width : Size
  precision : Size
  form : Char
deriving DecidableEq, Repr

/-- A piece of a template. -/
inductive Piece where
  | literal (c : Char)
  | place (p : Place)
deriving DecidableEq, Repr

/-- The name up to the bracket that closes it, and what follows; `depth` counts the brackets
opened inside. -/
def closeName (depth : Nat) : Text → Option (Text × Text)
  | [] => none
  | c :: rest =>
      let inner := if c = '(' then depth + 1 else if c = ')' then depth - 1 else depth
      if c = ')' && depth = 0 then some ([], rest)
      else (closeName inner rest).map fun r => (c :: r.1, r.2)

/-- The name in brackets at the start of a place, if there is one, and what follows. -/
def readName : Text → Option (Option Text × Text)
  | '(' :: rest => (closeName 0 rest).map fun r => (some r.1, r.2)
  | t => some (none, t)

/-- A flag of a place. -/
def isFlag (c : Char) : Bool := c = '-' || c = '+' || c = ' ' || c = '#' || c = '0'

/-- A digit of a width or precision. -/
def isSizeDigit (c : Char) : Bool := 0x30 ≤ c.toNat && c.toNat ≤ 0x39

/-- A size at the start of a text, and what follows. -/
def readSize : Text → Size × Text
  | '*' :: rest => (.taken, rest)
  | t =>
      let digits := t.takeWhile isSizeDigit
      if digits.isEmpty then (.absent, t)
      else
        (.fixed (digits.foldl (fun n c => 10 * n + (c.toNat - 0x30)) 0), t.dropWhile isSizeDigit)

/-- The precision at the start of a text, if it starts with a point; nothing behind the
point is zero. -/
def readPrecision : Text → Size × Text
  | '.' :: rest =>
      let r := readSize rest
      (if r.1 = .absent then .fixed 0 else r.1, r.2)
  | t => (.absent, t)

/-- The text without a letter that says how long a number is. -/
def skipLength : Text → Text
  | c :: rest => if c = 'h' || c = 'l' || c = 'L' then rest else c :: rest
  | [] => []

/-- The place behind a `%`, and what follows it. -/
def readPlace (t : Text) : Option (Place × Text) :=
  (readName t).bind fun named =>
    let width := readSize (named.2.dropWhile isFlag)
    let precision := readPrecision width.2
    match skipLength precision.2 with
    | [] => none
    | form :: rest =>
        some (⟨named.1, named.2.takeWhile isFlag, width.1, precision.1, form⟩, rest)

/-- The pieces of a template. Two percent signs in a row stand for one. -/
def pieces (t : Text) : Option (List Piece) :=
  match t with
  | [] => some []
  | '%' :: '%' :: rest => (pieces rest).map (.literal '%' :: ·)
  | '%' :: rest =>
      match readPlace rest with
      | none => none
      | some (p, more) =>
          if _h : more.length < rest.length + 1 then (pieces more).map (.place p :: ·) else none
  | c :: rest => (pieces rest).map (.literal c :: ·)
termination_by t.length

/-- The values for the places: those still to be taken in order, and a record for names. -/
structure Supply where
  pending : List Datum
  named : Option Record

/-- The next value. -/
def Supply.next (s : Supply) : Option (Datum × Supply) :=
  match s.pending with
  | [] => none
  | d :: rest => some (d, { s with pending := rest })

/-- The value that a name asks for is the next and only one. -/
def Supply.select (s : Supply) (name : Text) : Option Supply :=
  (s.named.bind (·.get? name)).map fun d => { s with pending := [d] }

/-- The largest width or precision. -/
def maxSize : Nat := 0x7fffffff

/-- A size that is not too large. -/
def boundedSize (n : Int) : Option (Option Int) :=
  if n.natAbs ≤ maxSize then some (some n) else none

/-- A size with its sign, as far as it is given, and what values are left. -/
def Supply.size (s : Supply) : Size → Option (Option Int × Supply)
  | .absent => some (none, s)
  | .fixed n => (boundedSize n).map fun size => (size, s)
  | .taken =>
      s.next.bind fun r => (r.1.whole?.bind boundedSize).map fun size => (size, r.2)

/-- Fills a text with blanks up to a width. -/
def fill (left : Bool) (width : Nat) (t : Text) : Text :=
  let blanks := List.replicate (width - t.length) ' '
  if left then t ++ blanks else blanks ++ t

/-- Fills a number up to a width: zeros go behind its sign and its mark. -/
def fillNumber (left zeros : Bool) (width : Nat) (front digits : Text) : Text :=
  if zeros && !left then
    front ++ List.replicate (width - front.length - digits.length) '0' ++ digits
  else fill left width (front ++ digits)

/-- The digits of a number and the mark of its base. -/
def numeral (form : Char) (n : Nat) : Text × Text :=
  if form = 'x' then (Nat.toDigits 16 n, "0x".toList)
  else if form = 'X' then ((Nat.toDigits 16 n).map Char.toUpper, "0X".toList)
  else if form = 'o' then (Nat.toDigits 8 n, "0o".toList)
  else (Nat.toDigits 10 n, [])

/-- A form that writes a whole number to the base ten. -/
def isDecimal (form : Char) : Bool := form = 'd' || form = 'i' || form = 'u'

/-- The whole number that a value is written as in a form. -/
def wholeFor? (form : Char) : Datum → Option Int
  | .real x => if isDecimal form then Decimal.truncate? x else none
  | d => d.whole?.filter fun n => !isDecimal form || Text.Numeral.isWritable n

/-- The character that a value stands for. -/
def characterFor? : Datum → Option Text
  | .text [c] => some [c]
  | d => d.whole?.bind fun n =>
      if 0 ≤ n && n ≤ 0x10ffff then some [Char.ofNat n.toNat] else none

/-- A value as text, for the forms that write one. -/
def textFor? (form : Char) (d : Datum) : Option Text :=
  if form = 's' then d.shown.toOption
  else if form = 'r' then d.quoted.toOption
  else if form = 'a' then d.quoted.toOption.map Text.asciiOnly
  else none

/-- The sign of a number; flags ask for one in front of numbers that are not negative. -/
def signOf (flags : List Char) (negative : Bool) : Text :=
  if negative then ['-'] else if '+' ∈ flags then ['+'] else if ' ' ∈ flags then [' '] else []

/-- Writes a whole number at a place. -/
def writeWhole (p : Place) (left : Bool) (width : Nat) (precision : Option Nat) (n : Int) : Text :=
  let r := numeral p.form n.natAbs
  fillNumber left ('0' ∈ p.flags) width
    (signOf p.flags (n < 0) ++ if '#' ∈ p.flags then r.2 else [])
    (r.1.leftpad (precision.getD 0) '0')

/-- The floating point number that a value is written as. -/
def realFor? : Datum → Option Float
  | .real x => some x
  | d => d.whole?.bind Decimal.ofInt?

/-- The layout of a floating point number in a form. -/
def layoutFor? (form : Char) : Option Decimal.Layout :=
  if form ∈ ['f', 'F'] then some .positional
  else if form ∈ ['e', 'E'] then some .scientific
  else if form ∈ ['g', 'G'] then some .general
  else none

/-- Writes a floating point number at a place, with six digits unless another number of them
is asked for. -/
def writeReal (p : Place) (layout : Decimal.Layout) (left : Bool) (width : Nat)
    (precision : Option Nat) (x : Float) : Text :=
  let r := layout.write ('#' ∈ p.flags) (precision.getD 6) x
  fillNumber left ('0' ∈ p.flags) width (signOf p.flags r.1)
    (if p.form.isUpper then r.2.map Char.toUpper else r.2)

/-- Writes a value at a place. -/
def write (p : Place) (left : Bool) (width : Nat) (precision : Option Nat) (d : Datum) :
    Option Text :=
  if p.form ∈ ['d', 'i', 'u', 'x', 'X', 'o'] then
    (wholeFor? p.form d).map (writeWhole p left width precision)
  else if p.form = 'c' then (characterFor? d).map (fill left width)
  else
    match layoutFor? p.form with
    | some layout => (realFor? d).map (writeReal p layout left width precision)
    | none =>
        (textFor? p.form d).map fun t =>
          fill left width (match precision with | some n => t.take n | none => t)

/-- Writes one place, and what values are left. -/
def writePlace (p : Place) (s : Supply) : Option (Text × Supply) := do
  let s ← match p.name with
    | some name => s.select name
    | none => some s
  let (width, s) ← s.size p.width
  let (precision, s) ← s.size p.precision
  let (d, s) ← s.next
  let left := '-' ∈ p.flags || width.any (· < 0)
  let t ← write p left (width.getD 0).natAbs (precision.map Int.toNat) d
  return (t, s)

/-- Writes pieces one after the other. Values of a list must all be used. -/
def writeAll (s : Supply) : List Piece → Option Text
  | [] => if s.named.isNone && !s.pending.isEmpty then none else some []
  | .literal c :: rest => (writeAll s rest).map (c :: ·)
  | .place p :: rest =>
      (writePlace p s).bind fun r => (writeAll r.2 rest).map (r.1 ++ ·)

/-- The values behind a message: a single record that is not empty gives them by name and
as a whole, anything else is a list. -/
def supplyOf : List Datum → Supply
  | [.record (e :: more)] => ⟨[.record (e :: more)], some (e :: more)⟩
  | values => ⟨values, none⟩

/-- The message of a template with its values; without values it stays as it is. -/
def message (template : Text) (values : List Datum) : Option Text :=
  if values.isEmpty then some template
  else (pieces template).bind (writeAll (supplyOf values))

end SshTunnel.Log.Template
