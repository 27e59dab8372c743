import SshTunnel.Named
import SshTunnel.Text.Quoted
import SshTunnel.Text.Numeral
import SshTunnel.Decimal.Real

/-!
# Structured data

The values that a structured log record, an error context or a field source carries. A
record keeps its entries in the order in which they were set.
-/

namespace SshTunnel

/-- One value. -/
inductive Datum where
  | null
  | bool (b : Bool)
  | int (n : Int)
  | real (x : Float)
  | text (t : Text)
  | list (items : List Datum)
  | record (entries : List (Text × Datum))
deriving Inhabited

/-- Named values, in order. -/
abbrev Record := Named Datum

namespace Datum

/-- The value says something: it is not absent, false, zero or empty. -/
def isGiven : Datum → Bool
  | null => false
  | bool b => b
  | int n => n != 0
  | real x => x != 0
  | text t => !t.isEmpty
  | list items => !items.isEmpty
  | record entries => !entries.isEmpty

/-- The value is there at all. -/
def isSet : Datum → Bool
  | null => false
  | _ => true

/-- The whole number that the value is; truth values count as one and zero. -/
def whole? : Datum → Option Int
  | bool b => some (if b then 1 else 0)
  | int n => some n
  | _ => none

mutual

/-- The value as it stands inside another one: texts between quotes. A number in it may take
too many digits. -/
def quoted : Datum → Except Text.Numeral.TooLong Text
  | null => .ok "None".toList
  | bool b => .ok (if b then "True".toList else "False".toList)
  | int n => Text.Numeral.write n
  | real x => .ok (Decimal.textOfFloat x)
  | text t => .ok (Text.quoted t)
  | list items => (quotedItems items).map fun t => '[' :: t ++ [']']
  | record entries => (quotedEntries entries).map fun t => '\x7b' :: t ++ ['\x7d']

/-- The items with commas between them. -/
def quotedItems : List Datum → Except Text.Numeral.TooLong Text
  | [] => .ok []
  | [d] => quoted d
  | d :: more => do
      let first ← quoted d
      let rest ← quotedItems more
      return first ++ ", ".toList ++ rest

/-- The entries with commas between them, a colon after each name. -/
def quotedEntries : List (Text × Datum) → Except Text.Numeral.TooLong Text
  | [] => .ok []
  | [(name, d)] => (quoted d).map fun t => Text.quoted name ++ ": ".toList ++ t
  | (name, d) :: more => do
      let first ← quoted d
      let rest ← quotedEntries more
      return Text.quoted name ++ ": ".toList ++ first ++ ", ".toList ++ rest

end

/-- The value as a message shows it: a text as it is, anything else as inside another value. -/
def shown : Datum → Except Text.Numeral.TooLong Text
  | text t => .ok t
  | d => quoted d

end Datum

end SshTunnel
