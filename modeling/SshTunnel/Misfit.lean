import SshTunnel.Datum

/-!
# Values of the wrong kind

Sources, contexts and time limits are handed in as values, and a value may be of a kind that
does not offer what is asked of it: an order, items, entries or a member.
-/

namespace SshTunnel

namespace Datum

/-- The name of a value's kind. -/
def kind : Datum → Text
  | null => "NoneType".toList
  | bool _ => "bool".toList
  | int _ => "int".toList
  | real _ => "float".toList
  | text _ => "str".toList
  | list _ => "list".toList
  | record _ => "dict".toList

end Datum

/-- What a value was asked for in vain. -/
inductive Misfit where
  | notOrdered (given : Datum)
  | notIterable (given : Datum)
  | noEntries (given : Datum)
  | noMember (given : Datum) (member : Text)

namespace Misfit

/-- The message about a value of the wrong kind. -/
def message : Misfit → Text
  | notOrdered given =>
      "'>' not supported between instances of '".toList ++ given.kind ++ "' and 'int'".toList
  | notIterable given => '\'' :: given.kind ++ "' object is not iterable".toList
  | noEntries (.list _) => "list indices must be integers or slices, not str".toList
  | noEntries given => '\'' :: given.kind ++ "' object does not support item assignment".toList
  | noMember given member =>
      '\'' :: given.kind ++ "' object has no attribute ".toList ++ Text.quoted member

end Misfit

namespace Datum

/-- The value is a number above a limit. -/
def exceeds (limit : Nat) : Datum → Except Misfit Bool
  | real x => .ok (Float.ofNat limit < x)
  | d =>
      match d.whole? with
      | some n => .ok ((limit : Int) < n)
      | none => .error (.notOrdered d)

/-- The items of a value: those of a list, the characters of a text, the names of a record. -/
def items : Datum → Except Misfit (List Datum)
  | list items => .ok items
  | text t => .ok (t.map fun c => .text [c])
  | record entries => .ok (entries.map fun e => .text e.1)
  | d => .error (.notIterable d)

/-- The record with one more entry. -/
def withEntry (d : Datum) (name : Text) (value : Datum) : Except Misfit Datum :=
  match d with
  | record entries => .ok (.record (Named.set entries name value))
  | d => .error (.noEntries d)

end Datum

end SshTunnel
