import SshTunnel.Text.Basic

/-!
# Named values

Values under names, in the order in which the names were first set.
-/

namespace SshTunnel

/-- Values under names. -/
abbrev Named (α : Type) := List (Text × α)

namespace Named

variable {α : Type}

/-- The value under a name. -/
def get? (entries : Named α) (name : Text) : Option α := List.lookup name entries

/-- Sets the value under a name: in place if the name is there, else at the end. -/
def set : Named α → Text → α → Named α
  | [], name, value => [(name, value)]
  | entry :: more, name, value =>
      if entry.1 = name then (name, value) :: more else entry :: set more name value

/-- Sets every one of further values, in their order. -/
def update (entries further : Named α) : Named α :=
  further.foldl (fun acc entry => acc.set entry.1 entry.2) entries

/-- The names, in order. -/
def names (entries : Named α) : List Text := entries.map (·.1)

end Named

end SshTunnel
