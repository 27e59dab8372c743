import SshTunnel.Regex.Frame

/-!
# Opening brackets

What stands behind an opening bracket says what it opens: a group, with a name or without, a
condition, a look ahead or behind, a comment, or modes for the inside. Modes for everything
would have to come first, and what is read here starts with something else.
-/

namespace SshTunnel.Regex.Parser

/-! ## Flags -/

/-- The letters of the flags. -/
def isFlag (c : Char) : Bool := "iLmsxatu".toList.contains c

/-- What is wrong with a token in the place of a flag. -/
def flagFlaw (t : Token) (otherwise : String) : Flaw :=
  .written (if t.isChar isLetter then "unknown flag".toList else otherwise.toList) t.position

/-- Reads flags to be set, of which `t` is the next: the flags, the token that ends them and
what follows it. -/
def readAdded : Nat → Text → Token → Source → Except Flaw (Text × Token × Source)
  | 0, added, t, s => .ok (added, t, s)
  | fuel + 1, added, t, s =>
      let flags := t.char :: added
      if t.is 'u' then
        .error (.written "bad inline flags: cannot use 'u' flag with a bytes pattern".toList
          s.position)
      else if 'a' ∈ flags && 'L' ∈ flags then
        .error (.written "bad inline flags: flags 'a', 'u' and 'L' are incompatible".toList
          s.position)
      else
        match s.next "missing -, : or )" with
        | .error flaw => .error flaw
        | .ok (u, s) =>
            if u.is ')' || u.is '-' || u.is ':' then .ok (flags, u, s)
            else if u.isChar isFlag then readAdded fuel flags u s
            else .error (flagFlaw u "missing -, : or )")

/-- Reads flags to be dropped, of which `t` is the next, up to a colon. -/
def readDropped : Nat → Text → Token → Source → Except Flaw (Text × Source)
  | 0, dropped, _, s => .ok (dropped, s)
  | fuel + 1, dropped, t, s =>
      if t.is 'a' || t.is 'u' || t.is 'L' then
        .error (.written "bad inline flags: cannot turn off flags 'a', 'u' and 'L'".toList
          s.position)
      else
        match s.next "missing :" with
        | .error flaw => .error flaw
        | .ok (u, s) =>
            if u.is ':' then .ok (t.char :: dropped, s)
            else if u.isChar isFlag then readDropped fuel (t.char :: dropped) u s
            else .error (flagFlaw u "missing :")

/-- Reads the flags behind a hyphen. -/
def readDrops (s : Source) : Except Flaw (Text × Source) :=
  match s.next "missing flag" with
  | .error flaw => .error flaw
  | .ok (t, s) =>
      if t.isChar isFlag then readDropped (s.rest.length + 1) [] t s
      else .error (flagFlaw t "missing flag")

/-- The modes with some flags set and some dropped. -/
def changeModes (m : Modes) (added dropped : Text) : Modes :=
  let change := fun (flag : Char) (now : Bool) =>
    (now || added.contains flag) && !dropped.contains flag
  ⟨change 'i' m.fold, change 'm' m.multiline, change 's' m.dotAll, change 'x' m.verbose⟩

/-- Opens a bracket with flags, of which `t` is the first token. -/
def enterFlags (p : Parser) (start : Nat) (t : Token) (s : Source) :
    Except Flaw (Parser × Source) :=
  let first :=
    if t.is '-' then .ok ([], t, s) else readAdded (s.rest.length + 1) [] t s
  match first with
  | .error flaw => .error flaw
  | .ok (added, stop, s) =>
      if stop.is ')' then
        .error (.written "global flags not at the start of the expression".toList start)
      else if 't' ∈ added then
        .error (.written "bad inline flags: cannot turn on global flag".toList (s.position - 1))
      else
        let second := if stop.is '-' then readDrops s else .ok ([], s)
        match second with
        | .error flaw => .error flaw
        | .ok (dropped, s) =>
            if 't' ∈ dropped then
              .error (.written "bad inline flags: cannot turn off global flag".toList
                (s.position - 1))
            else if added.any dropped.contains then
              .error (.written "bad inline flags: flag turned on and off".toList
                (s.position - 1))
            else .ok (p.enter .plain start (changeModes p.frame.modes added dropped), s)

/-! ## Brackets -/

/-- The flaw of a name that cannot be one. -/
def badName (name : Text) (position : Nat) : Flaw :=
  .written ("bad character in group name ".toList ++ Text.quoted name) position

/-- The flaw of a name that no group has. -/
def unknownName (name : Text) (position : Nat) : Flaw :=
  .written ("unknown group name ".toList ++ Text.quoted name) position

/-- Opens the bracket of a group with a name. -/
def openNamed (p : Parser) (start : Nat) (s : Source) : Except Flaw (Parser × Source) :=
  match s.upTo '>' "group name" with
  | .error flaw => .error flaw
  | .ok (name, position, s) =>
      if !isName name then .error (badName name position)
      else
        match p.groups.names.lookup name with
        | some number =>
            .error (.written ("redefinition of group name ".toList ++ Text.quoted name
              ++ " as group ".toList ++ Text.ofNat p.groups.following ++ "; was group ".toList
              ++ Text.ofNat number) position)
        | none => .ok (p.enterNamed start name, s)

/-- Reads the mention of a group by its name. -/
def mentionNamed (p : Parser) (s : Source) : Except Flaw (Parser × Source) :=
  match s.upTo ')' "group name" with
  | .error flaw => .error flaw
  | .ok (name, position, s) =>
      if !isName name then .error (badName name position)
      else
        match p.groups.names.lookup name with
        | none => .error (unknownName name position)
        | some number =>
            if (p.groups.width? number).isNone then
              .error (.written "cannot refer to an open group".toList position)
            else
              match p.groups.behindFlaw? number s.position with
              | some flaw => .error flaw
              | none => .ok (p.addAgain number, s)

/-- Reads a bracket whose first characters are a question mark and `P`. -/
def openExtension (p : Parser) (start : Nat) (s : Source) : Except Flaw (Parser × Source) :=
  match s.next "unexpected end of pattern" with
  | .error flaw => .error flaw
  | .ok (t, s) =>
      if t.is '<' then p.openNamed start s
      else if t.is '=' then p.mentionNamed s
      else .error (.written ("unknown extension ?P".toList ++ t.text) (t.position - 2))

/-- One more than the largest number of a group. -/
def groupLimit : Nat := 1073741823

/-- The number of the group that a condition asks for, by name or by number. -/
def conditionNumber (p : Parser) (name : Text) (position : Nat) : Except Flaw (Nat × Bool) :=
  if isName name then
    match p.groups.names.lookup name with
    | some number => .ok (number, false)
    | none => .error (unknownName name position)
  else
    match Text.Numeral.parse? name with
    | none => .error (badName name position)
    | some n =>
        if n < 0 then .error (badName name position)
        else if n = 0 then .error (.written "bad group number".toList position)
        else if (groupLimit : Int) ≤ n then
          .error (.written ("invalid group reference ".toList ++ Text.ofInt n) position)
        else .ok (n.toNat, true)

/-- Opens a condition. A group that is asked for by its number need not be there yet. -/
def openCondition (p : Parser) (start : Nat) (s : Source) : Except Flaw (Parser × Source) :=
  match s.upTo ')' "group name" with
  | .error flaw => .error flaw
  | .ok (name, position, s) =>
      match p.conditionNumber name position with
      | .error flaw => .error flaw
      | .ok (number, byNumber) =>
          match p.groups.behindFlaw? number s.position with
          | some flaw => .error flaw
          | none =>
              let isNew := byNumber && p.mentions.all (·.1 ≠ number)
              .ok ({ p.enter (.condition number) start p.frame.modes with
                mentions := if isNew then p.mentions ++ [(number, position)] else p.mentions }, s)

/-- Opens a look-behind, or says what is wrong behind the angle bracket. -/
def openBehind (p : Parser) (start : Nat) (s : Source) : Except Flaw (Parser × Source) :=
  match s.next "unexpected end of pattern" with
  | .error flaw => .error flaw
  | .ok (t, s) =>
      if t.is '=' || t.is '!' then .ok (p.enterBehind (t.is '!') start, s)
      else .error (.written ("unknown extension ?<".toList ++ t.text) (t.position - 2))

/-- Passes over a comment in brackets. -/
def skipComment (p : Parser) (start : Nat) (s : Source) : Except Flaw (Parser × Source) :=
  match s.rest.dropWhile (! ·.is ')') with
  | [] => .error (.written "missing ), unterminated comment".toList start)
  | _ :: rest => .ok (p, { s with rest := rest })

/-- Reads what stands behind an opening bracket at `start`. -/
def openBracket (p : Parser) (start : Nat) (s : Source) : Except Flaw (Parser × Source) :=
  match s.after? '?' with
  | none => .ok (p.enterGroup start, s)
  | some s =>
      match s.next "unexpected end of pattern" with
      | .error flaw => .error flaw
      | .ok (t, s) =>
          if t.is 'P' then p.openExtension start s
          else if t.is ':' then .ok (p.enter .plain start p.frame.modes, s)
          else if t.is '#' then p.skipComment start s
          else if t.is '=' || t.is '!' then
            .ok (p.enter (.ahead (t.is '!')) start p.frame.modes, s)
          else if t.is '<' then p.openBehind start s
          else if t.is '(' then p.openCondition start s
          else if t.is '>' then .ok (p.enter .atomic start p.frame.modes, s)
          else if t.isChar isFlag || t.is '-' then p.enterFlags start t s
          else .error (.written ("unknown extension ?".toList ++ t.text) (t.position - 1))

end SshTunnel.Regex.Parser
