import SshTunnel.HostConfig.Line
import SshTunnel.Text.Glob

/-!
# Contents of a host configuration

A file has directives above its first Host line and sections below. A section applies to
the aliases that every pattern list of its scope matches: the one of its own Host line and
those of the Host lines around the Include lines that led to its file.
-/

namespace SshTunnel.HostConfig

/-- The pattern lists that have to match, outermost first. -/
abbrev Scope := List (List Text)

/-- A negated pattern, with what follows the `!`, or a positive one. -/
def negated? : Text → Option Text
  | '!' :: body => some body
  | _ => none

/-- One pattern describes the name, letter case aside. -/
def patternMatches (name body : Text) : Bool :=
  Text.Glob.isMatch (Text.lower body) (Text.lower name)

/-- Goes through the patterns of a Host line; `found` says that a positive one has described the
name. A negated one that describes it ends the search. -/
def searchNames (name : Text) (found : Bool) : List Text → Bool
  | [] => found
  | pattern :: more =>
      match negated? pattern with
      | some body => if patternMatches name body then false else searchNames name found more
      | none => searchNames name (found || patternMatches name pattern) more

/-- Some positive pattern describes the name and no negated one does. -/
def matchesPatterns (name : Text) (patterns : List Text) : Bool := searchNames name false patterns

/-- Every pattern list of the scope matches the name. -/
def Scope.covers (scope : Scope) (name : Text) : Bool := scope.all (matchesPatterns name)

/-- Directives for the aliases of a scope. -/
structure Section where
  scope : Scope
  directives : List Directive
deriving DecidableEq, Repr

/-- What a file says: directives for the aliases of the place that names it, then sections. -/
structure Contents where
  top : List Directive
  sections : List Section
deriving DecidableEq, Repr

/-- A file that says nothing. -/
def Contents.empty : Contents := ⟨[], []⟩

/-- What two files say one after the other. -/
def Contents.append (a b : Contents) : Contents :=
  ⟨a.top ++ b.top, a.sections ++ b.sections⟩

/-- Changes the last element. -/
def onLast {α : Type} (f : α → α) : List α → List α
  | [] => []
  | [x] => [f x]
  | x :: y :: rest => x :: onLast f (y :: rest)

/-- A file that is being read for a scope. `inTop` says that no section is under way. -/
structure Progress where
  contents : Contents
  inTop : Bool
deriving DecidableEq, Repr

namespace Progress

/-- Before the first line. -/
def start : Progress := ⟨Contents.empty, true⟩

/-- The scope of the next line in a file that is read for `outer`. -/
def scope (p : Progress) (outer : Scope) : Scope :=
  if p.inTop then outer else (p.contents.sections.getLast?.map (·.scope)).getD outer

/-- Takes directives into the section under way, or into the top. -/
def add (p : Progress) (ds : List Directive) : Progress :=
  if p.inTop then { p with contents := ⟨p.contents.top ++ ds, p.contents.sections⟩ }
  else
    { p with contents := ⟨p.contents.top,
        onLast (fun s => { s with directives := s.directives ++ ds }) p.contents.sections⟩ }

/-- Opens a section. -/
def openSection (p : Progress) (scope : Scope) : Progress :=
  ⟨⟨p.contents.top, p.contents.sections ++ [⟨scope, []⟩]⟩, false⟩

/-- Takes in what an Include line names. Directives above a Host line go where the Include
line stands, sections come next, and later lines of a section go into a new one of the same
scope. At the top of a file that is read for every alias the top goes on. -/
def takeIn (p : Progress) (outer : Scope) (c : Contents) : Progress :=
  let q := p.add c.top
  let r : Progress := ⟨⟨q.contents.top, q.contents.sections ++ c.sections⟩, p.inTop⟩
  if p.inTop && outer.isEmpty then r else r.openSection (p.scope outer)

end Progress

/-- The directives that apply to a name, those of every alias first. -/
def Contents.applying (c : Contents) (name : Text) : List Directive :=
  c.top ++ (c.sections.filter (·.scope.covers name)).flatMap (·.directives)

end SshTunnel.HostConfig
