import SshTunnel.Text.Blank
import SshTunnel.Text.Lower

/-!
# Lines of a host configuration

A line is nothing, a Host line with its patterns, an Include line with its argument text,
or a directive. Keyword and value stand beside each other, or with `=` between them.
-/

namespace SshTunnel.HostConfig

/-- What is wrong with a line. -/
inductive LineProblem where
  | missingValue (keyword : Text)
  | noPatterns
  | matchBlock
  | unbalancedQuotes
  | includeTooDeep
deriving DecidableEq, Repr

/-- The words for a problem. -/
def LineProblem.words : LineProblem → Text
  | missingValue keyword => "missing value for ".toList ++ keyword
  | noPatterns => "Host line has no patterns".toList
  | matchBlock => "Match blocks are not supported".toList
  | unbalancedQuotes => "unbalanced quotes".toList
  | includeTooDeep => "Include nested too deeply".toList

/-- A setting: its keyword in lower case and its value. -/
structure Directive where
  keyword : Text
  value : Text
deriving DecidableEq, Repr

/-- What a line says. -/
inductive Statement where
  | host (patterns : List Text)
  | files (arguments : Text)
  | directive (d : Directive)
deriving DecidableEq, Repr

/-- A line that says something. -/
def isSignificant (line : Text) : Bool :=
  !line.isEmpty && line.head? != some '#'

/-- The line up to the first blank with a `#` right behind it. -/
def beforeComment : Text → Text
  | [] => []
  | [c] => [c]
  | c :: d :: rest => if Text.isBlank c && d = '#' then [] else c :: beforeComment (d :: rest)

/-- The line without its comment; blanks before the comment go with it. -/
def withoutComment (line : Text) : Text := Text.trimEnd (beforeComment line)

/-- The keyword and the value of a significant line as they are written, if there is a value
to speak of. -/
def split (line : Text) : Except LineProblem (Text × Text) :=
  let head := Text.firstWord line
  match Text.cutAt '=' head with
  | some _ => .ok ((Text.cutAt '=' line).getD (line, []))
  | none =>
      match Text.afterFirstWord line with
      | [] => .error (.missingValue head)
      | '=' :: value => .ok (head, value)
      | value => .ok (head, value)

/-- An argument in front of others, unless it is empty. -/
def consArgument (argument : Text) (more : List Text) : List Text :=
  if argument.isEmpty then more else argument :: more

/-- The rest of the argument under way and the arguments after it; `quoted` inside of quotes. -/
def argumentsFrom (quoted : Bool) : Text → Option (Text × List Text)
  | [] => if quoted then none else some ([], [])
  | c :: rest =>
      if c = '"' then argumentsFrom (!quoted) rest
      else if Text.isBlank c && !quoted then
        (argumentsFrom false rest).map fun r => ([], consArgument r.1 r.2)
      else (argumentsFrom quoted rest).map fun r => (c :: r.1, r.2)

/-- The arguments of a value, with blanks between them. Quotes keep blanks together and are
left out; empty arguments vanish. There are none when a quote stays open. -/
def arguments? (value : Text) : Option (List Text) :=
  (argumentsFrom false value).map fun r => consArgument r.1 r.2

/-- A value without one pair of quotes around it, unless a quote stays open in it. -/
def unquote? (value : Text) : Option Text :=
  if value.count '"' % 2 = 1 then none
  else if 2 ≤ value.length && value.head? = some '"' && value.getLast? = some '"' then
    some (value.drop 1).dropLast
  else some value

/-- What a keyword in lower case and a value that is not empty say. -/
def Statement.ofParts (keyword value : Text) : Except LineProblem Statement :=
  if keyword = "host".toList then
    match arguments? value with
    | none => .error .unbalancedQuotes
    | some [] => .error .noPatterns
    | some patterns => .ok (.host patterns)
  else if keyword = "match".toList then .error .matchBlock
  else if keyword = "include".toList then .ok (.files value)
  else
    match unquote? value with
    | none => .error .unbalancedQuotes
    | some v => .ok (.directive ⟨keyword, v⟩)

/-- What a line without blanks at its ends says. -/
def Statement.ofTrimmed (line : Text) : Except LineProblem (Option Statement) :=
  if isSignificant line then
    (split (withoutComment line)).bind fun parts =>
      let keyword := Text.lower (Text.trim parts.1)
      let value := Text.trim parts.2
      if value.isEmpty then .error (.missingValue keyword)
      else (Statement.ofParts keyword value).map some
  else .ok none

/-- What a line says. -/
def Statement.ofLine (line : Text) : Except LineProblem (Option Statement) :=
  Statement.ofTrimmed (Text.trim line)

end SshTunnel.HostConfig
