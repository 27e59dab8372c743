import SshTunnel.Log.Template

/-!
# Log records

A record has a level and a message. As a line it starts with the time of day and the name
of its level, which may be coloured.
-/

namespace SshTunnel.Log

/-- How much a record matters. -/
inductive Level where
  | debug
  | info
  | warning
  | error
  | fatal
deriving DecidableEq, Repr

/-- The name of a level. -/
def Level.name : Level → Text
  | debug => "DEBUG".toList
  | info => "INFO".toList
  | warning => "WARNING".toList
  | error => "ERROR".toList
  | fatal => "FATAL".toList

/-- The escape sequence with this number. -/
def escape (number : String) : Text := Char.ofNat 0x1b :: '[' :: number.toList ++ ['m']

/-- The colour of a level. -/
def Level.colour : Level → Option Text
  | debug => none
  | info => some (escape "36")
  | warning => some (escape "33")
  | error => some (escape "31")
  | fatal => some (escape "31")

/-- A message at a level. -/
structure Record where
  level : Level
  message : Text
deriving DecidableEq, Repr

/-- Which records are written, and how. -/
structure Style where
  debug : Bool
  colour : Bool
deriving DecidableEq, Repr

/-- The style that is asked for. Without a wish, `wantsDebug` decides on debug records, and
there are colours on every platform but one. -/
def Style.ofWishes (debug colour : Option Bool) (wantsDebug : Bool) (platform : Text) : Style :=
  ⟨debug.getD wantsDebug, colour.getD (platform != "win32".toList)⟩

/-- A record of this level is written: debug records only on request. -/
def Style.shows (s : Style) (level : Level) : Bool := s.debug || level != .debug

/-- A number of at least `width` digits. -/
def padded (width n : Nat) : Text := (Text.ofNat n).leftpad width '0'

/-- A clock in milliseconds, before or after its zero. -/
abbrev Clock := Int

/-- The first second of the earliest year that has a date. -/
def firstSecond : Int := -67768040609740800

/-- The last second of the latest year that has a date. -/
def lastSecond : Int := 67767976233532799

/-- The clock shows a time in a year that has a date. -/
def Clock.hasDate (clock : Clock) : Bool :=
  firstSecond ≤ clock.fdiv 1000 && clock.fdiv 1000 ≤ lastSecond

/-- The time of day of a clock, with milliseconds on request. -/
def Style.stamp (s : Style) (clock : Clock) : Text :=
  let seconds := (clock.fdiv 1000).fmod 86400 |>.toNat
  padded 2 (seconds / 3600) ++ ':' :: padded 2 (seconds / 60 % 60) ++ ':' ::
    padded 2 (seconds % 60)
    ++ (if s.debug then '.' :: padded 3 (clock.fmod 1000).toNat else [])

/-- The name of a level in its colour. -/
def Style.levelName (s : Style) (level : Level) : Text :=
  match level.colour with
  | some colour => if s.colour then colour ++ level.name ++ escape "0" else level.name
  | none => level.name

/-- A record as a line, at a time that has a date. -/
def Style.line? (s : Style) (clock : Clock) (r : Record) : Option Text :=
  if clock.hasDate then
    some ('[' :: s.stamp clock ++ "] ".toList ++ s.levelName r.level ++ ' ' :: r.message ++ ['\n'])
  else none

end SshTunnel.Log
