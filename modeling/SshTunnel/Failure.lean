import SshTunnel.Report.Basic
import SshTunnel.Base64
import SshTunnel.Environment
import SshTunnel.Files.Change
import SshTunnel.Key.Library
import SshTunnel.Log.Sink

/-!
# Failures

Everything that an operation can end with instead of a result. A report is expected, and
may rest on another failure; the rest is refused input, a home directory that cannot be told
and a sink that cannot be written to.
-/

namespace SshTunnel

/-- The end of an operation without a result. -/
inductive Failure where
  | badPath (e : Files.BadPath)
  | refused (e : Files.Refusal)
  | notUtf8 (e : Utf8.Malformed)
  | notBase64 (e : Base64.Flaw)
  | badKey (e : Key.Problem)
  | longNumeral (e : Text.Numeral.TooLong)
  | tooLarge
  | noHome (e : NoHome)
  | halted (h : Log.Halt)
  | misuse (e : Misuse)
  | report (r : Report)
  | caused (r : Report) (cause : Failure)

namespace Failure

/-- The message of a failure. -/
def message : Failure → Text
  | badPath e => e.message
  | refused e => e.message
  | notUtf8 e => e.message
  | notBase64 e => e.message
  | badKey e => e.message
  | longNumeral e => e.message
  | tooLarge => "int too large to convert to float".toList
  | noHome e => e.message
  | halted h => h.message
  | misuse e => e.message
  | report r => r.message
  | caused r _ => r.message

/-- The report that a failure is. -/
def report? : Failure → Option Report
  | report r => some r
  | caused r _ => some r
  | _ => none

/-- The failure that a report rests on. -/
def cause? : Failure → Option Failure
  | caused _ cause => some cause
  | _ => none

/-- The failure that a new report is, resting on `cause` if there is one. -/
def ofMade (made : Except Misuse Report) (cause : Option Failure) : Failure :=
  match made, cause with
  | .ok r, none => report r
  | .ok r, some f => caused r f
  | .error e, _ => misuse e

end Failure

end SshTunnel
