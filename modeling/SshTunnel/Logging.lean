import SshTunnel.Failure
import SshTunnel.Log.Desk

/-!
# Runs that log

A run logs messages at a desk and ends with a result or a failure. A call to the sink that does
not return is the failure of the run.
-/

namespace SshTunnel

/-- What logs at a desk on its way to a result. -/
abbrev Logging := ExceptT Failure (StateM Log.Desk)

namespace Logging

/-- Logs a message. -/
def tell (m : Log.Message) : Logging Unit := ExceptT.mk do
  let logged := (← get).log m
  set logged.1
  return match logged.2 with
    | none => .ok ()
    | some halt => .error (.halted halt)

/-- Logs a message if there is one. -/
def tellAny : Option Log.Message → Logging Unit
  | none => return
  | some m => tell m

/-- A failure that is a report is a result, and only another one is the end. -/
def reported {α : Type} (run : Logging α) : Logging (Except Failure α) :=
  tryCatch (.ok <$> run) fun failure =>
    if failure.report?.isSome then return .error failure else throw failure

/-- Runs at a desk: the result or the failure, and the desk afterwards. -/
def runAt {α : Type} (run : Logging α) (desk : Log.Desk) : Except Failure α × Log.Desk :=
  StateT.run (ExceptT.run run) desk

end Logging

end SshTunnel
