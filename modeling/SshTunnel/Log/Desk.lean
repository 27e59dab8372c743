import SshTunnel.Log.Sink

/-!
# Desks

A sink with the streams it writes to and the clock it reads is a desk, where one message after
the other is logged. A call that does not return ends what was under way. The files behind the
streams are none of those that a run reads.
-/

namespace SshTunnel.Log

/-- Something to log: a level, a template and the values for its places. -/
structure Message where
  level : Level
  template : Text
  values : List Datum

/-- A sink, the streams it writes to and the clock it reads. -/
structure Desk where
  sink : Sink
  streams : Streams
  clock : Clock

/-- Logs a message: the desk afterwards, and whether the call returns. -/
def Desk.log (desk : Desk) (m : Message) : Desk × Option Halt :=
  let logged := desk.sink.log desk.streams desk.clock m.level m.template m.values
  ({ desk with streams := logged.1 }, logged.2)

end SshTunnel.Log
