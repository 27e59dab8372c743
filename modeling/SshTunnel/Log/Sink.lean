import SshTunnel.Log.Record
import SshTunnel.Log.Stream
import SshTunnel.Report.Misuse

/-!
# Sinks

A sink writes records to one stream. Before a record is written a file that has reached
the limit is emptied. A record whose message or time cannot be written is dropped, and a
fatal one ends the run.
-/

namespace SshTunnel.Log

/-- A sink: its style, its stream's number and the size at which a file is emptied, if there
is one. -/
structure Sink where
  style : Style
  stream : Nat
  limit : Option Nat
deriving DecidableEq, Repr

/-- Why a call to a sink does not return. -/
inductive Halt where
  | writeToClosed
  | leaveClosed
  | exit
deriving DecidableEq, Repr

/-- The message of a halt; an exit has its code. -/
def Halt.message : Halt → Text
  | writeToClosed => "I/O operation on closed file".toList
  | leaveClosed => "I/O operation on closed file.".toList
  | exit => "1".toList

namespace Sink

/-- The size at which a file is emptied unless another is asked for. -/
def defaultLimit : Datum := .int (128 * 1024)

/-- The least size that reaches a limit. -/
def sizeFor : Datum → Option Nat
  | .real x => Decimal.ceiling? x
  | d => d.whole?.map Int.toNat

/-- A sink, if the limit is positive. -/
def make (style : Style) (stream : Nat) (limit : Datum) : Except Misuse Sink :=
  match limit.exceeds 0 with
  | .error m => .error (.unfit m)
  | .ok false => .error (.of .logLimit limit.shown)
  | .ok true => .ok ⟨style, stream, sizeFor limit⟩

/-- Writes a record that is to be shown. -/
def emit (k : Sink) (s : Streams) (clock : Clock) (level : Level) (template : Text)
    (values : List Datum) : Streams :=
  let s := s.truncateAt k.stream k.limit
  match (Template.message template values).bind fun m => k.style.line? clock ⟨level, m⟩ with
  | none => s
  | some line => s.write k.stream line

/-- Logs a message: the streams afterwards, and whether the call returns. -/
def log (k : Sink) (s : Streams) (clock : Clock) (level : Level) (template : Text)
    (values : List Datum) : Streams × Option Halt :=
  if k.style.shows level then
    if s.isClosedFile k.stream then (s, some .writeToClosed)
    else (k.emit s clock level template values, if level = .fatal then some .exit else none)
  else (s, none)

/-- Sends later records to another stream. A sink does not leave a file that was closed. -/
def redirect (k : Sink) (s : Streams) (stream : Nat) : Except Halt Sink :=
  if k.stream ≠ stream ∧ s.isClosedFile k.stream then .error .leaveClosed
  else .ok { k with stream := stream }

end Sink

end SshTunnel.Log
