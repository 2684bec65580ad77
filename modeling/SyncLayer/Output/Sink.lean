import SyncLayer.Error.System

/-!
# Sinks

A sink takes bytes until its room is used up, and then fails. What it took before it failed
stays written. It may take fewer bytes at once than it is given; whoever writes to it then calls it
again with the rest.
-/

namespace SyncLayer

/-- Why a sink does not take more bytes: its other end is closed, it takes none although asked,
its device is full, or it has a reason of its own. That it was interrupted is no reason: whoever
writes to it then calls it again. -/
inductive WriteError where
  | closed
  | stalled
  | system (e : SystemError)
  | other (kind message : String)
deriving DecidableEq, Repr

namespace WriteError

/-- The kind of an error of writing. -/
def kind : WriteError → String
  | closed => "BrokenPipe"
  | stalled => "WriteZero"
  | system e => e.kind
  | other kind _ => kind

/-- The text of an error of writing. -/
def message : WriteError → String
  | closed => "closed"
  | stalled => "failed to write whole buffer"
  | system e => e.text
  | other _ message => message

end WriteError

/-- A place to write to. Without a limit its room never ends. In one call after the other it takes
at most one byte more than the pieces say, and behind them it takes what it can. -/
structure Sink where
  room : Option Nat := none
  failure : WriteError := .closed
  written : List UInt8 := []
  pieces : List Nat := []
deriving DecidableEq, Repr

namespace Sink

/-- A sink on a full device. -/
def full : Sink :=
  { room := some 0, failure := .system .noSpace }

/-- The number of bytes that there is room for, of some. -/
def fitting (n : Nat) (sink : Sink) : Nat :=
  match sink.room with
  | none => n
  | some room => if n ≤ room then n else room

/-- The number of bytes that a sink takes in a call, of some. -/
def accepted (n : Nat) (sink : Sink) : Nat :=
  match sink.pieces with
  | [] => sink.fitting n
  | piece :: _ => if sink.fitting n ≤ piece + 1 then sink.fitting n else piece + 1

/-- A sink that has taken bytes in a call. -/
def take (bytes : List UInt8) (sink : Sink) : Sink :=
  { sink with
    room := sink.room.map (fun room => room - bytes.length)
    written := sink.written ++ bytes
    pieces := sink.pieces.tail }

/-- Write bytes, in as many calls as that takes. It ends when the sink takes none of those that are
left. -/
def write (bytes : List UInt8) (sink : Sink) : Except WriteError Unit × Sink :=
  if bytes = [] then (.ok (), sink)
  else if sink.accepted bytes.length = 0 then (.error sink.failure, sink)
  else
    write (bytes.drop (sink.accepted bytes.length))
      (sink.take (bytes.take (sink.accepted bytes.length)))
termination_by bytes.length
decreasing_by
  rename_i hb ha
  have hl := List.length_pos_iff.mpr hb
  rw [List.length_drop]
  omega

/-- Write a text. -/
def writeText (s : String) (sink : Sink) : Except WriteError Unit × Sink :=
  sink.write s.toUTF8.data.toList

/-- The text of bytes, of which the last may be the beginning of a character. -/
def textOf (bytes : List UInt8) : String :=
  match [0, 1, 2, 3].findSome? whole? with
  | some s => s
  | none => ""
where
  whole? (n : Nat) : Option String :=
    let kept := bytes.take (bytes.length - n)
    (String.fromUTF8? ⟨kept.toArray⟩).map (fun s => if n = 0 then s else s.push '\ufffd')

/-- What was written, as a text. -/
def text (sink : Sink) : String :=
  textOf sink.written

end Sink

end SyncLayer
