import HackVm.Assembly.Line
import HackVm.Error

/-!
# Byte sinks

Generated text goes to a sink, which may take only so many bytes. A write that
does not fit leaves its beginning in the sink, so that the sink always holds a
beginning of what was written. Handing the bytes on may fail as well, and the sink
remembers each time it was asked to do so. A write that is interrupted is tried
again until it is taken or refused; such interruptions are left out here.
-/

namespace HackVm

/-- A place for bytes, with what it will do. -/
structure Sink where
  /-- How many bytes the sink takes in total; without a limit it takes all. -/
  limit : Option Nat := none
  /-- The failure of a write past the limit. -/
  refusal : IoFault := .sinkFull
  /-- Whether handing the bytes on fails. -/
  failsToFlush : Bool := false
  /-- The bytes the sink holds. -/
  held : ByteArray := .empty
  /-- What the sink held each time it was asked to hand its bytes on, the last time first. -/
  flushes : List ByteArray := []

namespace Sink

/-- Write bytes, as many as fit. -/
def write (sink : Sink) (bytes : ByteArray) : Sink × Except IoFault Unit :=
  match sink with
  | ⟨none, refusal, failsToFlush, held, flushes⟩ =>
    (⟨none, refusal, failsToFlush, held ++ bytes, flushes⟩, .ok ())
  | ⟨some limit, refusal, failsToFlush, held, flushes⟩ =>
    let room := limit - held.size
    if bytes.size ≤ room then
      (⟨some limit, refusal, failsToFlush, held ++ bytes, flushes⟩, .ok ())
    else
      (⟨some limit, refusal, failsToFlush, held ++ bytes.extract 0 room, flushes⟩,
        .error refusal)

/-- Write lines, each closed by a line feed, up to the first write that fails. -/
def writeLines (sink : Sink) : List Assembly.Line → Sink × Except IoFault Unit
  | [] => (sink, .ok ())
  | line :: lines =>
    match sink.write (line.text ++ "\n").toUTF8 with
    | (next, .ok ()) => next.writeLines lines
    | (next, .error fault) => (next, .error fault)

/-- Hand on what the sink holds. -/
def flush (sink : Sink) : Sink × Except IoFault Unit :=
  ({ sink with flushes := sink.held :: sink.flushes },
    if sink.failsToFlush then .error .flushFailed else .ok ())

/-- The text a sink holds. If the last character was cut, the replacement
character stands for the part that is there. -/
def text (sink : Sink) : String :=
  let attempt (cut : Nat) : Option String :=
    (String.fromUTF8? (sink.held.extract 0 (sink.held.size - cut))).map fun whole =>
      if cut = 0 then whole else whole.push (Char.ofNat 0xFFFD)
  ((List.range 4).findSome? attempt).getD ""

end Sink

end HackVm
