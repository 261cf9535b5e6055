/-!
# Streams in both directions

After a stream has been let through, what one side sends goes to the other until both have ended. The two directions
run side by side, each reading a chunk, writing it, and reading again; an end of input closes the other side's input
and ends one direction, while an error ends both. What is written is mirrored chunk by chunk.
-/

namespace AccessGateway

/-- A direction of a stream. -/
inductive Direction where
  /-- From the client to the target. -/
  | up
  /-- From the target to the client. -/
  | down
deriving DecidableEq, Repr

/-- What a direction is at. -/
inductive PumpPhase where
  | reading
  | writing (chunk : List UInt8)
  | ended
deriving DecidableEq, Repr

/-- One direction. -/
structure Pump where
  phase : PumpPhase := .reading
  /-- Every byte written so far. -/
  written : List UInt8 := []
  /-- The other side has been told that no more bytes come. -/
  isClosed : Bool := false
deriving DecidableEq, Repr

/-- What may happen in a direction. -/
inductive DuplexEvent where
  /-- Bytes were read. -/
  | read (d : Direction) (chunk : List UInt8)
  /-- The input has ended. -/
  | ended (d : Direction)
  | readFailed (d : Direction)
  /-- The chunk that was read has been written. -/
  | written (d : Direction)
  | writeFailed (d : Direction)
  /-- A reading direction sees that the other one has failed. -/
  | abandoned (d : Direction)
deriving DecidableEq, Repr

/-- Both directions. -/
structure Duplex where
  up : Pump := {}
  down : Pump := {}
  /-- One direction has failed. -/
  isAborted : Bool := false
  /-- The chunks written, in the order of their writing. -/
  mirrored : List (Direction × List UInt8) := []
deriving DecidableEq, Repr

namespace Duplex

/-- The state of a direction. -/
def pump (s : Duplex) : Direction → Pump
  | .up => s.up
  | .down => s.down

/-- The state after a direction has changed. -/
def setPump (s : Duplex) : Direction → Pump → Duplex
  | .up, p => { s with up := p }
  | .down, p => { s with down := p }

/-- A direction fails, and the other one is to end. -/
def fail (s : Duplex) (d : Direction) : Duplex :=
  { s.setPump d { s.pump d with phase := .ended } with isAborted := true }

/-- One event. An event that cannot happen changes nothing. -/
def step (s : Duplex) : DuplexEvent → Duplex
  | .read d chunk =>
    match (s.pump d).phase, chunk with
    | .reading, _ :: _ => s.setPump d { s.pump d with phase := .writing chunk }
    | _, _ => s
  | .ended d =>
    match (s.pump d).phase with
    | .reading => s.setPump d { s.pump d with phase := .ended, isClosed := true }
    | _ => s
  | .readFailed d =>
    match (s.pump d).phase with
    | .reading => s.fail d
    | _ => s
  | .written d =>
    match (s.pump d).phase with
    | .writing chunk =>
      { s.setPump d { s.pump d with phase := .reading, written := (s.pump d).written ++ chunk } with
        mirrored := s.mirrored ++ [(d, chunk)] }
    | _ => s
  | .writeFailed d =>
    match (s.pump d).phase with
    | .writing _ => s.fail d
    | _ => s
  | .abandoned d =>
    match (s.pump d).phase with
    | .reading => if s.isAborted then s.setPump d { s.pump d with phase := .ended } else s
    | _ => s

/-- The state after a sequence of events. -/
def run (events : List DuplexEvent) : Duplex := events.foldl step {}

/-- Both directions have ended. -/
def isOver (s : Duplex) : Bool := s.up.phase = .ended && s.down.phase = .ended

end Duplex

end AccessGateway
