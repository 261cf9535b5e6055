import AccessGateway.Failure
import AccessGateway.Mirror.Delivery

/-!
# The mirror engine

Packets wait in a bounded queue until a worker takes them. Handing a packet over never waits: if the engine is not
running or its queue is full the packet is dropped and counted. Stopping discards what is queued.

`MirrorEngine` is the engine as its users see it. `MirrorSystem` shows what its workers do beside them: any number of
runs, each with a queue and workers of its own, one step at a time in any order.
-/

namespace AccessGateway

/-- The engine; it has a queue while it is running. -/
structure MirrorEngine where
  config : MirrorConfig
  gatewayId : String
  tally : MirrorTally := {}
  queue : Option (List Observation) := none
deriving Repr

namespace MirrorEngine

def isRunning (e : MirrorEngine) : Bool := e.queue.isSome

/-- The counters. -/
def stats (e : MirrorEngine) : MirrorStats := e.tally.stats

/-- Why an engine with this configuration cannot be started. -/
def startFailure? (c : MirrorConfig) (running : Bool) : Option Failure :=
  if running then some (.internal "mirror engine already running")
  else if c.queueSize = 0 || c.workers = 0 then
    some (.config "mirror.queue_size and mirror.workers must be positive")
  else none

/-- Starts the engine with an empty queue. -/
def start (e : MirrorEngine) : Except Failure Unit × MirrorEngine :=
  match startFailure? e.config e.isRunning with
  | some f => (.error f, e)
  | none => (.ok (), { e with queue := some [] })

/-- Stops the engine; queued packets are discarded. -/
def stop (e : MirrorEngine) : MirrorEngine := { e with queue := none }

/-- Hands a packet over. -/
def enqueue (o : Observation) (e : MirrorEngine) : MirrorEngine :=
  match e.queue with
  | some q =>
    if q.length < e.config.queueSize then { e with queue := some (q ++ [o]) }
    else { e with tally := e.tally.addDropped }
  | none => { e with tally := e.tally.addDropped }

/-- Delivers every queued packet. -/
def drain {σ : Type} (present : UInt64) (write : Sink → List UInt8 → σ → Option Nat × σ) (e : MirrorEngine) (s : σ) :
    MirrorEngine × σ :=
  match e.queue with
  | none => (e, s)
  | some q =>
    let (tally, s) := q.foldl (fun (t, s) o =>
      (MirrorPipeline.ofConfig e.config e.gatewayId).deliver present write o t s) (e.tally, s)
    ({ e with tally, queue := some [] }, s)

end MirrorEngine

/-- A packet with its number among all that were handed over. -/
structure Ticket where
  number : Nat
  observation : Observation
deriving Repr, BEq

inductive MirrorWorker where
  | waiting
  /-- It writes a packet, to the sinks that are left. -/
  | delivering (t : Ticket) (left : List Sink)
  | ended
deriving Repr, BEq

/-- One run of the engine, from a start to the stop after it. -/
structure MirrorRun where
  queue : List Ticket := []
  /-- More packets may come. -/
  isOpen : Bool := true
  /-- The workers have been told to end. -/
  isCancelled : Bool := false
  workers : List MirrorWorker
deriving Repr

/-- The engine with its workers, and the numbers of the packets accepted and taken so far. -/
structure MirrorSystem where
  config : MirrorConfig
  gatewayId : String
  tally : MirrorTally := {}
  runs : List MirrorRun := []
  /-- The run that packets are handed to. -/
  current : Option Nat := none
  /-- Starts that have begun and not finished. -/
  starting : Nat := 0
  offered : Nat := 0
  accepted : List Nat := []
  taken : List Nat := []
deriving Repr

namespace MirrorSystem

/-- What may happen. -/
inductive Event where
  | beginStart
  | finishStart
  | enqueue (o : Observation)
  /-- A waiting worker of a run takes the first packet. -/
  | take (run worker : Nat)
  /-- A worker ends its next write: the number of bytes written, or none for a failure. -/
  | write (run worker : Nat) (written : Option Nat)
  /-- A waiting worker sees that it is to end. -/
  | finish (run worker : Nat)
  | stop
deriving Repr

def pipeline (s : MirrorSystem) : MirrorPipeline := .ofConfig s.config s.gatewayId

/-- The runs with one of them changed. -/
def changeRun (s : MirrorSystem) (run : Nat) (f : MirrorRun → MirrorRun) : List MirrorRun := s.runs.modify run f

/-- A run that no more packets are handed to. -/
def closeRun (r : MirrorRun) : MirrorRun := { r with isOpen := false }

/-- The run after a worker has changed. -/
def setWorker (worker : Nat) (w : MirrorWorker) (r : MirrorRun) : MirrorRun :=
  { r with workers := r.workers.set worker w }

/-- Hands a packet to the current run, or drops it. -/
def offer (s : MirrorSystem) (o : Observation) : MirrorSystem :=
  let s := { s with offered := s.offered + 1 }
  match s.current with
  | none => { s with tally := s.tally.addDropped }
  | some run =>
    match s.runs[run]? with
    | none => { s with tally := s.tally.addDropped }
    | some r =>
      if r.queue.length < s.config.queueSize then
        { s with
          runs := s.changeRun run fun r => { r with queue := r.queue ++ [⟨s.offered, o⟩] }
          accepted := s.accepted ++ [s.offered] }
      else { s with tally := s.tally.addDropped }

/-- The runs when the current one is closed. -/
def closeCurrent (s : MirrorSystem) : List MirrorRun :=
  match s.current with
  | some run => s.changeRun run closeRun
  | none => s.runs

/-- One event. An event that cannot happen changes nothing. A worker ends when it has been told to, or when its queue
is empty and no more packets come; the last worker to end discards what is queued. -/
def step (s : MirrorSystem) : Event → MirrorSystem
  | .beginStart =>
    if (MirrorEngine.startFailure? s.config s.current.isSome).isSome then s
    else { s with starting := s.starting + 1 }
  | .finishStart =>
    if s.starting = 0 then s
    else { s with
      starting := s.starting - 1
      runs := s.closeCurrent ++ [{ workers := List.replicate s.config.workers .waiting }]
      current := some s.runs.length }
  | .enqueue o => s.offer o
  | .take run worker =>
    match s.runs[run]? with
    | none => s
    | some r =>
      match r.workers[worker]?, r.queue with
      | some .waiting, t :: rest =>
        { s with
          runs := s.changeRun run fun r => { setWorker worker (.delivering t s.pipeline.sinks) r with queue := rest }
          taken := s.taken ++ [t.number] }
      | _, _ => s
  | .write run worker written =>
    match s.runs[run]?.bind (·.workers[worker]?) with
    | some (.delivering t (sink :: left)) =>
      { s with
        tally := MirrorPipeline.count sink written s.tally
        runs := s.changeRun run (setWorker worker (.delivering t left)) }
    | some (.delivering _ []) => { s with runs := s.changeRun run (setWorker worker .waiting) }
    | _ => s
  | .finish run worker =>
    match s.runs[run]? with
    | none => s
    | some r =>
      if r.workers[worker]? == some .waiting && (r.isCancelled || (!r.isOpen && r.queue.isEmpty)) then
        { s with runs := s.changeRun run fun r =>
            let r := setWorker worker .ended r
            if r.workers.all (· == .ended) then { r with queue := [] } else r }
      else s
  | .stop =>
    match s.current with
    | none => s
    | some run =>
      { s with
        current := none
        runs := s.changeRun run fun r => { closeRun r with isCancelled := true } }

/-- The system after a sequence of events. -/
def run (s : MirrorSystem) (events : List Event) : MirrorSystem := events.foldl step s

/-- The packets queued in any run. -/
def queued (s : MirrorSystem) : Nat := (s.runs.map fun r => r.queue.length).foldr (· + ·) 0

/-- A worker is delivering a packet. -/
def isDelivering (s : MirrorSystem) : Bool :=
  s.runs.any fun r => r.workers.any fun
    | .delivering _ _ => true
    | _ => false

end MirrorSystem

end AccessGateway
