import AccessGateway.Failure
import AccessGateway.Port.Set

/-!
# Dynamic ports

The stored ranges and the listeners opened from them. Starting opens one listener per port and passes over ports
that cannot be bound; it fails only if there were ports and none could be bound. Reconfiguring checks the new ranges
before anything is closed, then closes the whole set and opens the new one.

What the operating system answers to a request to bind is a parameter of the operations that bind.
-/

namespace AccessGateway

/-- The answers to requests to bind the ports of one start: why a port cannot be bound, or none. -/
abbrev Binding := Endpoint → Option String

/-- The listeners of one start. -/
structure ListenerSet where
  /-- The number of the start, which tells its listeners from earlier ones on the same ports. -/
  start : Nat
  listeners : List Endpoint
deriving DecidableEq, Repr

/-- The stored ranges, and the open set if there is one. -/
structure DynamicPorts where
  ranges : PortSet := .empty
  active : Option ListenerSet := none
  /-- The number of sets opened so far. -/
  starts : Nat := 0
deriving DecidableEq, Repr

namespace DynamicPorts

/-- The open listeners. -/
def listeners (d : DynamicPorts) : List Endpoint := (d.active.map ListenerSet.listeners).getD []

/-- The number of open listeners. -/
def listenerCount (d : DynamicPorts) : Nat := d.listeners.length

/-- Every port of the stored ranges. -/
def configuredPorts (d : DynamicPorts) : List Endpoint := d.ranges.expand

/-- Reads and stores ranges; nothing changes if they cannot be read. -/
def assign (tcp udp : String) (d : DynamicPorts) : Except Failure Unit × DynamicPorts :=
  match PortSet.read tcp udp with
  | .error e => (.error (.portRange e), d)
  | .ok s => (.ok (), { d with ranges := s })

/-- Looks for a repeated port in the stored ranges. -/
def validate (d : DynamicPorts) : Except Failure Unit := d.ranges.check.mapError .portRange

/-- The ports that can be bound. -/
def bound (bind : Binding) (ports : List Endpoint) : List Endpoint := ports.filter fun p => (bind p).isNone

/-- The failure of the first port if no port can be bound. -/
def bindFailure? (bind : Binding) : List Endpoint → Option Failure
  | [] => none
  | p :: ps =>
    match bound bind (p :: ps), bind p with
    | [], some text => some (.listenerBind p.1 p.2 text)
    | _, _ => none

/-- Opens the listeners of the stored ranges and counts them. -/
def start (bind : Binding) (d : DynamicPorts) : Except Failure Nat × DynamicPorts :=
  if d.active.isSome then (.error (.internal "listeners already running"), d)
  else
    match d.validate with
    | .error e => (.error e, d)
    | .ok () =>
      match bindFailure? bind d.configuredPorts with
      | some e => (.error e, d)
      | none =>
        let opened := bound bind d.configuredPorts
        (.ok opened.length, { d with active := some ⟨d.starts, opened⟩, starts := d.starts + 1 })

/-- Closes every listener. -/
def stop (d : DynamicPorts) : DynamicPorts := { d with active := none }

/-- Replaces the listeners by those of new ranges, which are checked first. -/
def reconfigure (bind : Binding) (tcp udp : String) (d : DynamicPorts) : Except Failure Nat × DynamicPorts :=
  match PortSet.readChecked tcp udp with
  | .error e => (.error (.portRange e), d)
  | .ok s => start bind { d.stop with ranges := s }

/-- One call, with the answers it gets from the operating system. -/
inductive Call where
  | assign (tcp udp : String)
  | start (bind : Binding)
  | stop
  | reconfigure (bind : Binding) (tcp udp : String)

/-- The state after a call. -/
def step (d : DynamicPorts) : Call → DynamicPorts
  | .assign tcp udp => (d.assign tcp udp).2
  | .start bind => (d.start bind).2
  | .stop => d.stop
  | .reconfigure bind tcp udp => (d.reconfigure bind tcp udp).2

/-- The state after a sequence of calls. -/
def run (d : DynamicPorts) (calls : List Call) : DynamicPorts := calls.foldl step d

/-- The number of listeners of a set that are open now. -/
def stillOpen (set : ListenerSet) (d : DynamicPorts) : Nat :=
  if d.active = some set then set.listeners.length else 0

/-- Starting fails with a bind failure exactly when there are ports and none can be bound. -/
theorem bindFailure?_isSome_iff (bind : Binding) (ports : List Endpoint) :
    (bindFailure? bind ports).isSome ↔ ports ≠ [] ∧ bound bind ports = [] := by
  cases ports with
  | nil => simp [bindFailure?]
  | cons p ps =>
    rw [bindFailure?]
    split
    · rename_i hb _
      simp [hb]
    · rename_i h
      simp only [Option.isSome_none, Bool.false_eq_true, ne_eq, reduceCtorEq, not_false_eq_true, true_and, false_iff]
      intro hb
      have hp : bind p ≠ none := fun hn => by simp [bound, hn] at hb
      obtain ⟨text, ht⟩ := Option.ne_none_iff_exists'.1 hp
      exact h text hb ht

end DynamicPorts

end AccessGateway
