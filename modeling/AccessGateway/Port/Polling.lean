import AccessGateway.Port.Announcement
import AccessGateway.Port.Dynamic

/-!
# Polling for ports

The backend is asked for its announcement again and again, and the dynamic ports are reconfigured when it differs
from the stored ranges or when nothing is open. Polling runs beside the teardown of the gateway: `PortPolling` is
the system of both, one step at a time in any order. Starting, stopping and reconfiguring exclude each other, so each
is one step.
-/

namespace AccessGateway

namespace DynamicPorts

/-- Whether a fetched set needs no reconfiguration. -/
def isCurrent (d : DynamicPorts) (fetched : PortSet) : Bool := fetched = d.ranges && 0 < d.listenerCount

/-- Applies a fetched set, which is written out and read again; tells whether listeners were replaced. -/
def apply (bind : Binding) (fetched : PortSet) (d : DynamicPorts) : Except Failure Bool × DynamicPorts :=
  let (r, d) := d.reconfigure bind fetched.tcpExpression fetched.udpExpression
  (r.map fun _ => true, d)

/-- One poll, with the set that was fetched. -/
def pollOnce (bind : Binding) (fetched : Except Failure PortSet) (d : DynamicPorts) :
    Except Failure Bool × DynamicPorts :=
  match fetched with
  | .error e => (.error e, d)
  | .ok s => if d.isCurrent s then (.ok false, d) else d.apply bind s

end DynamicPorts

/-- What the polling task is at. -/
inductive PollPhase where
  /-- It waits for the next round or for the end. -/
  | waiting
  /-- It waits for the backend. -/
  | fetching
  /-- It has an announcement and compares it. -/
  | comparing (fetched : PortSet)
  /-- It waits to reconfigure. -/
  | applying (fetched : PortSet)
  | ended
deriving DecidableEq, Repr

inductive TeardownPhase where
  | serving
  /-- The end has been announced to the background tasks. -/
  | announced
  /-- The dynamic ports have been stopped. -/
  | stopped
deriving DecidableEq, Repr

/-- Dynamic ports, the task that polls for them, and the teardown. -/
structure PortPolling where
  ports : DynamicPorts
  poll : PollPhase := .waiting
  teardown : TeardownPhase := .serving
deriving DecidableEq, Repr

namespace PortPolling

/-- What may happen. -/
inductive Event where
  /-- A round is due. -/
  | tick
  | fetched (result : Except Failure PortSet)
  | compare
  | apply (bind : Binding)
  /-- The task sees that the end has been announced. -/
  | observeEnd
  | announceEnd
  | stopPorts

/-- One event. An event that cannot happen changes nothing. A task that waits may take a due round even after the end
has been announced. -/
def step (s : PortPolling) (e : Event) : PortPolling :=
  match e, s.poll, s.teardown with
  | .tick, .waiting, _ => { s with poll := .fetching }
  | .fetched (.error _), .fetching, _ => { s with poll := .waiting }
  | .fetched (.ok set), .fetching, _ => { s with poll := .comparing set }
  | .compare, .comparing set, _ => { s with poll := if s.ports.isCurrent set then .waiting else .applying set }
  | .apply bind, .applying set, _ => { s with ports := (s.ports.apply bind set).2, poll := .waiting }
  | .observeEnd, .waiting, .announced => { s with poll := .ended }
  | .observeEnd, .waiting, .stopped => { s with poll := .ended }
  | .announceEnd, _, .serving => { s with teardown := .announced }
  | .stopPorts, _, .announced => { s with ports := s.ports.stop, teardown := .stopped }
  | _, _, _ => s

/-- The state after a sequence of events. -/
def run (s : PortPolling) (events : List Event) : PortPolling := events.foldl step s

end PortPolling

end AccessGateway
