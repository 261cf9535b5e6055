import AccessGateway.Failure
import AccessGateway.SocketAddress

/-!
# The client cache

Requests to a target go through a client of its own, which is made on first use and kept. A client may be pinned to
an address, which then stands for its host; what is pinned at its making stays pinned.

`ClientCache.get` is one use of the cache. `ClientSystem` shows uses at the same time: each looks for a client first
and, if there is none, looks again and makes it while nobody else can.
-/

namespace AccessGateway

structure TargetClient where
  /-- Tells apart clients made one after the other. -/
  number : Nat
  host : String
  pin : Option SocketAddress
deriving DecidableEq, Repr

/-- The clients by target, the latest first, and the number of clients made so far. -/
structure ClientCache where
  clients : List (String × TargetClient) := []
  made : Nat := 0
deriving DecidableEq, Repr

namespace ClientCache

/-- The client kept for a target. -/
def find? (c : ClientCache) (host : String) : Option TargetClient := c.clients.lookup host

/-- The number of clients kept. -/
def size (c : ClientCache) : Nat := c.clients.length

/-- No client is kept. -/
def isEmpty (c : ClientCache) : Bool := c.clients.isEmpty

/-- The client of a target, which is made if there is none; `fault` says why none can be made now. -/
def get (host : String) (pin : Option SocketAddress) (fault : Option String) (c : ClientCache) :
    Except Failure TargetClient × ClientCache :=
  match c.find? host with
  | some client => (.ok client, c)
  | none =>
    match fault with
    | some text => (.error (.internal s!"upstream client for {host}: {text}"), c)
    | none =>
      let client : TargetClient := ⟨c.made, host, pin⟩
      (.ok client, ⟨(host, client) :: c.clients, c.made + 1⟩)

end ClientCache

/-- One use of the cache among others. -/
inductive ClientUse where
  | looking (host : String) (pin : Option SocketAddress)
  /-- It has found no client and waits to make one. -/
  | missed (host : String) (pin : Option SocketAddress)
  | ended (host : String) (result : Except Failure TargetClient)

/-- Uses that share a cache. -/
structure ClientSystem where
  cache : ClientCache := {}
  uses : List ClientUse

namespace ClientSystem

/-- What may happen to a use. -/
inductive Event where
  | look (use : Nat)
  /-- It looks again and makes the client, with what may go wrong in making it. -/
  | make (use : Nat) (fault : Option String)
deriving DecidableEq, Repr

/-- One event. An event that cannot happen changes nothing. -/
def step (s : ClientSystem) : Event → ClientSystem
  | .look i =>
    match s.uses[i]? with
    | some (.looking host pin) =>
      match s.cache.find? host with
      | some client => { s with uses := s.uses.set i (.ended host (.ok client)) }
      | none => { s with uses := s.uses.set i (.missed host pin) }
    | _ => s
  | .make i fault =>
    match s.uses[i]? with
    | some (.missed host pin) =>
      let (result, cache) := s.cache.get host pin fault
      ⟨cache, s.uses.set i (.ended host result)⟩
    | _ => s

/-- The system after a sequence of events. -/
def run (s : ClientSystem) (events : List Event) : ClientSystem := events.foldl step s

end ClientSystem

end AccessGateway
