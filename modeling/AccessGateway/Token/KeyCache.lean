/-!
# The key cache

One verification key is kept and refetched now and then. Fetches are serialised, and attempts to fetch keep a
distance from each other however often a key is asked for; a fetch that fails leaves the kept key alone. A key given
in advance is pinned and never fetched.

Work that needs keys is a task: it ends, asks for the current key, or asks for a refresh. `KeyTask.run` lets one
task run alone; `KeySystem` lets any number of tasks run at once, one step after the other in any order.
-/

namespace AccessGateway

/-- How keys are obtained; times are in milliseconds. -/
structure KeyPolicy where
  pinned : Bool
  refreshInterval : Nat
  spacing : Nat
deriving DecidableEq, Repr

/-- The kept key, the time it was fetched and the time of the last attempt. -/
structure KeyCache (κ : Type) where
  key : Option κ := none
  fetchedAt : Option Nat := none
  lastAttempt : Option Nat := none
deriving DecidableEq, Repr

/-- How a refresh goes on: it has its answer, or it fetches. -/
inductive Attempt (κ : Type) where
  | answered (r : Except String κ)
  | fetch

namespace KeyCache

variable {κ : Type}

/-- The kept key, or else a reason. -/
def orElse (c : KeyCache κ) (reason : String) : Except String κ :=
  match c.key with
  | some k => .ok k
  | none => .error reason

/-- The kept key is younger than the refresh interval. -/
def isFresh (p : KeyPolicy) (now : Nat) (c : KeyCache κ) : Bool :=
  c.fetchedAt.any fun t => now - t < p.refreshInterval

/-- The last attempt is closer than the spacing. -/
def triedRecently (p : KeyPolicy) (now : Nat) (c : KeyCache κ) : Bool :=
  c.lastAttempt.any fun t => now - t < p.spacing

/-- The key that needs no refresh. -/
def current? (p : KeyPolicy) (now : Nat) (c : KeyCache κ) : Option κ :=
  if c.fetchedAt.isSome && (c.isFresh p now || p.pinned) then c.key else none

/-- What a refresh does first, and the cache after it. -/
def attempt (p : KeyPolicy) (force : Bool) (now : Nat) (c : KeyCache κ) : Attempt κ × KeyCache κ :=
  match c.key with
  | some k =>
    if (!force && c.isFresh p now) || c.triedRecently p now then (.answered (.ok k), c)
    else (.fetch, { c with lastAttempt := some now })
  | none =>
    if c.triedRecently p now then (.answered (.error "verification key fetch failed recently"), c)
    else (.fetch, { c with lastAttempt := some now })

/-- The answer of a refresh whose fetch has ended, and the cache after it. -/
def conclude (now : Nat) (result : Except String κ) (c : KeyCache κ) : Except String κ × KeyCache κ :=
  match result with
  | .ok k => (.ok k, { c with key := some k, fetchedAt := some now })
  | .error reason => (c.orElse reason, c)

/-- The reason a pinned key without a value would give. -/
def pinnedReason : String := "key is pinned"

end KeyCache

/-- Work that needs keys. -/
inductive KeyTask (κ α : Type) where
  | done (a : α)
  | current (next : Except String κ → KeyTask κ α)
  | refresh (force : Bool) (next : Except String κ → KeyTask κ α)

namespace KeyTask

variable {κ α σ : Type}

/-- A refresh from its first step to its answer, with a source of fetch results. -/
def refreshAlone (p : KeyPolicy) (now : Nat) (fetch : σ → Except String κ × σ) (force : Bool) (c : KeyCache κ) (s : σ) :
    Except String κ × KeyCache κ × σ :=
  if p.pinned then (c.orElse KeyCache.pinnedReason, c, s)
  else
    match c.attempt p force now with
    | (.answered r, c) => (r, c, s)
    | (.fetch, c) =>
      let (result, s) := fetch s
      let (r, c) := c.conclude now result
      (r, c, s)

/-- Runs a task alone, at one time. -/
def run (p : KeyPolicy) (now : Nat) (fetch : σ → Except String κ × σ) :
    KeyTask κ α → KeyCache κ → σ → α × KeyCache κ × σ
  | .done a, c, s => (a, c, s)
  | .current next, c, s =>
    match c.current? p now with
    | some k => run p now fetch (next (.ok k)) c s
    | none =>
      let (r, c, s) := refreshAlone p now fetch false c s
      run p now fetch (next r) c s
  | .refresh force next, c, s =>
    let (r, c, s) := refreshAlone p now fetch force c s
    run p now fetch (next r) c s

end KeyTask

/-- A task among others: it goes on, waits to refresh, or is fetching. -/
inductive KeyThread (κ α : Type) where
  | ready (t : KeyTask κ α)
  | waiting (force : Bool) (next : Except String κ → KeyTask κ α)
  | fetching (next : Except String κ → KeyTask κ α)

/-- Tasks that share a cache. -/
structure KeySystem (κ α : Type) where
  cache : KeyCache κ
  threads : List (KeyThread κ α)

/-- What happens next: a task takes a step, or the fetch of a task ends. -/
inductive KeyEvent (κ : Type) where
  | advance (thread now : Nat)
  | fetched (thread now : Nat) (result : Except String κ)

namespace KeySystem

variable {κ α : Type}

/-- Whether some task is fetching, and so keeps the others from it. -/
def isFetching (s : KeySystem κ α) : Bool :=
  s.threads.any fun
    | .fetching _ => true
    | _ => false

/-- A refresh that was asked for: a pinned key answers at once. -/
def ask (p : KeyPolicy) (c : KeyCache κ) (force : Bool) (next : Except String κ → KeyTask κ α) : KeyThread κ α :=
  if p.pinned then .ready (next (c.orElse KeyCache.pinnedReason)) else .waiting force next

/-- One event. An event that cannot happen changes nothing. -/
def step (p : KeyPolicy) (s : KeySystem κ α) : KeyEvent κ → KeySystem κ α
  | .advance i now =>
    match s.threads[i]? with
    | some (.ready (.current next)) =>
      match s.cache.current? p now with
      | some k => { s with threads := s.threads.set i (.ready (next (.ok k))) }
      | none => { s with threads := s.threads.set i (ask p s.cache false next) }
    | some (.ready (.refresh force next)) => { s with threads := s.threads.set i (ask p s.cache force next) }
    | some (.waiting force next) =>
      if s.isFetching then s
      else
        match s.cache.attempt p force now with
        | (.answered r, c) => ⟨c, s.threads.set i (.ready (next r))⟩
        | (.fetch, c) => ⟨c, s.threads.set i (.fetching next)⟩
    | _ => s
  | .fetched i now result =>
    match s.threads[i]? with
    | some (.fetching next) =>
      let (r, c) := s.cache.conclude now result
      ⟨c, s.threads.set i (.ready (next r))⟩
    | _ => s

/-- The system after some events. -/
def run (p : KeyPolicy) (s : KeySystem κ α) (events : List (KeyEvent κ)) : KeySystem κ α :=
  events.foldl (step p) s

end KeySystem

end AccessGateway
