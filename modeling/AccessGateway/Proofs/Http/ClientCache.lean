import AccessGateway.Http.ClientCache
import AccessGateway.Proofs.Lookup
import Mathlib

/-!
# One client for each host

Uses of the client cache that overlap look for a client at their own times, and each looks again before it makes one.
An event does one of five things (`ClientSystem.Steps`), of which one inserts a client, for a host that has none
(`ClientSystem.clients_step`).  So along a run the kept clients only grow, by what is inserted (`clients_run`).  At any
time each host has one client at most, which a call for that host has made and which all calls for it that have ended
well have returned (`ClientSystem.Consistent`); what this says of the calls is `ClientSystem.one_client_per_host`.
-/

namespace AccessGateway

namespace ClientSystem

/-- The uses that calls make of an empty cache, before any of them has looked. -/
def start (calls : List (String × Option SocketAddress)) : ClientSystem :=
  ⟨{}, calls.map fun call => .looking call.1 call.2⟩

/-- The use that an event is about. -/
def Event.use : Event → Nat
  | .look i | .make i _ => i

variable {s s' : ClientSystem} {e : Event} {calls : List (String × Option SocketAddress)} {events : List Event}

/-! ### What an event does -/

/-- The ways of an event. -/
inductive Steps (s : ClientSystem) : Event → ClientSystem → Prop where
  | idle (e : Event) : Steps s e s
  | finds {e : Event} {host : String} {pin : Option SocketAddress} {client : TargetClient}
      (hwaits : s.uses[e.use]? = some (.looking host pin) ∨ s.uses[e.use]? = some (.missed host pin))
      (hfind : s.cache.find? host = some client) :
      Steps s e { s with uses := s.uses.set e.use (.ended host (.ok client)) }
  | misses {i : Nat} {host : String} {pin : Option SocketAddress} (hlooks : s.uses[i]? = some (.looking host pin)) :
      Steps s (.look i) { s with uses := s.uses.set i (.missed host pin) }
  | fails {i : Nat} {host text : String} {pin : Option SocketAddress} (hmissed : s.uses[i]? = some (.missed host pin)) :
      Steps s (.make i (some text))
        { s with uses := s.uses.set i (.ended host (.error (.internal s!"upstream client for {host}: {text}"))) }
  | makes {i : Nat} {host : String} {pin : Option SocketAddress} (hmissed : s.uses[i]? = some (.missed host pin))
      (hfind : s.cache.find? host = none) :
      Steps s (.make i none)
        ⟨⟨(host, ⟨s.cache.made, host, pin⟩) :: s.cache.clients, s.cache.made + 1⟩,
          s.uses.set i (.ended host (.ok ⟨s.cache.made, host, pin⟩))⟩

theorem steps_step (s : ClientSystem) (e : Event) : s.Steps e (s.step e) := by
  cases e with
  | look i =>
    unfold step
    dsimp only
    split
    · rename_i host pin hlooks
      split
      · rename_i client hfind
        exact .finds (e := .look i) (.inl hlooks) hfind
      · exact .misses hlooks
    · exact .idle _
  | make i fault =>
    unfold step
    dsimp only
    split
    · rename_i host pin hmissed
      unfold ClientCache.get
      cases hfind : s.cache.find? host with
      | some client => exact .finds (e := .make i fault) (.inr hmissed) hfind
      | none =>
        cases fault with
        | some text => exact .fails hmissed
        | none => exact .makes hmissed hfind
    · exact .idle _

/-! ### What is inserted -/

/-- The clients that an event puts into the cache, with their hosts. -/
def inserts (s : ClientSystem) (e : Event) : List (String × TargetClient) :=
  (s.step e).cache.clients.filter fun entry => entry ∉ s.cache.clients

/-- The clients that are put into the cache along a run, in the order of time. -/
def inserted (s : ClientSystem) : List Event → List (String × TargetClient)
  | [] => []
  | e :: events => s.inserts e ++ (s.step e).inserted events

theorem run_cons : s.run (e :: events) = (s.step e).run events := rfl

theorem run_append (later : List Event) : s.run (events ++ later) = (s.run events).run later := List.foldl_append

theorem inserted_append (later : List Event) :
    s.inserted (events ++ later) = s.inserted events ++ (s.run events).inserted later := by
  induction events generalizing s with
  | nil => rfl
  | cons e events ih => rw [List.cons_append, inserted, inserted, ih, List.append_assoc, run_cons]

theorem mem_inserted_iff {entry : String × TargetClient} :
    entry ∈ s.inserted events ↔ ∃ before e after, events = before ++ e :: after ∧ entry ∈ (s.run before).inserts e := by
  constructor
  · intro h
    induction events generalizing s with
    | nil => cases h
    | cons e events ih =>
      obtain h | h := List.mem_append.1 h
      · exact ⟨[], e, events, rfl, h⟩
      · obtain ⟨before, e', after, rfl, hentry⟩ := ih h
        exact ⟨e :: before, e', after, rfl, hentry⟩
  · rintro ⟨before, e, after, rfl, hentry⟩
    rw [inserted_append]
    exact List.mem_append_right _ (List.mem_append_left _ hentry)

/-- An event leaves the cache as it is, or it makes a client for a call that waits, whose host has none. -/
theorem inserts_cases (s : ClientSystem) (e : Event) :
    (s.inserts e = [] ∧ (s.step e).cache = s.cache) ∨
    ∃ i host pin, e = .make i none ∧ s.uses[i]? = some (.missed host pin) ∧ s.cache.find? host = none ∧
      s.inserts e = [(host, ⟨s.cache.made, host, pin⟩)] ∧
      (s.step e).cache.clients = s.inserts e ++ s.cache.clients ∧
      (s.step e).uses[i]? = some (.ended host (.ok ⟨s.cache.made, host, pin⟩)) := by
  have hidle : (s.step e).cache = s.cache → s.inserts e = [] ∧ (s.step e).cache = s.cache := by
    refine fun h => ⟨?_, h⟩
    rw [inserts, h, List.filter_eq_nil_iff]
    intro entry hentry
    simpa using hentry
  have hsteps := s.steps_step e
  generalize hs' : s.step e = s' at hsteps hidle ⊢
  cases hsteps with
  | idle => exact .inl (hidle rfl)
  | finds => exact .inl (hidle rfl)
  | misses => exact .inl (hidle rfl)
  | fails => exact .inl (hidle rfl)
  | @makes i host pin hmissed hfind =>
    have hi : i < s.uses.length := (List.getElem?_eq_some_iff.1 hmissed).1
    have hnew : (host, (⟨s.cache.made, host, pin⟩ : TargetClient)) ∉ s.cache.clients := fun h =>
      lookup_eq_none_iff_not_mem.1 hfind (List.mem_map_of_mem h)
    have hkept : s.cache.clients.filter (fun entry => entry ∉ s.cache.clients) = [] :=
      List.filter_eq_nil_iff.2 fun entry hentry => by simpa using hentry
    have hinserts : s.inserts (.make i none) = [(host, ⟨s.cache.made, host, pin⟩)] := by
      rw [inserts, hs', List.filter_cons_of_pos (by simpa using hnew), hkept]
    refine .inr ⟨i, host, pin, rfl, hmissed, hfind, hinserts, ?_, List.getElem?_set_self hi⟩
    rw [hinserts, List.singleton_append]

theorem clients_step (s : ClientSystem) (e : Event) :
    (s.step e).cache.clients = (s.inserts e).reverse ++ s.cache.clients := by
  obtain ⟨hinserts, hcache⟩ | ⟨i, host, pin, -, -, -, hinserts, hclients, -⟩ := s.inserts_cases e
  · rw [hinserts, hcache, List.reverse_nil, List.nil_append]
  · rw [hclients, hinserts, List.reverse_singleton]

/-- The kept clients grow by those that are inserted and none is replaced or removed. -/
theorem clients_run (s : ClientSystem) (events : List Event) :
    (s.run events).cache.clients = (s.inserted events).reverse ++ s.cache.clients := by
  induction events generalizing s with
  | nil => rfl
  | cons e events ih => rw [run_cons, ih, clients_step, inserted, List.reverse_append, List.append_assoc]

/-! ### What the calls have come to -/

/-- A call for the host has returned the client. -/
def Returned (s : ClientSystem) (host : String) (client : TargetClient) : Prop :=
  ∃ i : Nat, s.uses[i]? = some (.ended host (.ok client))

theorem ended_step {i : Nat} {host : String} {result : Except Failure TargetClient}
    (h : s.uses[i]? = some (.ended host result)) (e : Event) : (s.step e).uses[i]? = some (.ended host result) := by
  have hother : ∀ {j : Nat} {use : ClientUse} (use' : ClientUse), s.uses[j]? = some use →
      use ≠ .ended host result → (s.uses.set j use')[i]? = some (.ended host result) := by
    intro j use use' hj hne
    rw [List.getElem?_set_ne, h]
    rintro rfl
    exact hne (Option.some.inj (hj.symm.trans h))
  have hsteps := s.steps_step e
  generalize s.step e = s' at hsteps ⊢
  cases hsteps with
  | idle => exact h
  | finds hwaits =>
    obtain hlooks | hmissed := hwaits
    · exact hother _ hlooks nofun
    · exact hother _ hmissed nofun
  | misses hlooks => exact hother _ hlooks nofun
  | fails hmissed => exact hother _ hmissed nofun
  | makes hmissed => exact hother _ hmissed nofun

theorem ended_run {i : Nat} {host : String} {result : Except Failure TargetClient}
    (h : s.uses[i]? = some (.ended host result)) (events : List Event) :
    (s.run events).uses[i]? = some (.ended host result) := by
  induction events generalizing s with
  | nil => exact h
  | cons e events ih => exact ih (ended_step h e)

/-- What a use has come to for its call: it is still about the call's host and address, or it has ended, and then well
with the client that is kept for the host. -/
def Fits (c : ClientCache) (call : String × Option SocketAddress) : ClientUse → Prop
  | .looking host pin | .missed host pin => (host, pin) = call
  | .ended host result => host = call.1 ∧ ∀ client, result = .ok client → c.find? host = some client

structure Consistent (calls : List (String × Option SocketAddress)) (s : ClientSystem) : Prop where
  nodup : (s.cache.clients.map Prod.fst).Nodup
  returned : ∀ host client, (host, client) ∈ s.cache.clients → s.Returned host client
  uses : ∀ (i : Nat) use, s.uses[i]? = some use → ∃ call, calls[i]? = some call ∧ Fits s.cache call use

theorem consistent_start (calls : List (String × Option SocketAddress)) : Consistent calls (start calls) where
  nodup := List.nodup_nil
  returned := nofun
  uses := by
    intro i use h
    rw [start, List.getElem?_map, Option.map_eq_some_iff] at h
    obtain ⟨call, hcall, rfl⟩ := h
    exact ⟨call, hcall, rfl⟩

private theorem fits_set {c c' : ClientCache} {uses : List ClientUse} {i : Nat} {use' : ClientUse}
    (h : ∀ (j : Nat) use, uses[j]? = some use → ∃ call, calls[j]? = some call ∧ Fits c call use)
    (hmono : ∀ host client, c.find? host = some client → c'.find? host = some client)
    (hi : ∃ call, calls[i]? = some call ∧ Fits c' call use') (j : Nat) (use : ClientUse)
    (hj : (uses.set i use')[j]? = some use) : ∃ call, calls[j]? = some call ∧ Fits c' call use := by
  by_cases heq : i = j
  · subst heq
    rw [List.getElem?_set, if_pos rfl, Option.ite_none_right_eq_some] at hj
    obtain rfl := Option.some.inj hj.2
    exact hi
  · rw [List.getElem?_set_ne heq] at hj
    obtain ⟨call, hcall, hfits⟩ := h j use hj
    refine ⟨call, hcall, ?_⟩
    cases use with
    | looking | missed => exact hfits
    | ended host result => exact ⟨hfits.1, fun client hclient => hmono host client (hfits.2 client hclient)⟩

theorem Consistent.step (h : s.Consistent calls) (e : Event) : (s.step e).Consistent calls := by
  have hnodup : ((s.step e).cache.clients.map Prod.fst).Nodup := by
    obtain ⟨-, hcache⟩ | ⟨i, host, pin, -, -, hfind, hinserts, hclients, -⟩ := s.inserts_cases e
    · rw [hcache]
      exact h.nodup
    · rw [hclients, hinserts]
      exact List.nodup_cons.2 ⟨lookup_eq_none_iff_not_mem.1 hfind, h.nodup⟩
  have hreturned : ∀ host client, (host, client) ∈ (s.step e).cache.clients → (s.step e).Returned host client := by
    intro host client hmem
    obtain ⟨-, hcache⟩ | ⟨i, host', pin, -, -, -, hinserts, hclients, hended⟩ := s.inserts_cases e
    · rw [hcache] at hmem
      obtain ⟨i, hi⟩ := h.returned host client hmem
      exact ⟨i, ended_step hi e⟩
    · rw [hclients, hinserts, List.singleton_append, List.mem_cons] at hmem
      obtain heq | hmem := hmem
      · obtain ⟨rfl, rfl⟩ := Prod.mk.inj heq
        exact ⟨i, hended⟩
      · obtain ⟨i, hi⟩ := h.returned host client hmem
        exact ⟨i, ended_step hi e⟩
  refine ⟨hnodup, hreturned, ?_⟩
  have hsteps := s.steps_step e
  generalize s.step e = s' at hsteps ⊢
  cases hsteps with
  | idle => exact h.uses
  | @finds _ host pin client hwaits hfind =>
    refine fits_set h.uses (fun _ _ => id) ?_
    have hended : ∀ client', Except.ok (ε := Failure) client = .ok client' → s.cache.find? host = some client' :=
      fun client' heq => Except.ok.inj heq ▸ hfind
    obtain hlooks | hmissed := hwaits
    · obtain ⟨call, hcall, rfl⟩ := h.uses _ _ hlooks
      exact ⟨_, hcall, rfl, hended⟩
    · obtain ⟨call, hcall, rfl⟩ := h.uses _ _ hmissed
      exact ⟨_, hcall, rfl, hended⟩
  | misses hlooks =>
    obtain ⟨call, hcall, hfits⟩ := h.uses _ _ hlooks
    exact fits_set h.uses (fun _ _ => id) ⟨call, hcall, hfits⟩
  | fails hmissed =>
    obtain ⟨call, hcall, rfl⟩ := h.uses _ _ hmissed
    exact fits_set h.uses (fun _ _ => id) ⟨_, hcall, rfl, nofun⟩
  | @makes i host pin hmissed hfind =>
    obtain ⟨call, hcall, rfl⟩ := h.uses _ _ hmissed
    refine fits_set h.uses (fun host' client' hfind' => ?_) ⟨_, hcall, rfl, fun client heq => ?_⟩
    · have hne : (host' == host) = false := by
        refine beq_false_of_ne ?_
        rintro rfl
        cases hfind.symm.trans hfind'
      rw [ClientCache.find?, List.lookup_cons, hne]
      exact hfind'
    · obtain rfl := Except.ok.inj heq
      exact List.lookup_cons_self

theorem Consistent.run (h : s.Consistent calls) (events : List Event) : (s.run events).Consistent calls := by
  induction events generalizing s with
  | nil => exact h
  | cons e events ih => exact ih (h.step e)

/-! ### The calls and their clients -/

/-- The hosts for which a call has returned a client. -/
def returnedHosts (s : ClientSystem) : Finset String :=
  (s.uses.filterMap fun
    | .ended host (.ok _) => some host
    | _ => none).toFinset

theorem mem_returnedHosts {host : String} : host ∈ s.returnedHosts ↔ ∃ client, s.Returned host client := by
  simp only [returnedHosts, List.mem_toFinset, List.mem_filterMap, Returned, ← List.mem_iff_getElem?]
  constructor
  · rintro ⟨use, hmem, huse⟩
    split at huse
    · rename_i host' client
      obtain rfl := Option.some.inj huse
      exact ⟨client, hmem⟩
    · cases huse
  · rintro ⟨client, hmem⟩
    exact ⟨_, hmem, rfl⟩

namespace Consistent

theorem find?_of_ended (h : s.Consistent calls) {i : Nat} {host : String} {client : TargetClient}
    (hi : s.uses[i]? = some (.ended host (.ok client))) :
    (∃ pin, calls[i]? = some (host, pin)) ∧ s.cache.find? host = some client := by
  obtain ⟨⟨host', pin⟩, hcall, rfl, hfind⟩ := h.uses i _ hi
  exact ⟨⟨pin, hcall⟩, hfind client rfl⟩

theorem size_eq (h : s.Consistent calls) : s.cache.size = s.returnedHosts.card := by
  have hhosts : s.returnedHosts = (s.cache.clients.map Prod.fst).toFinset := by
    ext host
    rw [mem_returnedHosts, List.mem_toFinset, List.mem_map]
    constructor
    · rintro ⟨client, i, hi⟩
      exact ⟨(host, client), mem_of_lookup (h.find?_of_ended hi).2, rfl⟩
    · rintro ⟨⟨host, client⟩, hmem, rfl⟩
      exact ⟨client, h.returned host client hmem⟩
  rw [hhosts, List.toFinset_card_of_nodup h.nodup, List.length_map, ClientCache.size]

/-- What is inserted is made by a call for its host and pinned to the address of that call, which returns it. -/
theorem of_inserts (h : s.Consistent calls) {host : String} {client : TargetClient}
    (hmem : (host, client) ∈ s.inserts e) :
    ∃ i, e = .make i none ∧ calls[i]? = some (host, client.pin) ∧ s.inserts e = [(host, client)] ∧
      (s.step e).uses[i]? = some (.ended host (.ok client)) := by
  obtain ⟨hinserts, -⟩ | ⟨i, host', pin, rfl, hmissed, -, hinserts, -, hended⟩ := s.inserts_cases e
  · rw [hinserts] at hmem
    cases hmem
  · rw [hinserts, List.mem_singleton] at hmem
    obtain ⟨rfl, rfl⟩ := Prod.mk.inj hmem
    obtain ⟨call, hcall, rfl⟩ := h.uses i _ hmissed
    exact ⟨i, rfl, hcall, hinserts, hended⟩

end Consistent

/-- However calls overlap, one client at most is inserted for a host, by a call for it and pinned to that call's
address, and it is never replaced or removed.  Every call that returns a client returns the one of its host, a failure
to make a client inserts nothing and neither does a call that fails, and there are as many clients as there are hosts
for which a call has returned one. -/
theorem one_client_per_host (calls : List (String × Option SocketAddress)) (events : List Event) :
    (((start calls).inserted events).map Prod.fst).Nodup ∧
    ((start calls).run events).cache.clients = ((start calls).inserted events).reverse ∧
    (∀ later, ((start calls).run events).cache.clients <:+ ((start calls).run (events ++ later)).cache.clients) ∧
    (∀ (i : Nat) host client, ((start calls).run events).uses[i]? = some (.ended host (.ok client)) →
      (∃ pin, calls[i]? = some (host, pin)) ∧ (host, client) ∈ (start calls).inserted events ∧
        ∀ later, ((start calls).run (events ++ later)).cache.find? host = some client) ∧
    (∀ host client, (host, client) ∈ (start calls).inserted events → ∃ before i after,
      events = before ++ .make i none :: after ∧ calls[i]? = some (host, client.pin) ∧
        ((start calls).run before).inserts (.make i none) = [(host, client)] ∧
        ((start calls).run events).uses[i]? = some (.ended host (.ok client))) ∧
    (∀ i text, (((start calls).run events).step (.make i (some text))).cache = ((start calls).run events).cache) ∧
    (∀ before e after host failure, events = before ++ e :: after →
      ((start calls).run events).uses[e.use]? = some (.ended host (.error failure)) →
        ((start calls).run before).inserts e = []) ∧
    ((start calls).run events).cache.size = ((start calls).run events).returnedHosts.card := by
  have hconsistent : ∀ events, ((start calls).run events).Consistent calls := (consistent_start calls).run
  have hclients : ((start calls).run events).cache.clients = ((start calls).inserted events).reverse := by
    rw [clients_run, start, List.append_nil]
  have hmade : ∀ before e after, events = before ++ e :: after → ∀ host client,
      (host, client) ∈ ((start calls).run before).inserts e → ∃ i, e = .make i none ∧
        calls[i]? = some (host, client.pin) ∧ ((start calls).run before).inserts e = [(host, client)] ∧
        ((start calls).run events).uses[i]? = some (.ended host (.ok client)) := by
    rintro before e after rfl host client hmem
    obtain ⟨i, he, hcall, hinserts, hended⟩ := (hconsistent before).of_inserts hmem
    refine ⟨i, he, hcall, hinserts, ?_⟩
    rw [run_append, run_cons]
    exact ended_run hended after
  refine ⟨?_, hclients, fun later => ?_, fun i host client hi => ?_, fun host client hmem => ?_, fun i text => ?_,
    fun before e after host failure hevents hended => ?_, (hconsistent events).size_eq⟩
  · have hnodup := (hconsistent events).nodup
    rw [hclients, List.map_reverse, List.nodup_reverse] at hnodup
    exact hnodup
  · rw [run_append, clients_run _ later]
    exact List.suffix_append ..
  · obtain ⟨hcall, hfind⟩ := (hconsistent events).find?_of_ended hi
    refine ⟨hcall, ?_, fun later => ?_⟩
    · rw [← List.mem_reverse, ← hclients]
      exact mem_of_lookup hfind
    · have hlater : ((start calls).run (events ++ later)).uses[i]? = some (.ended host (.ok client)) := by
        rw [run_append]
        exact ended_run hi later
      exact ((hconsistent _).find?_of_ended hlater).2
  · obtain ⟨before, e, after, hevents, hmem⟩ := mem_inserted_iff.1 hmem
    obtain ⟨i, rfl, hmade⟩ := hmade before e after hevents host client hmem
    exact ⟨before, i, after, hevents, hmade⟩
  · obtain ⟨-, hcache⟩ | ⟨_, _, _, heq, -⟩ := ((start calls).run events).inserts_cases (.make i (some text))
    · exact hcache
    · cases heq
  · rw [List.eq_nil_iff_forall_not_mem]
    rintro ⟨host', client⟩ hmem
    obtain ⟨i, rfl, -, -, hok⟩ := hmade before e after hevents host' client hmem
    cases hended.symm.trans hok

/-- Of two calls that both miss, the one that makes a client first puts it into the cache, pinned to its own address,
and both get this client, which stays the only one of its host. -/
theorem one_client_per_host_overlapping :
    let host := "db.branch:80"
    let client : TargetClient := ⟨0, host, some ⟨.v4 0x0A080007, 80, 0⟩⟩
    let s := start [(host, none), (host, client.pin)]
    let events : List Event := [.look 0, .look 1, .make 1 none, .make 0 none]
    (s.run events).uses = [.ended host (.ok client), .ended host (.ok client)] ∧
      s.inserted events = [(host, client)] ∧ (s.run events).cache.size = 1 ∧
      ∀ later, (s.run (events ++ later)).cache.find? host = some client := by
  intro host client s events
  have huses : (s.run events).uses = [.ended host (.ok client), .ended host (.ok client)] := rfl
  have hcache : (s.run events).cache.clients = [(host, client)] := rfl
  obtain ⟨-, hclients, -, hreturned, -, -, -, hsize⟩ :=
    one_client_per_host [(host, none), (host, client.pin)] events
  obtain ⟨-, -, hstays⟩ := hreturned 0 host client (by rw [huses]; rfl)
  refine ⟨huses, ?_, hsize.trans rfl, hstays⟩
  rw [← List.reverse_reverse (s.inserted events), ← hclients, hcache]
  rfl

end ClientSystem

end AccessGateway
