import AccessGateway.Proofs.Http.Canonical
import AccessGateway.Proofs.Relay.Address
import AccessGateway.Proofs.Relay.NonInterference
import AccessGateway.Proofs.Token.Acceptance

/-!
# Targets behind peers

Streams and datagrams are sent to the peer of their target as it is entered.  Requests go through a client that is
pinned, and only a peer that is a numeric address with a port can be pinned to; from any other peer the client learns
nothing, and the request goes to the target itself (`peer_lost`).

What a client is pinned to is decided when it is made, so the law of requests is one of the client cache: every client
that is kept, made at whatever time, is pinned as the table says for its target (`ClientCache.all_get`).  A gateway at
work keeps this law together with the rules of mediation for what its units have left to do (`Routed.step`).
-/

namespace AccessGateway

open Dialogue TrafficUnit

/-! ### Pins -/

namespace RouteTable

variable {routes : RouteTable} {target peer : String}

/-- The target has a peer that no client can be pinned to. -/
def Loses (routes : RouteTable) (target : String) : Prop :=
  ∃ peer, routes.route target = some peer ∧ SocketAddress.read? peer = none

theorem pin_eq_none_iff : Forwarding.pin routes target = none ↔ routes.route target = none ∨ routes.Loses target := by
  unfold Forwarding.pin Loses
  cases routes.route target <;> simp

end RouteTable

/-- A client for a target, pinned as the table says. -/
structure TargetClient.PinnedBy (routes : RouteTable) (target : String) (client : TargetClient) : Prop where
  host_eq : client.host = target
  pin_eq : client.pin = Forwarding.pin routes target

namespace ClientCache

variable {c : ClientCache} {P : String → TargetClient → Prop}

/-- Every client that is kept has the property for its target. -/
def All (P : String → TargetClient → Prop) (c : ClientCache) : Prop :=
  ∀ target client, c.find? target = some client → P target client

theorem all_empty : All P {} := by
  intro target client h
  cases h

/-- A property of the clients that are kept and of the one that may be made is one of the client that is got. -/
theorem all_get {target : String} {pin : Option SocketAddress} (h : c.All P) (hmade : ∀ n, P target ⟨n, target, pin⟩)
    (fault : Option String) :
    (∀ client, (c.get target pin fault).1 = .ok client → P target client) ∧ (c.get target pin fault).2.All P := by
  unfold get
  cases hfind : c.find? target with
  | some kept =>
    refine ⟨fun client hclient => ?_, h⟩
    obtain rfl := Except.ok.inj hclient
    exact h target kept hfind
  | none =>
    cases fault with
    | some text => exact ⟨nofun, h⟩
    | none =>
      refine ⟨fun client hclient => ?_, fun other client hother => ?_⟩
      · obtain rfl := Except.ok.inj hclient
        exact hmade c.made
      · rw [find?, List.lookup_cons] at hother
        split at hother
        · rename_i heq
          obtain rfl := Option.some.inj hother
          rw [beq_iff_eq] at heq
          exact heq ▸ hmade c.made
        · exact h other client hother

theorem pinnedBy_get {routes : RouteTable} (h : c.All (TargetClient.PinnedBy routes)) (target : String)
    (fault : Option String) :
    (∀ client, (c.get target (Forwarding.pin routes target) fault).1 = .ok client → client.PinnedBy routes target) ∧
      (c.get target (Forwarding.pin routes target) fault).2.All (TargetClient.PinnedBy routes) :=
  all_get h (fun _ => ⟨rfl, rfl⟩) fault

end ClientCache

namespace ClientSystem

variable {routes : RouteTable} {s : ClientSystem}

/-- A use asks for what the table says, and what it got is pinned so. -/
def Obtains (routes : RouteTable) : ClientUse → Prop
  | .looking target pin | .missed target pin => pin = Forwarding.pin routes target
  | .ended target result => ∀ client, result = .ok client → client.PinnedBy routes target

structure Pinned (routes : RouteTable) (s : ClientSystem) : Prop where
  kept : s.cache.All (TargetClient.PinnedBy routes)
  uses : ∀ use ∈ s.uses, Obtains routes use

private theorem Pinned.set (h : s.Pinned routes) {use : ClientUse} (huse : Obtains routes use) (i : Nat) :
    ∀ use' ∈ s.uses.set i use, Obtains routes use' := by
  intro use' hmem
  rcases List.mem_or_eq_of_mem_set hmem with hold | rfl
  · exact h.uses use' hold
  · exact huse

theorem Pinned.step (h : s.Pinned routes) (event : Event) : (s.step event).Pinned routes := by
  cases event with
  | look i =>
    unfold ClientSystem.step
    dsimp only
    split
    · rename_i target pin hi
      have hpin : pin = Forwarding.pin routes target := h.uses _ (List.mem_of_getElem? hi)
      split
      · rename_i client hfind
        have hobtains : Obtains routes (.ended target (.ok client)) := by
          intro client' hclient'
          obtain rfl := Except.ok.inj hclient'
          exact h.kept target client hfind
        exact ⟨h.kept, h.set hobtains i⟩
      · have hobtains : Obtains routes (.missed target pin) := hpin
        exact ⟨h.kept, h.set hobtains i⟩
    · exact h
  | make i fault =>
    unfold ClientSystem.step
    dsimp only
    split
    · rename_i target pin hi
      obtain rfl : pin = Forwarding.pin routes target := h.uses _ (List.mem_of_getElem? hi)
      have hget := ClientCache.pinnedBy_get h.kept target fault
      have hobtains : Obtains routes (.ended target _) := hget.1
      exact ⟨hget.2, h.set hobtains i⟩
    · exact h

/-- Uses that overlap, each looking twice, all get clients that are pinned as the table says. -/
theorem Pinned.run (h : s.Pinned routes) (events : List Event) : (s.run events).Pinned routes := by
  induction events generalizing s with
  | nil => exact h
  | cons event events ih => exact ih (h.step event)

end ClientSystem

/-! ### What is asked and answered -/

/-- What an exchange of a unit has to do with the table: a client is pinned as the table says for its target, a request
goes out with the client of the target that the unit names, and a stream or a datagram to the address that the table
has for it. -/
def Follows (site : Site) (u : TrafficUnit) : RelayExchange → Prop
  | ⟨.client target _, answer⟩ => ∀ client, answer = .ok client → client.PinnedBy site.routes target
  | ⟨.request client q, _⟩ => ∃ r target, u = .request r ∧ targetHost r.headers = .ok target ∧
      q.address = Forwarding.address site.server.targetScheme target r.target ∧ client.PinnedBy site.routes target
  | ⟨.connect address, _⟩ | ⟨.lookup address, _⟩ =>
      ∃ target, u.target? = some target ∧ address = RelayTask.dialAddress site.routes target
  | _ => True

variable {site : Site} {u : TrafficUnit} {σ : Type}

theorem Engine.clients_answer (net : Network σ) (e : Engine) (w : σ) {c : RelayCall}
    (hc : ∀ target pin, c ≠ .client target pin) : (answer net c (e, w)).2.1.clients = e.clients := by
  cases c with
  | client target pin => exact absurd rfl (hc target pin)
  | request client q =>
    unfold answer
    dsimp only
    cases requestAddress q.address <;> rfl
  | _ => rfl

theorem Engine.answer_client (net : Network σ) (e : Engine) (w : σ) (target : String) (pin : Option SocketAddress) :
    (answer net (.client target pin) (e, w)).1 = (e.clients.get target pin (net.clientFault target w).1).1 ∧
      (answer net (.client target pin) (e, w)).2.1.clients =
        (e.clients.get target pin (net.clientFault target w).1).2 :=
  ⟨rfl, rfl⟩

/-- A call that mediation permits is answered as the table says, if the clients that are kept and those that the unit
was given are pinned so. -/
theorem follows_answer {past : List RelayExchange} {c : RelayCall} (h : Permitted site u past c) (net : Network σ)
    {e : Engine} (w : σ) (hkept : e.clients.All (TargetClient.PinnedBy site.routes))
    (hpast : ∀ x ∈ past, Follows site u x) :
    Follows site u ⟨c, (Engine.answer net c (e, w)).1⟩ ∧
      (Engine.answer net c (e, w)).2.1.clients.All (TargetClient.PinnedBy site.routes) := by
  have hother (hc : ∀ target pin, c ≠ .client target pin) :
      (Engine.answer net c (e, w)).2.1.clients.All (TargetClient.PinnedBy site.routes) := by
    rw [Engine.clients_answer net e w hc]
    exact hkept
  cases c with
  | client target pin =>
    obtain ⟨target', -, htoward⟩ := h.admitted id
    cases htoward
    obtain ⟨hanswer, hclients⟩ := Engine.answer_client net e w target (Forwarding.pin site.routes target)
    have hget := ClientCache.pinnedBy_get hkept target (net.clientFault target w).1
    rw [hclients]
    refine ⟨fun client hclient => hget.1 client ?_, hget.2⟩
    rw [← hanswer]
    exact hclient
  | request client q =>
    refine ⟨?_, hother nofun⟩
    obtain ⟨target, hadmitted, htoward⟩ := h.admitted id
    cases htoward with
    | request hu hclient haddress =>
      obtain rfl := hu
      refine ⟨_, target, rfl, ?_, haddress, hpast _ hclient client rfl⟩
      exact target?_request_iff.1 hadmitted.target_eq
  | connect address =>
    refine ⟨?_, hother nofun⟩
    obtain ⟨target, hadmitted, htoward⟩ := h.admitted id
    cases htoward
    exact ⟨target, hadmitted.target_eq, rfl⟩
  | lookup address =>
    refine ⟨?_, hother nofun⟩
    obtain ⟨target, hadmitted, htoward⟩ := h.admitted id
    cases htoward
    exact ⟨target, hadmitted.target_eq, rfl⟩
  | _ => exact ⟨trivial, hother nofun⟩

/-! ### The gateway at work -/

namespace Gateway

variable {g : Gateway σ} {net : Network σ} {display : Engine → σ → GatewayStatus}

/-- What the unit at a place has exchanged. -/
def exchangesOf (g : Gateway σ) (i : Nat) : List RelayExchange := (g.exchanged.filter (·.1 == i)).map Prod.snd

/-- The requests that have gone out, by the places of their units. -/
def requested (g : Gateway σ) : List (Nat × TargetClient × TargetRequest) :=
  g.exchanged.filterMap fun x =>
    match x.2.call with
    | .request client q => some (x.1, client, q)
    | _ => none

/-- The addresses to which streams and datagrams were to go, by the places of their units. -/
def dialed (g : Gateway σ) : List (Nat × String) :=
  g.exchanged.filterMap fun x =>
    match x.2.call with
    | .connect address | .lookup address => some (x.1, address)
    | _ => none

/-- The gateway goes by its table: every client that is kept is pinned as the table says, what a unit has left to do is
what mediation permits it, and every exchange is one of a unit that has arrived and follows the table. -/
structure Routed (site : Site) (g : Gateway σ) : Prop where
  clients : g.engine.clients.All (TargetClient.PinnedBy site.routes)
  obeys : ∀ i x, g.units[i]? = some x → Obeys (Permitted site x.unit) (g.exchangesOf i) x.rest
  follows : ∀ i e, (i, e) ∈ g.exchanged → ∃ x, g.units[i]? = some x ∧ Follows site x.unit e

theorem mem_exchangesOf {i : Nat} {e : RelayExchange} : e ∈ g.exchangesOf i ↔ (i, e) ∈ g.exchanged := by
  simp [exchangesOf]

theorem exchangesOf_concat (i j : Nat) (e : RelayExchange) (engine : Engine) (world : σ) (units : List UnderWay) :
    exchangesOf ⟨engine, world, units, g.exchanged ++ [(i, e)]⟩ j =
      if i = j then g.exchangesOf j ++ [e] else g.exchangesOf j := by
  unfold exchangesOf
  rw [List.filter_append, List.map_append]
  by_cases h : i = j
  · rw [if_pos h, List.filter_cons_of_pos (by simp [h])]
    rfl
  · rw [if_neg h, List.filter_cons_of_neg (by simp [h])]
    simp

/-- A unit that has not arrived has exchanged nothing. -/
theorem Routed.exchangesOf_eq_nil (h : g.Routed site) {i : Nat} (hi : g.units.length ≤ i) : g.exchangesOf i = [] := by
  refine List.eq_nil_iff_forall_not_mem.2 fun e he => ?_
  obtain ⟨x, hx, -⟩ := h.follows i e (mem_exchangesOf.1 he)
  rw [List.getElem?_eq_none hi] at hx
  cases hx

theorem Routed.arrive (h : g.Routed site) (u : TrafficUnit) (freshId : String) :
    (g.step site net display (.arrive u freshId)).Routed site := by
  refine ⟨h.clients, fun i x hx => ?_, fun i e he => ?_⟩
  · change (g.units ++ [_])[i]? = some x at hx
    change Obeys _ (g.exchangesOf i) _
    rcases Nat.lt_or_ge i g.units.length with hi | hi
    · rw [List.getElem?_append_left hi] at hx
      exact h.obeys i x hx
    · rw [List.getElem?_append_right hi] at hx
      obtain rfl := List.mem_singleton.1 (List.mem_of_getElem? hx)
      rw [h.exchangesOf_eq_nil hi]
      exact obeys_task site _ freshId u
  · obtain ⟨x, hx, hfollows⟩ := h.follows i e he
    obtain ⟨hi, -⟩ := List.getElem?_eq_some_iff.1 hx
    exact ⟨x, by rw [← hx]; exact List.getElem?_append_left hi, hfollows⟩

theorem Routed.advance (h : g.Routed site) (i : Nat) : (g.step site net display (.advance i)).Routed site := by
  cases hi : g.units[i]? with
  | none =>
    rw [step, hi]
    exact h
  | some x =>
    obtain ⟨u, w | ⟨c, next⟩⟩ := x
    · rw [step, hi]
      exact h
    · obtain ⟨hpermitted, hnext⟩ := h.obeys i _ hi
      have hpast : ∀ e ∈ g.exchangesOf i, Follows site u e := by
        intro e he
        obtain ⟨x, hx, hfollows⟩ := h.follows i e (mem_exchangesOf.1 he)
        obtain rfl := Option.some.inj (hi.symm.trans hx)
        exact hfollows
      obtain ⟨hanswer, hkept⟩ := follows_answer hpermitted net g.world h.clients hpast
      obtain ⟨hlt, -⟩ := List.getElem?_eq_some_iff.1 hi
      rw [step, hi]
      dsimp only
      refine ⟨hkept, fun j x hx => ?_, fun j e he => ?_⟩
      · rw [exchangesOf_concat]
        dsimp only at hx
        by_cases hij : i = j
        · obtain rfl := hij
          rw [List.getElem?_set_self hlt] at hx
          obtain rfl := Option.some.inj hx
          rw [if_pos rfl]
          exact hnext _
        · rw [List.getElem?_set_ne hij] at hx
          rw [if_neg hij]
          exact h.obeys j x hx
      · -- the unit of an exchange stays the same, whatever it has left to do
        have hunit (x : UnderWay) (hx : g.units[j]? = some x) (rest : RelayTask (Option WebResponse)) :
            ∃ x', (g.units.set i ⟨u, rest⟩)[j]? = some x' ∧ x'.unit = x.unit := by
          by_cases hij : i = j
          · obtain rfl := hij
            obtain rfl := Option.some.inj (hi.symm.trans hx)
            exact ⟨_, List.getElem?_set_self hlt, rfl⟩
          · exact ⟨x, by rw [List.getElem?_set_ne hij, hx], rfl⟩
        rcases List.mem_append.1 he with he | he
        · obtain ⟨x, hx, hfollows⟩ := h.follows j e he
          obtain ⟨x', hx', hsame⟩ := hunit x hx (next (Engine.answer net c (g.engine, g.world)).1)
          exact ⟨x', hx', hsame ▸ hfollows⟩
        · obtain ⟨rfl, rfl⟩ := Prod.mk.inj (List.mem_singleton.1 he)
          exact ⟨_, List.getElem?_set_self hlt, hanswer⟩

theorem Routed.step (h : g.Routed site) (event : Event) : (g.step site net display event).Routed site := by
  cases event with
  | arrive u freshId => exact h.arrive u freshId
  | advance i => exact h.advance i
  | stir f => exact ⟨h.clients, h.obeys, h.follows⟩

theorem Routed.run (h : g.Routed site) (events : List Event) : (g.run site net display events).Routed site := by
  induction events generalizing g with
  | nil => exact h
  | cons event events ih => exact ih (h.step event)

/-- A gateway that has just been started, with no client made and no unit arrived. -/
def opened (e : Engine) (w : σ) : Gateway σ := ⟨{ e with clients := {} }, w, [], []⟩

theorem routed_opened (site : Site) (e : Engine) (w : σ) : (opened e w).Routed site where
  clients := ClientCache.all_empty
  obeys _ _ h := by cases h
  follows _ _ h := by cases h

/-- Who is sent what.  Whatever units a gateway has served and in whatever order their work went on, every request
was sent for the target that its unit names and with a client that is pinned to the peer of that target, if it has one
that is a numeric address with a port; the client is not pinned exactly if the target has no peer, or one that is no such
address.  Streams and datagrams were to go to the peer of their target as it is entered, and to the target itself exactly
if it has none. -/
theorem routed_of_run (site : Site) (net : Network σ) (display : Engine → σ → GatewayStatus) (e : Engine) (w : σ)
    (events : List Event) :
    let g := (opened e w).run site net display events
    (∀ i client q, (i, client, q) ∈ g.requested → ∃ r target,
      g.units[i]?.map UnderWay.unit = some (.request r) ∧ targetHost r.headers = .ok target ∧
        q.address = Forwarding.address site.server.targetScheme target r.target ∧ client.host = target ∧
        (∀ peer, site.routes.route target = some peer → client.pin = SocketAddress.read? peer) ∧
        (client.pin = none ↔ site.routes.route target = none ∨ site.routes.Loses target)) ∧
      ∀ i address, (i, address) ∈ g.dialed → ∃ u target,
        g.units[i]?.map UnderWay.unit = some u ∧ u.target? = some target ∧
          (∀ peer, site.routes.route target = some peer → address = peer) ∧
          (site.routes.route target = none → address = target) := by
  intro g
  have hrouted : g.Routed site := (routed_opened site e w).run events
  refine ⟨fun i client q h => ?_, fun i address h => ?_⟩
  · obtain ⟨⟨i', c, answer⟩, hx, hrequest⟩ := List.mem_filterMap.1 h
    cases c with
    | request client' q' =>
      obtain ⟨rfl, hsent⟩ := Prod.mk.inj (Option.some.inj hrequest)
      obtain ⟨rfl, rfl⟩ := Prod.mk.inj hsent
      obtain ⟨x, hunit, hfollows⟩ := hrouted.follows i' _ hx
      obtain ⟨r, target, hu, htarget, haddress, hpinned⟩ := hfollows
      refine ⟨r, target, by rw [hunit, Option.map_some, hu], htarget, haddress, hpinned.host_eq, ?_, ?_⟩
      · intro peer hpeer
        rw [hpinned.pin_eq, Forwarding.pin, hpeer, Option.bind_some]
      · rw [hpinned.pin_eq]
        exact RouteTable.pin_eq_none_iff
    | _ => cases hrequest
  · obtain ⟨⟨i', c, answer⟩, hx, hdial⟩ := List.mem_filterMap.1 h
    obtain ⟨x, hunit, hfollows⟩ := hrouted.follows i' _ hx
    have hdialed : i' = i ∧ ∃ target, x.unit.target? = some target ∧
        address = RelayTask.dialAddress site.routes target := by
      cases c with
      | connect | lookup =>
        obtain ⟨rfl, rfl⟩ := Prod.mk.inj (Option.some.inj hdial)
        exact ⟨rfl, hfollows⟩
      | _ => cases hdial
    obtain ⟨rfl, target, htarget, rfl⟩ := hdialed
    refine ⟨x.unit, target, by rw [hunit, Option.map_some], htarget, fun peer hpeer => ?_, fun hdirect => ?_⟩
    · rw [RelayTask.dialAddress, hpeer, Option.getD_some]
    · rw [RelayTask.dialAddress, hdirect, Option.getD_none]

/-! ### A unit on its own -/

/-- The answers of a list of exchanges are those that the engine gives, one after the other. -/
def Answered (net : Network σ) : Engine × σ → List RelayExchange → Prop
  | _, [] => True
  | s, e :: es => e.answer = (Engine.answer net e.call s).1 ∧ Answered net (Engine.answer net e.call s).2 es

/-- A unit that goes on alone takes part in the exchanges that the engine answers. -/
theorem exchanged_of_runs {i : Nat} {d : RelayTask (Option WebResponse)} {es : List RelayExchange}
    {result : Option WebResponse} (hd : Runs d es result) (hi : g.units[i]? = some ⟨u, d⟩)
    (hanswered : Answered net (g.engine, g.world) es) :
    (g.run site net display (List.replicate es.length (.advance i))).exchanged = g.exchanged ++ es.map (i, ·) := by
  induction hd generalizing g with
  | done => exact (List.append_nil _).symm
  | @ask c next answer es result _ ih =>
    obtain ⟨hanswer, hrest⟩ := hanswered
    change answer = (Engine.answer net c (g.engine, g.world)).1 at hanswer
    subst hanswer
    obtain ⟨hlt, -⟩ := List.getElem?_eq_some_iff.1 hi
    have hstep : g.step site net display (.advance i) =
        ⟨(Engine.answer net c (g.engine, g.world)).2.1, (Engine.answer net c (g.engine, g.world)).2.2,
          g.units.set i ⟨u, next (Engine.answer net c (g.engine, g.world)).1⟩,
          g.exchanged ++ [(i, ⟨c, (Engine.answer net c (g.engine, g.world)).1⟩)]⟩ := by
      rw [step, hi]
    have hnext := @ih (g.step site net display (.advance i)) (by rw [hstep]; exact List.getElem?_set_self hlt)
      (by rw [hstep]; exact hrest)
    rw [List.length_cons, List.replicate_succ, List.map_cons]
    refine hnext.trans ?_
    rw [hstep, List.append_assoc, List.singleton_append]

/-- A network that takes everything and answers no request. -/
def muteNetwork : Network Unit := { Network.willing with request := fun _ _ w => (.error .decode, w) }

/-- The first request of a gateway whose firewall lets everything through. -/
theorem requested_of_valid (routes : RouteTable) {display : Engine → Unit → GatewayStatus} {v : Verifier}
    {r : WebRequest} {token host freshId : String} {user : User}
    (hvalid : (v.validate 0 muteNetwork.backend token ()).1 = .ok user) (hpath : r.target.path ∉ Site.openPaths)
    (htoken : bearerToken r.headers = some token) (htarget : targetHost r.headers = .ok host)
    (hbody : r.body.length ≤ ({} : Site).server.maxBodySize) :
    ∃ q, ((opened { verifier := v } ()).run { routes } muteNetwork display
      (.arrive (.request r) freshId :: List.replicate 5 (.advance 0))).requested =
        [(0, ⟨0, host, Forwarding.pin routes host⟩, q)] := by
  let client : TargetClient := ⟨0, host, Forwarding.pin routes host⟩
  -- the answer to a request is an error, whether its address can be read or not
  obtain ⟨e, he⟩ : ∃ e, ∀ q s, q.address = Forwarding.address ({} : Site).server.targetScheme host r.target →
      (Engine.answer muteNetwork (.request client q) s).1 = .error e := by
    cases haddress : requestAddress (Forwarding.address ({} : Site).server.targetScheme host r.target) with
    | error e =>
      refine ⟨e, fun q s hq => ?_⟩
      unfold Engine.answer
      dsimp only
      rw [hq, haddress]
    | ok address =>
      refine ⟨.decode, fun q s hq => ?_⟩
      unfold Engine.answer
      dsimp only
      rw [hq, haddress]
      rfl
  let site : Site := { routes }
  have hbody' : r.body.length ≤ site.server.maxBodySize := hbody
  obtain ⟨q, entry, w, haddress, hrun⟩ := runs_of_admitted hpath htoken htarget hbody' (display { verifier := v } ())
    freshId user client e
  refine ⟨q, ?_⟩
  let g : Gateway Unit := (opened { verifier := v } ()).step { routes } muteNetwork display (.arrive (.request r) freshId)
  let es : List RelayExchange := [⟨.validate token, .ok user⟩, ⟨.decide user host, true⟩,
    ⟨.client host (Forwarding.pin routes host), .ok client⟩, ⟨.request client q, .error e⟩, ⟨.audit entry, ()⟩]
  have hanswered : Answered muteNetwork (g.engine, g.world) es :=
    ⟨hvalid.symm, rfl, rfl, (he q _ haddress).symm, rfl, trivial⟩
  have hunit : g.units[0]? = some ⟨.request r, task { routes } (display { verifier := v } ()) freshId (.request r)⟩ := rfl
  have hexchanged : (g.run { routes } muteNetwork display (List.replicate es.length (.advance 0))).exchanged =
      g.exchanged ++ es.map (0, ·) := exchanged_of_runs hrun hunit hanswered
  have hfirst : (opened { verifier := v } ()).run { routes } muteNetwork display
      (.arrive (.request r) freshId :: List.replicate 5 (.advance 0)) =
        g.run { routes } muteNetwork display (List.replicate es.length (.advance 0)) := List.foldl_cons ..
  rw [hfirst, requested, hexchanged]
  rfl

/-! ### A request with a signed token -/

def cubicVerifier : Verifier := ⟨.rs256, none, ⟨true, 0, 0⟩, ⟨some cubicKey, some 0, none⟩⟩

theorem validate_cubicVerifier :
    (cubicVerifier.validate 0 muteNetwork.backend cubicToken.text ()).1 = .ok cubicClaims.toUser :=
  Verifier.validate_eq_ok_iff.2 ⟨cubicToken, cubicKey, cubicClaims, readWithAlgorithm_cubicToken, rfl,
    .inl (SignedToken.check_eq_ok_iff.1 check_cubicToken), rfl, rfl⟩

def cubicRequest : WebRequest :=
  ⟨"GET", ⟨none, none, "/v1".toList⟩,
    [.ofText "authorization" ("Bearer " ++ cubicToken.text), .ofText targetHeader "API.internal:08443"], [],
    "10.0.0.2:51000"⟩

theorem bearerToken_cubicRequest : bearerToken cubicRequest.headers = some cubicToken.text := by
  have htext : cubicToken.text.toList = cubicToken.header ++ '.' :: cubicToken.payload ++ '.' :: cubicToken.signature :=
    String.toList_ofList
  have hall : (cubicToken.text.toList.all fun c => 32 < c.toNat && c.toNat < 127) = true := by
    rw [htext]
    decide +kernel
  refine bearerToken_of_first? rfl (fun c hc => ?_) ?_
  · simpa using List.all_eq_true.1 hall c hc
  · rw [htext]
    simp

/-- A gateway that gets this request first. -/
def afterCubicRequest (routes : RouteTable) : Gateway Unit :=
  (opened { verifier := cubicVerifier } ()).run { routes } muteNetwork (fun e _ => e.status)
    (.arrive (.request cubicRequest) "id" :: List.replicate 5 (.advance 0))

theorem requested_afterCubicRequest (routes : RouteTable) :
    ∃ q, (afterCubicRequest routes).requested =
      [(0, ⟨0, "api.internal:8443", Forwarding.pin routes "api.internal:8443"⟩, q)] :=
  requested_of_valid routes validate_cubicVerifier (by decide +kernel) bearerToken_cubicRequest (by decide +kernel)
    (Nat.zero_le _)

/-- A numeric peer that is entered for the host alone takes the port of the target, and the client is pinned to it. -/
theorem routed_of_run_numeric :
    let routes : RouteTable := ⟨[("api.internal", "10.8.0.7")]⟩
    ∃ client q, (0, client, q) ∈ (afterCubicRequest routes).requested ∧ client.host = "api.internal:8443" ∧
      routes.route "api.internal:8443" = some "10.8.0.7:8443" ∧ client.pin = some ⟨.v4 0x0A080007, 8443, 0⟩ := by
  intro routes
  obtain ⟨q, hrequested⟩ := requested_afterCubicRequest routes
  let client : TargetClient := ⟨0, "api.internal:8443", Forwarding.pin routes "api.internal:8443"⟩
  have hmem : (0, client, q) ∈ (afterCubicRequest routes).requested := by
    rw [hrequested]
    exact List.mem_singleton.2 rfl
  have hroute : routes.route "api.internal:8443" = some "10.8.0.7:8443" := by decide +kernel
  obtain ⟨r, target, -, -, -, hhost, hpeer, -⟩ := (routed_of_run { routes } muteNetwork _ _ () _).1 0 client q hmem
  obtain rfl : "api.internal:8443" = target := hhost
  refine ⟨client, q, hmem, rfl, hroute, ?_⟩
  rw [hpeer "10.8.0.7:8443" hroute]
  decide +kernel

/-- A peer with a name is dialed for streams and datagrams, and a request passes it by. -/
theorem peer_lost :
    let routes : RouteTable := ⟨[("api.internal", "peer.branch:8443")]⟩
    routes.route "api.internal:8443" = some "peer.branch:8443" ∧
      RelayTask.dialAddress routes "api.internal:8443" = "peer.branch:8443" ∧
      ∃ q, (afterCubicRequest routes).requested = [(0, ⟨0, "api.internal:8443", none⟩, q)] := by
  intro routes
  obtain ⟨q, hrequested⟩ := requested_afterCubicRequest routes
  have hpin : Forwarding.pin routes "api.internal:8443" = none := by decide +kernel
  rw [hpin] at hrequested
  exact ⟨by decide +kernel, by decide +kernel, q, hrequested⟩

end Gateway

end AccessGateway
