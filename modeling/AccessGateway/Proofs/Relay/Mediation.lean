import AccessGateway.Proofs.Dialogue
import AccessGateway.Proofs.Relay.Unit

/-!
# Mediation

Nothing goes toward a target, and nothing to the mirror, before the token of the unit was found good and its user may
reach that very target. Each work of the relay is shown to obey this rule with any answers (`Permitted`), and so every
run of every unit does (`mediated`).
-/

namespace AccessGateway

open Dialogue

/-- A call of a unit of traffic and its answer. -/
abbrev RelayExchange : Type := Exchanged RelayCall RelayCall.Answer

namespace TrafficUnit

/-- The token of a unit was found to be a user's, and after that the user may reach the target of the unit. -/
structure Admitted (u : TrafficUnit) (target : String) (past : List RelayExchange) : Prop where
  target_eq : u.target? = some target
  verdicts : ∃ token user before between after, u.token? = some token ∧
    past = before ++ ⟨.validate token, .ok user⟩ :: (between ++ ⟨.decide user target, true⟩ :: after)

/-- The calls that reach beyond the gateway, with what each has to do with the target and what it needs. -/
inductive Toward (site : Site) (u : TrafficUnit) (target : String) (past : List RelayExchange) : RelayCall → Prop where
  | client : Toward site u target past (.client target (Forwarding.pin site.routes target))
  | request {r : WebRequest} (hu : u = .request r) {client : TargetClient}
      (hclient : ⟨.client target (Forwarding.pin site.routes target), .ok client⟩ ∈ past) {q : TargetRequest}
      (haddress : q.address = Forwarding.address site.server.targetScheme target r.target) :
      Toward site u target past (.request client q)
  | respond {client : TargetClient} {q : TargetRequest} {a : TargetAnswer} (h : ⟨.request client q, .ok a⟩ ∈ past)
      (w : WebResponse) : Toward site u target past (.respond w)
  | connect : Toward site u target past (.connect (RelayTask.dialAddress site.routes target))
  | sendFirst (h : ⟨.connect (RelayTask.dialAddress site.routes target), .ok ()⟩ ∈ past) (bytes : List UInt8) :
      Toward site u target past (.sendFirst bytes)
  | join (h : ⟨.connect (RelayTask.dialAddress site.routes target), .ok ()⟩ ∈ past) : Toward site u target past .join
  | lookup : Toward site u target past (.lookup (RelayTask.dialAddress site.routes target))
  | openSocket {remote : SocketAddress}
      (h : ⟨.lookup (RelayTask.dialAddress site.routes target), .ok (some remote)⟩ ∈ past) :
      Toward site u target past (.openSocket remote)
  | send {remote : SocketAddress}
      (hlookup : ⟨.lookup (RelayTask.dialAddress site.routes target), .ok (some remote)⟩ ∈ past)
      (hopen : ⟨.openSocket remote, .ok ()⟩ ∈ past) (payload : List UInt8) : Toward site u target past (.send payload)
  | receive {payload : List UInt8} (h : ⟨.send payload, .ok ()⟩ ∈ past) : Toward site u target past .receive
  | reply {payload : List UInt8} (h : ⟨.receive, .datagram payload⟩ ∈ past) :
      Toward site u target past (.reply payload)
  | mirror {packet : MirrorPacket}
      (h : packet.source = u.source ∧ packet.destination = target ∨
        packet.source = target ∧ packet.destination = u.source) :
      Toward site u target past (.mirror packet)

/-- The calls a unit may make after the exchanges before. -/
inductive Permitted (site : Site) (u : TrafficUnit) (past : List RelayExchange) : RelayCall → Prop where
  | validate {token : String} (h : u.token? = some token) : Permitted site u past (.validate token)
  | decide {token target : String} {user : User} (htoken : u.token? = some token) (htarget : u.target? = some target)
      (h : ⟨.validate token, .ok user⟩ ∈ past) : Permitted site u past (.decide user target)
  | audit (entry : AccessEntry) : Permitted site u past (.audit entry)
  | toward {target : String} (h : Admitted u target past) {c : RelayCall} (hc : Toward site u target past c) :
      Permitted site u past c

/-- The calls that stay within the gateway. -/
def IsVerdict : RelayCall → Prop
  | .validate _ | .decide _ _ | .audit _ => True
  | _ => False

variable {site : Site} {u : TrafficUnit} {token target : String} {user : User} {past : List RelayExchange}

theorem Admitted.append (h : Admitted u target past) (es : List RelayExchange) : Admitted u target (past ++ es) := by
  obtain ⟨htarget, token, user, before, between, after, htoken, rfl⟩ := h
  exact ⟨htarget, token, user, before, between, after ++ es, htoken, by simp⟩

/-- A call that does not stay within the gateway is made only by a unit that was admitted. -/
theorem Permitted.admitted {c : RelayCall} (h : Permitted site u past c) (hc : ¬ IsVerdict c) :
    ∃ target, Admitted u target past ∧ Toward site u target past c := by
  cases h with
  | validate | decide | audit => exact absurd trivial hc
  | toward h hc => exact ⟨_, h, hc⟩

/-! ### Verdicts -/

private theorem obeys_authorize (htoken : u.token? = some token) (htarget : u.target? = some target)
    (h : ⟨.validate token, .ok user⟩ ∈ past) :
    Obeys (Permitted site u) past (RelayTask.authorize user target) :=
  obeys_call_bind (.decide htoken htarget h) fun _ => trivial

theorem runs_authorize {es : List RelayExchange} {result : Except Failure Unit}
    (h : Runs (RelayTask.authorize user target) es result) :
    es = [⟨.decide user target, true⟩] ∧ result = .ok () ∨
      es = [⟨.decide user target, false⟩] ∧ ∃ f, result = .error f := by
  obtain ⟨allowed, es', rfl, hnext⟩ := runs_call_bind_iff.1 h
  obtain ⟨rfl, rfl⟩ := runs_done_iff.1 hnext
  cases allowed with
  | true => exact .inl ⟨rfl, rfl⟩
  | false => exact .inr ⟨rfl, _, rfl⟩

/-- The two verdicts in their order. -/
private theorem admitted_of_authorize (htoken : u.token? = some token) (htarget : u.target? = some target)
    (h : ⟨.validate token, .ok user⟩ ∈ past) {es : List RelayExchange}
    (hes : Runs (RelayTask.authorize user target) es (.ok ())) : Admitted u target (past ++ es) := by
  obtain ⟨before, between, rfl⟩ := List.append_of_mem h
  refine ⟨htarget, token, user, before, between, [], htoken, ?_⟩
  rcases runs_authorize hes with ⟨rfl, -⟩ | ⟨-, f, hf⟩
  · simp
  · cases hf

private theorem obeys_authenticate (htoken : u.token? = some token) (htarget : u.target? = some target) :
    Obeys (Permitted site u) past (RelayTask.authenticate token target) := by
  refine obeys_call_bind (.validate htoken) ?_
  intro answer
  rcases answer with e | user
  · trivial
  · refine obeys_bind (obeys_authorize htoken htarget (by simp)) ?_
    intro es result _
    rcases result with f | _ <;> trivial

private theorem admitted_of_authenticate (htoken : u.token? = some token) (htarget : u.target? = some target)
    {es : List RelayExchange} (h : Runs (RelayTask.authenticate token target) es (.ok user)) :
    Admitted u target (past ++ es) := by
  obtain ⟨answer, es', rfl, hnext⟩ := runs_call_bind_iff.1 h
  rcases answer with e | user'
  · cases (runs_done_iff.1 hnext).2
  · obtain ⟨es₁, es₂, result, rfl, h₁, h₂⟩ := runs_bind_iff.1 hnext
    rcases result with f | _
    · cases (runs_done_iff.1 h₂).2
    · rw [List.append_cons, ← List.append_assoc]
      exact (admitted_of_authorize htoken htarget (by simp) h₁).append es₂

/-! ### Streams and datagrams -/

private theorem obeys_mirrored {source : String} (h : Admitted u target past) (hsource : u.source = source)
    (ms : List (Direction × List UInt8)) :
    Obeys (Permitted site u) past (callAll (fun m => .mirror (RelayTask.chunkPacket source target m)) ms) := by
  apply obeys_callAll
  intro es m _
  obtain ⟨d, bytes⟩ := m
  cases d with
  | up => exact .toward (h.append es) (.mirror (.inl ⟨hsource.symm, rfl⟩))
  | down => exact .toward (h.append es) (.mirror (.inr ⟨rfl, hsource.symm⟩))

private theorem obeys_join {source : String} (h : Admitted u target past) (hsource : u.source = source)
    (hconnect : ⟨.connect (RelayTask.dialAddress site.routes target), .ok ()⟩ ∈ past) (early : List UInt8) :
    Obeys (Permitted site u) past (RelayTask.join source target early) := by
  -- without early bytes there is no first write, and the rest is the same
  cases early with
  | nil =>
    refine obeys_call_bind (.toward h (.join hconnect)) ?_
    intro events
    exact obeys_bind (obeys_mirrored (h.append _) hsource _) fun _ _ _ => trivial
  | cons b bs =>
    refine obeys_call_bind (.toward h (.sendFirst hconnect _)) ?_
    intro answer
    rcases answer with e | _
    · trivial
    · have h₁ := h.append [⟨.sendFirst (b :: bs), .ok ()⟩]
      refine obeys_call_bind (.toward h₁ (.mirror (.inl ⟨hsource.symm, rfl⟩))) ?_
      intro _
      have h₂ := h₁.append [⟨.mirror (.stream source target (b :: bs)), ()⟩]
      refine obeys_call_bind (.toward h₂ (.join (by simp [hconnect]))) ?_
      intro events
      exact obeys_bind (obeys_mirrored (h₂.append _) hsource _) fun _ _ _ => trivial

private theorem obeys_stream (source : String) (arrival : RelayTask.Arrival) (past : List RelayExchange) :
    Obeys (Permitted site (.stream source arrival)) past (RelayTask.stream site.routes source arrival) := by
  cases arrival with
  | tooSlow => trivial
  | inTime bytes =>
    unfold RelayTask.stream
    dsimp only
    split
    · exact ⟨.audit _, fun _ => trivial⟩
    · rename_i o hread
      obtain ⟨htoken, htarget⟩ := stream_of_readStream hread source
      refine obeys_bind (obeys_authenticate htoken htarget) ?_
      intro es result hes
      rcases result with e | user
      · exact ⟨.audit _, fun _ => trivial⟩
      · have h : Admitted (.stream source (.inTime bytes)) o.preamble.target (past ++ es) :=
          admitted_of_authenticate htoken htarget hes
        refine obeys_call_bind (.toward h .connect) ?_
        intro answer
        rcases answer with e | _
        · exact ⟨.audit _, fun _ => trivial⟩
        · refine obeys_bind (obeys_join (h.append _) rfl (by simp) o.early) ?_
          intro _ _ _
          exact ⟨.audit _, fun _ => trivial⟩

private theorem obeys_exchange {source : String} (h : Admitted u target past) (hsource : u.source = source)
    (payload : List UInt8) :
    Obeys (Permitted site u) past (RelayTask.exchange site.routes source target payload) := by
  refine obeys_call_bind (.toward h .lookup) ?_
  intro answer
  rcases answer with e | _ | remote
  · trivial
  · trivial
  · have hlookup : ⟨.lookup (RelayTask.dialAddress site.routes target), .ok (some remote)⟩ ∈
        past ++ [⟨.lookup (RelayTask.dialAddress site.routes target), .ok (some remote)⟩] := List.mem_concat_self
    have h₁ := h.append [⟨.lookup (RelayTask.dialAddress site.routes target), .ok (some remote)⟩]
    refine obeys_call_bind (.toward h₁ (.openSocket hlookup)) ?_
    intro answer
    rcases answer with e | _
    · trivial
    · have h₂ := h₁.append [⟨.openSocket remote, .ok ()⟩]
      refine obeys_call_bind (.toward h₂ (.send (List.mem_append_left _ hlookup) List.mem_concat_self payload)) ?_
      intro answer
      rcases answer with e | _
      · trivial
      · have h₃ := h₂.append [⟨.send payload, .ok ()⟩]
        refine obeys_call_bind (.toward h₃ (.mirror (.inl ⟨hsource.symm, rfl⟩))) ?_
        intro _
        have h₄ := h₃.append [⟨.mirror (.datagram source target payload), ()⟩]
        refine obeys_call_bind (.toward h₄ (.receive (List.mem_append_left _ List.mem_concat_self))) ?_
        intro receipt
        cases receipt with
        | failed e => trivial
        | timedOut => trivial
        | datagram answer =>
          have h₅ := h₄.append [⟨.receive, .datagram answer⟩]
          refine obeys_call_bind (.toward h₅ (.reply List.mem_concat_self)) ?_
          intro sent
          rcases sent with e | _
          · trivial
          · have h₆ := h₅.append [⟨.reply answer, .ok ()⟩]
            exact obeys_call_bind (.toward h₆ (.mirror (.inr ⟨rfl, hsource.symm⟩))) fun _ => trivial

private theorem obeys_datagram (source : String) (bytes : List UInt8) (past : List RelayExchange) :
    Obeys (Permitted site (.datagram source bytes)) past (RelayTask.datagram site.routes source bytes) := by
  unfold RelayTask.datagram
  split
  · exact ⟨.audit _, fun _ => trivial⟩
  · rename_i p hread
    have htoken : token? (.datagram source bytes) = some p.token := by rw [token?, hread]; rfl
    have htarget : target? (.datagram source bytes) = some p.target := by rw [target?, hread]; rfl
    refine obeys_bind (obeys_authenticate htoken htarget) ?_
    intro es result hes
    rcases result with e | user
    · exact ⟨.audit _, fun _ => trivial⟩
    · have h : Admitted (.datagram source bytes) p.target (past ++ es) :=
        admitted_of_authenticate htoken htarget hes
      refine obeys_bind (obeys_exchange h rfl _) ?_
      intro _ _ _
      exact ⟨.audit _, fun _ => trivial⟩

/-! ### Requests -/

private theorem address_of_request? {c : ServerConfig} {r : WebRequest} {q : TargetRequest}
    (h : Forwarding.request? c target r = some q) :
    q.address = Forwarding.address c.targetScheme target r.target := by
  unfold Forwarding.request? at h
  split at h
  · cases h
  · cases h
    rfl

private theorem obeys_send {r : WebRequest} (h : Admitted (.request r) target past) (freshId : String) :
    Obeys (Permitted site (.request r)) past
      (RelayTask.send site.server site.routes target (Site.identified freshId r)) := by
  refine obeys_call_bind (.toward h .client) ?_
  intro answer
  rcases answer with f | client
  · trivial
  · dsimp only
    split
    · trivial
    · rename_i q hq
      have haddress := address_of_request? hq
      rw [Site.identified_target] at haddress
      refine obeys_call_bind (.toward (h.append _) (.request rfl (by simp) haddress)) ?_
      intro answer
      rcases answer with e | a <;> trivial

/-- An answer comes from a request. -/
private theorem request_mem_of_runs_send {r : WebRequest} {a : TargetAnswer} {es : List RelayExchange}
    (h : Runs (RelayTask.send site.server site.routes target r) es (.ok a)) :
    ∃ client q, (⟨.request client q, .ok a⟩ : RelayExchange) ∈ es := by
  obtain ⟨answer, es', rfl, hnext⟩ := runs_call_bind_iff.1 h
  rcases answer with f | client
  · cases (runs_done_iff.1 hnext).2
  · dsimp only at hnext
    split at hnext
    · cases (runs_done_iff.1 hnext).2
    · rename_i q hq
      obtain ⟨answer, es'', rfl, hresult⟩ := runs_call_bind_iff.1 hnext
      rcases answer with e | a'
      · cases (runs_done_iff.1 hresult).2
      · cases (runs_done_iff.1 hresult).2
        exact ⟨client, q, by simp⟩

private theorem obeys_passOn {r r' : WebRequest} (h : Admitted (.request r) target past) (hsource : r'.source = r.source)
    {client : TargetClient} {q : TargetRequest} {a : TargetAnswer} (ha : ⟨.request client q, .ok a⟩ ∈ past) :
    Obeys (Permitted site (.request r)) past (RelayTask.passOn site.server user target r' a) := by
  refine obeys_call_bind (.toward h (.respond ha _)) ?_
  intro taken
  refine obeys_call_bind (.toward (h.append _) (.mirror (.inl ⟨hsource, rfl⟩))) ?_
  intro _
  exact ⟨.audit _, fun _ => trivial⟩

private theorem obeys_forward {r : WebRequest} (htoken : token? (.request r) = some token)
    (hvalid : ⟨.validate token, .ok user⟩ ∈ past) (freshId : String) :
    Obeys (Permitted site (.request r)) past
      (RelayTask.forward site.server site.routes user (Site.identified freshId r)) := by
  unfold RelayTask.forward
  rw [Site.targetHost_identified]
  dsimp only
  split
  · split
    · exact ⟨.audit _, fun _ => trivial⟩
    · trivial
  · rename_i host hhost
    have htarget : target? (.request r) = some host := by rw [target?, hhost]; rfl
    refine obeys_bind (obeys_authorize htoken htarget hvalid) ?_
    intro es verdict hes
    rcases verdict with f | _
    · exact ⟨.audit _, fun _ => trivial⟩
    · have h := admitted_of_authorize htoken htarget hvalid hes
      refine obeys_bind (obeys_send h freshId) ?_
      intro es' answer hes'
      rcases answer with f | a
      · exact ⟨.audit _, fun _ => trivial⟩
      · obtain ⟨client, q, hq⟩ := request_mem_of_runs_send hes'
        exact obeys_passOn (h.append es') (Site.identified_source freshId r) (List.mem_append_right _ hq)

private theorem obeys_guarded (r : WebRequest) (freshId : String) (past : List RelayExchange) :
    Obeys (Permitted site (.request r)) past (Site.guarded site (Site.identified freshId r)) := by
  unfold Site.guarded Site.userOf
  rw [Site.bearerToken_identified]
  split
  · rename_i token htoken
    refine obeys_call_bind (.validate htoken) ?_
    intro answer
    rcases answer with e | user
    · exact ⟨.audit _, fun _ => trivial⟩
    · exact obeys_forward htoken (by simp) freshId
  · exact ⟨.audit _, fun _ => trivial⟩

/-- An open page makes no call at all. -/
private theorem runs_respond_open {r : WebRequest} {status : GatewayStatus} {freshId : String} {es : List RelayExchange}
    {w : WebResponse} (h : Runs (site.respond status freshId r) es w) (hopen : r.target.path ∈ Site.openPaths) :
    es = [] := by
  unfold Site.respond at h
  dsimp only at h
  rw [Site.identified_target, if_pos (List.contains_iff_mem.2 hopen)] at h
  exact (runs_done_iff.1 h).1

private theorem obeys_respond (r : WebRequest) (status : GatewayStatus) (freshId : String) (past : List RelayExchange) :
    Obeys (Permitted site (.request r)) past (site.respond status freshId r) := by
  unfold Site.respond
  dsimp only
  split
  · trivial
  · exact obeys_bind (obeys_guarded r freshId past) fun _ _ _ => trivial

/-- A request of a user, on a path that is not open, goes on as it is forwarded. -/
theorem runs_of_forward {r : WebRequest} (hpath : r.target.path ∉ Site.openPaths)
    (htoken : bearerToken r.headers = some token) {freshId : String} {es : List RelayExchange} {w : WebResponse}
    (h : Runs (RelayTask.forward site.server site.routes user (Site.identified freshId r)) es w)
    (status : GatewayStatus) :
    ∃ w', Runs (task site status freshId (.request r)) (⟨.validate token, .ok user⟩ :: es) (some w') := by
  have hguarded : Runs (site.guarded (Site.identified freshId r)) (⟨.validate token, .ok user⟩ :: es) w := by
    unfold Site.guarded Site.userOf
    rw [Site.bearerToken_identified, htoken]
    exact .ask _ h
  unfold task Site.respond
  dsimp only
  rw [Site.identified_target, if_neg (fun hopen => hpath (List.contains_iff_mem.1 hopen))]
  exact ⟨_, runs_bind_iff.2 ⟨_, [], _, (List.append_nil _).symm,
    runs_bind_iff.2 ⟨_, [], _, (List.append_nil _).symm, hguarded, .done _⟩, .done _⟩⟩

/-! ### Units -/

/-- Whatever the answers, a unit makes only calls that it is permitted. -/
theorem obeys_task (site : Site) (status : GatewayStatus) (freshId : String) (u : TrafficUnit) :
    Obeys (Permitted site u) [] (u.task site status freshId) := by
  cases u with
  | request r => exact obeys_map (obeys_respond r status freshId []) _
  | stream source arrival => exact obeys_map (obeys_stream source arrival []) _
  | datagram source bytes => exact obeys_map (obeys_datagram source bytes []) _

/-- Complete mediation.  In every run of a unit, with any answers from anybody, each call is one that the exchanges
before it permit: a call toward a target comes after the two verdicts for the unit's own token and for that target.
A unit that is not admitted makes no call but for verdicts and the log, and a request on an open path none at all. -/
theorem mediated (site : Site) (status : GatewayStatus) (freshId : String) (u : TrafficUnit) {es : List RelayExchange}
    {result : Option WebResponse} (h : Runs (u.task site status freshId) es result) :
    (∀ before e after, es = before ++ e :: after → Permitted site u before e.call) ∧
      ((∀ target, ¬ Admitted u target es) → ∀ e ∈ es, IsVerdict e.call) ∧
      (∀ r, u = .request r → r.target.path ∈ Site.openPaths → es = []) := by
  have hrule : ∀ before e after, es = before ++ e :: after → Permitted site u before e.call := by
    intro before e after hes
    have hpermitted := h.permitted (obeys_task site status freshId u) hes
    rwa [List.nil_append] at hpermitted
  refine ⟨hrule, ?_, ?_⟩
  · intro hnot e he
    obtain ⟨before, after, rfl⟩ := List.append_of_mem he
    by_cases hverdict : IsVerdict e.call
    · exact hverdict
    · obtain ⟨target, hadmitted, -⟩ := (hrule before e after rfl).admitted hverdict
      exact absurd (hadmitted.append _) (hnot target)
  · rintro r rfl hopen
    obtain ⟨es₁, es₂, w, rfl, h₁, h₂⟩ := runs_bind_iff.1 h
    rw [runs_respond_open h₁ hopen, (runs_done_iff.1 h₂).1]
    rfl

/-- A datagram that is let through is sent to the address found for its target. -/
theorem mediated_datagram :
    ∃ es before e after,
      Runs (task {} {} "id" (.datagram "c:1" (Preamble.encodeBinary "t" "h:1" ++ [1, 2]))) es none ∧
        es = before ++ e :: after ∧ e.call = .send [1, 2] ∧
        Permitted {} (.datagram "c:1" (Preamble.encodeBinary "t" "h:1" ++ [1, 2])) before e.call := by
  have hread : Preamble.readComplete (Preamble.encodeBinary "t" "h:1" ++ [1, 2]) = .ok ⟨"t", "h:1", 12⟩ :=
    Preamble.readComplete_eq_ok_iff.2 (Preamble.read_encodeBinary (by decide) (by decide) (by decide) [1, 2])
  have hrun : Runs (task {} {} "id" (.datagram "c:1" (Preamble.encodeBinary "t" "h:1" ++ [1, 2])))
      [⟨.validate "t", .ok ⟨"u1", "Una", "una@h", [], "user", []⟩⟩,
        ⟨.decide ⟨"u1", "Una", "una@h", [], "user", []⟩ "h:1", true⟩,
        ⟨.lookup "h:1", .ok (some ⟨.v4 1, 1, 0⟩)⟩, ⟨.openSocket ⟨.v4 1, 1, 0⟩, .ok ()⟩,
        ⟨.send [1, 2], .error ⟨"BrokenPipe", ""⟩⟩,
        ⟨.audit (.datagram (some ⟨"u1", "Una", "una@h", [], "user", []⟩) "c:1" "h:1" {} .allowed), ()⟩] none := by
    unfold task RelayTask.datagram
    dsimp only
    rw [hread]
    exact .ask _ (.ask _ (.ask _ (.ask _ (.ask _ (.ask _ (.done _))))))
  exact ⟨_, [_, _, _, _], _, [_], hrun, rfl, rfl, (mediated {} {} "id" _ hrun).1 _ _ _ rfl⟩

end TrafficUnit

end AccessGateway
