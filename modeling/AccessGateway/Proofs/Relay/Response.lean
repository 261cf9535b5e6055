import AccessGateway.Proofs.Relay.Forwarding
import AccessGateway.Proofs.Relay.Routing
import AccessGateway.Proofs.Relay.Stream

/-!
# Responses that are passed on

The bytes kept of a body are the first ones of all that passed, however they came in chunks (`captured_eq_take`).  So a
response is given to the client chunk by chunk as the target sent it, and when its body is finished or dropped there is
one packet with its beginning and one entry with its status, whatever the client took of it (`recorded_of_run`).
-/

namespace AccessGateway

open Dialogue

/-! ### The bytes that are kept -/

namespace Forwarding

/-- Bytes up to a limit and what room they leave of more bytes are all these bytes up to the limit. -/
private theorem take_append_take (limit : Nat) (seen bytes : List UInt8) :
    seen.take limit ++ bytes.take (limit - (seen.take limit).length) = (seen ++ bytes).take limit := by
  have hroom : limit - (seen.take limit).length = limit - seen.length := by
    rw [List.length_take]
    omega
  rw [hroom, List.take_append]

theorem captured_eq_take (limit : Nat) (chunks : List BodyChunk) :
    captured limit chunks = (chunks.flatMap BodyChunk.bytes).take limit := by
  have hfold : ∀ seen : List UInt8,
      chunks.foldl (fun kept c => kept ++ c.bytes.take (limit - kept.length)) (seen.take limit) =
        (seen ++ chunks.flatMap BodyChunk.bytes).take limit := by
    induction chunks with
    | nil =>
      intro seen
      rw [List.foldl_nil, List.flatMap_nil, List.append_nil]
    | cons c chunks ih =>
      intro seen
      rw [List.foldl_cons, take_append_take, ih, List.flatMap_cons, List.append_assoc]
  have hnil := hfold []
  rwa [List.take_nil, List.nil_append] at hnil

end Forwarding

/-! ### The mirror of an engine -/

theorem RelayTask.mirrored_cons (e : RelayExchange) (es : List RelayExchange) :
    mirrored (e :: es) = e.call.mirrored?.toList ++ mirrored es := by
  cases hpacket : e.call.mirrored? with
  | none => exact List.filterMap_cons_none hpacket
  | some packet => exact List.filterMap_cons_some hpacket

namespace Engine

variable {σ α : Type}

/-- A call hands its packet to the mirror, if there is one, and leaves the mirror alone if it has none. -/
theorem mirror_answer (net : Network σ) (c : RelayCall) (s : Engine × σ) :
    (answer net c s).2.1.mirror = s.1.mirror.map fun m =>
      (c.mirrored?.toList).foldl (fun m packet => m.enqueue ⟨net.present s.2, packet⟩) m := by
  cases c with
  | mirror packet => rfl
  | request client q =>
    have hpacket : (RelayCall.request client q).mirrored? = none := rfl
    rw [hpacket, answer]
    dsimp only
    split <;> exact Option.map_id'.symm
  | _ => exact Option.map_id'.symm

/-- Of a unit that goes on alone the mirror gets the packets of its run, in their order. -/
theorem mirror_run (net : Network σ) {d : RelayTask α} {es : List RelayExchange} {a : α} (h : Runs d es a)
    (s : Engine × σ) (hanswered : Gateway.Answered net s es) :
    ∃ os : List Observation, os.map (·.packet) = RelayTask.mirrored es ∧
      (d.run (answer net) s).2.1.mirror = s.1.mirror.map fun m => os.foldl (fun m o => m.enqueue o) m := by
  induction h generalizing s with
  | done a => exact ⟨[], rfl, Option.map_id'.symm⟩
  | @ask c next answer' es a h ih =>
    obtain ⟨hanswer, hrest⟩ := hanswered
    change answer' = (answer net c s).1 at hanswer
    subst hanswer
    obtain ⟨os, hos, hmirror⟩ := ih _ hrest
    refine ⟨c.mirrored?.toList.map (fun packet => ⟨net.present s.2, packet⟩) ++ os, ?_, ?_⟩
    · have hpackets : (Observation.packet ∘ fun packet => ⟨net.present s.2, packet⟩) = id := rfl
      rw [List.map_append, hos, List.map_map, hpackets, List.map_id, RelayTask.mirrored_cons]
    · refine hmirror.trans ?_
      rw [mirror_answer, Option.map_map]
      congr 1
      funext m
      rw [List.foldl_append, List.foldl_map]
      rfl

end Engine

/-! ### The whole response -/

namespace Site

theorem tagged_status (r : WebRequest) (w : WebResponse) : (tagged r w).status = w.status := by
  unfold tagged
  split <;> rfl

theorem tagged_body (r : WebRequest) (w : WebResponse) : (tagged r w).body = w.body := by
  unfold tagged
  split <;> rfl

end Site

namespace TrafficUnit

variable {site : Site} {status : GatewayStatus} {freshId : String} {r : WebRequest} {es : List RelayExchange}
  {w : WebResponse} {client : TargetClient} {q : TargetRequest} {a : TargetAnswer}

/-- The id given to a request shows neither in what is offered of an answer nor in the records of it. -/
private theorem records_of_concludes {c : ServerConfig} {user : User} {host : String}
    (h : RelayTask.Concludes c user host (Site.identified freshId r) (.ok a) es w) :
    ∃ taken, let body := if r.method = "HEAD" then [] else a.chunks
      es = [⟨.respond ⟨a.status, Forwarding.responseHeaders a.headers, .passed body⟩, taken⟩,
        ⟨.mirror (.exchange r.source host s!"{r.method} {r.target.path} {host}" a.status
          (((body.take taken).flatMap BodyChunk.bytes).take c.mirrorBodyLimit)), ()⟩,
        ⟨.audit (.request (some user) r.source host ⟨r.method, r.target.path, a.status⟩ .allowed), ()⟩] ∧
      w = ⟨a.status, Forwarding.responseHeaders a.headers, .passed (body.take taken)⟩ := by
  cases h with
  | answered a taken =>
    have hbody : RelayTask.offered (Site.identified freshId r) a = if r.method = "HEAD" then [] else a.chunks := by
      rw [RelayTask.offered, Site.identified_method]
    refine ⟨taken, ?_, ?_⟩
    · rw [hbody, RelayTask.summary, Site.identified_source, Site.identified_method, Site.identified_target,
        Forwarding.captured_eq_take]
    · rw [hbody]

/-- An answer is given to the client as it comes; only an answer to HEAD has no body to give.  At the end of the body,
wherever it ends and however much of it the client took, there is one packet, with the request line, the status and the
first bytes of what passed, and one entry, which allows the request and names the status of the target.  An engine with
a mirror hands over that packet and no other. -/
theorem recorded_of_run (h : Runs (task site status freshId (.request r)) es (some w))
    (ha : ⟨.request client q, .ok a⟩ ∈ es) :
    ∃ token user host taken packet entry,
      let body := if r.method = "HEAD" then [] else a.chunks
      let passed := (body.take taken).flatMap BodyChunk.bytes
      targetHost r.headers = .ok host ∧
      es = [⟨.validate token, .ok user⟩, ⟨.decide user host, true⟩,
        ⟨.client host (Forwarding.pin site.routes host), .ok client⟩, ⟨.request client q, .ok a⟩,
        ⟨.respond ⟨a.status, Forwarding.responseHeaders a.headers, .passed body⟩, taken⟩,
        ⟨.mirror packet, ()⟩, ⟨.audit entry, ()⟩] ∧
      w.status = a.status ∧ w.body = .passed (body.take taken) ∧
      RelayTask.mirrored es = [packet] ∧ packet.traffic = .http ∧ packet.source = r.source ∧
      packet.destination = host ∧
      packet.payload = Text.bytes s!"{r.method} {r.target.path} {host} {a.status}\r\n\r\n" ++
        passed.take (min site.server.mirrorBodyLimit passed.length) ∧
      entries es = [entry] ∧
      entry = .request (some user) r.source host ⟨r.method, r.target.path, a.status⟩ .allowed ∧
      ∀ (σ : Type) (net : Network σ) (e : Engine) (s : σ), Gateway.Answered net (e, s) es →
        ∃ moment, (e.run net (task site status freshId (.request r)) s).2.1.mirror =
          e.mirror.map (·.enqueue ⟨moment, packet⟩) := by
  obtain ⟨token, user, host, w', tail, -, hhost, -, rfl, hconcludes, rfl⟩ := forwarded_of_run h ha
  obtain ⟨taken, rfl, rfl⟩ := records_of_concludes hconcludes
  refine ⟨token, user, host, taken, _, _, hhost, rfl, ?_, ?_, rfl, rfl, rfl, rfl, ?_, rfl, rfl, ?_⟩
  · rw [Site.tagged_status, WebResponse.sized_passed]
  · rw [Site.tagged_body, WebResponse.sized_passed]
    -- a request for the head alone has had no body to take from
    by_cases hhead : r.method = "HEAD"
    · simp [hhead]
    · simp [hhead]
  · rw [← List.take_take, List.take_length]
    rfl
  · intro σ net e s hanswered
    obtain ⟨os, hos, hmirror⟩ := Engine.mirror_run net h (e, s) hanswered
    obtain ⟨o, rfl, hpacket⟩ := List.map_eq_singleton_iff.1 hos
    refine ⟨o.moment, ?_⟩
    rw [← hpacket]
    exact hmirror

/-- A body that breaks off is recorded once, with the bytes that came before. -/
theorem recorded_of_broken :
    let hs : Headers := [.ofText "authorization" "Bearer t", .ofText targetHeader "api.internal"]
    let a : TargetAnswer := ⟨206, [], [.data [1, 2], .data [3, 4, 5], .broken]⟩
    let site : Site := { server := { mirrorBodyLimit := 4 } }
    ∃ es w client q packet,
      Runs (task site {} "id" (.request ⟨"GET", ⟨none, none, "/v1".toList⟩, hs, [], "c:1"⟩)) es (some w) ∧
      ⟨.request client q, .ok a⟩ ∈ es ∧ w.body = .passed [.data [1, 2], .data [3, 4, 5], .broken] ∧
      RelayTask.mirrored es = [packet] ∧
      packet.payload = Text.bytes "GET /v1 api.internal 206\r\n\r\n" ++ [1, 2, 3, 4] ∧
      (entries es).map (·.http) = [some ⟨"GET", "/v1", 206⟩] := by
  intro hs a site
  let r : WebRequest := ⟨"GET", ⟨none, none, "/v1".toList⟩, hs, [], "c:1"⟩
  have hpath : r.target.path ∉ Site.openPaths := by decide +kernel
  have htoken : bearerToken r.headers = some "t" := by decide +kernel
  have hhost : targetHost r.headers = .ok "api.internal" := target?_request_iff.1 (by decide +kernel)
  obtain ⟨es, w, hrun, ha, hrespond⟩ := exists_runs_of_answer site {} "id" hpath htoken hhost rfl
    ⟨"u1", "Una", "una@h", [], "user", []⟩ ⟨0, "api.internal", none⟩ a 3
  obtain ⟨token, user, host, taken, packet, entry, hhost', hes, -, hbody, hmirrored, -, -, -, hpayload, hentries,
    hentry, -⟩ := recorded_of_run hrun ha
  obtain rfl := Except.ok.inj (hhost.symm.trans hhost')
  obtain ⟨-, rfl⟩ : _ ∧ 3 = taken := by
    rw [hes] at hrespond
    simpa using hrespond
  refine ⟨es, w, _, _, packet, hrun, ha, hbody, hmirrored, ?_, ?_⟩
  · rw [hpayload]
    decide +kernel
  · have hpage : r.target.path = "/v1" := by decide +kernel
    rw [hentries, hentry, ← hpage]
    rfl

end TrafficUnit

end AccessGateway
