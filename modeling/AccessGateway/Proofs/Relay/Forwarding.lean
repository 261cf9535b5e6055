import AccessGateway.Proofs.Relay.Mediation

/-!
# Forwarded requests

A request that goes to its target takes one path: two verdicts, a client, the request itself, and then either the
entry of a failure or the answer passed on with its records (`forwarded_of_run`).  What goes out and what comes back
are therefore what `Forwarding` makes of the request and of the answer.  Read name by name, fields that are kept back
have no value on the other side, the security fields have the one value of the gateway, and every other name has all
of its values in their order (`hygiene_of_run`).
-/

namespace AccessGateway

open Dialogue

/-! ### Fields by name -/

namespace Headers

/-- The values of a name, in their order. -/
def values (hs : Headers) (name : String) : List (List UInt8) := (hs.filter (·.name == name)).map (·.value)

variable {hs : Headers} {name : String}

theorem values_append (hs hs' : Headers) (name : String) :
    values (hs ++ hs') name = values hs name ++ values hs' name := by
  rw [values, List.filter_append, List.map_append, ← values, ← values]

theorem values_singleton_self (f : HeaderField) : values [f] f.name = [f.value] := by
  simp [values]

theorem values_singleton_of_ne {f : HeaderField} (h : name ≠ f.name) : values [f] name = [] := by
  simp [values, Ne.symm h]

theorem values_without_of_mem {names : List String} (h : name ∈ names) (hs : Headers) :
    values (hs.without names) name = [] := by
  rw [values, List.map_eq_nil_iff, List.filter_eq_nil_iff]
  intro f hf hname
  have hkept := (List.mem_filter.1 hf).2
  rw [beq_iff_eq] at hname
  simp [hname, h] at hkept

theorem values_without_of_not_mem {names : List String} (h : name ∉ names) (hs : Headers) :
    values (hs.without names) name = values hs name := by
  rw [values, without, List.filter_filter, values]
  congr 1
  apply List.filter_congr
  intro f hf
  by_cases hname : f.name = name
  · simp [hname, h]
  · simp [hname]

theorem values_replace_self (hs : Headers) (f : HeaderField) : values (hs.replace f) f.name = [f.value] := by
  rw [replace, values_append, values_without_of_mem (List.mem_singleton_self _), values_singleton_self, List.nil_append]

theorem values_replace_of_ne {f : HeaderField} (h : name ≠ f.name) (hs : Headers) :
    values (hs.replace f) name = values hs name := by
  have hmem : name ∉ [f.name] := by simpa using h
  rw [replace, values_append, values_without_of_not_mem hmem, values_singleton_of_ne h, List.append_nil]

/-- Replacing fields one by one leaves the values of other names. -/
theorem values_foldl_replace_of_ne {fs : List HeaderField} (h : ∀ f ∈ fs, name ≠ f.name) (hs : Headers) :
    values (fs.foldl replace hs) name = values hs name := by
  induction fs generalizing hs with
  | nil => rfl
  | cons f fs ih =>
    rw [List.foldl_cons, ih (fun f' hf' => h f' (List.mem_cons_of_mem f hf')),
      values_replace_of_ne (h f List.mem_cons_self)]

/-- Fields of different names that replace others are there once each. -/
theorem values_foldl_replace_of_mem {fs : List HeaderField} (hnames : (fs.map (·.name)).Nodup) {f : HeaderField}
    (hf : f ∈ fs) (hs : Headers) : values (fs.foldl replace hs) f.name = [f.value] := by
  induction fs generalizing hs with
  | nil => cases hf
  | cons f' fs ih =>
    rw [List.map_cons, List.nodup_cons] at hnames
    rw [List.foldl_cons]
    rcases List.mem_cons.1 hf with rfl | hf
    · have hothers : ∀ f' ∈ fs, f.name ≠ f'.name := by
        intro f' hf' hname
        exact hnames.1 (hname ▸ List.mem_map_of_mem hf')
      rw [values_foldl_replace_of_ne hothers, values_replace_self]
    · exact ih hnames.2 hf _

end Headers

namespace Forwarding

variable {hs : Headers} {name : String}

theorem values_requestHeaders_of_mem (h : name ∈ keptBack) (hs : Headers) : (requestHeaders hs).values name = [] :=
  Headers.values_without_of_mem h hs

theorem values_requestHeaders_of_not_mem (h : name ∉ keptBack) (hs : Headers) :
    (requestHeaders hs).values name = hs.values name :=
  Headers.values_without_of_not_mem h hs

theorem values_responseHeaders_of_security {f : HeaderField} (h : f ∈ securityFields) (hs : Headers) :
    (responseHeaders hs).values f.name = [f.value] :=
  Headers.values_foldl_replace_of_mem (by decide) h _

theorem values_responseHeaders_of_mem (h : name ∈ hopByHop ∨ name = "content-length") (hs : Headers) :
    (responseHeaders hs).values name = [] := by
  have hmem : name ∈ hopByHop ++ ["content-length"] := by simpa using h
  have hothers : ∀ f ∈ securityFields, name ≠ f.name := by
    rintro f hf rfl
    revert f
    decide
  rw [responseHeaders, Headers.values_foldl_replace_of_ne hothers, Headers.values_without_of_mem hmem]

theorem values_responseHeaders_of_not_mem (h : ¬ (name ∈ hopByHop ∨ name = "content-length"))
    (hsecurity : ∀ f ∈ securityFields, name ≠ f.name) (hs : Headers) :
    (responseHeaders hs).values name = hs.values name := by
  have hmem : name ∉ hopByHop ++ ["content-length"] := by simpa using h
  rw [responseHeaders, Headers.values_foldl_replace_of_ne hsecurity, Headers.values_without_of_not_mem hmem]

theorem request?_eq_some_iff {c : ServerConfig} {host : String} {r : WebRequest} {q : TargetRequest} :
    request? c host r = some q ↔ r.body.length ≤ c.maxBodySize ∧
      q = ⟨r.method, address c.targetScheme host r.target, requestHeaders r.headers, r.body⟩ := by
  unfold request?
  split
  · rename_i hlong
    constructor
    · exact nofun
    · rintro ⟨hshort, -⟩
      omega
  · rename_i hshort
    rw [Option.some.injEq, eq_comm, and_iff_right (Nat.le_of_not_lt hshort)]

end Forwarding

/-! ### The path of a request -/

namespace RelayTask

/-- What a request to a target comes to: the entry of a failure, or an answer that is passed on, mirrored and logged. -/
inductive Concludes (c : ServerConfig) (user : User) (host : String) (r : WebRequest) :
    Except FetchError TargetAnswer → List RelayExchange → WebResponse → Prop where
  | failed (e : FetchError) :
      Concludes c user host r (.error e)
        [⟨.audit (.request (some user) r.source host (summary r 502) .allowed), ()⟩]
        (failureResponse (.targetUnavailable host e.message))
  | answered (a : TargetAnswer) (taken : Nat) :
      Concludes c user host r (.ok a)
        [⟨.respond ⟨a.status, Forwarding.responseHeaders a.headers, .passed (offered r a)⟩, taken⟩,
          ⟨.mirror (.exchange r.source host s!"{r.method} {r.target.path} {host}" a.status
            (Forwarding.captured c.mirrorBodyLimit ((offered r a).take taken))), ()⟩,
          ⟨.audit (.request (some user) r.source host (summary r a.status) .allowed), ()⟩]
        ⟨a.status, Forwarding.responseHeaders a.headers, .passed ((offered r a).take taken)⟩

variable {c : ServerConfig} {routes : RouteTable} {user : User} {host : String} {r : WebRequest}
  {es : List RelayExchange} {w : WebResponse} {client : TargetClient} {q : TargetRequest}
  {answer : Except FetchError TargetAnswer}

private theorem runs_log {entry : AccessEntry} {w' : WebResponse}
    (h : Runs ((ask (.audit entry)).bind fun _ => .done w') es w) : es = [⟨.audit entry, ()⟩] ∧ w = w' := by
  obtain ⟨_, es₁, rfl, hdone⟩ := runs_call_bind_iff.1 h
  obtain ⟨rfl, rfl⟩ := runs_done_iff.1 hdone
  exact ⟨rfl, rfl⟩

/-- Without a client, or with a body that is too long, no request is sent. -/
private theorem runs_send {result : Except Failure TargetAnswer} (h : Runs (send c routes host r) es result) :
    (∀ client q answer, ⟨.request client q, answer⟩ ∉ es) ∧ (∃ f, result = .error f) ∨
      ∃ client q answer, Forwarding.request? c host r = some q ∧
        es = [⟨.client host (Forwarding.pin routes host), .ok client⟩, ⟨.request client q, answer⟩] ∧
        result = answer.mapError fun e => .targetUnavailable host e.message := by
  obtain ⟨got, es₁, rfl, h₁⟩ := runs_call_bind_iff.1 h
  rcases got with f | client
  · obtain ⟨rfl, rfl⟩ := runs_done_iff.1 h₁
    exact .inl ⟨by simp, f, rfl⟩
  · dsimp only at h₁
    split at h₁
    · obtain ⟨rfl, rfl⟩ := runs_done_iff.1 h₁
      exact .inl ⟨by simp, _, rfl⟩
    · rename_i q hq
      obtain ⟨answer, es₂, rfl, h₂⟩ := runs_call_bind_iff.1 h₁
      refine .inr ⟨client, q, answer, hq, ?_⟩
      rcases answer with e | a
      · obtain ⟨rfl, rfl⟩ := runs_done_iff.1 h₂
        exact ⟨rfl, rfl⟩
      · obtain ⟨rfl, rfl⟩ := runs_done_iff.1 h₂
        exact ⟨rfl, rfl⟩

private theorem runs_passOn {a : TargetAnswer} (h : Runs (passOn c user host r a) es w) :
    Concludes c user host r (.ok a) es w := by
  obtain ⟨taken, es₁, rfl, h₁⟩ := runs_call_bind_iff.1 h
  obtain ⟨_, es₂, rfl, h₂⟩ := runs_call_bind_iff.1 h₁
  obtain ⟨rfl, rfl⟩ := runs_log h₂
  exact .answered a taken

theorem concludes_of_runs_forward (h : Runs (forward c routes user r) es w)
    (hq : ⟨.request client q, answer⟩ ∈ es) :
    ∃ host tail, targetHost r.headers = .ok host ∧ Forwarding.request? c host r = some q ∧
      es = ⟨.decide user host, true⟩ :: ⟨.client host (Forwarding.pin routes host), .ok client⟩ ::
        ⟨.request client q, answer⟩ :: tail ∧
      Concludes c user host r answer tail w := by
  unfold forward at h
  dsimp only at h
  cases hhost : targetHost r.headers with
  | error f =>
    rw [hhost] at h
    dsimp only at h
    split at h
    · obtain ⟨rfl, -⟩ := runs_log h
      simp at hq
    · obtain ⟨rfl, -⟩ := runs_done_iff.1 h
      cases hq
  | ok host =>
    rw [hhost] at h
    obtain ⟨es₁, es₂, verdict, rfl, h₁, h₂⟩ := runs_bind_iff.1 h
    rcases TrafficUnit.runs_authorize h₁ with ⟨rfl, rfl⟩ | ⟨rfl, f, rfl⟩
    · obtain ⟨es₃, es₄, result, rfl, h₃, h₄⟩ := runs_bind_iff.1 h₂
      rcases runs_send h₃ with ⟨hnot, f, rfl⟩ | ⟨client', q', answer', hrequest, rfl, rfl⟩
      · obtain ⟨rfl, -⟩ := runs_log h₄
        simp [hnot] at hq
      · have hconcludes : Concludes c user host r answer' es₄ w := by
          rcases answer' with e | a
          · obtain ⟨rfl, rfl⟩ := runs_log h₄
            exact .failed e
          · exact runs_passOn h₄
        have htail : ∀ client q answer, ⟨.request client q, answer⟩ ∉ es₄ := by
          cases hconcludes <;> simp
        simp only [List.cons_append, List.nil_append, List.mem_cons] at hq
        obtain hq | hq | hq | hq := hq
        · cases hq
        · cases hq
        · cases hq
          exact ⟨host, es₄, rfl, hrequest, rfl, hconcludes⟩
        · exact absurd hq (htail client q answer)
    · obtain ⟨rfl, -⟩ := runs_log h₂
      simp at hq

end RelayTask

namespace TrafficUnit

variable {site : Site} {status : GatewayStatus} {freshId : String} {r : WebRequest} {es : List RelayExchange}
  {w : WebResponse} {client : TargetClient} {q : TargetRequest} {answer : Except FetchError TargetAnswer}

/-- The whole path of a request that goes to its target. -/
theorem forwarded_of_run (h : Runs (task site status freshId (.request r)) es (some w))
    (hq : ⟨.request client q, answer⟩ ∈ es) :
    ∃ token user host w' tail, bearerToken r.headers = some token ∧ targetHost r.headers = .ok host ∧
      Forwarding.request? site.server host (Site.identified freshId r) = some q ∧
      es = ⟨.validate token, .ok user⟩ :: ⟨.decide user host, true⟩ ::
        ⟨.client host (Forwarding.pin site.routes host), .ok client⟩ :: ⟨.request client q, answer⟩ :: tail ∧
      RelayTask.Concludes site.server user host (Site.identified freshId r) answer tail w' ∧
      w = Site.tagged (Site.identified freshId r) (w'.sized (r.method = "HEAD")) := by
  obtain ⟨es₁, es₂, w₁, rfl, h₁, h₂⟩ := runs_bind_iff.1 h
  obtain ⟨rfl, hw⟩ := runs_done_iff.1 h₂
  obtain rfl := Option.some.inj hw
  rw [List.append_nil] at hq ⊢
  unfold Site.respond at h₁
  dsimp only at h₁
  rw [Site.identified_method] at h₁
  split at h₁
  · -- an open page makes no call
    obtain ⟨rfl, -⟩ := runs_done_iff.1 h₁
    cases hq
  · obtain ⟨es₃, es₄, w₂, rfl, h₃, h₄⟩ := runs_bind_iff.1 h₁
    obtain ⟨rfl, rfl⟩ := runs_done_iff.1 h₄
    rw [List.append_nil] at hq ⊢
    unfold Site.guarded Site.userOf at h₃
    rw [Site.bearerToken_identified] at h₃
    cases htoken : bearerToken r.headers with
    | none =>
      rw [htoken] at h₃
      obtain ⟨_, es₅, rfl, h₅⟩ := runs_call_bind_iff.1 h₃
      obtain ⟨rfl, -⟩ := runs_done_iff.1 h₅
      simp at hq
    | some token =>
      rw [htoken] at h₃
      obtain ⟨verdict, es₅, rfl, h₅⟩ := runs_call_bind_iff.1 h₃
      rcases verdict with e | user
      · obtain ⟨_, es₆, rfl, h₆⟩ := runs_call_bind_iff.1 h₅
        obtain ⟨rfl, -⟩ := runs_done_iff.1 h₆
        simp at hq
      · have hforward : ⟨.request client q, answer⟩ ∈ es₅ := by simpa using hq
        obtain ⟨host, tail, hhost, hrequest, rfl, hconcludes⟩ := RelayTask.concludes_of_runs_forward h₅ hforward
        rw [Site.targetHost_identified] at hhost
        exact ⟨token, user, host, w₂, tail, rfl, hhost, hrequest, rfl, hconcludes, rfl⟩

/-- Every answer of a target occurs, and every point at which a client may leave off. -/
theorem exists_runs_of_answer (site : Site) (status : GatewayStatus) (freshId : String) {token host : String}
    (hpath : r.target.path ∉ Site.openPaths) (htoken : bearerToken r.headers = some token)
    (hhost : targetHost r.headers = .ok host)
    (hq : Forwarding.request? site.server host (Site.identified freshId r) = some q) (user : User)
    (client : TargetClient) (a : TargetAnswer) (taken : Nat) :
    ∃ es w, Runs (task site status freshId (.request r)) es (some w) ∧ ⟨.request client q, .ok a⟩ ∈ es ∧
      ⟨.respond ⟨a.status, Forwarding.responseHeaders a.headers,
        .passed (RelayTask.offered (Site.identified freshId r) a)⟩, taken⟩ ∈ es := by
  have hsend : Runs (RelayTask.send site.server site.routes host (Site.identified freshId r))
      [⟨.client host (Forwarding.pin site.routes host), .ok client⟩, ⟨.request client q, .ok a⟩] (.ok a) := by
    refine runs_call_bind_iff.2 ⟨.ok client, _, rfl, ?_⟩
    dsimp only
    rw [hq]
    exact runs_call_bind_iff.2 ⟨.ok a, _, rfl, .done _⟩
  have hpassOn : ∃ es w, Runs (RelayTask.passOn site.server user host (Site.identified freshId r) a) es w ∧
      ⟨.respond ⟨a.status, Forwarding.responseHeaders a.headers,
        .passed (RelayTask.offered (Site.identified freshId r) a)⟩, taken⟩ ∈ es :=
    ⟨_, _, .ask taken (.ask () (.ask () (.done _))), List.mem_cons_self⟩
  obtain ⟨es, w, hpassOn, htaken⟩ := hpassOn
  have hforward : Runs (RelayTask.forward site.server site.routes user (Site.identified freshId r))
      (⟨.decide user host, true⟩ :: ([⟨.client host (Forwarding.pin site.routes host), .ok client⟩,
        ⟨.request client q, .ok a⟩] ++ es)) w := by
    unfold RelayTask.forward
    rw [Site.targetHost_identified, hhost]
    have hverdict : Runs (RelayTask.authorize user host) [⟨.decide user host, true⟩] (.ok ()) :=
      runs_call_bind_iff.2 ⟨true, _, rfl, .done _⟩
    refine runs_bind_iff.2 ⟨_, _, .ok (), rfl, hverdict, ?_⟩
    exact runs_bind_iff.2 ⟨_, es, .ok a, rfl, hsend, hpassOn⟩
  obtain ⟨w', hrun⟩ := runs_of_forward hpath htoken hforward status
  exact ⟨_, w', hrun, by simp, by simp [htaken]⟩

end TrafficUnit

/-! ### What passes -/

theorem WebResponse.sized_passed (headOnly : Bool) (status : Nat) (hs : Headers) (chunks : List BodyChunk) :
    sized headOnly ⟨status, hs, .passed chunks⟩ = ⟨status, hs, .passed (if headOnly then [] else chunks)⟩ := by
  cases headOnly <;> rfl

namespace Site

variable {name : String}

theorem values_identified_of_ne (h : name ≠ idHeader) (freshId : String) (r : WebRequest) :
    (identified freshId r).headers.values name = r.headers.values name := by
  unfold identified
  split
  · rfl
  · have hne : name ≠ (HeaderField.ofText idHeader freshId).name := h
    dsimp only
    rw [Headers.values_append, Headers.values_singleton_of_ne hne, List.append_nil]

theorem values_tagged_of_ne (h : name ≠ idHeader) (r : WebRequest) (w : WebResponse) :
    (tagged r w).headers.values name = w.headers.values name := by
  unfold tagged
  split
  · rename_i id hnone hid
    have hname : id.name = idHeader := by simpa using List.find?_some hid
    have hne : name ≠ id.name := by rwa [hname]
    rw [WebResponse.withHeader, Headers.values_append, Headers.values_singleton_of_ne hne, List.append_nil]
  · rfl

end Site

namespace TrafficUnit

/-- What goes to a target is the request itself, with the fields that are kept back left out, and only if its body is
within the limit.  What comes back has the fields of the answer without those of one hop and the length of the body,
and the security fields of the gateway in place of any others.  All values of every other name pass in their order. -/
theorem hygiene_of_run (site : Site) (status : GatewayStatus) (freshId : String) (r : WebRequest)
    {es : List RelayExchange} {w : WebResponse} (h : Runs (task site status freshId (.request r)) es (some w)) :
    (∀ client q answer, ⟨.request client q, answer⟩ ∈ es →
      q.method = r.method ∧ q.body = r.body ∧
        ∀ name, q.headers.values name =
          if name ∈ Forwarding.hopByHop ∨ name = "host" ∨ name = "authorization" ∨ name = "content-length" ∨
              name = "x-target-host"
          then [] else (Site.identified freshId r).headers.values name) ∧
      (∀ name, name ≠ Site.idHeader → (Site.identified freshId r).headers.values name = r.headers.values name) ∧
      (site.server.maxBodySize < r.body.length → ∀ client q answer, ⟨.request client q, answer⟩ ∉ es) ∧
      ∀ client q a, ⟨.request client q, .ok a⟩ ∈ es → ∃ w' taken, ⟨.respond w', taken⟩ ∈ es ∧
        w'.headers.values "x-frame-options" = [Text.bytes "DENY"] ∧
        w'.headers.values "x-content-type-options" = [Text.bytes "nosniff"] ∧
        w'.headers.values "x-xss-protection" = [Text.bytes "1; mode=block"] ∧
        (∀ name ∉ ["x-frame-options", "x-content-type-options", "x-xss-protection"],
          w'.headers.values name =
            if name ∈ Forwarding.hopByHop ∨ name = "content-length" then [] else a.headers.values name) ∧
        ∀ name, name ≠ Site.idHeader → w.headers.values name = w'.headers.values name := by
  refine ⟨?_, fun name hname => Site.values_identified_of_ne hname freshId r, ?_, ?_⟩
  · intro client q answer hq
    obtain ⟨token, user, host, w', tail, -, -, hrequest, -, -, -⟩ := forwarded_of_run h hq
    obtain ⟨-, rfl⟩ := Forwarding.request?_eq_some_iff.1 hrequest
    refine ⟨Site.identified_method freshId r, Site.identified_body freshId r, fun name => ?_⟩
    have hkept : name ∈ Forwarding.keptBack ↔ name ∈ Forwarding.hopByHop ∨ name = "host" ∨ name = "authorization" ∨
        name = "content-length" ∨ name = "x-target-host" := by
      simp [Forwarding.keptBack, targetHeader]
    split
    · rename_i hmem
      exact Forwarding.values_requestHeaders_of_mem (hkept.2 hmem) _
    · rename_i hmem
      exact Forwarding.values_requestHeaders_of_not_mem (mt hkept.1 hmem) _
  · intro hlong client q answer hq
    obtain ⟨token, user, host, w', tail, -, -, hrequest, -, -, -⟩ := forwarded_of_run h hq
    obtain ⟨hshort, -⟩ := Forwarding.request?_eq_some_iff.1 hrequest
    rw [Site.identified_body] at hshort
    omega
  · intro client q a hq
    obtain ⟨token, user, host, w', tail, -, -, -, rfl, hconcludes, rfl⟩ := forwarded_of_run h hq
    cases hconcludes with
    | answered a taken =>
      have hsecurity : ∀ f ∈ Forwarding.securityFields,
          (Forwarding.responseHeaders a.headers).values f.name = [f.value] :=
        fun f hf => Forwarding.values_responseHeaders_of_security hf a.headers
      refine ⟨⟨a.status, Forwarding.responseHeaders a.headers,
        .passed (RelayTask.offered (Site.identified freshId r) a)⟩, taken, by simp, ?_, ?_, ?_, ?_, ?_⟩
      · exact hsecurity (.ofText "x-frame-options" "DENY") (by simp [Forwarding.securityFields])
      · exact hsecurity (.ofText "x-content-type-options" "nosniff") (by simp [Forwarding.securityFields])
      · exact hsecurity (.ofText "x-xss-protection" "1; mode=block") (by simp [Forwarding.securityFields])
      · intro name hname
        split
        · rename_i hhop
          exact Forwarding.values_responseHeaders_of_mem hhop _
        · rename_i hhop
          refine Forwarding.values_responseHeaders_of_not_mem hhop ?_ _
          rintro f hf rfl
          have hmem : f.name ∈ Forwarding.securityFields.map (·.name) := List.mem_map_of_mem hf
          exact hname hmem
      · intro name hname
        rw [Site.values_tagged_of_ne hname, WebResponse.sized_passed]

/-- Cookies pass both ways, credentials and a name for the target do not, and two policies on frames become one. -/
theorem hygiene_of_cookies :
    let hs : Headers := [.ofText "cookie" "a=1", .ofText "authorization" "Bearer t",
      .ofText targetHeader "api.internal", .ofText "te" "trailers", .ofText "cookie" "b=2"]
    let a : TargetAnswer := ⟨200, [.ofText "set-cookie" "c=3", .ofText "x-frame-options" "ALLOWALL",
      .ofText "content-length" "7", .ofText "set-cookie" "d=4", .ofText "x-frame-options" "SAMEORIGIN"], []⟩
    let client : TargetClient := ⟨0, "api.internal", none⟩
    ∃ es w q, Runs (task {} {} "id" (.request ⟨"GET", ⟨none, none, "/v1".toList⟩, hs, [], "c:1"⟩)) es (some w) ∧
      ⟨.request client q, .ok a⟩ ∈ es ∧
      q.headers.values "cookie" = [Text.bytes "a=1", Text.bytes "b=2"] ∧
      q.headers.values "authorization" = [] ∧ q.headers.values targetHeader = [] ∧ q.headers.values "te" = [] ∧
      w.headers.values "set-cookie" = [Text.bytes "c=3", Text.bytes "d=4"] ∧
      w.headers.values "content-length" = [] ∧ w.headers.values "x-frame-options" = [Text.bytes "DENY"] := by
  intro hs a client
  let r : WebRequest := ⟨"GET", ⟨none, none, "/v1".toList⟩, hs, [], "c:1"⟩
  have hpath : r.target.path ∉ Site.openPaths := by decide +kernel
  have htoken : bearerToken r.headers = some "t" := by decide +kernel
  have hhost : targetHost r.headers = .ok "api.internal" := target?_request_iff.1 (by decide +kernel)
  obtain ⟨es, w, hrun, hq, -⟩ := exists_runs_of_answer {} {} "id" hpath htoken hhost rfl
    ⟨"u1", "Una", "una@h", [], "user", []⟩ client a 0
  obtain ⟨hsent, hidentified, -, hgiven⟩ := hygiene_of_run {} {} "id" r hrun
  obtain ⟨-, -, hfields⟩ := hsent _ _ _ hq
  obtain ⟨w', taken, -, hframe, -, -, hothers, hkept⟩ := hgiven _ _ _ hq
  refine ⟨es, w, _, hrun, hq, ?_, ?_, ?_, ?_, ?_, ?_, ?_⟩
  · rw [hfields, if_neg (by decide), hidentified _ (by decide)]
    decide +kernel
  · rw [hfields, if_pos (by decide)]
  · rw [hfields, if_pos (by decide)]
  · rw [hfields, if_pos (by decide)]
  · rw [hkept _ (by decide), hothers _ (by decide), if_neg (by decide)]
    decide +kernel
  · rw [hkept _ (by decide), hothers _ (by decide), if_pos (by decide)]
  · rw [hkept _ (by decide), hframe]

end TrafficUnit

end AccessGateway
