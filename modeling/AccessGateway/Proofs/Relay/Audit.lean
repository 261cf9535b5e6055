import AccessGateway.Gateway.Engine
import AccessGateway.Proofs.Relay.Mediation

/-!
# The entry of a unit of traffic

A unit asks for its verdicts, then makes calls that are neither verdicts nor entries, and writes its one entry at the
end (`Audited`). What the entry says is fixed by the verdicts alone (`describes_of_audited`). Two kinds of units leave
without an entry: a stream whose preamble does not come in time, and a request of a known user that names no target.
-/

namespace AccessGateway

open Dialogue

/-- The entry a call hands to the log. -/
def RelayCall.logged? : RelayCall → Option AccessEntry
  | .audit entry => some entry
  | _ => none

namespace TrafficUnit

/-- The entries that exchanges hand to the log, in order. -/
def entries (es : List RelayExchange) : List AccessEntry := es.filterMap fun e => e.call.logged?

/-- The token of a unit was found to be that of a user. -/
def Authenticated (u : TrafficUnit) (user : User) (es : List RelayExchange) : Prop :=
  ∃ token, u.token? = some token ∧ ⟨.validate token, .ok user⟩ ∈ es

/-- What an entry says agrees with the verdicts on its unit. -/
structure Describes (u : TrafficUnit) (es : List RelayExchange) (entry : AccessEntry) : Prop where
  allowed_iff : entry.isAllowed ↔ ∃ target, Admitted u target es
  transfer_of_denied : ¬ entry.isAllowed → entry.transfer = {}
  names_of_user : ∀ user, Authenticated u user es → entry.userId = user.id ∧ entry.userName = user.displayName
  names_of_nobody : (∀ user, ¬ Authenticated u user es) → entry.userId = "" ∧ entry.userName = ""

/-- The units that leave without an entry. -/
def Unrecorded : TrafficUnit → List RelayExchange → Prop
  | .request r, es => targetHost r.headers = .error .missingTarget ∧ ∃ user, Authenticated (.request r) user es
  | .stream _ .tooSlow, _ => True
  | .stream _ (.inTime _), _ | .datagram _ _, _ => False

/-- What the verdicts on a unit come to: the user that was found, and whether the unit is let through. -/
inductive Decides (u : TrafficUnit) : List RelayExchange → Option User → Bool → Prop where
  | unread (htoken : u.token? = none) : Decides u [] none false
  | rejected {token : String} (htoken : u.token? = some token) (e : TokenError) :
      Decides u [⟨.validate token, .error e⟩] none false
  | misdirected {token : String} (htoken : u.token? = some token)
      (hnamed : ∀ r, u = .request r → targetHost r.headers ≠ .error .missingTarget) (user : User) :
      Decides u [⟨.validate token, .ok user⟩] (some user) false
  | refused {token target : String} (htoken : u.token? = some token) (htarget : u.target? = some target)
      (user : User) : Decides u [⟨.validate token, .ok user⟩, ⟨.decide user target, false⟩] (some user) false
  | admitted {token target : String} (htoken : u.token? = some token) (htarget : u.target? = some target)
      (user : User) : Decides u [⟨.validate token, .ok user⟩, ⟨.decide user target, true⟩] (some user) true

/-- An entry has the names of a user, or empty ones, and nothing was transferred unless the unit was let through. -/
structure Tells (user : Option User) (allowed : Bool) (entry : AccessEntry) : Prop where
  userId_eq : entry.userId = (user.map User.id).getD ""
  userName_eq : entry.userName = (user.map User.displayName).getD ""
  isAllowed_eq : entry.isAllowed = allowed
  transfer_of_denied : allowed = false → entry.transfer = {}

/-- No exchange is a verdict or an entry. -/
def Quiet (es : List RelayExchange) : Prop := ∀ e ∈ es, ¬ IsVerdict e.call

/-- The verdicts, what is done with them, and the one entry about them. -/
def Audited (u : TrafficUnit) (es : List RelayExchange) : Prop :=
  ∃ verdicts work user allowed entry, es = verdicts ++ (work ++ [⟨.audit entry, ()⟩]) ∧
    Decides u verdicts user allowed ∧ Quiet work ∧ Tells user allowed entry

variable {u : TrafficUnit} {es verdicts work : List RelayExchange} {entry : AccessEntry} {user : Option User}
  {allowed : Bool} {token target source : String}

/-! ### What an entry says -/

private theorem tells_denied (hid : entry.userId = (user.map User.id).getD "")
    (hname : entry.userName = (user.map User.displayName).getD "") (hdenied : entry.isAllowed = false)
    (htransfer : entry.transfer = {}) : Tells user false entry :=
  ⟨hid, hname, hdenied, fun _ => htransfer⟩

private theorem tells_allowed (hid : entry.userId = (user.map User.id).getD "")
    (hname : entry.userName = (user.map User.displayName).getD "") (hallowed : entry.isAllowed = true) :
    Tells user true entry :=
  ⟨hid, hname, hallowed, fun h => absurd h Bool.noConfusion⟩

private theorem mem_verdicts {e : RelayExchange} (he : e ∈ verdicts ++ (work ++ [⟨.audit entry, ()⟩]))
    (hwork : Quiet work) (hverdict : IsVerdict e.call) (hentry : e.call.logged? = none) : e ∈ verdicts := by
  rcases List.mem_append.1 he with he | he
  · exact he
  · rcases List.mem_append.1 he with he | he
    · exact absurd hverdict (hwork e he)
    · rw [List.mem_singleton.1 he] at hentry
      cases hentry

private theorem authenticated_iff (hdecides : Decides u verdicts user allowed) (hwork : Quiet work) {user' : User} :
    Authenticated u user' (verdicts ++ (work ++ [⟨.audit entry, ()⟩])) ↔ user = some user' := by
  constructor
  · rintro ⟨token', htoken', he⟩
    have hmem := mem_verdicts he hwork trivial rfl
    -- only the last three shapes hold a token that was found good, and each holds one
    cases hdecides with
    | unread htoken => cases hmem
    | rejected htoken e =>
      rw [List.mem_singleton] at hmem
      cases hmem
    | misdirected htoken hnamed user =>
      rw [List.mem_singleton] at hmem
      cases hmem
      rfl
    | refused htoken htarget user | admitted htoken htarget user =>
      rw [List.mem_cons, List.mem_singleton] at hmem
      rcases hmem with hmem | hmem
      · cases hmem
        rfl
      · cases hmem
  · rintro rfl
    cases hdecides with
    | misdirected htoken | refused htoken | admitted htoken => exact ⟨_, htoken, by simp⟩

private theorem admitted_iff (hdecides : Decides u verdicts user allowed) (hwork : Quiet work) :
    (∃ target, Admitted u target (verdicts ++ (work ++ [⟨.audit entry, ()⟩]))) ↔ allowed = true := by
  constructor
  · rintro ⟨target', -, token', user', before, between, after, -, hes⟩
    have he : (⟨.decide user' target', true⟩ : RelayExchange) ∈ verdicts ++ (work ++ [⟨.audit entry, ()⟩]) := by
      rw [hes]
      simp
    have hmem := mem_verdicts he hwork trivial rfl
    cases hdecides with
    | unread htoken => cases hmem
    | rejected htoken e | misdirected htoken hnamed user =>
      rw [List.mem_singleton] at hmem
      cases hmem
    | refused htoken htarget user =>
      rw [List.mem_cons, List.mem_singleton] at hmem
      rcases hmem with hmem | hmem <;> cases hmem
    | admitted htoken htarget user => rfl
  · rintro rfl
    cases hdecides with
    | admitted htoken htarget user => exact ⟨_, htarget, _, user, [], [], _, htoken, rfl⟩

theorem entries_cons (e : RelayExchange) (es : List RelayExchange) :
    entries (e :: es) = e.call.logged?.toList ++ entries es := by
  cases hentry : e.call.logged? with
  | none => exact List.filterMap_cons_none hentry
  | some entry => exact List.filterMap_cons_some hentry

theorem entries_append (es es' : List RelayExchange) : entries (es ++ es') = entries es ++ entries es' :=
  List.filterMap_append

theorem entries_of_quiet (h : Quiet es) : entries es = [] := by
  rw [entries, List.filterMap_eq_nil_iff]
  intro e he
  have hquiet := h e he
  cases hcall : e.call with
  | audit entry =>
    rw [hcall] at hquiet
    exact absurd trivial hquiet
  | _ => rfl

theorem entries_of_decides (h : Decides u verdicts user allowed) : entries verdicts = [] := by
  cases h <;> rfl

/-- A unit that ends with an entry has no other, and the entry agrees with the verdicts. -/
theorem describes_of_audited (h : Audited u es) : ∃ entry, entries es = [entry] ∧ Describes u es entry := by
  obtain ⟨verdicts, work, user, allowed, entry, rfl, hdecides, hwork, htells⟩ := h
  refine ⟨entry, ?_, ?_, ?_, ?_, ?_⟩
  · rw [entries_append, entries_append, entries_of_decides hdecides, entries_of_quiet hwork]
    rfl
  · rw [admitted_iff hdecides hwork, htells.isAllowed_eq]
  · intro hdenied
    rw [htells.isAllowed_eq, Bool.not_eq_true] at hdenied
    exact htells.transfer_of_denied hdenied
  · intro user' hauthenticated
    obtain rfl := (authenticated_iff hdecides hwork).1 hauthenticated
    exact ⟨htells.userId_eq, htells.userName_eq⟩
  · intro hnobody
    cases user with
    | none => exact ⟨htells.userId_eq, htells.userName_eq⟩
    | some user' => exact absurd ((authenticated_iff hdecides hwork).2 rfl) (hnobody user')

/-- A request that ends with an entry names a target or was not authenticated. -/
private theorem not_unrecorded_of_audited {r : WebRequest} (h : Audited (.request r) es) :
    ¬ Unrecorded (.request r) es := by
  rintro ⟨hmissing, user', hauthenticated⟩
  obtain ⟨verdicts, work, user, allowed, entry, rfl, hdecides, hwork, -⟩ := h
  obtain rfl := (authenticated_iff hdecides hwork).1 hauthenticated
  cases hdecides with
  | misdirected htoken hnamed => exact hnamed r rfl hmissing
  | refused htoken htarget | admitted htoken htarget =>
    rw [target?, hmissing] at htarget
    cases htarget

/-! ### Verdicts -/

private theorem decides_of_authenticate (htoken : u.token? = some token) (htarget : u.target? = some target)
    {result : Except RelayTask.Refusal User} (h : Runs (RelayTask.authenticate token target) es result) :
    (∃ refusal, result = .error refusal ∧ Decides u es refusal.user false) ∨
      ∃ user, result = .ok user ∧ Decides u es (some user) true := by
  obtain ⟨answer, es', rfl, hnext⟩ := runs_call_bind_iff.1 h
  rcases answer with e | user
  · obtain ⟨rfl, rfl⟩ := runs_done_iff.1 hnext
    exact .inl ⟨_, rfl, .rejected htoken e⟩
  · obtain ⟨es₁, es₂, answer, rfl, h₁, h₂⟩ := runs_bind_iff.1 hnext
    rcases runs_authorize h₁ with ⟨rfl, rfl⟩ | ⟨rfl, f, rfl⟩
    · obtain ⟨rfl, rfl⟩ := runs_done_iff.1 h₂
      exact .inr ⟨user, rfl, .admitted htoken htarget user⟩
    · obtain ⟨rfl, rfl⟩ := runs_done_iff.1 h₂
      exact .inl ⟨_, rfl, .refused htoken htarget user⟩

private theorem audited_of_audit_bind {α : Type} {w result : α} (hdecides : Decides u verdicts user allowed)
    (hwork : Quiet work) (htells : Tells user allowed entry)
    (h : Runs ((RelayTask.ask (.audit entry)).bind fun _ => .done w) es result) :
    Audited u (verdicts ++ (work ++ es)) := by
  obtain ⟨answer, es', rfl, hdone⟩ := runs_call_bind_iff.1 h
  obtain ⟨rfl, -⟩ := runs_done_iff.1 hdone
  exact ⟨verdicts, work, user, allowed, entry, rfl, hdecides, hwork, htells⟩

private theorem audited_of_audit {result : Unit} (hdecides : Decides u verdicts user allowed) (hwork : Quiet work)
    (htells : Tells user allowed entry) (h : Runs (RelayTask.ask (.audit entry)) es result) :
    Audited u (verdicts ++ (work ++ es)) := by
  rw [← bind_done (RelayTask.ask _)] at h
  exact audited_of_audit_bind (w := ()) hdecides hwork htells h

theorem quiet_nil : Quiet [] := by
  intro e he
  cases he

theorem Quiet.append {es' : List RelayExchange} (h : Quiet es) (h' : Quiet es') : Quiet (es ++ es') := by
  intro e he
  rcases List.mem_append.1 he with he | he
  · exact h e he
  · exact h' e he

theorem Quiet.cons {e : RelayExchange} (he : ¬ IsVerdict e.call) (h : Quiet es) : Quiet (e :: es) := by
  intro e' he'
  rcases List.mem_cons.1 he' with rfl | he'
  · exact he
  · exact h e' he'

/-- Work that asks for no verdict and writes no entry, whatever it is answered. -/
def Silent {α : Type} (past : List RelayExchange) (task : RelayTask α) : Prop :=
  Obeys (fun _ c => ¬ IsVerdict c) past task

theorem quiet_of_silent {α : Type} {task : RelayTask α} {a : α} (h : Silent [] task) (hrun : Runs task es a) :
    Quiet es := by
  intro e he
  obtain ⟨before, after, rfl⟩ := List.append_of_mem he
  exact hrun.permitted h rfl

/-! ### Streams and datagrams -/

theorem silent_join (source target : String) (early : List UInt8) :
    Silent [] (RelayTask.join source target early) := by
  have hmirrored : ∀ past ms, Silent past
      (callAll (fun m => .mirror (RelayTask.chunkPacket source target m)) ms : RelayTask Unit) :=
    fun past ms => obeys_callAll fun _ _ _ => id
  -- the first bytes are written only if there are any
  cases early with
  | nil => exact obeys_call_bind id fun _ => obeys_bind (hmirrored _ _) fun _ _ _ => trivial
  | cons b bs =>
    refine obeys_call_bind id ?_
    intro answer
    rcases answer with e | _
    · trivial
    · refine obeys_call_bind id ?_
      intro _
      exact obeys_call_bind id fun _ => obeys_bind (hmirrored _ _) fun _ _ _ => trivial

private theorem audited_stream {site : Site} {bytes : ByteStream} {result : Unit}
    (h : Runs (RelayTask.stream site.routes source (.inTime bytes)) es result) :
    Audited (.stream source (.inTime bytes)) es := by
  unfold RelayTask.stream at h
  dsimp only at h
  split at h
  · rename_i f hread
    exact audited_of_audit (.unread (token?_of_readStream_error hread source)) quiet_nil (tells_denied rfl rfl rfl rfl) h
  · rename_i o hread
    obtain ⟨htoken, htarget⟩ := stream_of_readStream hread source
    obtain ⟨es₁, es₂, answer, rfl, h₁, h₂⟩ := runs_bind_iff.1 h
    rcases decides_of_authenticate htoken htarget h₁ with ⟨refusal, rfl, hdecides⟩ | ⟨user, rfl, hdecides⟩
    · exact audited_of_audit hdecides quiet_nil (tells_denied rfl rfl rfl rfl) h₂
    · obtain ⟨connected, es₃, rfl, h₃⟩ := runs_call_bind_iff.1 h₂
      rcases connected with text | _
      · exact audited_of_audit hdecides (quiet_nil.cons id) (tells_allowed rfl rfl rfl) h₃
      · obtain ⟨es₄, es₅, transfer, rfl, h₄, h₅⟩ := runs_bind_iff.1 h₃
        have hjoin : Quiet es₄ := quiet_of_silent (silent_join source _ _) h₄
        exact audited_of_audit hdecides (hjoin.cons id) (tells_allowed rfl rfl rfl) h₅

private theorem silent_exchange (routes : RouteTable) (source target : String) (payload : List UInt8) :
    Silent [] (RelayTask.exchange routes source target payload) := by
  refine obeys_call_bind id ?_
  intro found
  rcases found with e | _ | remote
  · trivial
  · trivial
  · refine obeys_call_bind id ?_
    intro opened
    rcases opened with e | _
    · trivial
    · refine obeys_call_bind id ?_
      intro sent
      rcases sent with e | _
      · trivial
      · refine obeys_call_bind id ?_
        intro _
        refine obeys_call_bind id ?_
        intro receipt
        cases receipt with
        | failed e => trivial
        | timedOut => trivial
        | datagram answer =>
          refine obeys_call_bind id ?_
          intro replied
          rcases replied with e | _
          · trivial
          · exact obeys_call_bind id fun _ => trivial

private theorem audited_datagram {site : Site} {bytes : List UInt8} {result : Unit}
    (h : Runs (RelayTask.datagram site.routes source bytes) es result) : Audited (.datagram source bytes) es := by
  unfold RelayTask.datagram at h
  split at h
  · rename_i e hread
    have htoken : token? (.datagram source bytes) = none := by rw [token?, hread]; rfl
    exact audited_of_audit (.unread htoken) quiet_nil (tells_denied rfl rfl rfl rfl) h
  · rename_i p hread
    have htoken : token? (.datagram source bytes) = some p.token := by rw [token?, hread]; rfl
    have htarget : target? (.datagram source bytes) = some p.target := by rw [target?, hread]; rfl
    obtain ⟨es₁, es₂, answer, rfl, h₁, h₂⟩ := runs_bind_iff.1 h
    rcases decides_of_authenticate htoken htarget h₁ with ⟨refusal, rfl, hdecides⟩ | ⟨user, rfl, hdecides⟩
    · exact audited_of_audit hdecides quiet_nil (tells_denied rfl rfl rfl rfl) h₂
    · obtain ⟨es₃, es₄, transfer, rfl, h₃, h₄⟩ := runs_bind_iff.1 h₂
      have hexchange : Quiet es₃ := quiet_of_silent (silent_exchange _ _ _ _) h₃
      exact audited_of_audit hdecides hexchange (tells_allowed rfl rfl rfl) h₄

/-! ### Requests -/

/-- A request names a target, or none, or one that is malformed. -/
private theorem error_targetHost {hs : Headers} {f : Failure} (h : targetHost hs = .error f) :
    f = .missingTarget ∨ ∃ raw, f = .invalidTarget raw := by
  unfold targetHost at h
  split at h
  · exact .inl (Except.error.inj h).symm
  · split at h
    · exact .inr ⟨_, (Except.error.inj h).symm⟩
    · dsimp only at h
      split at h
      · exact .inl (Except.error.inj h).symm
      · split at h
        · cases h
        · exact .inr ⟨_, (Except.error.inj h).symm⟩

private theorem silent_send (c : ServerConfig) (routes : RouteTable) (host : String) (r : WebRequest) :
    Silent [] (RelayTask.send c routes host r) := by
  refine obeys_call_bind id ?_
  intro client
  rcases client with f | client
  · trivial
  · dsimp only
    split
    · trivial
    · refine obeys_call_bind id ?_
      intro answer
      rcases answer with e | a <;> trivial

private theorem audited_passOn {c : ServerConfig} {user : User} {r : WebRequest} {a : TargetAnswer} {w : WebResponse}
    (hdecides : Decides u verdicts (some user) true) (hwork : Quiet work)
    (h : Runs (RelayTask.passOn c user target r a) es w) : Audited u (verdicts ++ (work ++ es)) := by
  obtain ⟨taken, es₁, rfl, h₁⟩ := runs_call_bind_iff.1 h
  obtain ⟨mirrored, es₂, rfl, h₂⟩ := runs_call_bind_iff.1 h₁
  rw [List.append_cons, List.append_cons]
  have hquiet : Quiet (work ++ [⟨_, taken⟩] ++ [⟨_, mirrored⟩]) :=
    (hwork.append (quiet_nil.cons id)).append (quiet_nil.cons id)
  exact audited_of_audit_bind hdecides hquiet (tells_allowed rfl rfl rfl) h₂

/-- The request of a user is logged once, unless it names no target. -/
private theorem audited_forward {site : Site} {r r' : WebRequest} {user : User} {w : WebResponse}
    (htoken : token? (.request r) = some token) (hheaders : targetHost r'.headers = targetHost r.headers)
    (h : Runs (RelayTask.forward site.server site.routes user r') es w) :
    targetHost r.headers = .error .missingTarget ∧ es = [] ∨
      Audited (.request r) (⟨.validate token, .ok user⟩ :: es) := by
  unfold RelayTask.forward at h
  rw [hheaders] at h
  dsimp only at h
  rcases hhost : targetHost r.headers with f | host
  · rw [hhost] at h
    -- a missing target is the one failure after which nothing is logged
    rcases error_targetHost hhost with rfl | ⟨raw, rfl⟩
    · exact .inl ⟨rfl, (runs_done_iff.1 h).1⟩
    · right
      have hnamed : ∀ r₀, TrafficUnit.request r = .request r₀ → targetHost r₀.headers ≠ .error .missingTarget := by
        rintro r₀ ⟨⟩ hmissing
        rw [hhost] at hmissing
        cases hmissing
      exact audited_of_audit_bind (.misdirected htoken hnamed user) quiet_nil (tells_denied rfl rfl rfl rfl) h
  · right
    rw [hhost] at h
    have htarget : target? (.request r) = some host := by rw [target?, hhost]; rfl
    obtain ⟨es₁, es₂, verdict, rfl, h₁, h₂⟩ := runs_bind_iff.1 h
    rcases runs_authorize h₁ with ⟨rfl, rfl⟩ | ⟨rfl, f, rfl⟩
    · have hdecides := Decides.admitted htoken htarget user
      obtain ⟨es₃, es₄, answer, rfl, h₃, h₄⟩ := runs_bind_iff.1 h₂
      have hsend : Quiet es₃ := quiet_of_silent (silent_send _ _ _ _) h₃
      rcases answer with f | a
      · exact audited_of_audit_bind hdecides hsend (tells_allowed rfl rfl rfl) h₄
      · exact audited_passOn hdecides hsend h₄
    · exact audited_of_audit_bind (.refused htoken htarget user) quiet_nil (tells_denied rfl rfl rfl rfl) h₂

/-- A request on a path that is not open: it is logged once, or its user is known and it names no target. -/
private theorem audited_guarded {site : Site} {r : WebRequest} {freshId : String} {w : WebResponse}
    (h : Runs (site.guarded (Site.identified freshId r)) es w) :
    (Unrecorded (.request r) es ∧ entries es = []) ∨ Audited (.request r) es := by
  unfold Site.guarded Site.userOf at h
  rw [Site.bearerToken_identified] at h
  cases htoken : bearerToken r.headers with
  | none =>
    right
    rw [htoken] at h
    have hnone : token? (.request r) = none := htoken
    exact audited_of_audit_bind (.unread hnone) quiet_nil (tells_denied rfl rfl rfl rfl) h
  | some token =>
    rw [htoken] at h
    have hsome : token? (.request r) = some token := htoken
    obtain ⟨answer, es', rfl, hnext⟩ := runs_call_bind_iff.1 h
    rcases answer with e | user
    · right
      exact audited_of_audit_bind (.rejected hsome e) quiet_nil (tells_denied rfl rfl rfl rfl) hnext
    · rcases audited_forward hsome (Site.targetHost_identified freshId r) hnext with ⟨hmissing, rfl⟩ | haudited
      · exact .inl ⟨⟨hmissing, user, token, hsome, List.mem_singleton_self _⟩, rfl⟩
      · exact .inr haudited

private theorem audited_respond {site : Site} {status : GatewayStatus} {r : WebRequest} {freshId : String}
    {w : WebResponse} (hpath : r.target.path ∉ Site.openPaths) (h : Runs (site.respond status freshId r) es w) :
    (Unrecorded (.request r) es ∧ entries es = []) ∨ Audited (.request r) es := by
  unfold Site.respond at h
  dsimp only at h
  rw [Site.identified_target, if_neg (fun hopen => hpath (List.contains_iff_mem.1 hopen))] at h
  obtain ⟨es₁, es₂, w', rfl, h₁, h₂⟩ := runs_bind_iff.1 h
  rw [(runs_done_iff.1 h₂).1, List.append_nil]
  exact audited_guarded h₁

/-! ### Units -/

/-- A run whose result is put into another form. -/
private theorem runs_of_map {α β : Type} {task : RelayTask α} {f : α → β} {b : β} (h : Runs (f <$> task) es b) :
    ∃ a, Runs task es a := by
  obtain ⟨es₁, es₂, a, rfl, h₁, h₂⟩ := runs_bind_iff.1 h
  rw [(runs_done_iff.1 h₂).1, List.append_nil]
  exact ⟨a, h₁⟩

/-- How many entries a unit leaves, and what they say.  A unit that is not on an open path leaves exactly one, which
agrees with the verdicts on the unit, unless it is a stream whose preamble does not come in time or a request of a
known user that names no target: these leave none. -/
theorem entries_of_run (site : Site) (status : GatewayStatus) (freshId : String) (u : TrafficUnit)
    {es : List RelayExchange} {result : Option WebResponse}
    (hpath : ∀ r, u = .request r → r.target.path ∉ Site.openPaths) (h : Runs (u.task site status freshId) es result) :
    (¬ Unrecorded u es → ∃ entry, entries es = [entry] ∧ Describes u es entry) ∧
      (Unrecorded u es → entries es = []) := by
  cases u with
  | request r =>
    obtain ⟨w, hw⟩ := runs_of_map h
    rcases audited_respond (hpath r rfl) hw with ⟨hunrecorded, hnone⟩ | haudited
    · exact ⟨fun hnot => absurd hunrecorded hnot, fun _ => hnone⟩
    · exact ⟨fun _ => describes_of_audited haudited, fun hun => absurd hun (not_unrecorded_of_audited haudited)⟩
  | stream source arrival =>
    obtain ⟨_, hstream⟩ := runs_of_map h
    cases arrival with
    | tooSlow =>
      rw [(runs_done_iff.1 hstream).1]
      exact ⟨fun hnot => absurd trivial hnot, fun _ => rfl⟩
    | inTime bytes => exact ⟨fun _ => describes_of_audited (audited_stream hstream), False.elim⟩
  | datagram source bytes =>
    obtain ⟨_, hdatagram⟩ := runs_of_map h
    exact ⟨fun _ => describes_of_audited (audited_datagram hdatagram), False.elim⟩

/-- A datagram that the firewall refuses leaves one entry, which denies it. -/
theorem entries_of_refused_datagram :
    ∃ es entry, Runs (task {} {} "id" (.datagram "c:1" (Preamble.encodeBinary "t" "h:1"))) es none ∧
      entries es = [entry] ∧ entry.isAllowed = false ∧ entry.userId = "u1" := by
  have hread : Preamble.readComplete (Preamble.encodeBinary "t" "h:1") = .ok ⟨"t", "h:1", 12⟩ := by
    have h := Preamble.read_encodeBinary (t := "t") (h := "h:1") (by decide) (by decide) (by decide) []
    rw [List.append_nil] at h
    exact Preamble.readComplete_eq_ok_iff.2 h
  have hrun : Runs (task {} {} "id" (.datagram "c:1" (Preamble.encodeBinary "t" "h:1")))
      [⟨.validate "t", .ok ⟨"u1", "Una", "una@h", [], "user", []⟩⟩,
        ⟨.decide ⟨"u1", "Una", "una@h", [], "user", []⟩ "h:1", false⟩,
        ⟨.audit (.datagram (some ⟨"u1", "Una", "una@h", [], "user", []⟩) "c:1" "h:1" {}
          (.denied "denied by firewall policy")), ()⟩] none := by
    unfold task RelayTask.datagram
    dsimp only
    rw [hread]
    exact .ask _ (.ask _ (.ask _ (.done _)))
  obtain ⟨entry, hentries, hdescribes⟩ := (entries_of_run {} {} "id" _ (fun r hr => by cases hr) hrun).1 id
  obtain rfl := List.singleton_inj.1 hentries
  exact ⟨_, _, hrun, hentries, by decide, rfl⟩

/-- A request of a known user that names no target is answered without an entry. -/
theorem runs_of_missingTarget {r : WebRequest} (hpath : r.target.path ∉ Site.openPaths)
    (htoken : bearerToken r.headers = some token) (htarget : targetHost r.headers = .error .missingTarget)
    (site : Site) (status : GatewayStatus) (freshId : String) (user : User) :
    ∃ w, Runs (task site status freshId (.request r)) [⟨.validate token, .ok user⟩] (some w) := by
  have hforward : Runs (RelayTask.forward site.server site.routes user (Site.identified freshId r)) []
      (RelayTask.failureResponse .missingTarget) := by
    unfold RelayTask.forward
    rw [Site.targetHost_identified, htarget]
    exact .done _
  exact runs_of_forward hpath htoken hforward status

/-- A stream that is slow to start leaves no entry, and neither does a request of a known user without a target. -/
theorem not_recorded :
    Runs (task {} {} "id" (.stream "c:1" .tooSlow)) [] none ∧
      ∃ r es w, r.target.path ∉ Site.openPaths ∧ Runs (task {} {} "id" (.request r)) es (some w) ∧
        (∃ user, Authenticated (.request r) user es) ∧ entries es = [] := by
  refine ⟨.done _, ?_⟩
  let r : WebRequest := ⟨"GET", ⟨none, none, "/v1/items".toList⟩, [.ofText "authorization" "Bearer t"], [], "c:1"⟩
  have hpath : r.target.path ∉ Site.openPaths := by decide +kernel
  have htoken : bearerToken r.headers = some "t" := by decide +kernel
  obtain ⟨w, hrun⟩ := runs_of_missingTarget hpath htoken rfl {} {} "id" ⟨"u1", "Una", "una@h", [], "user", []⟩
  exact ⟨r, _, w, hpath, hrun, ⟨_, "t", htoken, List.mem_singleton_self _⟩, rfl⟩

end TrafficUnit

namespace Engine

variable {σ : Type}

/-- A call adds its entry to the log of the engine, and only that. -/
theorem recorded_answer (net : Network σ) (c : RelayCall) (e : Engine) (w : σ) :
    (answer net c (e, w)).2.1.audit.recorded = e.audit.recorded ++ c.logged?.toList := by
  cases c with
  | audit entry => rfl
  | request client q =>
    have hentry : (RelayCall.request client q).logged? = none := rfl
    rw [hentry, Option.toList_none, List.append_nil, answer]
    dsimp only
    split <;> rfl
  | _ => exact (List.append_nil _).symm

/-- What the engine runs is a run of the unit, and the log grows by the entries of that run. -/
theorem exists_runs_of_run {α : Type} (net : Network σ) (task : RelayTask α) (e : Engine) (w : σ) :
    ∃ es, Runs task es (e.run net task w).1 ∧
      (e.run net task w).2.1.audit.recorded = e.audit.recorded ++ TrafficUnit.entries es := by
  induction task generalizing e w with
  | done a => exact ⟨[], .done a, (List.append_nil _).symm⟩
  | ask c next ih =>
    obtain ⟨es, hruns, hrecorded⟩ := ih (answer net c (e, w)).1 (answer net c (e, w)).2.1 (answer net c (e, w)).2.2
    refine ⟨⟨c, (answer net c (e, w)).1⟩ :: es, .ask _ hruns, ?_⟩
    rw [TrafficUnit.entries_cons, ← List.append_assoc, ← recorded_answer net c e w]
    exact hrecorded

end Engine

end AccessGateway
