import AccessGateway.Proofs.Http.Target
import AccessGateway.Proofs.Relay.Mediation

/-!
# The name that is dialed

The address that a request is sent to is put together from the scheme, the target that the firewall has approved, and
what is asked of the target.  Behind the scheme the approved target is the whole authority, because what follows starts
where an authority ends; only a request for the asterisk makes the authority another one (`authority_of_requested`).
-/

namespace AccessGateway

open RequestTarget (endsAuthority)
open Dialogue

namespace Forwarding

/-- The authority that a text starts with, and what follows it. -/
def splitAuthority (s : String) : String × String :=
  (String.ofList (s.toList.takeWhile fun c => !endsAuthority c),
    String.ofList (s.toList.dropWhile fun c => !endsAuthority c))

/-- What follows the first colon with two slashes. -/
def afterScheme? : List Char → Option (List Char)
  | ':' :: '/' :: '/' :: rest => some rest
  | _ :: cs => afterScheme? cs
  | [] => none

/-- The authority of an address as it stands, and what follows it. -/
def readAuthority? (address : String) : Option (String × String) :=
  (afterScheme? address.toList).map fun cs => splitAuthority (String.ofList cs)

variable {host line : String} {t : RequestTarget}

/-! ### Authorities -/

theorem splitAuthority_append (s : String) : (splitAuthority s).1 ++ (splitAuthority s).2 = s := by
  rw [← String.toList_inj, String.toList_append, splitAuthority, String.toList_ofList, String.toList_ofList,
    List.takeWhile_append_dropWhile]

/-- The host is the whole authority exactly if what follows it starts where an authority ends. -/
theorem splitAuthority_host {rest : String} (hhost : ∀ c ∈ host.toList, endsAuthority c = false) :
    splitAuthority (host ++ rest) = (host, rest) ↔ ∀ c ∈ rest.toList.head?, endsAuthority c = true := by
  have hin : ∀ c ∈ host.toList, (!endsAuthority c) = true := fun c hc => by rw [hhost c hc]; rfl
  rw [splitAuthority, String.toList_append, List.takeWhile_append_of_pos hin, List.dropWhile_append_of_pos hin,
    Prod.mk.injEq, ← String.toList_inj, ← String.toList_inj, String.toList_ofList, String.toList_ofList]
  cases rest.toList with
  | nil => simp
  | cons c cs => cases hc : endsAuthority c <;> simp [hc]

/-! ### Schemes -/

theorem afterScheme?_cons {c : Char} {cs : List Char} (h : ¬ [':', '/', '/'] <+: c :: cs) :
    afterScheme? (c :: cs) = afterScheme? cs := by
  rw [afterScheme?]
  rintro rest rfl hcs
  exact h ⟨rest, by rw [hcs]; rfl⟩

/-- The scheme ends at the first colon with two slashes exactly if there is none in itself. -/
theorem afterScheme?_append (scheme tail : List Char) :
    afterScheme? (scheme ++ ':' :: '/' :: '/' :: tail) = some tail ↔ ¬ [':', '/', '/'] <:+: scheme := by
  induction scheme with
  | nil => simp [afterScheme?]
  | cons c scheme ih =>
    by_cases hstarts : [':', '/', '/'] <+: c :: scheme
    · refine iff_of_false ?_ (not_not_intro hstarts.isInfix)
      obtain ⟨rest, hrest⟩ := hstarts
      rw [← hrest]
      intro h
      have hlength : (rest ++ ':' :: '/' :: '/' :: tail).length = tail.length :=
        congrArg List.length (Option.some.inj h)
      simp only [List.length_append, List.length_cons] at hlength
      omega
    · -- a colon with two slashes cannot start within the scheme and end behind it
      have hcross : ¬ [':', '/', '/'] <+: c :: (scheme ++ ':' :: '/' :: '/' :: tail) := by
        match scheme with
        | [] => simp
        | [_] => simp
        | _ :: _ :: _ => simpa using hstarts
      rw [List.cons_append, afterScheme?_cons hcross, ih, List.infix_cons_iff]
      simp only [hstarts, false_or]

/-! ### Addresses -/

theorem forwarded_startsWithEnd_iff (h : RequestTarget.read? line = some t) :
    (∀ c ∈ t.forwarded.toList.head?, endsAuthority c = true) ↔ line ≠ "*" := by
  rcases RequestTarget.forwarded_of_read? h with ⟨rfl, hforwarded⟩ | ⟨hline, d, rest, hforwarded, hends⟩
  · rw [hforwarded]
    exact iff_of_false (fun h => absurd (h '*' rfl) (by decide)) (fun h => h rfl)
  · rw [hforwarded]
    simp [hends, hline]

theorem address_eq (scheme host : String) (t : RequestTarget) :
    address scheme host t = scheme ++ "://" ++ (host ++ t.forwarded) := by
  rw [← String.append_assoc]
  rfl

/-- As the address stands, the host is its authority unless the request is for the asterisk or the scheme has a colon
with two slashes in it. -/
theorem readAuthority?_address (scheme : String) (hhost : ∀ c ∈ host.toList, endsAuthority c = false)
    (h : RequestTarget.read? line = some t) :
    readAuthority? (address scheme host t) = some (host, t.forwarded) ↔
      line ≠ "*" ∧ ¬ "://".toList <:+: scheme.toList := by
  have hmark : "://".toList = [':', '/', '/'] := by decide
  have hsplit : splitAuthority (host ++ t.forwarded) = (host, t.forwarded) ↔ line ≠ "*" :=
    (splitAuthority_host hhost).trans (forwarded_startsWithEnd_iff h)
  have hscheme := afterScheme?_append scheme.toList (host ++ t.forwarded).toList
  have haddress : (address scheme host t).toList =
      scheme.toList ++ ':' :: '/' :: '/' :: (host ++ t.forwarded).toList := by
    rw [address_eq, String.toList_append, String.toList_append, hmark, List.append_assoc]
    rfl
  rw [← haddress, ← hmark] at hscheme
  unfold readAuthority?
  rw [← hscheme, ← hsplit]
  constructor
  · intro hread
    obtain ⟨cs, hcs, hauthority⟩ := Option.map_eq_some_iff.1 hread
    -- the two parts together are all that was read
    have hwhole := splitAuthority_append (String.ofList cs)
    rw [hauthority] at hwhole
    rw [hwhole, String.toList_ofList]
    exact ⟨hauthority, hcs⟩
  · rintro ⟨hauthority, hcs⟩
    rw [hcs, Option.map_some, String.ofList_toList, hauthority]

end Forwarding

namespace TrafficUnit

variable {site : Site} {r : WebRequest} {token host : String}

/-- A request that is let through is sent to its target; here it fails there. -/
theorem runs_of_admitted (hpath : r.target.path ∉ Site.openPaths) (htoken : bearerToken r.headers = some token)
    (htarget : targetHost r.headers = .ok host) (hbody : r.body.length ≤ site.server.maxBodySize)
    (status : GatewayStatus) (freshId : String) (user : User) (client : TargetClient) (e : FetchError) :
    ∃ q entry w, q.address = Forwarding.address site.server.targetScheme host r.target ∧
      Runs (task site status freshId (.request r))
        [⟨.validate token, .ok user⟩, ⟨.decide user host, true⟩,
          ⟨.client host (Forwarding.pin site.routes host), .ok client⟩, ⟨.request client q, .error e⟩,
          ⟨.audit entry, ()⟩] (some w) := by
  have hrequest : Forwarding.request? site.server host (Site.identified freshId r) =
      some ⟨r.method, Forwarding.address site.server.targetScheme host r.target,
        Forwarding.requestHeaders (Site.identified freshId r).headers, r.body⟩ := by
    rw [Forwarding.request?, Site.identified_body, Site.identified_method, Site.identified_target,
      if_neg (Nat.not_lt.2 hbody)]
  have hforward : ∃ q entry w, q.address = Forwarding.address site.server.targetScheme host r.target ∧
      Runs (RelayTask.forward site.server site.routes user (Site.identified freshId r))
        [⟨.decide user host, true⟩, ⟨.client host (Forwarding.pin site.routes host), .ok client⟩,
          ⟨.request client q, .error e⟩, ⟨.audit entry, ()⟩] w := by
    unfold RelayTask.forward RelayTask.send
    rw [Site.targetHost_identified, htarget]
    dsimp only
    rw [hrequest]
    exact ⟨_, _, _, rfl, .ask _ (.ask _ (.ask _ (.ask _ (.done _))))⟩
  obtain ⟨q, entry, w, haddress, hforward⟩ := hforward
  obtain ⟨w', hrun⟩ := runs_of_forward hpath htoken hforward status
  exact ⟨q, entry, w', haddress, hrun⟩

/-- Whatever a request is sent to, the one name that was to be decided on for it is that of its header, it was
approved, and the address goes on with that name behind the scheme.  There the name is the whole authority, and what
follows is what is asked of the target, exactly if the request line is not an asterisk; as the address stands, also the
scheme must have no colon with two slashes in it. -/
theorem authority_of_requested (site : Site) (status : GatewayStatus) (freshId : String) {line : String}
    (hline : RequestTarget.read? line = some r.target) {es : List RelayExchange} {result : Option WebResponse}
    (h : Runs (task site status freshId (.request r)) es result) {before after : List RelayExchange}
    {client : TargetClient} {q : TargetRequest} {answer : RelayCall.Answer (.request client q)}
    (hes : es = before ++ ⟨.request client q, answer⟩ :: after) :
    ∃ user host rest, targetHost r.headers = .ok host ∧
      (⟨.decide user host, true⟩ : RelayExchange) ∈ before ∧
      (∀ e ∈ es, ∀ user' target, e.call = .decide user' target → target = host) ∧
      q.address = site.server.targetScheme ++ "://" ++ rest ∧
      (Forwarding.splitAuthority rest = (host, r.target.forwarded) ↔ line ≠ "*") ∧
      (Forwarding.readAuthority? q.address = some (host, r.target.forwarded) ↔
        line ≠ "*" ∧ ¬ "://".toList <:+: site.server.targetScheme.toList) := by
  have hpermitted {before' after' : List RelayExchange} {e : RelayExchange} (hes' : es = before' ++ e :: after') :
      Permitted site (.request r) before' e.call :=
    h.permitted (obeys_task site status freshId (.request r)) hes'
  obtain ⟨host, hadmitted, hrequest⟩ := (hpermitted hes).admitted id
  have hhost : targetHost r.headers = .ok host := target?_request_iff.1 hadmitted.target_eq
  have hends : ∀ c ∈ host.toList, endsAuthority c = false := fun c hc => endsAuthority_of_targetHost hhost hc
  obtain ⟨token, user, past, between, rest, -, hbefore⟩ := hadmitted.verdicts
  have haddress : q.address = Forwarding.address site.server.targetScheme host r.target := by
    cases hrequest with
    | request hu hclient haddress =>
      obtain rfl := TrafficUnit.request.inj hu
      exact haddress
  refine ⟨user, host, host ++ r.target.forwarded, hhost, by simp [hbefore], ?_, ?_, ?_, ?_⟩
  · intro e he user' target hcall
    obtain ⟨before', after', hes'⟩ := List.append_of_mem he
    have hdecide := hpermitted hes'
    rw [hcall] at hdecide
    cases hdecide with
    | decide _ htarget =>
      rw [hadmitted.target_eq] at htarget
      exact (Option.some.inj htarget).symm
    | toward _ hc => cases hc
  · rw [haddress, Forwarding.address_eq]
  · exact (Forwarding.splitAuthority_host hends).trans (Forwarding.forwarded_startsWithEnd_iff hline)
  · rw [haddress]
    exact Forwarding.readAuthority?_address _ hends hline

/-- Neither the authority of an absolute request line nor its missing path moves the target. -/
theorem authority_of_requested_absolute :
    let t : RequestTarget := ⟨some "http".toList, some "other.example".toList, "?x=1".toList⟩
    let hs : Headers := [.ofText "authorization" "Bearer t", .ofText targetHeader "API.internal:08443"]
    let client : TargetClient := ⟨0, "api.internal:8443", none⟩
    ∃ es w q, RequestTarget.read? "http://other.example?x=1#top" = some t ∧
      Runs (task {} {} "id" (.request ⟨"GET", t, hs, [], "10.0.0.2:51000"⟩)) es (some w) ∧
      (⟨.request client q, .error .decode⟩ : RelayExchange) ∈ es ∧
      Forwarding.readAuthority? q.address = some ("api.internal:8443", "?x=1") := by
  intro t hs client
  let r : WebRequest := ⟨"GET", t, hs, [], "10.0.0.2:51000"⟩
  have hline : RequestTarget.read? "http://other.example?x=1#top" = some r.target := by decide +kernel
  have hpath : r.target.path ∉ Site.openPaths := by decide +kernel
  have htoken : bearerToken r.headers = some "t" := by decide +kernel
  have htarget : targetHost r.headers = .ok "api.internal:8443" := target?_request_iff.1 (by decide +kernel)
  obtain ⟨q, entry, w, -, hrun⟩ := runs_of_admitted hpath htoken htarget (Nat.zero_le ({} : Site).server.maxBodySize)
    {} "id" ⟨"u1", "Una", "una@h", [], "user", []⟩ client .decode
  refine ⟨_, w, q, hline, hrun, by simp, ?_⟩
  obtain ⟨user, host, rest, hhost, -, -, -, -, hread⟩ :=
    authority_of_requested {} {} "id" hline hrun (show _ = [_, _, _] ++ _ :: [_] from rfl)
  obtain rfl := Except.ok.inj (htarget.symm.trans hhost)
  exact hread.2 (by decide +kernel)

/-- The asterisk becomes a part of the name that is dialed, and the firewall has not seen it there. -/
theorem authority_of_asterisk :
    let t : RequestTarget := ⟨none, none, ['*']⟩
    let hs : Headers := [.ofText "authorization" "Bearer t", .ofText targetHeader "api.internal"]
    let site : Site := { server := { targetScheme := "http" } }
    let user : User := ⟨"u1", "Una", "una@h", [], "user", []⟩
    let client : TargetClient := ⟨0, "api.internal", none⟩
    ∃ es w q, RequestTarget.read? "*" = some t ∧
      Runs (task site {} "id" (.request ⟨"OPTIONS", t, hs, [], "10.0.0.2:51000"⟩)) es (some w) ∧
      (⟨.decide user "api.internal", true⟩ : RelayExchange) ∈ es ∧
      (⟨.request client q, .error .decode⟩ : RelayExchange) ∈ es ∧
      Forwarding.readAuthority? q.address = some ("api.internal*", "") := by
  intro t hs site user client
  let r : WebRequest := ⟨"OPTIONS", t, hs, [], "10.0.0.2:51000"⟩
  have hpath : r.target.path ∉ Site.openPaths := by decide +kernel
  have htoken : bearerToken r.headers = some "t" := by decide +kernel
  have htarget : targetHost r.headers = .ok "api.internal" := target?_request_iff.1 (by decide +kernel)
  obtain ⟨q, entry, w, haddress, hrun⟩ := runs_of_admitted hpath htoken htarget (Nat.zero_le site.server.maxBodySize)
    {} "id" user client .decode
  refine ⟨_, w, q, by decide +kernel, hrun, by simp, by simp, ?_⟩
  rw [haddress]
  decide +kernel

end TrafficUnit

end AccessGateway
