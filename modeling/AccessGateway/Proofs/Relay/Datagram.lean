import AccessGateway.Proofs.Relay.Stream

/-!
# The account of a datagram

A datagram that is let through goes a few steps with its target, each of which may fail, and its entry counts what
was passed on.  The steps have seven endings (`Exchanges`).  In all of them the mirror is told of exactly what was
passed on, and the bytes that went back are counted; but when waiting for an answer or giving it back fails, the
payload has gone out and is not counted (`account_of_run`).
-/

namespace AccessGateway

open Dialogue

namespace RelayTask

/-- What an exchange has passed on, and in which direction. -/
def carried? : RelayExchange → Option (Direction × List UInt8)
  | ⟨.send payload, .ok ()⟩ => some (.up, payload)
  | ⟨.reply payload, .ok ()⟩ => some (.down, payload)
  | _ => none

def carried (es : List RelayExchange) : List (Direction × List UInt8) := es.filterMap carried?

/-- The bytes that were passed on in a direction. -/
def volume (d : Direction) (es : List RelayExchange) : Nat := (Duplex.chunksOf d (carried es)).flatten.length

/-- A failure that comes after the payload was sent. -/
def isLate : RelayExchange → Bool
  | ⟨.receive, .failed _⟩ => true
  | ⟨.reply _, .error _⟩ => true
  | _ => false

def breaksOff (es : List RelayExchange) : Bool := es.any isLate

/-- The packet of a payload that was passed on. -/
def payloadPacket (source target : String) : Direction × List UInt8 → MirrorPacket
  | (.up, payload) => .datagram source target payload
  | (.down, payload) => .datagram target source payload

/-- How the steps of a datagram end, and what is counted for them. -/
inductive Exchanges (source target : String) (payload : List UInt8) : List RelayExchange → Transfer → Prop where
  | unfound {address : String} {result : Except SystemError (Option SocketAddress)}
      (h : ∀ remote, result ≠ .ok (some remote)) : Exchanges source target payload [⟨.lookup address, result⟩] {}
  | unopened (address : String) (remote : SocketAddress) (e : SystemError) :
      Exchanges source target payload [⟨.lookup address, .ok (some remote)⟩, ⟨.openSocket remote, .error e⟩] {}
  | unsent (address : String) (remote : SocketAddress) (e : SystemError) :
      Exchanges source target payload
        [⟨.lookup address, .ok (some remote)⟩, ⟨.openSocket remote, .ok ()⟩, ⟨.send payload, .error e⟩] {}
  | unreceived (address : String) (remote : SocketAddress) (e : SystemError) :
      Exchanges source target payload
        [⟨.lookup address, .ok (some remote)⟩, ⟨.openSocket remote, .ok ()⟩, ⟨.send payload, .ok ()⟩,
          ⟨.mirror (.datagram source target payload), ()⟩, ⟨.receive, .failed e⟩] {}
  | unanswered (address : String) (remote : SocketAddress) :
      Exchanges source target payload
        [⟨.lookup address, .ok (some remote)⟩, ⟨.openSocket remote, .ok ()⟩, ⟨.send payload, .ok ()⟩,
          ⟨.mirror (.datagram source target payload), ()⟩, ⟨.receive, .timedOut⟩] ⟨payload.length, 0⟩
  | unreturned (address : String) (remote : SocketAddress) (answer : List UInt8) (e : SystemError) :
      Exchanges source target payload
        [⟨.lookup address, .ok (some remote)⟩, ⟨.openSocket remote, .ok ()⟩, ⟨.send payload, .ok ()⟩,
          ⟨.mirror (.datagram source target payload), ()⟩, ⟨.receive, .datagram answer⟩, ⟨.reply answer, .error e⟩] {}
  | answered (address : String) (remote : SocketAddress) (answer : List UInt8) :
      Exchanges source target payload
        [⟨.lookup address, .ok (some remote)⟩, ⟨.openSocket remote, .ok ()⟩, ⟨.send payload, .ok ()⟩,
          ⟨.mirror (.datagram source target payload), ()⟩, ⟨.receive, .datagram answer⟩, ⟨.reply answer, .ok ()⟩,
          ⟨.mirror (.datagram target source answer), ()⟩] ⟨payload.length, answer.length⟩

variable {routes : RouteTable} {source target token : String} {bytes payload : List UInt8} {es : List RelayExchange}
  {transfer : Transfer}

/-! ### The steps of a datagram -/

theorem exchanges_of_runs (h : Runs (exchange routes source target payload) es transfer) :
    Exchanges source target payload es transfer := by
  obtain ⟨found, es₁, rfl, h₁⟩ := runs_call_bind_iff.1 h
  rcases found with e | _ | remote
  · obtain ⟨rfl, rfl⟩ := runs_done_iff.1 h₁
    exact .unfound nofun
  · obtain ⟨rfl, rfl⟩ := runs_done_iff.1 h₁
    exact .unfound nofun
  · obtain ⟨opened, es₂, rfl, h₂⟩ := runs_call_bind_iff.1 h₁
    rcases opened with e | _
    · obtain ⟨rfl, rfl⟩ := runs_done_iff.1 h₂
      exact .unopened _ remote e
    · obtain ⟨sent, es₃, rfl, h₃⟩ := runs_call_bind_iff.1 h₂
      rcases sent with e | _
      · obtain ⟨rfl, rfl⟩ := runs_done_iff.1 h₃
        exact .unsent _ remote e
      · obtain ⟨_, es₄, rfl, h₄⟩ := runs_call_bind_iff.1 h₃
        obtain ⟨receipt, es₅, rfl, h₅⟩ := runs_call_bind_iff.1 h₄
        cases receipt with
        | failed e =>
          obtain ⟨rfl, rfl⟩ := runs_done_iff.1 h₅
          exact .unreceived _ remote e
        | timedOut =>
          obtain ⟨rfl, rfl⟩ := runs_done_iff.1 h₅
          exact .unanswered _ remote
        | datagram answer =>
          obtain ⟨replied, es₆, rfl, h₆⟩ := runs_call_bind_iff.1 h₅
          rcases replied with e | _
          · obtain ⟨rfl, rfl⟩ := runs_done_iff.1 h₆
            exact .unreturned _ remote answer e
          · obtain ⟨_, es₇, rfl, h₇⟩ := runs_call_bind_iff.1 h₆
            obtain ⟨rfl, rfl⟩ := runs_done_iff.1 h₇
            exact .answered _ remote answer

theorem entries_of_exchanges (h : Exchanges source target payload es transfer) : TrafficUnit.entries es = [] := by
  cases h <;> rfl

theorem carried_of_exchanges (h : Exchanges source target payload es transfer) :
    carried es = [] ∨ carried es = [(.up, payload)] ∨
      ∃ answer, carried es = [(.up, payload), (.down, answer)] := by
  cases h with
  | unfound h => exact .inl rfl
  | unopened | unsent => exact .inl rfl
  | unreceived | unanswered | unreturned => exact .inr (.inl rfl)
  | answered address remote answer => exact .inr (.inr ⟨answer, rfl⟩)

theorem mirrored_of_exchanges (h : Exchanges source target payload es transfer) :
    mirrored es = (carried es).map (payloadPacket source target) := by
  cases h <;> rfl

/-- What was given back is counted.  What was sent is counted as well, but not if a later step failed. -/
theorem counts_of_exchanges (h : Exchanges source target payload es transfer) :
    transfer.down = volume .down es ∧ (breaksOff es = false → transfer.up = volume .up es) ∧
      (breaksOff es = true → transfer.up = 0 ∧ volume .up es = payload.length) := by
  have hup : (Duplex.chunksOf .up [(.up, payload)]).flatten = payload := List.append_nil _
  have hdown : ∀ answer, (Duplex.chunksOf .down [(.up, payload), (.down, answer)]).flatten = answer := fun _ =>
    List.append_nil _
  cases h with
  | unfound | unopened | unsent => exact ⟨rfl, fun _ => rfl, nofun⟩
  | unreceived | unreturned => exact ⟨rfl, nofun, fun _ => ⟨rfl, congrArg List.length hup⟩⟩
  | unanswered => exact ⟨rfl, fun _ => (congrArg List.length hup).symm, nofun⟩
  | answered address remote answer =>
    exact ⟨(congrArg List.length (hdown answer)).symm, fun _ => (congrArg List.length hup).symm, nofun⟩

/-- A datagram that is let through: two verdicts, the steps with its target, and the entry. -/
theorem runs_datagram_admitted (h : Runs (datagram routes source bytes) es ())
    (hadmitted : TrafficUnit.Admitted (.datagram source bytes) target es) :
    ∃ p user work transfer, Preamble.readComplete bytes = .ok p ∧ p.target = target ∧
      Exchanges source target (bytes.drop p.headerLength) work transfer ∧
      es = ⟨.validate p.token, .ok user⟩ :: ⟨.decide user target, true⟩ ::
        (work ++ [⟨.audit (.datagram (some user) source target transfer .allowed), ()⟩]) := by
  obtain ⟨p, hread, rfl⟩ : ∃ p, Preamble.readComplete bytes = .ok p ∧ p.target = target := by
    have htarget := hadmitted.target_eq
    rw [TrafficUnit.target?] at htarget
    cases hread : Preamble.readComplete bytes with
    | error e => rw [hread] at htarget; cases htarget
    | ok p =>
      rw [hread] at htarget
      exact ⟨p, rfl, Option.some.inj htarget⟩
  unfold datagram at h
  rw [hread] at h
  obtain ⟨es₁, es₂, result, rfl, h₁, h₂⟩ := runs_bind_iff.1 h
  rcases runs_authenticate h₁ with ⟨user, rfl, rfl⟩ | ⟨⟨refusal, rfl⟩, hnot⟩
  · obtain ⟨work, es₃, transfer, rfl, hwork, h₃⟩ := runs_bind_iff.1 h₂
    obtain rfl := runs_audit_iff.1 h₃
    exact ⟨p, user, work, transfer, hread, rfl, exchanges_of_runs hwork, rfl⟩
  · -- a datagram that is refused has no verdict that lets it through
    obtain ⟨user, hdecided⟩ := mem_of_admitted hadmitted
    obtain rfl := runs_audit_iff.1 h₂
    rcases List.mem_append.1 hdecided with hdecided | hdecided
    · exact absurd hdecided (hnot user)
    · cases List.mem_singleton.1 hdecided

/-- A datagram whose verdicts are good takes part in the steps with its target. -/
theorem exists_runs_of_exchange {p : Preamble} (hread : Preamble.readComplete bytes = .ok p) (site : Site)
    (status : GatewayStatus) (freshId : String) (user : User)
    (hwork : Runs (exchange site.routes source p.target (bytes.drop p.headerLength)) es transfer) :
    ∃ es', es' = ⟨.validate p.token, .ok user⟩ :: ⟨.decide user p.target, true⟩ ::
        (es ++ [⟨.audit (.datagram (some user) source p.target transfer .allowed), ()⟩]) ∧
      Runs ((TrafficUnit.datagram source bytes).task site status freshId) es' none ∧
      TrafficUnit.Admitted (.datagram source bytes) p.target es' := by
  have hrun : Runs (datagram site.routes source bytes)
      (⟨.validate p.token, .ok user⟩ :: ⟨.decide user p.target, true⟩ ::
        (es ++ [⟨.audit (.datagram (some user) source p.target transfer .allowed), ()⟩])) () := by
    unfold datagram
    rw [hread]
    have hverdicts : Runs (authenticate p.token p.target)
        [⟨.validate p.token, .ok user⟩, ⟨.decide user p.target, true⟩] (.ok user) :=
      runs_call_bind_iff.2 ⟨.ok user, _, rfl, runs_call_bind_iff.2 ⟨true, _, rfl, .done _⟩⟩
    refine runs_bind_iff.2 ⟨_, _, .ok user, rfl, hverdicts, ?_⟩
    exact runs_bind_iff.2 ⟨es, _, transfer, rfl, hwork, runs_audit_iff.2 rfl⟩
  have htoken : TrafficUnit.token? (.datagram source bytes) = some p.token := by
    rw [TrafficUnit.token?, hread]
    rfl
  have htarget : TrafficUnit.target? (.datagram source bytes) = some p.target := by
    rw [TrafficUnit.target?, hread]
    rfl
  refine ⟨_, rfl, ?_, htarget, p.token, user, [], [], _, htoken, rfl⟩
  exact runs_bind_iff.2 ⟨_, [], (), (List.append_nil _).symm, hrun, .done _⟩

/-! ### The account -/

/-- The verdicts and the entry pass nothing on, tell the mirror nothing, and do not fail. -/
private theorem of_framed (token target : String) (user : User) (work : List RelayExchange) (entry : AccessEntry) :
    let es : List RelayExchange :=
      ⟨.validate token, .ok user⟩ :: ⟨.decide user target, true⟩ :: (work ++ [⟨.audit entry, ()⟩])
    carried es = carried work ∧ mirrored es = mirrored work ∧ breaksOff es = breaksOff work ∧
      TrafficUnit.entries es = TrafficUnit.entries work ++ [entry] := by
  refine ⟨?_, ?_, ?_, ?_⟩
  · rw [carried, List.filterMap_cons_none rfl, List.filterMap_cons_none rfl, List.filterMap_append]
    exact List.append_nil _
  · simp [mirrored, RelayCall.mirrored?]
  · simp [breaksOff, isLate]
  · simp [TrafficUnit.entries, RelayCall.logged?]

/-- The one entry of a datagram that is let through, beside what was passed on.  Nothing was, or the payload, or the
payload and then an answer; the mirror is told of exactly these; and the bytes that went back are counted.  The
payload is counted unless a step after it failed: then the entry says that nothing went up. -/
theorem account_of_run (site : Site) (status : GatewayStatus) (freshId source : String) (bytes : List UInt8)
    {target : String} {es : List RelayExchange} {result : Option WebResponse}
    (h : Runs ((TrafficUnit.datagram source bytes).task site status freshId) es result)
    (hadmitted : TrafficUnit.Admitted (.datagram source bytes) target es) :
    ∃ p entry, Preamble.readComplete bytes = .ok p ∧ TrafficUnit.entries es = [entry] ∧
      (carried es = [] ∨ carried es = [(.up, bytes.drop p.headerLength)] ∨
        ∃ answer, carried es = [(.up, bytes.drop p.headerLength), (.down, answer)]) ∧
      mirrored es = (carried es).map (payloadPacket source target) ∧
      entry.transfer.down = volume .down es ∧
      (entry.transfer.up = volume .up es ↔ (breaksOff es = true → bytes.drop p.headerLength = [])) ∧
      (breaksOff es = true → entry.transfer.up = 0) := by
  obtain ⟨es₁, es₂, _, rfl, hdatagram, hdone⟩ := runs_bind_iff.1 h
  obtain ⟨rfl, -⟩ := runs_done_iff.1 hdone
  rw [List.append_nil] at hadmitted ⊢
  obtain ⟨p, user, work, transfer, hread, rfl, hwork, rfl⟩ := runs_datagram_admitted hdatagram hadmitted
  obtain ⟨hcarried, hmirrored, hbreaksOff, hentries⟩ := of_framed p.token p.target user work
    (.datagram (some user) source p.target transfer .allowed)
  obtain ⟨hdown, hcounted, huncounted⟩ := counts_of_exchanges hwork
  rw [hmirrored, hentries, entries_of_exchanges hwork, hbreaksOff]
  unfold volume at hdown hcounted huncounted ⊢
  rw [hcarried]
  refine ⟨p, _, hread, rfl, carried_of_exchanges hwork, mirrored_of_exchanges hwork, hdown, ?_, ?_⟩
  · constructor
    · intro hup hlate
      obtain ⟨hzero, hvolume⟩ := huncounted hlate
      exact List.length_eq_zero_iff.1 (hvolume.symm.trans (hup.symm.trans hzero))
    · intro hempty
      cases hlate : breaksOff work with
      | false => exact hcounted hlate
      | true =>
        obtain ⟨hzero, hvolume⟩ := huncounted hlate
        rw [hempty hlate] at hvolume
        exact hzero.trans hvolume.symm
  · exact fun hlate => (huncounted hlate).1

private theorem exists_runs_ping {es : List RelayExchange} {transfer : Transfer}
    (hwork : Runs (exchange ⟨[]⟩ "c:1" "h:1" [1, 2]) es transfer) :
    ∃ es', es' = ⟨.validate "t", .ok ⟨"u1", "Una", "una@h", [], "user", []⟩⟩ ::
        ⟨.decide ⟨"u1", "Una", "una@h", [], "user", []⟩ "h:1", true⟩ :: (es ++ [⟨.audit
          (.datagram (some ⟨"u1", "Una", "una@h", [], "user", []⟩) "c:1" "h:1" transfer .allowed), ()⟩]) ∧
      Runs ((TrafficUnit.datagram "c:1" (Preamble.encodeBinary "t" "h:1" ++ [1, 2])).task {} {} "id") es' none ∧
      TrafficUnit.Admitted (.datagram "c:1" (Preamble.encodeBinary "t" "h:1" ++ [1, 2])) "h:1" es' :=
  have hread : Preamble.readComplete (Preamble.encodeBinary "t" "h:1" ++ [1, 2]) = .ok ⟨"t", "h:1", 12⟩ :=
    Preamble.readComplete_eq_ok_iff.2 (Preamble.read_encodeBinary (by decide) (by decide) (by decide) [1, 2])
  exists_runs_of_exchange hread {} {} "id" ⟨"u1", "Una", "una@h", [], "user", []⟩ hwork

/-- Of a datagram that is answered both ways are counted. -/
theorem account_of_answered :
    ∃ es entry,
      Runs ((TrafficUnit.datagram "c:1" (Preamble.encodeBinary "t" "h:1" ++ [1, 2])).task {} {} "id") es none ∧
      TrafficUnit.entries es = [entry] ∧ carried es = [(.up, [1, 2]), (.down, [7])] ∧
      entry.transfer.up = 2 ∧ entry.transfer.down = 1 := by
  have hwork : Runs (exchange ⟨[]⟩ "c:1" "h:1" [1, 2])
      [⟨.lookup "h:1", .ok (some ⟨.v4 1, 1, 0⟩)⟩, ⟨.openSocket ⟨.v4 1, 1, 0⟩, .ok ()⟩, ⟨.send [1, 2], .ok ()⟩,
        ⟨.mirror (.datagram "c:1" "h:1" [1, 2]), ()⟩, ⟨.receive, .datagram [7]⟩, ⟨.reply [7], .ok ()⟩,
        ⟨.mirror (.datagram "h:1" "c:1" [7]), ()⟩] ⟨2, 1⟩ :=
    .ask _ (.ask _ (.ask _ (.ask _ (.ask _ (.ask _ (.ask _ (.done _)))))))
  obtain ⟨es, hes, hrun, hadmitted⟩ := exists_runs_ping hwork
  obtain ⟨p, entry, -, hentries, -, -, hdown, hup, -⟩ := account_of_run {} {} "id" "c:1" _ hrun hadmitted
  have hlate : breaksOff es = false := by rw [hes]; rfl
  refine ⟨es, entry, hrun, hentries, by rw [hes]; rfl, ?_, ?_⟩
  · rw [hup.2 (by rw [hlate]; nofun), hes]
    rfl
  · rw [hdown, hes]
    rfl

/-- When the target refuses a datagram, waiting for its answer fails: two bytes were sent, and the entry says none. -/
theorem sent_not_counted :
    ∃ es entry,
      Runs ((TrafficUnit.datagram "c:1" (Preamble.encodeBinary "t" "h:1" ++ [1, 2])).task {} {} "id") es none ∧
      TrafficUnit.Admitted (.datagram "c:1" (Preamble.encodeBinary "t" "h:1" ++ [1, 2])) "h:1" es ∧
      TrafficUnit.entries es = [entry] ∧ volume .up es = 2 ∧ entry.transfer.up = 0 := by
  have hwork : Runs (exchange ⟨[]⟩ "c:1" "h:1" [1, 2])
      [⟨.lookup "h:1", .ok (some ⟨.v4 1, 1, 0⟩)⟩, ⟨.openSocket ⟨.v4 1, 1, 0⟩, .ok ()⟩, ⟨.send [1, 2], .ok ()⟩,
        ⟨.mirror (.datagram "c:1" "h:1" [1, 2]), ()⟩, ⟨.receive, .failed ⟨"ConnectionRefused", ""⟩⟩] {} :=
    .ask _ (.ask _ (.ask _ (.ask _ (.ask _ (.done _)))))
  obtain ⟨es, rfl, hrun, hadmitted⟩ := exists_runs_ping hwork
  exact ⟨_, _, hrun, hadmitted, rfl, rfl, rfl⟩

end RelayTask

end AccessGateway
