import AccessGateway.Proofs.Relay.Audit
import AccessGateway.Proofs.Relay.Duplex

/-!
# Streams from end to end

A stream that is let through and meets no failure is carried whole.  Each part of it conveys some bytes in each
direction (`Conveys`): the verdicts and the connection none, the first bytes what came with the preamble, the joined
streams what was still to come.  Put together (`Conveys.append`) they are all the bytes after the preamble one way and
the whole reply the other way, which is also what the mirror and the log were told (`lossless`).
-/

namespace AccessGateway

open Dialogue

def RelayCall.mirrored? : RelayCall → Option MirrorPacket
  | .mirror packet => some packet
  | _ => none

namespace RelayTask

/-- The bytes an exchange passes on in a direction. -/
def passed (d : Direction) : RelayExchange → List UInt8
  | ⟨.sendFirst bytes, result⟩ =>
    match d, result with
    | .up, .ok () => bytes
    | .up, .error _ | .down, _ => []
  | ⟨.join, events⟩ => ((Duplex.run events).pump d).written
  | _ => []

/-- The bytes that a side has received in the end. -/
def received (d : Direction) (es : List RelayExchange) : List UInt8 := es.flatMap (passed d)

def mirrored (es : List RelayExchange) : List MirrorPacket := es.filterMap fun e => e.call.mirrored?

/-- No exchange reports a failure, and the joined streams carry these bytes to their end. -/
def Undisturbed (i : Duplex.Inflow) : RelayExchange → Prop
  | ⟨.connect _, result⟩ => result = .ok ()
  | ⟨.sendFirst _, result⟩ => result = .ok ()
  | ⟨.join, events⟩ => ∃ left, Duplex.Carries {} i events left ∧ (Duplex.run events).isOver
  | _ => True

/-- What is still to come when the preamble of a stream has been read: the bytes that were not taken with it, and the
reply. -/
def inflow (bytes : ByteStream) (reply : List UInt8) : Duplex.Inflow
  | .up => (Preamble.readStream [] bytes).2.pending
  | .down => reply

/-- What a stream is to carry: the bytes after a preamble of some length, and the reply. -/
def payload (bytes : ByteStream) (n : Nat) (reply : List UInt8) : Duplex.Inflow
  | .up => bytes.pending.drop n
  | .down => reply

/-- Exchanges pass on some bytes in each direction, and tell the mirror of them in chunks that are not empty. -/
structure Conveys (source target : String) (all : Duplex.Inflow) (es : List RelayExchange) : Prop where
  received_eq : ∀ d, received d es = all d
  mirrored_eq : ∃ chunks, mirrored es = chunks.map (chunkPacket source target) ∧
    ∀ d, (Duplex.chunksOf d chunks).flatten = all d ∧ ∀ chunk ∈ Duplex.chunksOf d chunks, chunk ≠ []

variable {source target : String} {all all' i : Duplex.Inflow} {es es' : List RelayExchange} {early : List UInt8}
  {events : List DuplexEvent} {transfer : Transfer}

/-! ### Parts -/

/-- What two parts convey is what they convey one after the other. -/
theorem Conveys.append (h : Conveys source target all es) (h' : Conveys source target all' es') :
    Conveys source target (fun d => all d ++ all' d) (es ++ es') := by
  obtain ⟨chunks, hmirrored, hchunks⟩ := h.mirrored_eq
  obtain ⟨chunks', hmirrored', hchunks'⟩ := h'.mirrored_eq
  refine ⟨fun d => ?_, chunks ++ chunks', ?_, fun d => ?_⟩
  · rw [received, List.flatMap_append, ← received, ← received, h.received_eq, h'.received_eq]
  · rw [mirrored, List.filterMap_append, ← mirrored, ← mirrored, hmirrored, hmirrored', List.map_append]
  · have happend : Duplex.chunksOf d (chunks ++ chunks') = Duplex.chunksOf d chunks ++ Duplex.chunksOf d chunks' := by
      rw [Duplex.chunksOf, List.filter_append, List.map_append, ← Duplex.chunksOf, ← Duplex.chunksOf]
    rw [happend, List.flatten_append, (hchunks d).1, (hchunks' d).1]
    refine ⟨rfl, fun chunk hchunk => ?_⟩
    rcases List.mem_append.1 hchunk with hchunk | hchunk
    · exact (hchunks d).2 chunk hchunk
    · exact (hchunks' d).2 chunk hchunk

theorem conveys_nothing {e : RelayExchange} (hpassed : ∀ d, passed d e = []) (hmirrored : e.call.mirrored? = none) :
    Conveys source target (fun _ => []) [e] := by
  refine ⟨fun d => ?_, [], ?_, fun d => ⟨rfl, nofun⟩⟩
  · rw [received, List.flatMap_singleton, hpassed]
  · exact List.filterMap_cons_none hmirrored

/-- The bytes that come with a preamble, as what goes in each direction. -/
def first (early : List UInt8) : Duplex.Inflow
  | .up => early
  | .down => []

private theorem conveys_first (hearly : early ≠ []) (source target : String) :
    Conveys source target (first early)
      [⟨.sendFirst early, .ok ()⟩, ⟨.mirror (.stream source target early), ()⟩] := by
  refine ⟨fun d => ?_, [(.up, early)], rfl, fun d => ?_⟩
  · cases d
    · exact List.append_nil _
    · rfl
  · cases d
    · refine ⟨List.flatten_singleton, ?_⟩
      rintro chunk (_ | ⟨_, ⟨⟩⟩)
      exact hearly
    · exact ⟨rfl, nofun⟩

private theorem mirrored_of_calls {ms : List (Direction × List UInt8)}
    (h : es.map (·.call) = ms.map fun m => .mirror (chunkPacket source target m)) :
    mirrored es = ms.map (chunkPacket source target) := by
  have hes : mirrored es = (es.map (·.call)).filterMap RelayCall.mirrored? := by
    rw [mirrored, List.filterMap_map]
    rfl
  rw [hes, h, List.filterMap_map, ← List.filterMap_eq_map]
  rfl

private theorem received_of_calls {ms : List (Direction × List UInt8)}
    (h : es.map (·.call) = ms.map fun m => .mirror (chunkPacket source target m)) (d : Direction) :
    received d es = [] := by
  rw [received, List.flatMap_eq_nil_iff]
  intro e he
  have hcall : e.call ∈ es.map (·.call) := List.mem_map_of_mem he
  rw [h] at hcall
  obtain ⟨m, -, hm⟩ := List.mem_map.1 hcall
  obtain ⟨call, answer⟩ := e
  cases hm
  rfl

private theorem conveys_joined {left : Duplex.Inflow} (hcarries : Duplex.Carries {} i events left)
    (hover : (Duplex.run events).isOver)
    (hcalls : es.map (·.call) = (Duplex.run events).mirrored.map fun m => .mirror (chunkPacket source target m)) :
    Conveys source target i (⟨.join, events⟩ :: es) := by
  have hdelivers := Duplex.delivers_of_carries hcarries hover
  have hmirrored : mirrored (⟨.join, events⟩ :: es) = mirrored es := List.filterMap_cons_none rfl
  refine ⟨fun d => ?_, (Duplex.run events).mirrored, hmirrored.trans (mirrored_of_calls hcalls), fun d => ?_⟩
  · rw [received, List.flatMap_cons, ← received, received_of_calls hcalls, List.append_nil]
    exact (hdelivers d).1
  · exact (hdelivers d).2.2

/-! ### The joined streams -/

def joined (source target : String) (n : Nat) : RelayTask Transfer := do
  let d := Duplex.run (← ask .join)
  callAll (fun m => .mirror (chunkPacket source target m)) d.mirrored
  return ⟨n + d.up.written.length, d.down.written.length⟩

private theorem conveys_of_runs_joined {n : Nat} (h : Runs (joined source target n) es transfer)
    (hio : ∀ e ∈ es, Undisturbed i e) :
    Conveys source target i es ∧ transfer = ⟨n + (i .up).length, (i .down).length⟩ := by
  obtain ⟨events, es₁, rfl, h₁⟩ := runs_call_bind_iff.1 h
  obtain ⟨es₂, es₃, _, rfl, h₂, h₃⟩ := runs_bind_iff.1 h₁
  obtain ⟨rfl, rfl⟩ := runs_done_iff.1 h₃
  -- the joined streams have carried all that was to come, so these are the numbers that are counted
  obtain ⟨left, hcarries, hover⟩ := hio _ List.mem_cons_self
  have hup : (Duplex.run events).up.written = i .up := (Duplex.delivers_of_carries hcarries hover .up).1
  have hdown : (Duplex.run events).down.written = i .down := (Duplex.delivers_of_carries hcarries hover .down).1
  rw [hup, hdown, List.append_nil]
  exact ⟨conveys_joined hcarries hover (calls_of_runs_callAll h₂), rfl⟩

/-- The first bytes go up before anything that is still to come, and all of it counts. -/
theorem conveys_of_runs_join (h : Runs (join source target early) es transfer) (hio : ∀ e ∈ es, Undisturbed i e) :
    Conveys source target (fun d => first early d ++ i d) es ∧
      transfer = ⟨early.length + (i .up).length, (i .down).length⟩ := by
  cases early with
  | nil =>
    -- nothing came with the preamble, so nothing is sent before the streams are joined
    have hfirst : (fun d => first [] d ++ i d) = i := by
      funext d
      cases d <;> rfl
    rw [hfirst]
    exact conveys_of_runs_joined h hio
  | cons b bs =>
    obtain ⟨result, es₁, rfl, h₁⟩ := runs_call_bind_iff.1 h
    obtain rfl : result = .ok () := hio _ List.mem_cons_self
    obtain ⟨_, es₂, rfl, h₂⟩ := runs_call_bind_iff.1 h₁
    have hio₂ : ∀ e ∈ es₂, Undisturbed i e := fun e he => hio e (List.mem_cons_of_mem _ (List.mem_cons_of_mem _ he))
    obtain ⟨hjoined, htransfer⟩ := conveys_of_runs_joined h₂ hio₂
    exact ⟨(conveys_first (List.cons_ne_nil b bs) source target).append hjoined, htransfer⟩

/-! ### The whole stream -/

theorem Conveys.cons {e : RelayExchange} (hpassed : ∀ d, passed d e = []) (hmirrored : e.call.mirrored? = none)
    (h : Conveys source target all es) : Conveys source target all (e :: es) :=
  (conveys_nothing hpassed hmirrored).append h

theorem Conveys.concat {e : RelayExchange} (h : Conveys source target all es) (hpassed : ∀ d, passed d e = [])
    (hmirrored : e.call.mirrored? = none) : Conveys source target all (es ++ [e]) := by
  have happend := h.append (conveys_nothing hpassed hmirrored)
  simpa only [List.append_nil] using happend

theorem runs_authenticate {token : String} {result : Except Refusal User}
    (h : Runs (authenticate token target) es result) :
    (∃ user, result = .ok user ∧ es = [⟨.validate token, .ok user⟩, ⟨.decide user target, true⟩]) ∨
      (∃ refusal, result = .error refusal) ∧ ∀ user, ⟨.decide user target, true⟩ ∉ es := by
  obtain ⟨answer, es₁, rfl, h₁⟩ := runs_call_bind_iff.1 h
  rcases answer with e | user
  · obtain ⟨rfl, rfl⟩ := runs_done_iff.1 h₁
    exact .inr ⟨⟨_, rfl⟩, by simp⟩
  · obtain ⟨es₂, es₃, answer, rfl, h₂, h₃⟩ := runs_bind_iff.1 h₁
    rcases TrafficUnit.runs_authorize h₂ with ⟨rfl, rfl⟩ | ⟨rfl, f, rfl⟩
    · obtain ⟨rfl, rfl⟩ := runs_done_iff.1 h₃
      exact .inl ⟨user, rfl, rfl⟩
    · obtain ⟨rfl, rfl⟩ := runs_done_iff.1 h₃
      exact .inr ⟨⟨_, rfl⟩, by simp⟩

theorem runs_audit_iff {entry : AccessEntry} {result : Unit} :
    Runs (ask (.audit entry)) es result ↔ es = [⟨.audit entry, ()⟩] := by
  rw [← bind_done (ask _)]
  refine runs_call_bind_iff.trans ⟨?_, ?_⟩
  · rintro ⟨answer, es', rfl, hdone⟩
    rw [(runs_done_iff.1 hdone).1]
  · rintro rfl
    exact ⟨(), [], rfl, .done _⟩

theorem mem_of_admitted {u : TrafficUnit} (h : u.Admitted target es) :
    ∃ user, ⟨.decide user target, true⟩ ∈ es := by
  obtain ⟨token, user, before, between, after, -, rfl⟩ := h.verdicts
  exact ⟨user, by simp⟩

/-- The reader of a stream that starts with a preamble finds it, and what it leaves is all that comes after. -/
private theorem exists_opened (bytes : ByteStream) {p : Preamble} (h : Preamble.readComplete bytes.pending = .ok p)
    (reply : List UInt8) : ∃ o, (Preamble.readStream [] bytes).1 = .ok o ∧ o.preamble = p ∧
      payload bytes p.headerLength reply = fun d => first o.early d ++ inflow bytes reply d := by
  rcases hread : Preamble.readStream [] bytes with ⟨f | o, s'⟩
  · obtain ⟨e, he⟩ := Preamble.readComplete_of_readStream_error (congrArg Prod.fst hread)
    rw [h] at he
    cases he
  · obtain ⟨hp, hpayload, -⟩ := Preamble.readComplete_of_readStream hread
    obtain rfl : p = o.preamble := Except.ok.inj (h.symm.trans hp)
    refine ⟨o, rfl, rfl, ?_⟩
    funext d
    cases d with
    | up => rw [payload, first, inflow, hread, hpayload]
    | down => rfl

/-- A stream that is let through and connected: two verdicts, the connection, the joined streams and the entry. -/
private theorem runs_stream_connected {routes : RouteTable} {bytes : ByteStream} {o : OpenedStream}
    (hopen : (Preamble.readStream [] bytes).1 = .ok o) (h : Runs (stream routes source (.inTime bytes)) es ())
    (hadmitted : TrafficUnit.Admitted (.stream source (.inTime bytes)) o.preamble.target es)
    (hconnect : ∀ address result, ⟨.connect address, result⟩ ∈ es → result = .ok ()) :
    ∃ user work transfer, Runs (join source o.preamble.target o.early) work transfer ∧
      es = ⟨.validate o.preamble.token, .ok user⟩ :: ⟨.decide user o.preamble.target, true⟩ ::
        ⟨.connect (dialAddress routes o.preamble.target), .ok ()⟩ ::
          (work ++ [⟨.audit (.stream (some user) source o.preamble.target transfer .allowed), ()⟩]) := by
  unfold stream at h
  dsimp only at h
  rw [hopen] at h
  obtain ⟨es₁, es₂, result, rfl, h₁, h₂⟩ := runs_bind_iff.1 h
  rcases runs_authenticate h₁ with ⟨user, rfl, rfl⟩ | ⟨⟨refusal, rfl⟩, hnot⟩
  · obtain ⟨connected, es₃, rfl, h₃⟩ := runs_call_bind_iff.1 h₂
    obtain rfl : connected = .ok () := hconnect _ connected (by simp)
    obtain ⟨work, es₅, transfer, rfl, hwork, h₅⟩ := runs_bind_iff.1 h₃
    obtain rfl := runs_audit_iff.1 h₅
    exact ⟨user, work, transfer, hwork, rfl⟩
  · -- a stream that is refused has no verdict that lets it through
    obtain ⟨user, hdecided⟩ := mem_of_admitted hadmitted
    obtain rfl := runs_audit_iff.1 h₂
    rcases List.mem_append.1 hdecided with hdecided | hdecided
    · exact absurd hdecided (hnot user)
    · cases List.mem_singleton.1 hdecided

/-! ### Existence -/

private theorem exists_runs_mirrored (source target : String) (ms : List (Direction × List UInt8)) :
    ∃ es, Runs (callAll (fun m => .mirror (chunkPacket source target m)) ms : RelayTask Unit) es () ∧
      ∀ e ∈ es, Undisturbed i e := by
  induction ms with
  | nil => exact ⟨[], .done (), nofun⟩
  | cons m ms ih =>
    obtain ⟨es, h, hes⟩ := ih
    refine ⟨_, .ask () h, ?_⟩
    rintro e (_ | ⟨_, he⟩)
    · trivial
    · exact hes e he

private theorem exists_runs_join {left : Duplex.Inflow} (hcarries : Duplex.Carries {} i events left)
    (hover : (Duplex.run events).isOver) (source target : String) (early : List UInt8) :
    ∃ es transfer, Runs (join source target early) es transfer ∧ (∀ e ∈ es, Undisturbed i e) ∧
      ⟨.join, events⟩ ∈ es := by
  obtain ⟨es, hmirrored, hes⟩ : ∃ es, Runs _ es () ∧ ∀ e ∈ es, Undisturbed i e :=
    exists_runs_mirrored source target (Duplex.run events).mirrored
  have hjoined : ∀ e ∈ (⟨.join, events⟩ : RelayExchange) :: es, Undisturbed i e := by
    rintro e (_ | ⟨_, he⟩)
    · exact ⟨left, hcarries, hover⟩
    · exact hes e he
  have hrest : ∀ n, Runs (joined source target n) (⟨.join, events⟩ :: es) _ := fun n =>
    runs_call_bind_iff.2 ⟨events, es, rfl, runs_bind_iff.2 ⟨es, [], (), (List.append_nil es).symm, hmirrored, .done _⟩⟩
  cases early with
  | nil => exact ⟨_, _, hrest 0, hjoined, List.mem_cons_self⟩
  | cons b bs =>
    have hrun : Runs (join source target (b :: bs))
        (⟨.sendFirst (b :: bs), .ok ()⟩ :: ⟨.mirror (.stream source target (b :: bs)), ()⟩ ::
          ⟨.join, events⟩ :: es) _ :=
      runs_call_bind_iff.2 ⟨.ok (), _, rfl, runs_call_bind_iff.2 ⟨(), _, rfl, hrest _⟩⟩
    refine ⟨_, _, hrun, ?_, by simp⟩
    rintro e (_ | ⟨_, _ | ⟨_, he⟩⟩)
    · rfl
    · trivial
    · exact hjoined e he

/-- Every way in which the rest of a stream and the reply can be carried occurs when the stream is let through. -/
theorem exists_runs_of_carries (routes : RouteTable) (source : String) {pieces : List (List UInt8)} {reply : List UInt8}
    {p : Preamble} (hread : Preamble.readComplete pieces.flatten = .ok p) (user : User) {left : Duplex.Inflow}
    (hcarries : Duplex.Carries {} (inflow ⟨pieces, none⟩ reply) events left) (hover : (Duplex.run events).isOver) :
    ∃ es, Runs (stream routes source (.inTime ⟨pieces, none⟩)) es () ∧
      TrafficUnit.Admitted (.stream source (.inTime ⟨pieces, none⟩)) p.target es ∧
      (∀ e ∈ es, Undisturbed (inflow ⟨pieces, none⟩ reply) e) ∧ ⟨.join, events⟩ ∈ es := by
  obtain ⟨o, hopen, rfl, -⟩ := exists_opened ⟨pieces, none⟩ hread reply
  obtain ⟨htoken, htarget⟩ := TrafficUnit.stream_of_readStream hopen source
  obtain ⟨work, transfer, hjoin, hwork, hmem⟩ := exists_runs_join hcarries hover source o.preamble.target o.early
  have hrun : Runs (stream routes source (.inTime ⟨pieces, none⟩))
      (⟨.validate o.preamble.token, .ok user⟩ :: ⟨.decide user o.preamble.target, true⟩ ::
        ⟨.connect (dialAddress routes o.preamble.target), .ok ()⟩ ::
          (work ++ [⟨.audit (.stream (some user) source o.preamble.target transfer .allowed), ()⟩])) () := by
    unfold stream
    dsimp only
    rw [hopen]
    have hverdicts : Runs (authenticate o.preamble.token o.preamble.target)
        [⟨.validate o.preamble.token, .ok user⟩, ⟨.decide user o.preamble.target, true⟩] (.ok user) :=
      runs_call_bind_iff.2 ⟨.ok user, _, rfl, runs_call_bind_iff.2 ⟨true, _, rfl, .done _⟩⟩
    refine runs_bind_iff.2 ⟨_, _, .ok user, rfl, hverdicts, runs_call_bind_iff.2 ⟨.ok (), _, rfl, ?_⟩⟩
    exact runs_bind_iff.2 ⟨work, _, transfer, rfl, hjoin, runs_audit_iff.2 rfl⟩
  refine ⟨_, hrun, ⟨htarget, _, user, [], [], _, htoken, rfl⟩, ?_, by simp [hmem]⟩
  rintro e (_ | ⟨_, _ | ⟨_, _ | ⟨_, he⟩⟩⟩)
  · trivial
  · trivial
  · rfl
  · rcases List.mem_append.1 he with he | he
    · exact hwork e he
    · rw [List.mem_singleton.1 he]
      trivial

/-! ### All of it -/

/-- A stream that is let through loses nothing, whatever its bytes, the reply, and the way they are cut and ordered.
If no part of it fails, the target receives exactly the bytes after the preamble and the client exactly the reply; the
mirror is told of them in chunks that are not empty; and the log has the one entry that counts them.  At every point
both directions can still be brought to their end, whichever of them has ended. -/
theorem lossless (routes : RouteTable) {source : String} {pieces : List (List UInt8)} {reply : List UInt8}
    {p : Preamble} (hread : Preamble.readComplete pieces.flatten = .ok p) {es : List RelayExchange}
    (h : Runs (stream routes source (.inTime ⟨pieces, none⟩)) es ())
    (hadmitted : TrafficUnit.Admitted (.stream source (.inTime ⟨pieces, none⟩)) p.target es)
    (hio : ∀ e ∈ es, Undisturbed (inflow ⟨pieces, none⟩ reply) e) :
    Conveys source p.target (payload ⟨pieces, none⟩ p.headerLength reply) es ∧
      (∃ user, ⟨.validate p.token, .ok user⟩ ∈ es ∧
        TrafficUnit.entries es = [.stream (some user) source p.target
          ⟨pieces.flatten.length - p.headerLength, reply.length⟩ .allowed]) ∧
      ∀ events left, Duplex.Carries {} (inflow ⟨pieces, none⟩ reply) events left →
        ∃ more left', Duplex.Carries {} (inflow ⟨pieces, none⟩ reply) (events ++ more) left' ∧
          (Duplex.run (events ++ more)).isOver := by
  obtain ⟨o, hopen, rfl, hpayload⟩ := exists_opened ⟨pieces, none⟩ hread reply
  obtain ⟨user, work, transfer, hjoin, rfl⟩ := runs_stream_connected hopen h hadmitted fun _ _ he => hio _ he
  have hio' : ∀ e ∈ work, Undisturbed (inflow ⟨pieces, none⟩ reply) e := by
    intro e he
    exact hio e (by simp [he])
  obtain ⟨hconveys, rfl⟩ := conveys_of_runs_join hjoin hio'
  have hquiet : TrafficUnit.Quiet work := TrafficUnit.quiet_of_silent (TrafficUnit.silent_join _ _ _) hjoin
  have hup : o.early.length + (inflow ⟨pieces, none⟩ reply .up).length =
      pieces.flatten.length - o.preamble.headerLength := by
    have hlength := congrArg List.length (congrFun hpayload .up)
    rw [payload, List.length_drop, first, List.length_append] at hlength
    exact hlength.symm
  refine ⟨?_, ⟨user, List.mem_cons_self, ?_⟩, fun events left hcarries => hcarries.exists_append⟩
  · rw [hpayload]
    refine .cons (fun _ => rfl) rfl (.cons (fun _ => rfl) rfl (.cons (fun _ => rfl) rfl ?_))
    exact hconveys.concat (fun _ => rfl) rfl
  · rw [TrafficUnit.entries_cons, TrafficUnit.entries_cons, TrafficUnit.entries_cons, TrafficUnit.entries_append,
      TrafficUnit.entries_of_quiet hquiet, hup]
    rfl

/-- The reply ends before the second piece of the stream comes, and that piece is sent on all the same. -/
theorem lossless_after_reply :
    ∃ es, Runs (stream ⟨[]⟩ "c:1" (.inTime ⟨[Preamble.encodeBinary "t" "h:1" ++ [1], [2]], none⟩)) es () ∧
      ⟨.join, [.read .down [9], .written .down, .ended .down, .read .up [2], .written .up, .ended .up]⟩ ∈ es ∧
        received .up es = [1, 2] ∧ received .down es = [9] := by
  have hread : ∀ more, Preamble.read (Preamble.encodeBinary "t" "h:1" ++ more) = .ok (some ⟨"t", "h:1", 12⟩) :=
    Preamble.read_encodeBinary (by decide) (by decide) (by decide)
  have hcomplete : Preamble.readComplete [Preamble.encodeBinary "t" "h:1" ++ [1], [2]].flatten =
      .ok ⟨"t", "h:1", 12⟩ := Preamble.readComplete_eq_ok_iff.2 (hread [1, 2])
  have hinflow : inflow ⟨[Preamble.encodeBinary "t" "h:1" ++ [1], [2]], none⟩ [9] .up = [2] := by
    have hfirst : ByteStream.takePiece (Preamble.room 0) [Preamble.encodeBinary "t" "h:1" ++ [1], [2]] =
        (Preamble.encodeBinary "t" "h:1" ++ [1], [[], [2]]) := by decide
    have hnone : Preamble.read [] = .ok none := rfl
    rw [inflow, Preamble.readStream, hnone]
    dsimp only [List.length_nil]
    rw [hfirst]
    dsimp only
    rw [dif_neg (by decide), List.nil_append, Preamble.readStream, hread]
    rfl
  obtain ⟨left, hcarries⟩ : ∃ left, Duplex.Carries {}
      (inflow ⟨[Preamble.encodeBinary "t" "h:1" ++ [1], [2]], none⟩ [9])
      [.read .down [9], .written .down, .ended .down, .read .up [2], .written .up, .ended .up] left :=
    ⟨_, .cons (.read rfl (by decide) rfl) (.cons (.written rfl) (.cons (.ended rfl rfl)
      (.cons (.read rfl (by decide) hinflow) (.cons (.written rfl) (.cons (.ended rfl rfl) (.nil _ _))))))⟩
  obtain ⟨es, hrun, hadmitted, hio, hjoin⟩ :=
    exists_runs_of_carries ⟨[]⟩ "c:1" hcomplete ⟨"u1", "Una", "una@h", [], "user", []⟩ hcarries (by decide)
  have hconveys := (lossless ⟨[]⟩ hcomplete hrun hadmitted hio).1
  exact ⟨es, hrun, hjoin, hconveys.received_eq .up, hconveys.received_eq .down⟩

end RelayTask

end AccessGateway
