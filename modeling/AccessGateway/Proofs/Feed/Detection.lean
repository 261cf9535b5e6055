import AccessGateway.Mirror.Detection
import AccessGateway.Proofs.Feed.Audit

/-!
# The feed of the intrusion detection

The line of a packet reads back as the record of its event, and the event can be told from its record
(`ofJson?_toJson`).  Whatever becomes of the connection, the lines begun are those of packets that were sent, in this
order (`conveys_run`).
-/

namespace AccessGateway

open Transcript

/-! ### Records of events -/

namespace EveEvent

/-- The event that a record is about. -/
def ofJson? (j : Json) : Option EveEvent := do
  let timestamp ← (← j.field? "timestamp").text?
  let flowId ← (← j.field? "flow_id").nat?
  let sourceAddress ← (← j.field? "src_ip").text?
  let sourcePort ← (← j.field? "src_port").nat?
  let destinationAddress ← (← j.field? "dest_ip").text?
  let destinationPort ← (← j.field? "dest_port").nat?
  let transport ← (← j.field? "proto").text?
  let payloadSize ← (← j.field? "payload_size").nat?
  let .object metadata ← j.field? "metadata" | none
  let host ← (← j.field? "host").text?
  let "mirror" ← (← j.field? "event_type").text? | none
  return ⟨timestamp, flowId, sourceAddress, sourcePort, destinationAddress, destinationPort, transport,
    (j.field? "app_proto").bind Json.text?, payloadSize, metadata, host⟩

theorem ofJson?_toJson (e : EveEvent) : ofJson? e.toJson = some e := by
  obtain ⟨timestamp, flowId, sourceAddress, sourcePort, destinationAddress, destinationPort, transport, application,
    payloadSize, metadata, host⟩ := e
  cases application with
  | none | some => simp [ofJson?, toJson, lasting, Json.field?, Json.text?, Json.nat?, Json.nat]

/-- The numbers are such that the record has them: counts and ports fit 64 bits, and the metadata are values. -/
structure Fits (e : EveEvent) : Prop where
  flowId : e.flowId < 2 ^ 64
  sourcePort : e.sourcePort < 2 ^ 64
  destinationPort : e.destinationPort < 2 ^ 64
  payloadSize : e.payloadSize < 2 ^ 64
  metadata : Json.MembersAreValues e.metadata

/-- The event with every fraction of its metadata as it is written. -/
def written (e : EveEvent) : EveEvent := { e with metadata := Json.writtenMembers e.metadata }

variable {e : EveEvent}

theorem isValue_toJson (he : e.Fits) : e.toJson.IsValue := by
  refine ⟨trivial, Json.isValue_nat he.flowId, ?_⟩
  rw [lasting, Json.membersAreValues_append, Json.membersAreValues_append]
  refine ⟨⟨?_, ?_⟩, Json.isValue_nat he.payloadSize, he.metadata, trivial, trivial, trivial⟩
  · exact ⟨trivial, trivial, Json.isValue_nat he.sourcePort, trivial, Json.isValue_nat he.destinationPort, trivial,
      trivial⟩
  · split
    · exact ⟨trivial, trivial⟩
    · trivial

theorem written_toJson (e : EveEvent) : e.toJson.written = e.written.toJson := by
  have hlasting : Json.writtenMembers e.lasting = e.written.lasting := by
    rw [lasting, Json.writtenMembers_append, Json.writtenMembers_append]
    cases happlication : e.application with
    | none => simp [lasting, written, happlication, Json.writtenMembers, Json.written, Json.nat]
    | some a => simp [lasting, written, happlication, Json.writtenMembers, Json.written, Json.nat]
  simp [toJson, Json.written, Json.writtenMembers, hlasting, Json.nat, written]

theorem endpoint_port_le (address : String) : (endpoint address).2 ≤ 65535 := by
  unfold endpoint
  split
  · rename_i host port h
    unfold splitHostPort? at h
    simp only [Option.bind_eq_bind, Option.bind_eq_some_iff] at h
    obtain ⟨parts, -, port', hport, h⟩ := h
    have hle : port' ≤ 65535 := by
      unfold Text.unsigned? at hport
      simpa using (Option.filter_eq_some_iff.1 hport).2
    split at h
    · cases h
    · cases h
      exact hle
  · exact Nat.zero_le _

end EveEvent

namespace Observation

/-- The moment and the payload are such that their numbers fit 64 bits, and the metadata are values. -/
structure Fits (o : Observation) : Prop where
  micros : o.moment.micros < 2 ^ 64
  payload : o.packet.payload.length < 2 ^ 64
  metadata : Json.MembersAreValues o.packet.metadata

def event (gatewayId : String) (o : Observation) : EveEvent := .ofPacket o.packet o.moment gatewayId

theorem fits_event {o : Observation} (ho : o.Fits) (gatewayId : String) : (o.event gatewayId).Fits where
  flowId := by
    have := ho.micros
    show o.moment.micros.toNat < 2 ^ 64
    omega
  sourcePort := Nat.lt_of_le_of_lt (EveEvent.endpoint_port_le _) (by decide)
  destinationPort := Nat.lt_of_le_of_lt (EveEvent.endpoint_port_le _) (by decide)
  payloadSize := ho.payload
  metadata := ho.metadata

/-- The line of a packet without its line feed. -/
def line (gatewayId : String) (o : Observation) : List UInt8 := Text.bytes (o.event gatewayId).toJson.render

theorem newline_not_mem_line (gatewayId : String) (o : Observation) : 10 ∉ o.line gatewayId :=
  Json.newline_not_mem_bytes _

/-- A line reads as the record of the event of a packet, which tells the event. -/
def Reads (gatewayId : String) (o : Observation) (line : List UInt8) : Prop :=
  Json.ofLine? line = some (o.event gatewayId).written.toJson ∧
    EveEvent.ofJson? (o.event gatewayId).written.toJson = some (o.event gatewayId).written

theorem reads {o : Observation} (ho : o.Fits) (gatewayId : String) : o.Reads gatewayId (o.line gatewayId) := by
  refine ⟨?_, EveEvent.ofJson?_toJson _⟩
  rw [line, Json.ofLine?_bytes (EveEvent.isValue_toJson (fits_event ho gatewayId)), EveEvent.written_toJson]

end Observation

/-! ### The feed -/

/-- Whether a line goes out to its end, the line feed included. -/
def LineOutcome.isWhole (line : List UInt8) : LineOutcome → Bool
  | .written => true
  | .broken n => line.length < n

namespace DetectionSink

variable {p : MirrorPipeline} {s : DetectionSink} {ts : List (Transcript Observation)} {sent : List Observation}
  {lines : List (List UInt8)}

/-- The packet that an event sends. -/
def Event.sent? : Event → Option Observation
  | .send o _ => some o
  | .reconnect _ | .endAttempt => none

/-- The line that an event writes to its end. -/
def wholeLine? (p : MirrorPipeline) (s : DetectionSink) : Event → Option (List UInt8)
  | .send o outcome =>
    if s.connected && outcome.isWhole (o.line p.gatewayId) then some (o.line p.gatewayId) else none
  | .reconnect _ | .endAttempt => none

/-- What the connections carried, of the packets that were sent, and the lines that went out to their ends. -/
structure Conveys (p : MirrorPipeline) (s : DetectionSink) (sent : List Observation) (lines : List (List UInt8))
    (ts : List (Transcript Observation)) : Prop where
  carried : Carried (Observation.line p.gatewayId) s.connections s.connected ts
  shipped_eq : (shipped ts).map (Observation.line p.gatewayId) = lines
  sublist : (history ts).Sublist sent

@[simp] theorem connections_schedule (s : DetectionSink) : s.schedule.connections = s.connections := by
  unfold schedule
  split <;> rfl

@[simp] theorem connected_schedule (s : DetectionSink) : s.schedule.connected = s.connected := by
  unfold schedule
  split <;> rfl

theorem Conveys.connect (h : Conveys p s sent lines ts) : Conveys p s.connect sent lines ({} :: ts) where
  carried := h.carried.opened
  shipped_eq := by rw [shipped_opened, h.shipped_eq]
  sublist := by
    rw [history_opened]
    exact h.sublist

theorem conveys_opened (p : MirrorPipeline) (reachable : Bool) : ∃ ts, Conveys p (opened reachable) [] [] ts := by
  have hnone : Conveys p {} [] [] [] := ⟨.none _, rfl, .slnil⟩
  cases reachable with
  | true => exact ⟨[{}], hnone.connect⟩
  | false => exact ⟨[], hnone.carried, hnone.shipped_eq, hnone.sublist⟩

/-- A line is lost, or it is the next of the lines that are begun. -/
theorem conveys_send (h : Conveys p s sent lines ts) (o : Observation) (outcome : LineOutcome) :
    ∃ ts', Conveys p (s.send (p.eventLine o) outcome).2 (sent ++ [o])
      (lines ++ (wholeLine? p s (.send o outcome)).toList) ts' := by
  obtain ⟨hcarried, hshipped, hsublist⟩ := h
  cases hconnected : s.connected with
  | false =>
    have hsend : (s.send (p.eventLine o) outcome).2 = s.schedule := by simp [send, hconnected]
    have hwhole : wholeLine? p s (.send o outcome) = none := by simp [wholeLine?, hconnected]
    rw [hsend, hwhole, Option.toList_none, List.append_nil]
    refine ⟨ts, ?_, hshipped, hsublist.trans (List.sublist_append_left _ _)⟩
    rwa [connections_schedule, connected_schedule]
  | true =>
    have hnext : (history ts ++ [o]).Sublist (sent ++ [o]) := hsublist.append (List.Sublist.refl _)
    have hline : p.eventLine o = o.line p.gatewayId ++ [10] := rfl
    rw [hconnected] at hcarried
    obtain ⟨c, cs, hconnections⟩ := hcarried.exists_connection
    rw [hconnections] at hcarried
    cases outcome with
    | written =>
      obtain ⟨ts', h', hhistory, hshipped'⟩ := hcarried.written o
      have hwhole : wholeLine? p s (.send o .written) = some (o.line p.gatewayId) := by
        simp [wholeLine?, hconnected, LineOutcome.isWhole]
      refine ⟨ts', ?_, ?_, hhistory ▸ hnext⟩
      · simpa [send, append, hconnected, hconnections, hline] using h'
      · rw [hwhole, hshipped', List.map_append, hshipped]
        rfl
    | broken n =>
      obtain ⟨ts', h', hhistory, hshipped'⟩ := hcarried.broken o n
      have hwhole : wholeLine? p s (.send o (.broken n)) =
          if (o.line p.gatewayId).length < n then some (o.line p.gatewayId) else none := by
        simp [wholeLine?, hconnected, LineOutcome.isWhole]
      refine ⟨ts', ?_, ?_, hhistory ▸ hnext⟩
      · simpa [send, append, hconnected, hconnections, hline] using h'
      · rw [hwhole, hshipped', List.map_append, hshipped]
        split <;> rfl

theorem conveys_step (h : ∃ ts, Conveys p s sent lines ts) (event : Event) :
    ∃ ts, Conveys p (s.step p event) (sent ++ event.sent?.toList) (lines ++ (wholeLine? p s event).toList) ts := by
  obtain ⟨ts, h⟩ := h
  cases event with
  | send o outcome => exact conveys_send h o outcome
  | reconnect reachable =>
    have hsent : sent ++ (Event.reconnect reachable).sent?.toList = sent := List.append_nil sent
    have hlines : lines ++ (wholeLine? p s (.reconnect reachable)).toList = lines := List.append_nil lines
    rw [step, hsent, hlines]
    split
    · cases reachable with
      | true => exact ⟨{} :: ts, h.connect.carried, h.connect.shipped_eq, h.connect.sublist⟩
      | false => exact ⟨ts, h.carried, h.shipped_eq, h.sublist⟩
    · exact ⟨ts, h⟩
  | endAttempt =>
    have hsent : sent ++ Event.endAttempt.sent?.toList = sent := List.append_nil sent
    have hlines : lines ++ (wholeLine? p s .endAttempt).toList = lines := List.append_nil lines
    rw [step, hsent, hlines]
    split
    · exact ⟨ts, h.carried, h.shipped_eq, h.sublist⟩
    · exact ⟨ts, h⟩

theorem conveys_run (p : MirrorPipeline) (reachable : Bool) (events : List Event) :
    ∃ ts, Conveys p ((opened reachable).run p events) (events.filterMap Event.sent?)
      (outputs (step p) (wholeLine? p) (opened reachable) events) ts := by
  induction events using List.reverseRecOn with
  | nil => exact conveys_opened p reachable
  | append_singleton events event ih =>
    rw [run, List.foldl_append, filterMap_concat, outputs_concat]
    exact conveys_step ih event

end DetectionSink

/-! ### Both feeds -/

/-- Traffic cannot break the lines of the feeds, whatever the texts in it are and whatever becomes of the connections:
where the counts fit 64 bits, the whole lines are those that went out to their ends, and each reads as one entry, or as
the event of one packet, in the order of the entries or packets.  Every audit entry is counted, shipped or not. -/
theorem lines_intact (feed : AuditFeed) (n : Nat) (events : List AuditFeed.Event)
    (hrecords : ∀ r ∈ events.filterMap AuditFeed.Event.record?, r.2.Fits) (p : MirrorPipeline) (reachable : Bool)
    (mirrored : List DetectionSink.Event) (hsent : ∀ o ∈ mirrored.filterMap DetectionSink.Event.sent?, o.Fits) :
    let records := events.filterMap AuditFeed.Event.record?
    let shipper := (AuditFeed.run { log := .withCollector n } events).shipper
    let sink := (DetectionSink.opened reachable).run p mirrored
    (∃ ts, Intact AuditFeed.Record.line AuditFeed.Record.Reads shipper.connections shipper.connected records
      (outputs AuditFeed.step AuditFeed.wholeLine? { log := .withCollector n } events) ts) ∧
    (feed.run events).log.recorded = feed.log.recorded ++ records.map Prod.snd ∧
    (∀ kind allowed, (feed.run events).log.metrics.total (AuditLog.accessCounter kind allowed) =
      feed.log.metrics.total (AuditLog.accessCounter kind allowed) +
        records.countP (AuditFeed.Record.isOf kind allowed)) ∧
    (∃ ts, Intact (Observation.line p.gatewayId) (Observation.Reads p.gatewayId) sink.connections sink.connected
      (mirrored.filterMap DetectionSink.Event.sent?)
      (outputs (DetectionSink.step p) (DetectionSink.wholeLine? p) (.opened reachable) mirrored) ts) ∧
    ∀ d : Text.Decimal, d.Same d.written := by
  intro records shipper sink
  obtain ⟨queued, ts, haudit⟩ := AuditFeed.conveys_run n events
  obtain ⟨ts', hdetection⟩ := DetectionSink.conveys_run p reachable mirrored
  have hcounts := AuditFeed.counts_run feed events
  have hhistory : (history ts).Sublist records := (List.sublist_append_left _ _).trans haudit.sublist
  refine ⟨⟨ts, ?_⟩, hcounts.recorded_eq, hcounts.total_eq, ⟨ts', ?_⟩, Text.Decimal.same_written⟩
  · have hreads (r : AuditFeed.Record) (hr : r ∈ records) : r.Reads r.line := AuditFeed.Record.reads (hrecords r hr)
    exact haudit.carried.intact (fun r => r.2.newline_not_mem_line r.1) hreads hhistory haudit.shipped_eq
  · have hreads (o : Observation) (ho : o ∈ mirrored.filterMap DetectionSink.Event.sent?) :
        o.Reads p.gatewayId (o.line p.gatewayId) := Observation.reads (hsent o ho) p.gatewayId
    exact hdetection.carried.intact (Observation.newline_not_mem_line p.gatewayId) hreads hdetection.sublist
      hdetection.shipped_eq

def hostileEvents : List AuditFeed.Event :=
  [.record ⟨0, 0⟩ (.stream none "10.0.0.9:4242\n" "db\r\n:5432" {} (.denied "\"\\\t\x00")), .ship .written,
    .record ⟨1, 0⟩ (.request none "10.0.0.9:4242" "api\n" ⟨"GET", "/\n\"", 200⟩ .allowed), .ship (.broken 9)]

def hostilePipeline : MirrorPipeline := ⟨.raw, [], some "ids:1", "gw"⟩

def hostileTraffic : List DetectionSink.Event :=
  [.send ⟨⟨0, 0⟩, .exchange "10.0.0.9:4242\n" "api" "GET /\n\"" 200 []⟩ .written,
    .send ⟨⟨1, 0⟩, .stream "10.0.0.9:4242" "db\n:5432" [10]⟩ (.broken 9)]

theorem lines_intact_hostile :
    (∀ r ∈ hostileEvents.filterMap AuditFeed.Event.record?, r.2.Fits) ∧
    (∀ o ∈ hostileTraffic.filterMap DetectionSink.Event.sent?, o.Fits) ∧
    (∃ ts, Intact AuditFeed.Record.line AuditFeed.Record.Reads
      (AuditFeed.run { log := .withCollector 1 } hostileEvents).shipper.connections
      (AuditFeed.run { log := .withCollector 1 } hostileEvents).shipper.connected
      (hostileEvents.filterMap AuditFeed.Event.record?)
      (outputs AuditFeed.step AuditFeed.wholeLine? { log := .withCollector 1 } hostileEvents) ts) ∧
    ∃ ts, Intact (Observation.line "gw") (Observation.Reads "gw")
      ((DetectionSink.opened true).run hostilePipeline hostileTraffic).connections
      ((DetectionSink.opened true).run hostilePipeline hostileTraffic).connected
      (hostileTraffic.filterMap DetectionSink.Event.sent?)
      (outputs (DetectionSink.step hostilePipeline) (DetectionSink.wholeLine? hostilePipeline) (.opened true)
        hostileTraffic) ts := by
  have hrecords : ∀ r ∈ hostileEvents.filterMap AuditFeed.Event.record?, r.2.Fits := by
    intro r hr
    simp only [hostileEvents, AuditFeed.Event.record?, List.filterMap_cons, List.filterMap_nil, List.mem_cons,
      List.not_mem_nil, or_false] at hr
    rcases hr with rfl | rfl
    · exact ⟨nofun, by decide, by decide⟩
    · refine ⟨fun h hh => ?_, by decide, by decide⟩
      cases hh
      decide
  have hsent : ∀ o ∈ hostileTraffic.filterMap DetectionSink.Event.sent?, o.Fits := by
    intro o ho
    simp only [hostileTraffic, DetectionSink.Event.sent?, List.filterMap_cons, List.filterMap_nil, List.mem_cons,
      List.not_mem_nil, or_false] at ho
    rcases ho with rfl | rfl
    · refine ⟨by decide, ?_, Json.isValue_nat (by decide), trivial, trivial⟩
      have hlength : (Text.bytes "GET /\n\" 200\r\n\r\n").length < 2 ^ 64 := by decide
      exact hlength
    · exact ⟨by decide, by decide, trivial⟩
  have h := lines_intact { log := {} } 1 hostileEvents hrecords hostilePipeline true hostileTraffic hsent
  exact ⟨hrecords, hsent, h.1, h.2.2.2.1⟩

end AccessGateway
