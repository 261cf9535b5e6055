import AccessGateway.Audit.Log
import AccessGateway.Proofs.Feed.Framing

/-!
# The audit feed

The line of an entry reads back as the record of that entry, and the entry can be told from its record
(`ofJson?_toJson`).  Every entry is recorded and counted, whatever becomes of its line (`counts_run`).  The lines
begun and then those queued are, in their order, lines of entries that were recorded; each event keeps it so
(`conveys_step`).
-/

namespace AccessGateway

open Transcript

/-! ### Records of entries -/

def Traffic.ofName? : String → Option Traffic
  | "http" => some .http
  | "tcp" => some .tcp
  | "udp" => some .udp
  | _ => none

theorem Traffic.ofName?_name (kind : Traffic) : ofName? kind.name = some kind := by cases kind <;> rfl

namespace AccessEntry

variable {e : AccessEntry} {moment : Instant}

/-- The request that a record is about; without a status no answer was produced. -/
def summaryOfJson? (j : Json) : Option HttpSummary := do
  let method ← (← j.field? "method").text?
  let path ← (← j.field? "path").text?
  return ⟨method, path, ((j.field? "status").bind Json.nat?).getD 0⟩

def verdictOfJson? (j : Json) : Option Verdict :=
  match j.field? "allowed", j.field? "reason" with
  | some (.bool true), none => some .allowed
  | some (.bool false), some (.text reason) => some (.denied reason)
  | _, _ => none

/-- The moment and the entry of a record. -/
def ofJson? (j : Json) : Option (String × AccessEntry) := do
  let moment ← (← j.field? "timestamp").text?
  let kind ← Traffic.ofName? (← (← j.field? "kind").text?)
  let userId ← (← j.field? "user_id").text?
  let userName ← (← j.field? "user_name").text?
  let source ← (← j.field? "source_addr").text?
  let target ← (← j.field? "target").text?
  let up ← (← j.field? "bytes_up").nat?
  let down ← (← j.field? "bytes_down").nat?
  let verdict ← verdictOfJson? j
  return (moment, ⟨kind, userId, userName, source, target, summaryOfJson? j, ⟨up, down⟩, verdict⟩)

theorem ofJson?_toJson (e : AccessEntry) (moment : Instant) :
    ofJson? (e.toJson moment) = some (moment.renderExact, e) := by
  obtain ⟨kind, userId, userName, source, target, http, transfer, verdict⟩ := e
  have hkind := Traffic.ofName?_name kind
  cases http with
  | none =>
    cases verdict with
    | allowed | denied =>
      simp [ofJson?, toJson, fields, Json.field?, Json.text?, Json.nat?, Json.nat, hkind, verdictOfJson?,
        summaryOfJson?, isAllowed]
  | some h =>
    obtain ⟨method, path, status⟩ := h
    cases verdict with
    | allowed | denied =>
      by_cases hstatus : status = 0
      all_goals
        simp [ofJson?, toJson, fields, Json.field?, Json.text?, Json.nat?, Json.nat, hkind, verdictOfJson?,
          summaryOfJson?, isAllowed, hstatus]

/-- The counts fit 64 bits. -/
structure Fits (e : AccessEntry) : Prop where
  status : ∀ h ∈ e.http, h.status < 2 ^ 64
  up : e.transfer.up < 2 ^ 64
  down : e.transfer.down < 2 ^ 64

theorem isValue_toJson (he : e.Fits) (moment : Instant) : (e.toJson moment).IsValue := by
  refine ⟨trivial, ?_⟩
  rw [fields, Json.membersAreValues_append, Json.membersAreValues_append, Json.membersAreValues_append]
  refine ⟨⟨⟨⟨trivial, trivial, trivial, trivial, trivial, trivial⟩, ?_⟩, ?_⟩, ?_⟩
  · split
    · rename_i h hsome
      split
      · exact ⟨trivial, trivial, trivial⟩
      · exact ⟨trivial, trivial, Json.isValue_nat (he.status h hsome), trivial⟩
    · trivial
  · exact ⟨Json.isValue_nat he.up, Json.isValue_nat he.down, trivial, trivial⟩
  · split
    · exact ⟨trivial, trivial⟩
    · trivial

theorem written_fields (e : AccessEntry) : Json.writtenMembers e.fields = e.fields := by
  obtain ⟨kind, userId, userName, source, target, http, transfer, verdict⟩ := e
  rw [fields, Json.writtenMembers_append, Json.writtenMembers_append, Json.writtenMembers_append]
  congr 1
  · congr 2
    cases http with
    | none => rfl
    | some h =>
      by_cases hstatus : h.status = 0
      · simp only [hstatus]
        rfl
      · simp only [hstatus]
        rfl
  · cases verdict <;> rfl

theorem written_toJson (e : AccessEntry) (moment : Instant) : (e.toJson moment).written = e.toJson moment := by
  have hwritten : (e.toJson moment).written =
      .object (("timestamp", .text moment.renderExact) :: Json.writtenMembers e.fields) := rfl
  rw [hwritten, written_fields]
  rfl

/-- The line of an entry reads as the record of the entry. -/
theorem ofLine?_line (he : e.Fits) (moment : Instant) : Json.ofLine? (e.line moment) = some (e.toJson moment) := by
  rw [line, Json.ofLine?_bytes (isValue_toJson he moment), written_toJson]

theorem newline_not_mem_line (e : AccessEntry) (moment : Instant) : 10 ∉ e.line moment :=
  Json.newline_not_mem_bytes _

end AccessEntry

/-! ### Counters -/

namespace AuditLog

theorem accessCounter_inj {kind kind' : Traffic} {allowed allowed' : Bool}
    (h : accessCounter kind allowed = accessCounter kind' allowed') : kind = kind' ∧ allowed = allowed' := by
  simp only [accessCounter, Counter.mk.injEq, List.cons.injEq, Prod.mk.injEq, true_and, and_true] at h
  constructor
  · have hname := congrArg Traffic.ofName? h.1
    rw [Traffic.ofName?_name, Traffic.ofName?_name] at hname
    exact Option.some.inj hname
  · cases allowed <;> cases allowed' <;> simp at h ⊢

end AuditLog

/-! ### The feed -/

/-- Whether a line goes out to its end, the line feed included. -/
def ShipOutcome.isWhole (line : List UInt8) : ShipOutcome → Bool
  | .unreachable => false
  | .written => true
  | .broken n => line.length < n

namespace AuditFeed

/-- An entry with the moment at which it is recorded. -/
abbrev Record := Instant × AccessEntry

def Record.line (r : Record) : List UInt8 := r.2.line r.1

def Record.isOf (kind : Traffic) (allowed : Bool) (r : Record) : Bool := r.2.kind = kind ∧ r.2.isAllowed = allowed

/-- A line reads as the record of an entry, which tells the entry and its moment. -/
def Record.Reads (r : Record) (line : List UInt8) : Prop :=
  Json.ofLine? line = some (r.2.toJson r.1) ∧ AccessEntry.ofJson? (r.2.toJson r.1) = some (r.1.renderExact, r.2)

theorem Record.reads {r : Record} (hr : r.2.Fits) : r.Reads r.line :=
  ⟨AccessEntry.ofLine?_line hr r.1, AccessEntry.ofJson?_toJson r.2 r.1⟩

/-- The entry that an event records. -/
def Event.record? : Event → Option Record
  | .record moment e => some (moment, e)
  | .ship _ => none

/-! ### Counting -/

/-- One feed came from another one by recording some entries. -/
structure Counts (before after : AuditFeed) (records : List Record) : Prop where
  recorded_eq : after.log.recorded = before.log.recorded ++ records.map Prod.snd
  total_eq : ∀ kind allowed, after.log.metrics.total (AuditLog.accessCounter kind allowed) =
    before.log.metrics.total (AuditLog.accessCounter kind allowed) + records.countP (Record.isOf kind allowed)

variable {before f : AuditFeed} {records : List Record}

theorem counts_record (h : Counts before f records) (moment : Instant) (e : AccessEntry) :
    Counts before (f.step (.record moment e)) (records ++ [(moment, e)]) where
  recorded_eq := by
    have hstep : (f.step (.record moment e)).log.recorded = f.log.recorded ++ [e] := rfl
    rw [hstep, h.recorded_eq, List.map_append, List.append_assoc]
    rfl
  total_eq kind allowed := by
    have hstep : (f.step (.record moment e)).log.metrics =
        f.log.metrics.add (AuditLog.accessCounter e.kind e.isAllowed) 1 := rfl
    have hsame : AuditLog.accessCounter kind allowed = AuditLog.accessCounter e.kind e.isAllowed ↔
        e.kind = kind ∧ e.isAllowed = allowed := by
      constructor
      · intro h
        obtain ⟨hkind, hallowed⟩ := AuditLog.accessCounter_inj h
        exact ⟨hkind.symm, hallowed.symm⟩
      · rintro ⟨rfl, rfl⟩
        rfl
    rw [hstep, Metrics.total_add, h.total_eq, List.countP_append, List.countP_singleton, Nat.add_assoc]
    simp only [hsame, Record.isOf, decide_eq_true_eq]

theorem log_ship (f : AuditFeed) (outcome : ShipOutcome) :
    (f.step (.ship outcome)).log.recorded = f.log.recorded ∧ (f.step (.ship outcome)).log.metrics = f.log.metrics := by
  unfold step
  dsimp only
  split
  · split
    · exact ⟨rfl, rfl⟩
    · exact ⟨rfl, rfl⟩
  · exact ⟨rfl, rfl⟩

theorem counts_step (h : Counts before f records) (event : Event) :
    Counts before (f.step event) (records ++ event.record?.toList) := by
  cases event with
  | record moment e => exact counts_record h moment e
  | ship outcome =>
    obtain ⟨hrecorded, hmetrics⟩ := log_ship f outcome
    have hnone : records ++ (Event.ship outcome).record?.toList = records := List.append_nil records
    rw [hnone]
    exact ⟨hrecorded.trans h.recorded_eq, fun kind allowed => hmetrics ▸ h.total_eq kind allowed⟩

theorem counts_run (f : AuditFeed) (events : List Event) :
    Counts f (f.run events) (events.filterMap Event.record?) := by
  induction events using List.reverseRecOn with
  | nil => exact ⟨(List.append_nil _).symm, fun _ _ => rfl⟩
  | append_singleton events event ih =>
    rw [run, List.foldl_append, filterMap_concat]
    exact counts_step ih event

/-! ### Shipping -/

/-- The line that an event ships to its end. -/
def wholeLine? (f : AuditFeed) : Event → Option (List UInt8)
  | .record _ _ => none
  | .ship outcome => (f.log.queue.bind fun q => q.lines.head?).filter outcome.isWhole

variable {queued : List Record} {sent : List (List UInt8)} {ts : List (Transcript Record)} {capacity : Nat}

/-- What the feed shows after some entries were recorded and some lines shipped to their ends. -/
structure Conveys (capacity : Nat) (f : AuditFeed) (records queued : List Record) (sent : List (List UInt8))
    (ts : List (Transcript Record)) : Prop where
  queue_eq : f.log.queue = some ⟨capacity, queued.map Record.line⟩
  carried : Carried Record.line f.shipper.connections f.shipper.connected ts
  shipped_eq : (shipped ts).map Record.line = sent
  sublist : (history ts ++ queued).Sublist records

/-- Bytes go over the connection that stands, or over a new one. -/
theorem exists_write_eq {s : AuditShipper} (h : Carried Record.line s.connections s.connected ts) :
    ∃ c cs ts', (∀ bytes, s.write bytes = (c ++ bytes) :: cs) ∧ Carried Record.line (c :: cs) true ts' ∧
      history ts' = history ts ∧ shipped ts' = shipped ts := by
  obtain ⟨connections, connected⟩ := s
  cases connected with
  | true =>
    obtain ⟨c, cs, hconnections⟩ := h.exists_connection
    refine ⟨c, cs, ts, fun bytes => ?_, hconnections ▸ h, rfl, rfl⟩
    rw [AuditShipper.write, hconnections]
  | false =>
    exact ⟨[], connections, {} :: ts, fun _ => rfl, h.opened, history_opened ts, shipped_opened ts⟩

/-- A line that the shipper takes is dropped, or it is the next of the lines that are begun. -/
theorem carried_ship {s : AuditShipper} (h : Carried Record.line s.connections s.connected ts) (r : Record)
    (outcome : ShipOutcome) :
    ∃ ts', Carried Record.line (s.ship r.line outcome).connections (s.ship r.line outcome).connected ts' ∧
      (history ts' = history ts ∨ history ts' = history ts ++ [r]) ∧
      shipped ts' = shipped ts ++ if outcome.isWhole r.line then [r] else [] := by
  obtain ⟨c, cs, ts₁, hwrite, h₁, hhistory, hshipped⟩ := exists_write_eq h
  cases outcome with
  | unreachable => exact ⟨ts, h, .inl rfl, (List.append_nil _).symm⟩
  | written =>
    obtain ⟨ts', h', hhistory', hshipped'⟩ := h₁.written r
    refine ⟨ts', ?_, .inr (hhistory ▸ hhistory'), hshipped ▸ hshipped'⟩
    rwa [AuditShipper.ship, hwrite]
  | broken n =>
    obtain ⟨ts', h', hhistory', hshipped'⟩ := h₁.broken r n
    refine ⟨ts', ?_, .inr (hhistory ▸ hhistory'), ?_⟩
    · rwa [AuditShipper.ship, hwrite]
    · simpa only [ShipOutcome.isWhole, decide_eq_true_eq, hshipped] using hshipped'

theorem conveys_initial (n : Nat) : Conveys (max n 1) { log := .withCollector n } [] [] [] [] :=
  ⟨rfl, .none _, rfl, .slnil⟩

/-- A full queue drops the line and nothing else. -/
theorem conveys_record (h : Conveys capacity f records queued sent ts) (moment : Instant) (e : AccessEntry) :
    ∃ queued', Conveys capacity (f.step (.record moment e)) (records ++ [(moment, e)]) queued' sent ts := by
  by_cases hroom : queued.length < capacity
  · refine ⟨queued ++ [(moment, e)], ?_, h.carried, h.shipped_eq, ?_⟩
    · simp [step, AuditLog.record, h.queue_eq, AuditLog.enqueue, hroom, Record.line]
    · rw [← List.append_assoc]
      exact h.sublist.append (List.Sublist.refl _)
  · refine ⟨queued, ?_, h.carried, h.shipped_eq, h.sublist.trans (List.sublist_append_left _ _)⟩
    simp [step, AuditLog.record, h.queue_eq, AuditLog.enqueue, hroom]

/-- The shipper takes the first line that is queued, and drops it or begins to write it. -/
theorem conveys_ship (h : Conveys capacity f records queued sent ts) (outcome : ShipOutcome) :
    ∃ queued' ts', Conveys capacity (f.step (.ship outcome)) records queued'
      (sent ++ (f.wholeLine? (.ship outcome)).toList) ts' := by
  cases queued with
  | nil =>
    have hstep : f.step (.ship outcome) = f := by simp [step, h.queue_eq]
    have hwhole : f.wholeLine? (.ship outcome) = none := by simp [wholeLine?, h.queue_eq]
    rw [hstep, hwhole, Option.toList_none, List.append_nil]
    exact ⟨[], ts, h⟩
  | cons r queued =>
    by_cases hkept : outcome = .unreachable ∧ f.shipper.connected
    · have hstep : f.step (.ship outcome) = f := by simp [step, h.queue_eq, hkept]
      have hwhole : f.wholeLine? (.ship outcome) = none := by
        simp [wholeLine?, h.queue_eq, hkept.1, ShipOutcome.isWhole]
      rw [hstep, hwhole, Option.toList_none, List.append_nil]
      exact ⟨r :: queued, ts, h⟩
    · have hstep : f.step (.ship outcome) =
          ⟨{ f.log with queue := some ⟨capacity, queued.map Record.line⟩ }, f.shipper.ship r.line outcome⟩ := by
        simp [step, h.queue_eq, hkept]
      have hwhole : (f.wholeLine? (.ship outcome)).toList = if outcome.isWhole r.line then [r.line] else [] := by
        cases houtcome : outcome.isWhole r.line <;> simp [wholeLine?, h.queue_eq, houtcome]
      obtain ⟨ts', hcarried, hhistory, hshipped⟩ := carried_ship h.carried r outcome
      rw [hstep, hwhole]
      refine ⟨queued, ts', rfl, hcarried, ?_, ?_⟩
      · rw [hshipped, List.map_append, h.shipped_eq]
        split <;> rfl
      · rcases hhistory with hhistory | hhistory
        · rw [hhistory]
          exact ((List.Sublist.refl _).append (List.sublist_cons_self r queued)).trans h.sublist
        · rw [hhistory, List.append_assoc]
          exact h.sublist

theorem conveys_step (h : ∃ queued ts, Conveys capacity f records queued sent ts) (event : Event) :
    ∃ queued ts, Conveys capacity (f.step event) (records ++ event.record?.toList) queued
      (sent ++ (f.wholeLine? event).toList) ts := by
  obtain ⟨queued, ts, h⟩ := h
  cases event with
  | record moment e =>
    have hnone : sent ++ (f.wholeLine? (.record moment e)).toList = sent := List.append_nil sent
    obtain ⟨queued', h'⟩ := conveys_record h moment e
    rw [hnone]
    exact ⟨queued', ts, h'⟩
  | ship outcome =>
    have hnone : records ++ (Event.ship outcome).record?.toList = records := List.append_nil records
    rw [hnone]
    exact conveys_ship h outcome

theorem conveys_run (n : Nat) (events : List Event) :
    ∃ queued ts, Conveys (max n 1) (AuditFeed.run { log := .withCollector n } events)
      (events.filterMap Event.record?) queued (outputs step wholeLine? { log := .withCollector n } events) ts := by
  induction events using List.reverseRecOn with
  | nil => exact ⟨[], [], conveys_initial n⟩
  | append_singleton events event ih =>
    rw [run, List.foldl_append, filterMap_concat, outputs_concat]
    exact conveys_step ih event

end AuditFeed

end AccessGateway
