import AccessGateway.Gateway.Router
import AccessGateway.Proofs.Preamble.Stream
import AccessGateway.Relay.Datagram

/-!
# Units of traffic

A request, a stream or a datagram, with the token it carries and the target it names: both are read off the unit
itself, a request's from its header and those of the others from the preamble that all their bytes start with.
-/

namespace AccessGateway

/-- A unit of traffic. -/
inductive TrafficUnit where
  | request (r : WebRequest)
  | stream (source : String) (arrival : RelayTask.Arrival)
  | datagram (source : String) (bytes : List UInt8)

namespace TrafficUnit

/-- Where a unit comes from. -/
def source : TrafficUnit → String
  | .request r => r.source
  | .stream source _ => source
  | .datagram source _ => source

/-- The token a unit carries. -/
def token? : TrafficUnit → Option String
  | .request r => bearerToken r.headers
  | .stream _ .tooSlow => none
  | .stream _ (.inTime bytes) => (Preamble.readComplete bytes.pending).toOption.map (·.token)
  | .datagram _ bytes => (Preamble.readComplete bytes).toOption.map (·.token)

/-- The target a unit names. -/
def target? : TrafficUnit → Option String
  | .request r => (targetHost r.headers).toOption
  | .stream _ .tooSlow => none
  | .stream _ (.inTime bytes) => (Preamble.readComplete bytes.pending).toOption.map (·.target)
  | .datagram _ bytes => (Preamble.readComplete bytes).toOption.map (·.target)

/-- What a site does with a unit; only a request has a response. -/
def task (site : Site) (status : GatewayStatus) (freshId : String) : TrafficUnit → RelayTask (Option WebResponse)
  | .request r => some <$> site.respond status freshId r
  | .stream source arrival => (fun _ => none) <$> RelayTask.stream site.routes source arrival
  | .datagram source bytes => (fun _ => none) <$> RelayTask.datagram site.routes source bytes

theorem target?_request_iff {r : WebRequest} {host : String} :
    target? (.request r) = some host ↔ targetHost r.headers = .ok host := by
  have htarget : target? (.request r) = (targetHost r.headers).toOption := rfl
  rw [htarget]
  cases targetHost r.headers <;> simp [Except.toOption]

/-- A stream whose preamble was read carries its token and names its target. -/
theorem stream_of_readStream {bytes : ByteStream} {o : OpenedStream}
    (h : (Preamble.readStream [] bytes).1 = .ok o) (source : String) :
    token? (.stream source (.inTime bytes)) = some o.preamble.token ∧
      target? (.stream source (.inTime bytes)) = some o.preamble.target := by
  have hread : Preamble.readStream [] bytes = (.ok o, (Preamble.readStream [] bytes).2) := Prod.ext h rfl
  rw [token?, target?, (Preamble.readComplete_of_readStream hread).1]
  exact ⟨rfl, rfl⟩

/-- A stream whose preamble was refused carries none. -/
theorem token?_of_readStream_error {bytes : ByteStream} {f : Failure}
    (h : (Preamble.readStream [] bytes).1 = .error f) (source : String) :
    token? (.stream source (.inTime bytes)) = none := by
  obtain ⟨e, he⟩ := Preamble.readComplete_of_readStream_error h
  rw [token?, he]
  rfl

end TrafficUnit

namespace Site

/-- The id given to a request changes no other field. -/
theorem first?_identified {name : String} (h : name ≠ idHeader) (freshId : String) (r : WebRequest) :
    (identified freshId r).headers.first? name = r.headers.first? name := by
  unfold identified
  split
  · rfl
  · have hne : (idHeader == name) = false := beq_false_of_ne (Ne.symm h)
    simp only [Headers.first?, List.find?_append]
    rw [List.find?_cons_of_neg (by simp [HeaderField.ofText, hne]), List.find?_nil, Option.or_none]

theorem bearerToken_identified (freshId : String) (r : WebRequest) :
    bearerToken (identified freshId r).headers = bearerToken r.headers := by
  unfold bearerToken
  rw [first?_identified (by decide)]

theorem targetHost_identified (freshId : String) (r : WebRequest) :
    targetHost (identified freshId r).headers = targetHost r.headers := by
  unfold targetHost
  rw [first?_identified (by decide)]

theorem identified_target (freshId : String) (r : WebRequest) : (identified freshId r).target = r.target := by
  unfold identified
  split <;> rfl

theorem identified_method (freshId : String) (r : WebRequest) : (identified freshId r).method = r.method := by
  unfold identified
  split <;> rfl

theorem identified_body (freshId : String) (r : WebRequest) : (identified freshId r).body = r.body := by
  unfold identified
  split <;> rfl

theorem identified_source (freshId : String) (r : WebRequest) : (identified freshId r).source = r.source := by
  unfold identified
  split <;> rfl

end Site

end AccessGateway
