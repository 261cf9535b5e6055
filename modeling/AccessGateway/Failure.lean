import AccessGateway.Port.Range
import AccessGateway.Preamble.Basic

/-!
# Failures

Everything that can go wrong between a client and its target, by cause. A failure has a wording, an HTTP status
for clients of the web path, and a short reason for the audit log.
-/

namespace AccessGateway

/-- Why a token is not accepted. -/
inductive TokenError where
  | missing
  | invalid (reason : String)
  | expired
  | keyUnavailable (reason : String)
deriving DecidableEq, Repr

/-- The wording of a refusal of a token. -/
def TokenError.message : TokenError → String
  | .missing => "missing bearer token"
  | .invalid reason => s!"invalid token: {reason}"
  | .expired => "token expired"
  | .keyUnavailable reason => s!"verification key unavailable: {reason}"

/-- A failed operation of the operating system: its kind and its text. -/
structure SystemError where
  kind : String
  text : String
deriving DecidableEq, Repr

/-- How a request to another service fails. -/
inductive FetchError where
  /-- The request could not be built; the address is shown if it was readable. -/
  | builder (url : Option String)
  /-- The service could not be reached. -/
  | connect (url : String)
  /-- The service answered with an error status. -/
  | status (code : Nat) (reason url : String)
  /-- The answer could not be read as what it should be. -/
  | decode
deriving DecidableEq, Repr

/-- The wording of a failed request. -/
def FetchError.message : FetchError → String
  | .builder none => "builder error"
  | .builder (some url) => s!"builder error for url ({url})"
  | .connect url => s!"error sending request for url ({url})"
  | .status code reason url =>
    let side := if code < 500 then "client" else "server"
    s!"HTTP status {side} error ({code} {reason}) for url ({url})"
  | .decode => "error decoding response body"

inductive Failure where
  | config (text : String)
  | authentication (e : TokenError)
  | authorization (userId target : String)
  | targetUnavailable (target reason : String)
  | mirrorDelivery (destination reason : String)
  | listenerBind (transport : Transport) (port : Nat) (source : String)
  | portRange (e : PortError)
  | framing (e : PreambleError)
  | missingTarget
  | invalidTarget (text : String)
  | io (e : SystemError)
  | json
  | http (e : FetchError)
  | shutdown
  | internal (text : String)
deriving DecidableEq, Repr

namespace Failure

def message : Failure → String
  | .config text => s!"Configuration error: {text}"
  | .authentication e => s!"Authentication failed: {e.message}"
  | .authorization userId target => s!"Access to {target} denied for user {userId}"
  | .targetUnavailable target reason => s!"Upstream unavailable: {target}: {reason}"
  | .mirrorDelivery destination reason => s!"Mirror delivery failed to {destination}: {reason}"
  | .listenerBind t port source => s!"Failed to bind {t.name} port {port}: {source}"
  | .portRange e => s!"Invalid port ranges: {e.message}"
  | .framing e => s!"Invalid preamble: {e.message}"
  | .missingTarget => "Missing target host header"
  | .invalidTarget text => s!"Invalid target host: {text}"
  | .io e => s!"IO error: {e.text}"
  | .json => "JSON error"
  | .http e => s!"HTTP error: {e.message}"
  | .shutdown => "Server shutdown"
  | .internal text => s!"Internal error: {text}"

/-- The HTTP status a client of the web path is given. -/
def status : Failure → Nat
  | .authentication _ => 401
  | .authorization _ _ => 403
  | .missingTarget | .invalidTarget _ | .framing _ | .portRange _ => 400
  | .targetUnavailable _ _ | .http _ => 502
  | _ => 500

/-- The reason the audit log records. -/
def auditReason : Failure → String
  | .authentication e => s!"authentication failed: {e.message}"
  | .authorization _ _ => "denied by firewall policy"
  | .targetUnavailable _ reason => s!"upstream unavailable: {reason}"
  | .framing e => s!"invalid preamble: {e.message}"
  | f => f.message

end Failure

end AccessGateway
