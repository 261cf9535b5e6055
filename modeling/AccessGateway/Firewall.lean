import AccessGateway.Config.Basic
import AccessGateway.Http.Exchange
import AccessGateway.Http.Header
import AccessGateway.Identity.User
import AccessGateway.Json.Scan
import AccessGateway.Json.Writer

/-!
# The firewall

The decision whether a user may reach a target. Where no policy service is configured everybody may reach
everything; where one is, it is asked, and anything but a yes in its answer is a no. Of the record in the answer only
one member is decoded.
-/

namespace AccessGateway

/-- Who decides. -/
inductive Firewall where
  /-- Everybody may reach everything. -/
  | allowAll
  /-- The policy service under an address, with the token shown to it. -/
  | service (address : String) (token : Option String)
deriving DecidableEq, Repr

/-- A question to the policy service. -/
structure PolicyQuery where
  address : String
  token : Option String
  body : List UInt8
deriving DecidableEq, Repr

namespace Firewall

/-- The firewall of a configuration. A token named by a variable is looked up here and now. -/
def ofConfig (c : FirewallConfig) (vs : Settings.Variables) : Except Failure Firewall :=
  if c.enabled then
    let base := withoutTrailingSlashes c.url
    if base.isEmpty then .error (.config "firewall.url is required")
    else .ok (.service s!"{base}/check-access" (c.resolvedToken vs))
  else .ok .allowAll

/-- The record that asks about a user and a target. -/
def queryBody (userId target : String) : List UInt8 :=
  Text.bytes (Json.object [("user_id", .text userId), ("target", .text target)]).render

/-- The question to the policy service; none if the address or the token cannot stand in a request. -/
def query? (address : String) (token : Option String) (userId target : String) : Option PolicyQuery :=
  match requestAddress address with
  | .error _ => none
  | .ok url =>
    if token.all fun t => (Text.bytes t).all HeaderField.isValueByte then some ⟨url, token, queryBody userId target⟩
    else none

/-- The policy service says yes: in a record whose names are all texts, by the only member `allowed`, or by the only
item of a list. -/
def grants (body : List UInt8) : Bool :=
  ((Json.Scan.parts? .record body).any fun members =>
    members.all (fun m => (Json.Scan.decoded? m.name).isSome) &&
      (members.filter fun m => Json.Scan.decoded? m.name = some "allowed").map (·.value) = [Text.bytes "true"]) ||
  ((Json.Scan.parts? .list body).any fun items => items.map (·.value) = [Text.bytes "true"])

/-- The decision that follows from an exchange with the policy service. -/
def decision (address : String) (e : Exchange) : Bool :=
  match e.body address with
  | .error _ => false
  | .ok body => grants body

/-- Decides whether a user may reach a target, with a policy service that answers queries. -/
def check {σ : Type} (f : Firewall) (service : PolicyQuery → σ → Exchange × σ) (userId target : String) (s : σ) :
    Bool × σ :=
  match f with
  | .allowAll => (true, s)
  | .service address token =>
    match query? address token userId target with
    | none => (false, s)
    | some q =>
      let (e, s) := service q s
      (decision q.address e, s)

end Firewall

end AccessGateway
