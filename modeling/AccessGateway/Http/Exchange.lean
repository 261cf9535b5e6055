import AccessGateway.Failure
import AccessGateway.Url.Basic

/-!
# Exchanges with other services

What becomes of a request to another service: it cannot be built, finds nobody, or is answered. An answer counts as
a success unless its status is an error.
-/

namespace AccessGateway

/-- A final answer: its status, the phrase beside it, and its body if that arrived whole. -/
structure ServiceAnswer where
  status : Nat
  reason : String
  body : Option (List UInt8)
deriving DecidableEq, Repr

/-- What became of a request. -/
inductive Exchange where
  | failed (e : FetchError)
  | answered (a : ServiceAnswer)
deriving DecidableEq, Repr

/-- The normalised address of a request, or why it cannot be built. -/
def requestAddress (address : String) : Except FetchError String :=
  match Url.read? address with
  | none => .error (.builder none)
  | some u => if u.isWeb then .ok u.write else .error (.builder (some u.write))

/-- The body of a successful exchange with an address. -/
def Exchange.body (address : String) : Exchange → Except FetchError (List UInt8)
  | .failed e => .error e
  | .answered a =>
    if 400 ≤ a.status ∧ a.status < 600 then .error (.status a.status a.reason address)
    else a.body.elim (.error .decode) .ok

end AccessGateway
