import AccessGateway.Config.Basic
import AccessGateway.Http.Exchange
import AccessGateway.Token.KeyCache
import AccessGateway.Token.Signed

/-!
# The token verifier

A token is admitted if its header names the configured algorithm, its signature and expiry hold under the current
key, and it is an access token. If only the signature is wrong the key may have been replaced meanwhile, so one
forced refresh follows and one more check; if the refresh gives no key the first verdict stands.
-/

namespace AccessGateway

/-- A verifier of bearer tokens. -/
structure Verifier where
  algorithm : Algorithm
  /-- Where the key is fetched; none for a pinned key. -/
  keyAddress : Option String
  policy : KeyPolicy
  cache : KeyCache VerificationKey

namespace Verifier

/-- The least time between two refreshes of a key, in milliseconds. -/
def leastRefreshInterval : Nat := 3600000

/-- The least time between two attempts to fetch a key, in milliseconds. -/
def defaultSpacing : Nat := 60000

/-- The verifier of a configuration, which fetches its key. -/
def ofConfig (c : AuthConfig) : Except Failure Verifier := do
  let a ← Algorithm.configured c.algorithm
  let base := withoutTrailingSlashes c.backendUrl
  if base.isEmpty then throw (.config "auth.backend_url is required")
  return ⟨a, some s!"{base}/verification-key",
    ⟨false, max c.keyRefreshInterval.millis leastRefreshInterval, defaultSpacing⟩, {}⟩

/-- A verifier with a pinned key. -/
def ofPem (pem algorithm : String) : Except Failure Verifier := do
  let a ← Algorithm.configured algorithm
  match VerificationKey.readFor? a pem with
  | none => throw (.config "InvalidKeyFormat")
  | some k => return ⟨a, none, ⟨true, leastRefreshInterval, defaultSpacing⟩, ⟨some k, some 0, none⟩⟩

/-- The text of a key in the answer of the backend: the answer itself if it is a block, or else the text under
`public_key` in a record, whose field `algorithm` is informative. -/
def keyText? (body : String) : Option String :=
  if "-----BEGIN".toList.isPrefixOf (Text.trimStart body.toList) then some body
  else
    let field (key : Json) (algorithm : Option Json) : Option String :=
      match algorithm with
      | none | some .null | some (.text _) => key.text?
      | _ => none
    match Json.read? body with
    | some (.object ms) =>
      match ms.filter (·.1 == "public_key"), ms.filter (·.1 == "algorithm") with
      | [(_, key)], [] => field key none
      | [(_, key)], [(_, a)] => field key (some a)
      | _, _ => none
    | some (.list [key]) => field key none
    | some (.list [key, a]) => field key (some a)
    | _ => none

/-- The key that an exchange with the backend gives. -/
def keyOf (a : Algorithm) (address : String) (e : Exchange) : Except String VerificationKey :=
  match e.body address with
  | .error f => .error f.message
  | .ok body =>
    match keyText? (Text.lossyText body) with
    | none => .error "JSON error"
    | some text => (VerificationKey.readFor? a text).elim (.error "InvalidKeyFormat") .ok

/-- The verdict on a token, as work that needs keys; the time is in seconds. -/
def verdict (a : Algorithm) (now : Nat) (token : String) : KeyTask VerificationKey (Except TokenError User) :=
  match SignedToken.readWithAlgorithm token with
  | .error e => .done (.error e)
  | .ok (t, named) =>
    if named ≠ a then .done (.error (.invalid s!"unexpected signing algorithm {named.name}"))
    else .current fun
      | .error reason => .done (.error (.keyUnavailable reason))
      | .ok key =>
        match t.check now a key with
        | .ok claims => .done claims.accessUser
        | .error (.rejected e) => .done (.error e)
        | .error .signatureMismatch => .refresh true fun
          | .error _ => .done (.error CheckError.signatureMismatch.refusal)
          | .ok fresh =>
            match t.check now a fresh with
            | .ok claims => .done claims.accessUser
            | .error e => .done (.error e.refusal)

/-- A refresh on its own. -/
def refreshTask (force : Bool) : KeyTask VerificationKey (Except TokenError Unit) :=
  .refresh force fun
    | .ok _ => .done (.ok ())
    | .error reason => .done (.error (.keyUnavailable reason))

/-- Runs a task at a time in milliseconds, with a source of exchanges with the backend. -/
def run {α σ : Type} (v : Verifier) (now : Nat) (backend : String → σ → Exchange × σ) (task : KeyTask VerificationKey α)
    (s : σ) : α × Verifier × σ :=
  let address := v.keyAddress.getD ""
  let fetch (s : σ) : Except String VerificationKey × σ :=
    match requestAddress address with
    | .error e => (.error e.message, s)
    | .ok url => (backend url s).map (keyOf v.algorithm url) id
  let (a, cache, s) := task.run v.policy now fetch v.cache s
  (a, { v with cache }, s)

/-- The verdict on a token, at a time in seconds. -/
def validate {σ : Type} (v : Verifier) (now : Nat) (backend : String → σ → Exchange × σ) (token : String) (s : σ) :
    Except TokenError User × Verifier × σ :=
  v.run (now * 1000) backend (verdict v.algorithm now token) s

/-- Whether a key has been obtained. -/
def hasKey (v : Verifier) : Bool := v.cache.key.isSome

end Verifier

end AccessGateway
