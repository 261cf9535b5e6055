import AccessGateway.Text.Split
import AccessGateway.Token.Claims
import AccessGateway.Token.Key

/-!
# Signed tokens

A token is a header, a payload and a signature with points between them, cut at the last two points. The signature
covers the first two parts as they are written. Checks run in a fixed order: the form of the signature, the
signature itself, the payload, its expiry.
-/

namespace AccessGateway

/-- The parts of a token. -/
structure SignedToken where
  header : List Char
  payload : List Char
  signature : List Char
deriving DecidableEq, Repr

/-- Why a check under one key fails: only a wrong signature may be the fault of the key. -/
inductive CheckError where
  | signatureMismatch
  | rejected (e : TokenError)
deriving DecidableEq, Repr

namespace CheckError

/-- The refusal to report. -/
def refusal : CheckError → TokenError
  | .signatureMismatch => .invalid "signature mismatch"
  | .rejected e => e

end CheckError

namespace SignedToken

/-- Cuts a token at its last two points. -/
def read? (token : String) : Option SignedToken := do
  let (message, signature) ← Text.splitLast? '.' token.toList
  let (header, payload) ← Text.splitLast? '.' message
  return ⟨header, payload, signature⟩

def message (t : SignedToken) : List UInt8 := Text.bytes (String.ofList (t.header ++ '.' :: t.payload))

def readWithAlgorithm (token : String) : Except TokenError (SignedToken × Algorithm) :=
  match read? token with
  | none => .error (.invalid "malformed token: InvalidToken")
  | some t => (TokenHeader.read t.header).map (t, ·)

/-- Checks signature and claims of a token under a key, at a time in seconds. -/
def check (now : Nat) (a : Algorithm) (key : VerificationKey) (t : SignedToken) : Except CheckError Claims :=
  match Text.Base64.decode? .url t.signature with
  | none => .error (.rejected (.invalid "Base64 error"))
  | some signature =>
    if key.verifies a t.message signature then (Claims.read now t.payload).mapError .rejected
    else .error .signatureMismatch

end SignedToken

end AccessGateway
