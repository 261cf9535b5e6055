import AccessGateway.Failure
import AccessGateway.Http.Authority
import AccessGateway.Http.Header

/-!
# Target and token of a request

The target of a web request is named by its own header as a bare authority, so that the name the firewall approves
is the name that is dialed. It is normalised: the host in lower case, the port without leading zeros. The token
stands in the authorization header behind the word `Bearer` or `bearer`.
-/

namespace AccessGateway

/-- The header that names the target. -/
def targetHeader : String := "x-target-host"

/-- The port after the host of a target, without leading zeros: a colon and the digits of a number between 1 and
65535. -/
def targetPort? (afterHost : List Char) : Option Nat :=
  match afterHost with
  | ':' :: ds => (Text.natural? ds).filter fun n => 1 ≤ n && n ≤ 65535
  | _ => none

/-- The normalised form of a non-blank, trimmed target; none if it is not a bare authority. -/
def normalizeTarget? (raw : List Char) : Option String :=
  if raw.any fun c => "/?#@\\".toList.contains c || Text.isBlank c then none
  else if !Authority.isLegal raw then none
  else
    let host := Authority.host raw
    let rest := raw.drop host.length
    let name := String.ofList (host.map Char.toLower)
    if host.isEmpty then none
    else if rest.isEmpty then some name
    else (targetPort? rest).map fun p => s!"{name}:{p}"

/-- The target of a request. -/
def targetHost (hs : Headers) : Except Failure String :=
  match hs.first? targetHeader with
  | none => .error .missingTarget
  | some field =>
    match field.text? with
    | none => .error (.invalidTarget (Text.lossyText field.value))
    | some text =>
      let raw := Text.trim text.toList
      if raw.isEmpty then .error .missingTarget
      else
        match normalizeTarget? raw with
        | some t => .ok t
        | none => .error (.invalidTarget (String.ofList raw))

/-- The bearer token of a request. -/
def bearerToken (hs : Headers) : Option String := do
  let text ← (← hs.first? "authorization").text?
  let rest ← (Text.strip? "Bearer ".toList text.toList).or (Text.strip? "bearer ".toList text.toList)
  let token := Text.trim rest
  if token.isEmpty then none else some (String.ofList token)

end AccessGateway
