import AccessGateway.Identity.User
import AccessGateway.Json.Reader
import AccessGateway.Text.Shapeless
import AccessGateway.Token.Header

/-!
# Claims

What a token says about its bearer. Only the subject is required; a claim that is null counts as absent, and claims
that are not listed here may be anything. The date of expiry is a number of seconds, fractions rounded; one that is
no such number counts as absent too, unless it is a list or an object with something in it.
-/

namespace AccessGateway

/-- The claims the gateway looks at. -/
structure Claims where
  subject : String
  kind : Option String
  role : Option String
  userType : Option String
  permissions : Option (List String)
  email : Option String
  name : Option String
  groups : Option (List String)
  expiry : Option Nat
deriving DecidableEq, Repr

namespace Claims

/-- The kind of token that opens the gateway. -/
def accessKind : String := "access"

/-- The seconds by which a token may be past its expiry. -/
def leeway : Nat := 60

/-- A claim that may be absent or null, with a reader for its value. -/
def claim? {α : Type} (read : Json → Option α) : Option Json → Option (Option α)
  | none | some .null => some none
  | some j => (read j).map some

/-- A date in seconds: none if the value cannot stand there, and an absent date if it is no number in range. -/
def date? : Option Json → Option (Option Nat)
  | some (.number (.integer i)) => some (if 0 ≤ i then some i.toNat else none)
  | some (.number (.fraction d)) => some d.rounded64?
  | some (.list (_ :: _)) | some (.object (_ :: _)) => none
  | _ => some none

/-- Claims from the values given for them. -/
def ofValues? (subject kind role userType permissions email name groups expiry notBefore : Option Json) :
    Option Claims := do
  let _ ← date? notBefore
  return {
    subject := ← (← subject).text?
    kind := ← claim? Json.text? kind
    role := ← claim? Json.text? role
    userType := ← claim? Json.text? userType
    permissions := ← claim? Json.texts? permissions
    email := ← claim? Json.text? email
    name := ← claim? Json.text? name
    groups := ← claim? Json.texts? groups
    expiry := ← date? expiry }

/-- The claims that may be given only once. -/
def distinct : List String :=
  ["sub", "type", "role", "user_type", "permissions", "email", "name", "groups", "exp", "nbf", "iss", "aud"]

/-- Reads claims. Beside an object, a list of five values is taken: as claims in the order of the fields, in which
the first two are also the dates. -/
def ofJson? : Json → Option Claims
  | .object ms =>
    let value (name : String) : Option Json := (ms.find? (·.1 == name)).map (·.2)
    if distinct.all fun name => (ms.filter (·.1 == name)).length ≤ 1 then
      ofValues? (value "sub") (value "type") (value "role") (value "user_type") (value "permissions") (value "email")
        (value "name") (value "groups") (value "exp") (value "nbf")
    else none
  | .list [sub, kind, role, userType, permissions] =>
    ofValues? sub kind role userType permissions none none none (some sub) (some kind)
  | _ => none

/-- Reads the claims part of a token and checks its expiry. -/
def read (now : Nat) (encoded : List Char) : Except TokenError Claims :=
  match Text.Base64.decode? .url encoded with
  | none => .error (.invalid "Base64 error")
  | some bytes =>
    match ((Text.text? bytes).bind Json.read?).bind ofJson? with
    | none => .error (.invalid "JSON error")
    | some c =>
      match c.expiry with
      | none => .error (.invalid "Missing required claim: exp")
      | some t => if t + leeway < now then .error .expired else .ok c

/-- A text with something in it beside blanks, or else a substitute. -/
def givenOr (substitute : String) (s : Option String) : String :=
  match s with
  | some s => if (Text.trimmed s).isEmpty then substitute else s
  | none => substitute

/-- The user that claims identify. -/
def toUser (c : Claims) : User where
  id := c.subject
  displayName := givenOr (User.derivedDisplayName c.subject) c.name
  email := givenOr (User.placeholderEmail c.subject) c.email
  groups := c.groups.getD []
  role := (c.role.or c.userType).getD "user"
  permissions := User.distinctMembers ((c.permissions.getD []).map (·, .bool true))

/-- The user that claims identify, if they are those of an access token. -/
def accessUser (c : Claims) : Except TokenError User :=
  let kind := Text.quoted (c.kind.getD "<none>")
  if c.kind = some accessKind then .ok c.toUser
  else .error (.invalid s!"token type {kind} is not an access token")

end Claims

end AccessGateway
