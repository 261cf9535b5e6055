import AccessGateway.Url.Basic

/-!
# Login and logout addresses

In the federated modes a browser is sent to the identity service to log in or out; the address to come back to
rides along as a form field. With plain tokens there is no such address.
-/

namespace AccessGateway

/-- How users prove who they are. -/
inductive AuthMode where
  | jwt
  | oauth2
  | saml2
deriving DecidableEq, Repr, Inhabited

namespace AuthMode

def name : AuthMode → String
  | .jwt => "jwt"
  | .oauth2 => "oauth2"
  | .saml2 => "saml2"

def ofName? : String → Option AuthMode
  | "jwt" => some .jwt
  | "oauth2" => some .oauth2
  | "saml2" => some .saml2
  | _ => none

end AuthMode

/-- A base address without slashes at its end. -/
def withoutTrailingSlashes (s : String) : String :=
  String.ofList (s.toList.reverse.dropWhile (· = '/')).reverse

/-- The address of a hook of the identity service. -/
def hookUrl (mode : AuthMode) (backendUrl hook : String) : String :=
  s!"{withoutTrailingSlashes backendUrl}/auth/{mode.name}/{hook}"

/-- Where a browser logs in; with an address to return to, the whole is normalised. -/
def loginUrl (mode : AuthMode) (backendUrl : String) (returnTo : Option String) : Option String :=
  match mode, returnTo with
  | .jwt, _ => none
  | _, none => some (hookUrl mode backendUrl "login")
  | _, some r => (Url.read? (hookUrl mode backendUrl "login")).map fun u => (u.addField "return_to" r).write

/-- Where a browser logs out. -/
def logoutUrl (mode : AuthMode) (backendUrl : String) : Option String :=
  match mode with
  | .jwt => none
  | _ => some (hookUrl mode backendUrl "logout")

end AccessGateway
