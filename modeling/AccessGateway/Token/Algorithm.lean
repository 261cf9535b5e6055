import AccessGateway.Failure
import AccessGateway.Text.Blank

/-!
# Signing algorithms

The algorithms a token may name. The gateway verifies with a public key, so the symmetric ones are known by name
but never configured.
-/

namespace AccessGateway

/-- What kind of key an algorithm signs with. -/
inductive KeyFamily where
  | secret
  | rsa
  | curve
  | edwards
deriving DecidableEq, Repr

/-- A signing algorithm. -/
inductive Algorithm where
  | hs256
  | hs384
  | hs512
  | es256
  | es384
  | rs256
  | rs384
  | rs512
  | ps256
  | ps384
  | ps512
  | edDSA
deriving DecidableEq, Repr, Inhabited

namespace Algorithm

/-- Every algorithm. -/
def all : List Algorithm :=
  [.hs256, .hs384, .hs512, .es256, .es384, .rs256, .rs384, .rs512, .ps256, .ps384, .ps512, .edDSA]

def name : Algorithm → String
  | .hs256 => "HS256"
  | .hs384 => "HS384"
  | .hs512 => "HS512"
  | .es256 => "ES256"
  | .es384 => "ES384"
  | .rs256 => "RS256"
  | .rs384 => "RS384"
  | .rs512 => "RS512"
  | .ps256 => "PS256"
  | .ps384 => "PS384"
  | .ps512 => "PS512"
  | .edDSA => "EdDSA"

def ofName? (s : String) : Option Algorithm := all.find? (·.name = s)

/-- The kind of key an algorithm needs. -/
def family : Algorithm → KeyFamily
  | .hs256 | .hs384 | .hs512 => .secret
  | .es256 | .es384 => .curve
  | .edDSA => .edwards
  | _ => .rsa

/-- Whether verifying takes the secret that signing takes. -/
def isSymmetric (a : Algorithm) : Bool := a.family = .secret

/-- The algorithm a configuration names, which may have blanks around it and must not be symmetric. -/
def configured (text : String) : Except Failure Algorithm :=
  match ofName? (Text.trimmed text) with
  | none => .error (.config s!"Unknown JWT algorithm '{text}'")
  | some a =>
    if a.isSymmetric then
      .error (.config s!"JWT algorithm {text} is symmetric; an asymmetric algorithm is required")
    else .ok a

/-- A name reads back. -/
@[simp] theorem ofName?_name (a : Algorithm) : ofName? a.name = some a := by
  cases a <;> decide

end Algorithm

end AccessGateway
