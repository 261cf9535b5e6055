import AccessGateway.Crypto.Curve
import AccessGateway.Crypto.Pem
import AccessGateway.Token.Algorithm

/-!
# Verification keys

A key is read from its textual encoding and belongs to a family. Only the family is checked on reading: a key that
does not suit the algorithm in another way, such as a curve of another size, verifies nothing.
-/

namespace AccessGateway

/-- A public key: its family and the bytes that hold it. -/
structure VerificationKey where
  family : KeyFamily
  content : List UInt8
deriving DecidableEq, Repr

namespace VerificationKey

/-- The family an object identifier stands for. -/
def familyOf? : Der → Option KeyFamily
  | .objectId c =>
    if c = [0x2a, 0x86, 0x48, 0xce, 0x3d, 0x02, 0x01] then some .curve
    else if c = [0x2a, 0x86, 0x48, 0x86, 0xf7, 0x0d, 0x01, 0x01, 0x01] then some .rsa
    else if c = [0x2b, 0x65, 0x70] then some .edwards
    else none
  | _ => none

/-- Reads a key. A block of the plain RSA kind holds the key itself; otherwise an identifier names the family and
the first string holds the key. Private keys of the plain kind and of RSA are taken too; as public keys they verify
nothing. -/
def read? (text : String) : Option VerificationKey := do
  let pem ← Pem.read? text
  let elements ← Der.read? pem.content
  if pem.label = "RSA PUBLIC KEY" ∨ pem.label = "RSA PRIVATE KEY" then return ⟨.rsa, pem.content⟩
  else if pem.label = "PUBLIC KEY" ∨ pem.label = "CERTIFICATE" ∨ pem.label = "PRIVATE KEY" then
    let family ← Der.firstAmong? familyOf? elements
    let content ← Der.firstAmong? Der.string? elements
    if pem.label = "PRIVATE KEY" ∧ family ≠ .rsa then none else return ⟨family, content⟩
  else none

def readFor? (a : Algorithm) (text : String) : Option VerificationKey :=
  (read? text).filter (·.family = a.family)

/-- Whether a signature of a message is right. -/
def verifies (k : VerificationKey) (a : Algorithm) (message signature : List UInt8) : Bool :=
  let rsa (verify : Rsa.PublicKey → List UInt8 → List UInt8 → Bool) : Bool :=
    (Rsa.PublicKey.read? k.content).any fun key => verify key message signature
  match a with
  | .es256 => Curve.p256.verify .sha256 k.content message signature
  | .es384 => Curve.p384.verify .sha384 k.content message signature
  | .rs256 => rsa (Rsa.verifyPkcs1 .sha256)
  | .rs384 => rsa (Rsa.verifyPkcs1 .sha384)
  | .rs512 => rsa (Rsa.verifyPkcs1 .sha512)
  | .ps256 => rsa (Rsa.verifyPss .sha256)
  | .ps384 => rsa (Rsa.verifyPss .sha384)
  | .ps512 => rsa (Rsa.verifyPss .sha512)
  | .edDSA => Ed25519.verify k.content message signature
  | .hs256 | .hs384 | .hs512 => false

end VerificationKey

end AccessGateway
