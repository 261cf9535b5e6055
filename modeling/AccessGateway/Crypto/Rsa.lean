import AccessGateway.Crypto.Der
import AccessGateway.Crypto.Sha2

/-!
# RSA signatures

Verification of both signature schemes of RFC 8017, for moduli of 2048 to 8192 bits. A signature has the length of
the modulus, and raising it to the public exponent gives an encoded message. The older scheme has one encoded
message for a hash; the probabilistic one masks a salt, here as long as the hash.
-/

namespace AccessGateway

/-- The remainder of a power, by repeated squaring. -/
def powMod (base exponent modulus : Nat) : Nat :=
  if exponent = 0 then 1 % modulus
  else
    let half := powMod (base * base % modulus) (exponent / 2) modulus
    if exponent % 2 = 1 then base * half % modulus else half
termination_by exponent

namespace Rsa

structure PublicKey where
  modulus : Nat
  exponent : Nat
deriving DecidableEq, Repr

def bitLength (n : Nat) : Nat := if n = 0 then 0 else n.log2 + 1

/-- A modulus and an exponent fit to verify with. -/
def PublicKey.isUsable (k : PublicKey) : Bool :=
  2048 ≤ bitLength k.modulus && bitLength k.modulus ≤ 8192 && k.modulus % 2 = 1
    && 3 ≤ k.exponent && bitLength k.exponent ≤ 33 && k.exponent % 2 = 1

/-- A positive number from its bytes. -/
def positive? (content : List UInt8) : Option Nat :=
  if content.head?.any (· < 0x80) then some (Sha2.ofBytes content) else none

/-- A key from its bytes: a modulus and an exponent, or these inside a description of their kind. -/
def PublicKey.read? (content : List UInt8) : Option PublicKey := do
  match ← Der.read? content with
  | [.sequence [.integer n, .integer e]] => return ⟨← positive? n, ← positive? e⟩
  | [.sequence [.sequence _, .bitString inner]] =>
    match ← Der.read? inner with
    | [.sequence [.integer n, .integer e]] => return ⟨← positive? n, ← positive? e⟩
    | _ => none
  | _ => none

/-- The bytes that name a hash function in an encoded message, in front of the hash. -/
def digestInfo : Hash → List UInt8
  | .sha256 => [0x30, 0x31, 0x30, 0x0d, 0x06, 0x09, 0x60, 0x86, 0x48, 0x01, 0x65, 0x03, 0x04, 0x02, 0x01, 0x05, 0x00, 0x04, 0x20]
  | .sha384 => [0x30, 0x41, 0x30, 0x0d, 0x06, 0x09, 0x60, 0x86, 0x48, 0x01, 0x65, 0x03, 0x04, 0x02, 0x02, 0x05, 0x00, 0x04, 0x30]
  | .sha512 => [0x30, 0x51, 0x30, 0x0d, 0x06, 0x09, 0x60, 0x86, 0x48, 0x01, 0x65, 0x03, 0x04, 0x02, 0x03, 0x05, 0x00, 0x04, 0x40]

/-- The encoded message of a signature, as a number, if the signature is well-formed for a usable key. -/
def recover? (k : PublicKey) (signature : List UInt8) : Option Nat :=
  let s := Sha2.ofBytes signature
  if k.isUsable && signature.length = (bitLength k.modulus + 7) / 8 && s < k.modulus then
    some (powMod s k.exponent k.modulus)
  else none

/-- Verifies a signature of the older scheme. -/
def verifyPkcs1 (h : Hash) (k : PublicKey) (message signature : List UInt8) : Bool :=
  let tail := digestInfo h ++ h.of message
  let encoded : List UInt8 := [0x00, 0x01] ++ List.replicate (signature.length - 3 - tail.length) 0xFF ++ [0x00] ++ tail
  (recover? k signature).any fun m => Sha2.toBytes signature.length m = encoded

/-- The mask that hashing a seed with a counter gives. -/
def mask (h : Hash) (seed : List UInt8) (size : Nat) : List UInt8 :=
  ((List.range ((size + h.size - 1) / h.size)).flatMap fun i => h.of (seed ++ Sha2.toBytes 4 i)).take size

/-- Verifies a signature of the probabilistic scheme. -/
def verifyPss (h : Hash) (k : PublicKey) (message signature : List UInt8) : Bool :=
  let bits := bitLength k.modulus - 1
  let size := (bits + 7) / 8
  match recover? k signature with
  | none => false
  | some m =>
    let encoded := Sha2.toBytes size m
    let dataSize := size - h.size - 1
    let masked := encoded.take dataSize
    let hash := (encoded.drop dataSize).take h.size
    let spare := 8 * size - bits
    let plain := (masked.zip (mask h hash dataSize)).map fun (x, y) => x ^^^ y
    let data := match plain with
      | b :: bs => UInt8.ofNat (b.toNat % (1 <<< (8 - spare))) :: bs
      | [] => []
    let salt := data.drop (dataSize - h.size)
    m < 1 <<< (8 * size) && 2 * h.size + 2 ≤ size && encoded.getLast? = some 0xBC
      && masked.head?.all (fun b => b.toNat < 1 <<< (8 - spare))
      && data = List.replicate (dataSize - h.size - 1) 0 ++ [0x01] ++ salt
      && h.of (List.replicate 8 0 ++ h.of message ++ salt) = hash

end Rsa

end AccessGateway
