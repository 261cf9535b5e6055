import AccessGateway.Crypto.Rsa

/-!
# Elliptic curve signatures

ECDSA over the curves P-256 and P-384, with signatures of fixed length, and Ed25519. Points of the first two are
kept in Jacobian coordinates, in which the point at infinity has a third coordinate of zero; points of the last
in extended coordinates, in which addition has no exceptions.
-/

namespace AccessGateway

/-- The inverse modulo a prime. -/
def inverseMod (x p : Nat) : Nat := powMod x (p - 2) p

/-- A curve `y² = x³ - 3 x + b` of prime order over a prime field whose size is 3 modulo 4. -/
structure Curve where
  size : Nat
  prime : Nat
  b : Nat
  order : Nat
  generator : Nat × Nat

namespace Curve

def p256 : Curve where
  size := 32
  prime := 0xffffffff00000001000000000000000000000000ffffffffffffffffffffffff
  b := 0x5ac635d8aa3a93e7b3ebbd55769886bc651d06b0cc53b0f63bce3c3e27d2604b
  order := 0xffffffff00000000ffffffffffffffffbce6faada7179e84f3b9cac2fc632551
  generator := (0x6b17d1f2e12c4247f8bce6e563a440f277037d812deb33a0f4a13945d898c296,
    0x4fe342e2fe1a7f9b8ee7eb4a7c0f9e162bce33576b315ececbb6406837bf51f5)

def p384 : Curve where
  size := 48
  prime := 0xfffffffffffffffffffffffffffffffffffffffffffffffffffffffffffffffeffffffff0000000000000000ffffffff
  b := 0xb3312fa7e23ee7e4988e056be3f82d19181d9c6efe8141120314088f5013875ac656398d8a2ed19d2a85c8edd3ec2aef
  order := 0xffffffffffffffffffffffffffffffffffffffffffffffffc7634d81f4372ddf581a0db248b0a77aecec196accc52973
  generator := (0xaa87ca22be8b05378eb1c71ef320ad746e1d3b628ba79b9859f741e082542a385502f25dbf55296c3a545e3872760ab7,
    0x3617de4a96262c6f5d9e98bf9292dc29f8f41dbd289a147ce9da3113b5f0b8c00a60b1ce1d7e819d7a431d7c90ea0e5f)

/-- A point in Jacobian coordinates. -/
structure Point where
  x : Nat
  y : Nat
  z : Nat

def infinity : Point := ⟨1, 1, 0⟩

/-- The right side of the equation of the curve. -/
def rightSide (c : Curve) (x : Nat) : Nat := (x * x * x + (c.prime - 3) * x + c.b) % c.prime

/-- Twice a point. -/
def double (c : Curve) (q : Point) : Point :=
  let p := c.prime
  let yy := q.y * q.y % p
  let zz := q.z * q.z % p
  let s := 4 * q.x * yy % p
  let m := 3 * (q.x + zz) * (q.x + p - zz) % p
  let x := (m * m + 2 * (p - s)) % p
  ⟨x, (m * (s + p - x) + 8 * (p - yy * yy % p)) % p, 2 * q.y * q.z % p⟩

/-- The sum of two points. -/
def add (c : Curve) (q r : Point) : Point :=
  let p := c.prime
  if q.z = 0 then r
  else if r.z = 0 then q
  else
    let qz := q.z * q.z % p
    let rz := r.z * r.z % p
    let u1 := q.x * rz % p
    let u2 := r.x * qz % p
    let s1 := q.y * rz * r.z % p
    let s2 := r.y * qz * q.z % p
    if u1 = u2 then if s1 = s2 then double c q else infinity
    else
      let h := (u2 + p - u1) % p
      let d := (s2 + p - s1) % p
      let hh := h * h % p
      let hhh := h * hh % p
      let v := u1 * hh % p
      let x := (d * d + (p - hhh) + 2 * (p - v)) % p
      ⟨x, (d * (v + p - x) + (p - s1) * hhh) % p, h * q.z * r.z % p⟩

def multiply (c : Curve) (k : Nat) (q : Point) : Point :=
  if k = 0 then infinity
  else
    let half := multiply c (k / 2) (double c q)
    if k % 2 = 1 then add c q half else half
termination_by k

/-- The first coordinate of a point, if it is not at infinity. -/
def affineX? (c : Curve) (q : Point) : Option Nat :=
  if q.z = 0 then none
  else
    let i := inverseMod q.z c.prime
    some (q.x * i * i % c.prime)

/-- A point from its bytes, with both coordinates or with the first and the parity of the second. -/
def readPoint? (c : Curve) (bs : List UInt8) : Option Point :=
  match bs with
  | [] => none
  | t :: r =>
    let x := Sha2.ofBytes (r.take c.size)
    let y := Sha2.ofBytes (r.drop c.size)
    if t = 0x04 ∧ r.length = 2 * c.size then
      if x < c.prime ∧ y < c.prime ∧ y * y % c.prime = c.rightSide x then some ⟨x, y, 1⟩ else none
    else if (t = 0x02 ∨ t = 0x03) ∧ r.length = c.size ∧ x < c.prime then
      let root := powMod (c.rightSide x) ((c.prime + 1) / 4) c.prime
      if root * root % c.prime ≠ c.rightSide x then none
      else some ⟨x, if root % 2 = t.toNat % 2 then root else c.prime - root, 1⟩
    else none

/-- Verifies a signature made of two numbers of the size of the curve. -/
def verify (c : Curve) (h : Hash) (key message signature : List UInt8) : Bool :=
  match c.readPoint? key with
  | none => false
  | some q =>
    let r := Sha2.ofBytes (signature.take c.size)
    let s := Sha2.ofBytes (signature.drop c.size)
    let e := Sha2.ofBytes ((h.of message).take c.size)
    if signature.length = 2 * c.size ∧ 0 < r ∧ r < c.order ∧ 0 < s ∧ s < c.order then
      let w := inverseMod s c.order
      let sum := add c (multiply c (e * w % c.order) ⟨c.generator.1, c.generator.2, 1⟩) (multiply c (r * w % c.order) q)
      (c.affineX? sum).any fun x => x % c.order = r
    else false

end Curve

namespace Ed25519

/-- The size of the field. -/
def prime : Nat := (1 <<< 255) - 19

/-- The order of the generator. -/
def order : Nat := (1 <<< 252) + 27742317777372353535851937790883648493

/-- The coefficient of the curve `y² - x² = 1 + d x² y²`. -/
def coefficient : Nat := (prime - 121665) * inverseMod 121666 prime % prime

/-- A point in extended coordinates: the product of the first two is that of the last two. -/
structure Point where
  x : Nat
  y : Nat
  z : Nat
  t : Nat

/-- The sum of two points. -/
def add (q r : Point) : Point :=
  let a := (q.y + prime - q.x) * (r.y + prime - r.x) % prime
  let b := (q.y + q.x) * (r.y + r.x) % prime
  let c := 2 * q.t * r.t * coefficient % prime
  let d := 2 * q.z * r.z % prime
  let e := b + prime - a
  let f := d + prime - c
  let g := d + c
  let h := b + a
  ⟨e * f % prime, g * h % prime, f * g % prime, e * h % prime⟩

def multiply (k : Nat) (q : Point) : Point :=
  if k = 0 then ⟨0, 1, 1, 0⟩
  else
    let half := multiply (k / 2) (add q q)
    if k % 2 = 1 then add q half else half
termination_by k

/-- The number written by bytes, the lowest first. -/
def ofBytes (bs : List UInt8) : Nat := Sha2.ofBytes bs.reverse

/-- The point with a second coordinate and a parity of the first. -/
def point? (y : Nat) (odd : Bool) : Option Point :=
  if prime ≤ y then none
  else
    let u := (y * y + prime - 1) % prime
    let v := (coefficient * y * y + 1) % prime
    let x := u * powMod v 3 prime * powMod (u * powMod v 7 prime) ((prime - 5) / 8) prime % prime
    let x := if v * x * x % prime = u then x else x * powMod 2 ((prime - 1) / 4) prime % prime
    if v * x * x % prime ≠ u ∨ (x = 0 ∧ odd) then none
    else
      let x := if (x % 2 = 1) = odd then x else prime - x
      some ⟨x, y, 1, x * y % prime⟩

/-- A point from its bytes. -/
def readPoint? (bs : List UInt8) : Option Point :=
  let n := ofBytes bs
  if bs.length = 32 then point? (n % (1 <<< 255)) (1 <<< 255 ≤ n) else none

/-- The bytes of a point. -/
def writePoint (q : Point) : List UInt8 :=
  let i := inverseMod q.z prime
  let x := q.x * i % prime
  let y := q.y * i % prime
  (Sha2.toBytes 32 (y + ((x % 2) <<< 255))).reverse

def generator? : Option Point := point? (4 * inverseMod 5 prime % prime) false

/-- Verifies a signature made of a point and a number. -/
def verify (key message signature : List UInt8) : Bool :=
  match readPoint? key, generator? with
  | some a, some b =>
    let r := signature.take 32
    let s := ofBytes (signature.drop 32)
    let k := ofBytes (Hash.sha512.of (r ++ key ++ message)) % order
    let minusA : Point := ⟨(prime - a.x) % prime, a.y, a.z, (prime - a.t) % prime⟩
    signature.length = 64 && s < order && writePoint (add (multiply s b) (multiply k minusA)) = r
  | _, _ => false

end Ed25519

end AccessGateway
