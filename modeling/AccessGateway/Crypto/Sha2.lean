/-!
# SHA-2

The hash functions of FIPS 180-4, for both word sizes at once. The round constants are the leading bits of the
fractional parts of the cube roots of the first primes, the initial words those of square roots.
-/

namespace AccessGateway.Sha2

/-- The greatest number whose `k`-th power is at most `n`, between `lo` and `lo + 2 ^ steps`. -/
def rootFrom (k n : Nat) : Nat → Nat → Nat
  | 0, lo => lo
  | steps + 1, lo =>
    let next := lo + (1 <<< steps)
    rootFrom k n steps (if Nat.pow next k ≤ n then next else lo)

/-- The first `w` bits behind the point of the `k`-th root of a number below 2^16. -/
def rootBits (w k n : Nat) : BitVec w := BitVec.ofNat w (rootFrom k (n <<< (k * w)) (w + 8) 0)

/-- A number above one without a smaller divisor above one. -/
def isPrime (n : Nat) : Bool := 1 < n && (List.range n).all fun d => d < 2 || n % d ≠ 0

/-- The first eighty primes. -/
def primes : List Nat := (List.range 410).filter isPrime

/-- What depends on the word size: the number of rounds, and the rotations of the four mixing functions, whose
last number is a shift for the two that extend the message. -/
structure Parameters (w : Nat) where
  rounds : Nat
  extend0 : Nat × Nat × Nat
  extend1 : Nat × Nat × Nat
  mix0 : Nat × Nat × Nat
  mix1 : Nat × Nat × Nat
  constants : List (BitVec w)

/-- The parameters for words of 32 bits. -/
def words32 : Parameters 32 where
  rounds := 64
  extend0 := (7, 18, 3)
  extend1 := (17, 19, 10)
  mix0 := (2, 13, 22)
  mix1 := (6, 11, 25)
  constants := (primes.take 64).map (rootBits 32 3)

/-- The parameters for words of 64 bits. -/
def words64 : Parameters 64 where
  rounds := 80
  extend0 := (1, 8, 7)
  extend1 := (19, 61, 6)
  mix0 := (28, 34, 39)
  mix1 := (14, 18, 41)
  constants := (primes.take 80).map (rootBits 64 3)

variable {w : Nat}

/-- Three rotations of a word, combined. -/
def rotations (r : Nat × Nat × Nat) (x : BitVec w) : BitVec w :=
  x.rotateRight r.1 ^^^ x.rotateRight r.2.1 ^^^ x.rotateRight r.2.2

/-- Two rotations and a shift of a word, combined. -/
def rotationsAndShift (r : Nat × Nat × Nat) (x : BitVec w) : BitVec w :=
  x.rotateRight r.1 ^^^ x.rotateRight r.2.1 ^^^ (x >>> r.2.2)

/-- The first words of the message schedule from a window of sixteen. -/
def schedule (p : Parameters w) : Nat → List (BitVec w) → List (BitVec w)
  | 0, _ => []
  | n + 1, window =>
    let at' (i : Nat) : BitVec w := window[i]?.getD 0
    at' 0 :: schedule p n
      (window.drop 1 ++ [rotationsAndShift p.extend1 (at' 14) + at' 9 + rotationsAndShift p.extend0 (at' 1) + at' 0])

/-- The eight words of the state. -/
structure Words (w : Nat) where
  a : BitVec w
  b : BitVec w
  c : BitVec w
  d : BitVec w
  e : BitVec w
  f : BitVec w
  g : BitVec w
  h : BitVec w

/-- The words in order. -/
def Words.toList (s : Words w) : List (BitVec w) := [s.a, s.b, s.c, s.d, s.e, s.f, s.g, s.h]

/-- Word by word sum. -/
def Words.add (s t : Words w) : Words w :=
  ⟨s.a + t.a, s.b + t.b, s.c + t.c, s.d + t.d, s.e + t.e, s.f + t.f, s.g + t.g, s.h + t.h⟩

/-- One round, with its constant and its word of the schedule. -/
def round (p : Parameters w) (s : Words w) (k m : BitVec w) : Words w :=
  let t1 := s.h + rotations p.mix1 s.e + ((s.e &&& s.f) ^^^ (~~~s.e &&& s.g)) + k + m
  let t2 := rotations p.mix0 s.a + ((s.a &&& s.b) ^^^ (s.a &&& s.c) ^^^ (s.b &&& s.c))
  ⟨t1 + t2, s.a, s.b, s.c, s.d + t1, s.e, s.f, s.g⟩

/-- The number written by bytes, the highest first. -/
def ofBytes (bs : List UInt8) : Nat := bs.foldl (fun n b => n * 256 + b.toNat) 0

/-- The lowest `n` bytes of a number, the highest first. -/
def toBytes (n : Nat) (x : Nat) : List UInt8 := (List.range n).reverse.map fun i => UInt8.ofNat (x >>> (8 * i))

/-- Splits a list into parts of a length; what is left over at its end is dropped. -/
def parts (size : Nat) (bs : List UInt8) : List (List UInt8) :=
  (List.range (bs.length / size)).map fun i => (bs.drop (i * size)).take size

/-- Takes a block in. -/
def compress (p : Parameters w) (s : Words w) (block : List UInt8) : Words w :=
  let words := schedule p p.rounds ((parts (w / 8) block).map fun b => BitVec.ofNat w (ofBytes b))
  s.add ((p.constants.zip words).foldl (fun t (k, m) => round p t k m) s)

/-- A message with a one bit, zeros and its length, so that it fills whole blocks of `16 * w` bits. -/
def padded (w : Nat) (message : List UInt8) : List UInt8 :=
  let block := 2 * w
  let used := message.length + 1 + w / 4
  message ++ [0x80] ++ List.replicate ((block - used % block) % block) 0 ++ toBytes (w / 4) (8 * message.length)

/-- The words of a hash. -/
def digest (p : Parameters w) (start : Words w) (message : List UInt8) : List UInt8 :=
  let s := (parts (2 * w) (padded w message)).foldl (compress p) start
  s.toList.flatMap fun x => toBytes (w / 8) x.toNat

/-- The initial words from eight primes. -/
def initial (w : Nat) (ps : List Nat) : Words w :=
  let word (i : Nat) : BitVec w := rootBits w 2 (ps[i]?.getD 0)
  ⟨word 0, word 1, word 2, word 3, word 4, word 5, word 6, word 7⟩

end AccessGateway.Sha2

namespace AccessGateway

/-- A hash function. -/
inductive Hash where
  | sha256
  | sha384
  | sha512
deriving DecidableEq, Repr

namespace Hash

/-- The length of a hash in bytes. -/
def size : Hash → Nat
  | .sha256 => 32
  | .sha384 => 48
  | .sha512 => 64

def of (h : Hash) (message : List UInt8) : List UInt8 :=
  match h with
  | .sha256 => Sha2.digest Sha2.words32 (Sha2.initial 32 Sha2.primes) message
  | .sha384 => (Sha2.digest Sha2.words64 (Sha2.initial 64 (Sha2.primes.drop 8)) message).take 48
  | .sha512 => Sha2.digest Sha2.words64 (Sha2.initial 64 Sha2.primes) message

end Hash

end AccessGateway
