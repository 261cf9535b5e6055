import AccessGateway.Text.Blank
import AccessGateway.Text.Numeral
import AccessGateway.Text.Split
import AccessGateway.Url.Escape
import AccessGateway.Url.Punycode

/-!
# Hosts of addresses

A host is an IPv6 address in brackets, an IPv4 address in any of its spellings, a domain name, or, in addresses of
an unknown scheme, an opaque text. A name whose last label is a number must be an IPv4 address.
-/

namespace AccessGateway.Url

inductive Host where
  | domain (name : List Char)
  | ipv4 (address : Nat)
  | ipv6 (pieces : List Nat)
  | opaqueName (text : List Char)
deriving DecidableEq, Repr

namespace Host

/-- A number of an IPv4 address: hexadecimal behind `0x`, octal behind a zero, else decimal. -/
def ipv4Number? (cs : List Char) : Option Nat :=
  let based (base : Nat) (ds : List Char) (ok : Char → Bool) : Option Nat :=
    if ds.all ok then some (ds.foldl (fun n c => n * base + value c) 0) else none
  match cs with
  | [] => none
  | '0' :: 'x' :: r | '0' :: 'X' :: r => based 16 r (fun c => c.isDigit || ('a' ≤ c.toLower && c.toLower ≤ 'f'))
  | '0' :: d :: r => based 8 (d :: r) (fun c => '0' ≤ c && c ≤ '7')
  | _ => Text.natural? cs
where
  /-- The value of a digit of base 16 or less. -/
  value (c : Char) : Nat := if c.isDigit then c.toNat - 48 else c.toLower.toNat - 87

/-- The labels of a name, less one empty label at the end. -/
def labels (name : List Char) : List (List Char) :=
  let ls := name.splitOn '.'
  if 1 < ls.length && ls.getLast? == some [] then ls.dropLast else ls

/-- The last label is a number. -/
def endsInNumber (name : List Char) : Bool :=
  match (labels name).getLast? with
  | some l => (!l.isEmpty && l.all Char.isDigit) || (ipv4Number? l).isSome
  | none => false

/-- An IPv4 address of one to four numbers, the last of which fills the bytes that are left. -/
def ipv4? (name : List Char) : Option Nat := do
  let ls := labels name
  if 4 < ls.length then none
  else
    let ns ← ls.mapM ipv4Number?
    let last ← ns.getLast?
    let front := ns.dropLast
    if front.any (255 < ·) || 1 <<< (8 * (5 - ns.length)) ≤ last then none
    else return (front.foldl (fun a n => a * 256 + n) 0) <<< (8 * (4 - front.length)) + last

/-- A group of one to four hexadecimal digits. -/
private def group? (cs : List Char) : Option Nat :=
  if cs.isEmpty || 4 < cs.length then none
  else cs.foldlM (fun n c =>
    if c.isDigit || ('a' ≤ c.toLower && c.toLower ≤ 'f') then some (n * 16 + ipv4Number?.value c) else none) 0

/-- The last group of an IPv6 address may be an IPv4 address in plain decimal, which stands for two groups. -/
private def embedded? (cs : List Char) : Option (List Nat) := do
  let parts := cs.splitOn '.'
  if parts.length ≠ 4 then none
  else
    let ns ← parts.mapM fun p => do
      let n ← Text.natural? p
      if 255 < n || (1 < p.length && p.head? == some '0') then none else some n
    match ns with
    | [a, b, c, d] => some [a * 256 + b, c * 256 + d]
    | _ => none

/-- The groups between single colons; the last one may be an embedded IPv4 address. -/
private def groups? : List (List Char) → Option (List Nat)
  | [] => some []
  | [g] => if g.contains '.' then embedded? g else (group? g).map ([·])
  | g :: gs => do return (← group? g) :: (← groups? gs)

/-- The text around the first double colon. -/
private def splitGap : List Char → Option (List Char × List Char)
  | ':' :: ':' :: r => some ([], r)
  | c :: r => (splitGap r).map fun (a, b) => (c :: a, b)
  | [] => none

/-- The eight groups of an IPv6 address, one run of zero groups left out at a double colon. -/
def ipv6? (cs : List Char) : Option (List Nat) :=
  let side (cs : List Char) : Option (List Nat) := if cs.isEmpty then some [] else groups? (cs.splitOn ':')
  match splitGap cs with
  | none => (side cs).filter (·.length = 8)
  | some (a, b) =>
    if a.contains '.' then none
    else do
      let front ← side a
      let back ← side b
      if 8 ≤ front.length + back.length then none
      else return front ++ List.replicate (8 - front.length - back.length) 0 ++ back

/-- The start and length of the first longest run of two or more zero groups. -/
private def longestGap (pieces : List Nat) : Option (Nat × Nat) :=
  let runs := (List.range pieces.length).map fun i => (i, ((pieces.drop i).takeWhile (· = 0)).length)
  let best := runs.foldl (fun acc r => if acc.2 < r.2 then r else acc) (0, 0)
  if 2 ≤ best.2 then some best else none

private def hexGroup (n : Nat) : List Char := Nat.toDigits 16 n

/-- The written form of an IPv6 address, without brackets. -/
def writeIpv6 (pieces : List Nat) : List Char :=
  let joined (ps : List Nat) : List Char := List.intercalate [':'] (ps.map hexGroup)
  match longestGap pieces with
  | none => joined pieces
  | some (i, n) => joined (pieces.take i) ++ [':', ':'] ++ joined (pieces.drop (i + n))

/-- The written form of an IPv4 address. -/
def writeIpv4 (a : Nat) : List Char :=
  List.intercalate ['.'] ([a >>> 24, (a >>> 16) % 256, (a >>> 8) % 256, a % 256].map Text.digits)

/-- The written form of a host. -/
def write : Host → List Char
  | .domain n | .opaqueName n => n
  | .ipv4 a => writeIpv4 a
  | .ipv6 ps => '[' :: writeIpv6 ps ++ [']']

/-- Characters that no domain name may hold; 127 is DEL. -/
def isForbiddenInDomain (c : Char) : Bool :=
  c.toNat ≤ 32 || c.toNat == 127 || "#/:<>?@[\\]^|%".toList.contains c

/-- Characters that no opaque host may hold. -/
def isForbiddenInOpaque (c : Char) : Bool :=
  "\x00\t\n\r #/:<>?@[\\]^|".toList.contains c

/-- The lower case of a letter of the Latin, Greek and Cyrillic alphabets. -/
def lower (c : Char) : Char :=
  let n := c.toNat
  if n = 0x17F then 's'
  else if n = 0x212A then 'k'
  else if (0xC0 ≤ n ∧ n ≤ 0xDE ∧ n ≠ 0xD7) ∨ (0x391 ≤ n ∧ n ≤ 0x3AB) ∨ (0x410 ≤ n ∧ n ≤ 0x42F) then Char.ofNat (n + 32)
  else if 0x400 ≤ n ∧ n ≤ 0x40F then Char.ofNat (n + 80)
  else if (0x100 ≤ n ∧ n ≤ 0x137 ∨ 0x14A ≤ n ∧ n ≤ 0x177) ∧ n % 2 = 0 then Char.ofNat (n + 1)
  else c.toLower

/-- Characters of a name that do not count: the soft hyphen, joiners of words, and selectors of variants. -/
def isIgnored (c : Char) : Bool :=
  let n := c.toNat
  n == 0xAD || n == 0x34F || (0x180B ≤ n && n ≤ 0x180F) || n == 0x200B || n == 0x2060 || n == 0x2064 ||
    (0xFE00 ≤ n && n ≤ 0xFE0F) || n == 0xFEFF || (0xE0100 ≤ n && n ≤ 0xE01EF)

/-- Characters beyond ASCII that no name may hold: controls, blanks, marks of direction, characters of private use, and
the substitutes for what is no character. -/
def isRefused (c : Char) : Bool :=
  let n := c.toNat
  128 ≤ n && (n ≤ 0x9F || Text.isBlank c || (0x200C ≤ n && n ≤ 0x200F) || (0x2028 ≤ n && n ≤ 0x202E) ||
    (0xE000 ≤ n && n ≤ 0xF8FF) || (0xFFF0 ≤ n && n ≤ 0xFFFF) || 0xE0000 ≤ n)

/-- The narrow form of a wide ASCII character, and the full stop for the ideographic ones. -/
def narrow (c : Char) : Char :=
  let n := c.toNat
  if n = 0x3002 ∨ n = 0xFF61 then '.' else if 0xFF01 ≤ n ∧ n ≤ 0xFF5E then Char.ofNat (n - 0xFEE0) else c

/-- The mark in front of a label in Punycode. -/
private def aceMark : List Char := "xn--".toList

/-- A label in ASCII: behind a mark in Punycode if it holds other characters. A label that has the mark already must
be what its own decoding is written as. -/
def asciiLabel? (l : List Char) : Option (List Char) :=
  let encoded (l : List Char) : List Char := aceMark ++ Punycode.encode l
  let isAscii (l : List Char) : Bool := l.all (·.toNat < 128)
  match Text.strip? aceMark l with
  | none => some (if isAscii l then l else encoded l)
  | some rest => do
    let own ← Punycode.decode? rest
    if isAscii own || own.any (fun c => isIgnored c || isRefused c || lower c ≠ c) || encoded own ≠ l then none
    else some l

/-- A domain name in ASCII and in lower case. -/
def asciiDomain? (name : List Char) : Option (List Char) := do
  let plain := (name.filter (!isIgnored ·)).map fun c => lower (narrow c)
  if plain.any isRefused then none
  return List.intercalate ['.'] (← (plain.splitOn '.').mapM asciiLabel?)

/-- Reads the host of an address of a web scheme. -/
def ofSpecial? (cs : List Char) : Option Host :=
  match cs with
  | '[' :: r =>
    if r.getLast? = some ']' then (ipv6? r.dropLast).map .ipv6 else none
  | _ => do
    let name ← asciiDomain? (Text.lossyChars (unescape (Text.bytes (String.ofList cs))))
    if name.isEmpty || name.any isForbiddenInDomain then none
    else if endsInNumber name then (ipv4? name).map .ipv4
    else some (.domain name)

/-- Reads the host of an address of another scheme. -/
def ofOther? (cs : List Char) : Option Host :=
  match cs with
  | '[' :: r =>
    if r.getLast? = some ']' then (ipv6? r.dropLast).map .ipv6 else none
  | _ => if cs.any isForbiddenInOpaque then none else some (.opaqueName (escape isControlOrHigh cs))

end Host

end AccessGateway.Url
