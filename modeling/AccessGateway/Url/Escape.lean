import AccessGateway.Text.Utf8

/-!
# Percent escapes

Bytes of an address that may not stand for themselves are written as a percent sign and two upper-case
hexadecimal digits. Which bytes those are depends on the part of the address; bytes above 126 are never kept.
-/

namespace AccessGateway.Url

/-- A byte below 32 or above 126. -/
def isControlOrHigh (b : UInt8) : Bool := b < 0x20 || 0x7E < b

/-- Whether a byte is the code of one of some characters. -/
def isOneOf (cs : String) (b : UInt8) : Bool := cs.toList.any fun c => c.toNat == b.toNat

/-- Bytes escaped in a fragment; 96 is the grave accent. -/
def inFragmentSet (b : UInt8) : Bool := isControlOrHigh b || isOneOf " \"<>" b || b == 96

/-- Bytes escaped in a path. -/
def inPathSet (b : UInt8) : Bool := inFragmentSet b || isOneOf "#?\x7b\x7d" b

/-- Bytes escaped in a user name or password. -/
def inUserSet (b : UInt8) : Bool := inPathSet b || isOneOf "/:;=@[\\]^|" b

/-- Bytes escaped in a query; the apostrophe is one of them in the web schemes. -/
def inQuerySet (special : Bool) (b : UInt8) : Bool :=
  isControlOrHigh b || isOneOf " \"#<>" b || (special && b == 39)

private def upperHex (n : Nat) : Char := if n < 10 then Char.ofNat (48 + n) else Char.ofNat (55 + n)

def escapeByte (b : UInt8) : List Char := ['%', upperHex (b.toNat / 16), upperHex (b.toNat % 16)]

/-- A character with the bytes of a set escaped. -/
def escapeChar (set : UInt8 → Bool) (c : Char) : List Char :=
  (Text.bytes c.toString).flatMap fun b => if set b then escapeByte b else [Char.ofNat b.toNat]

/-- A text with the bytes of a set escaped. -/
def escape (set : UInt8 → Bool) (cs : List Char) : List Char := cs.flatMap (escapeChar set)

private def hexDigit? (b : UInt8) : Option UInt8 :=
  if 48 ≤ b && b ≤ 57 then some (b - 48)
  else if 97 ≤ b && b ≤ 102 then some (b - 87)
  else if 65 ≤ b && b ≤ 70 then some (b - 55)
  else none

/-- Bytes with each complete escape replaced by the byte it stands for. -/
def unescape : List UInt8 → List UInt8
  | 37 :: a :: b :: r =>
    match hexDigit? a, hexDigit? b with
    | some x, some y => (x * 16 + y) :: unescape r
    | _, _ => 37 :: unescape (a :: b :: r)
  | b :: r => b :: unescape r
  | [] => []
termination_by bs => bs.length

/-- A text as the value of a form field: letters, digits and `*-._` stand for themselves, a space is a plus sign. -/
def formEncode (s : String) : List Char :=
  (Text.bytes s).flatMap fun b =>
    let c := Char.ofNat b.toNat
    if b < 128 && (c.isAlphanum || isOneOf "*-._" b) then [c] else if b == 32 then ['+'] else escapeByte b

/-- The text that the value of a form field stands for. -/
def formDecode (cs : List Char) : String :=
  Text.lossyText (unescape (Text.bytes (String.ofList (cs.map fun c => if c = '+' then ' ' else c))))

/-- The fields of a form, by name and value. -/
def formFields (form : String) : List (String × String) :=
  ((form.toList.splitOn '&').filter (!·.isEmpty)).map fun field =>
    let name := field.takeWhile (· ≠ '=')
    (formDecode name, formDecode (field.drop (name.length + 1)))

end AccessGateway.Url
