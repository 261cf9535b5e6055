import AccessGateway.Text.Blank
import AccessGateway.Text.Split
import AccessGateway.Text.Utf8

/-!
# The preamble of a flow

A client puts its token and its destination in front of a raw stream or datagram, in one of two forms:

    binary: "ZTF1", token length (2 bytes, high byte first), token, target length, target, payload …
    text:   "TOKEN:" token LF "HOST:" target LF payload …

Token and target are UTF-8 and lose their surrounding blanks. Whatever follows a complete preamble is payload and
is never looked at. A preamble has at most 8192 bytes.
-/

namespace AccessGateway

/-- Why the start of a flow is no preamble. -/
inductive PreambleError where
  /-- The first line is no token line, or the token is blank. -/
  | missingToken
  /-- The second line is no target line, or the target is blank. -/
  | missingTarget
  /-- Token or target is not UTF-8. -/
  | notUtf8
  /-- The preamble is longer than allowed. -/
  | tooLong
  /-- The input ends within the preamble. -/
  | incomplete
deriving DecidableEq, Repr

/-- A decoded preamble: token, target, and the number of bytes in front of the payload. -/
structure Preamble where
  token : String
  target : String
  headerLength : Nat
deriving DecidableEq, Repr

/-- The greatest length of a preamble. -/
def Preamble.maxLength : Nat := 8192

/-- The wording of a refusal. -/
def PreambleError.message : PreambleError → String
  | .missingToken => "missing token"
  | .missingTarget => "missing target"
  | .notUtf8 => "preamble is not valid UTF-8"
  | .tooLong => s!"preamble exceeds {Preamble.maxLength} bytes"
  | .incomplete => "truncated preamble"

namespace Preamble

/-- The first four bytes of the binary form. -/
def magic : List UInt8 := [0x5A, 0x54, 0x46, 0x31]

/-- The beginning of the token line. -/
def tokenMarker : List UInt8 := [0x54, 0x4F, 0x4B, 0x45, 0x4E, 0x3A]

/-- The beginning of the target line. -/
def targetMarker : List UInt8 := [0x48, 0x4F, 0x53, 0x54, 0x3A]

/-- The end of a line. -/
def lineFeed : UInt8 := 0x0A

/-- The preamble of the two fields, once both are known. -/
def ofFields (token target : List UInt8) (headerLength : Nat) : Except PreambleError Preamble := do
  let some token := Text.text? token | throw .notUtf8
  let some target := Text.text? target | throw .notUtf8
  let token := Text.trimmed token
  let target := Text.trimmed target
  if token.isEmpty then throw .missingToken
  if target.isEmpty then throw .missingTarget
  return ⟨token, target, headerLength⟩

/-- A length-prefixed field that starts at a position, and the bytes after it; none if more bytes are needed. -/
def readField (position : Nat) : List UInt8 → Except PreambleError (Option (List UInt8 × List UInt8))
  | high :: low :: rest =>
    let length := high.toNat * 256 + low.toNat
    if maxLength < position + 2 + length then .error .tooLong
    else if length ≤ rest.length then .ok (some (rest.take length, rest.drop length))
    else .ok none
  | _ => .ok none

/-- Reads what follows the magic bytes of the binary form. -/
def readBinary (afterMagic : List UInt8) : Except PreambleError (Option Preamble) := do
  let some (token, rest) ← readField 4 afterMagic | return none
  let some (target, _) ← readField (6 + token.length) rest | return none
  some <$> ofFields token target (8 + token.length + target.length)

/-- Whether a buffer starts with a marker or may still grow into one that does. -/
def compatible (marker buffer : List UInt8) : Bool := marker.isPrefixOf buffer || buffer.isPrefixOf marker

/-- The line without a carriage return at its end. -/
def stripReturn (line : List UInt8) : List UInt8 :=
  if line.getLast? = some 0x0D then line.dropLast else line

/-- Reads the text form. -/
def readText (buffer : List UInt8) : Except PreambleError (Option Preamble) := do
  if !compatible tokenMarker buffer then throw .missingToken
  let some (first, rest) := Text.splitFirst? lineFeed buffer | return none
  let some token := Text.strip? tokenMarker first | throw .missingToken
  if !compatible targetMarker rest then throw .missingTarget
  let some (second, _) := Text.splitFirst? lineFeed rest | return none
  let some target := Text.strip? targetMarker second | throw .missingTarget
  some <$> ofFields (stripReturn token) (stripReturn target) (first.length + 1 + second.length + 1)

/-- Reads either form, without regard to the greatest length of the whole. -/
def readEither (buffer : List UInt8) : Except PreambleError (Option Preamble) :=
  match Text.strip? magic buffer with
  | some rest => readBinary rest
  | none => if buffer.isPrefixOf magic then .ok none else readText buffer

/-- Reads the preamble at the start of a buffer; none if more bytes are needed. A buffer that has reached the
greatest length and is still undecided is refused, and so is a longer preamble. -/
def read (buffer : List UInt8) : Except PreambleError (Option Preamble) := do
  match ← readEither buffer with
  | none => if maxLength ≤ buffer.length then throw .tooLong else return none
  | some p => if maxLength < p.headerLength then throw .tooLong else return some p

/-- Reads the preamble of a datagram, to which nothing can be added. -/
def readComplete (buffer : List UInt8) : Except PreambleError Preamble := do
  match ← read buffer with
  | some p => return p
  | none => throw .incomplete

/-- The text form. -/
def encodeText (token target : String) : List UInt8 :=
  tokenMarker ++ Text.bytes token ++ lineFeed :: targetMarker ++ Text.bytes target ++ [lineFeed]

/-- A field with its length in front; of a longer one only the first 65535 bytes. -/
def encodeField (field : List UInt8) : List UInt8 :=
  let length := min field.length 65535
  UInt8.ofNat (length / 256) :: UInt8.ofNat (length % 256) :: field.take length

/-- The binary form. -/
def encodeBinary (token target : String) : List UInt8 :=
  magic ++ encodeField (Text.bytes token) ++ encodeField (Text.bytes target)

end Preamble

end AccessGateway
