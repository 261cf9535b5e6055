import AccessGateway.Text.Base64
import AccessGateway.Text.Blank
import AccessGateway.Text.Utf8

/-!
# Textual encoding of keys

Bytes between a line that begins and a line that ends a block of a name, in the standard alphabet. Text before the
block is allowed, and so are header lines up to an empty line.
-/

namespace AccessGateway

/-- A block: its name and the bytes in it. -/
structure Pem where
  label : String
  content : List UInt8
deriving DecidableEq, Repr

namespace Pem

/-- What stands in front of the first occurrence of a mark, and what stands behind it. -/
def cut? (mark : List Char) : List Char → Option (List Char × List Char)
  | [] => none
  | c :: cs =>
    if mark.isPrefixOf (c :: cs) then some ([], (c :: cs).drop mark.length)
    else (cut? mark cs).map fun (before, after) => (c :: before, after)

/-- The lines of a text, joined without the blanks at their ends. -/
def joinLines (cs : List Char) : List Char := (cs.splitOn '\n').flatMap Text.trimEnd

/-- The body behind the header lines, if there are any. -/
def withoutHeaders (body : List Char) : List Char :=
  match cut? ['\n', '\n'] body with
  | some (_, data) => data
  | none =>
    match cut? ['\r', '\n', '\r', '\n'] body with
    | some (_, data) => data
    | none => body

/-- The first block of a text. -/
def read? (text : String) : Option Pem := do
  let (_, cs) ← cut? "-----BEGIN ".toList text.toList
  let (label, cs) ← cut? "-----".toList cs
  let cs := cs.dropWhile fun c => c = ' ' || c = '\t' || c = '\n' || c = '\r'
  let (body, cs) ← cut? "-----END ".toList cs
  let (label', _) ← cut? "-----".toList cs
  if label.isEmpty ∨ label ≠ label' then none
  else return ⟨String.ofList label, ← Text.Base64.decodePadded? .standard (joinLines (withoutHeaders body))⟩

end Pem

end AccessGateway
