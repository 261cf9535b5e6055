import AccessGateway.Text.Utf8

/-!
# Header fields

Header fields are kept in the order in which they came, every value of a repeated name for itself. Names are
lower-case tokens; values are bytes without control characters.
-/

namespace AccessGateway

structure HeaderField where
  name : String
  value : List UInt8
deriving DecidableEq, Repr

/-- The header fields of a message. -/
abbrev Headers := List HeaderField

namespace HeaderField

def ofText (name value : String) : HeaderField := ⟨name, Text.bytes value⟩

def isTokenChar (c : Char) : Bool :=
  c.isAlphanum || "!#$%&'*+-.^_|~".toList.contains c || c.toNat == 0x60

/-- Bytes of a value: no control character but the tab, and no DEL. -/
def isValueByte (b : UInt8) : Bool := (32 ≤ b && b != 127) || b == 9

/-- A field whose name is a token, lower-cased, and whose value has only legal bytes. -/
def ofRaw? (name : String) (value : List UInt8) : Option HeaderField :=
  if !name.isEmpty && name.toList.all isTokenChar && value.all isValueByte then some ⟨name.toLower, value⟩
  else none

/-- The text of a value of visible ASCII characters, spaces and tabs. -/
def text? (f : HeaderField) : Option String :=
  if f.value.all fun b => (32 ≤ b && b < 127) || b == 9 then Text.text? f.value else none

end HeaderField

namespace Headers

def first? (hs : Headers) (name : String) : Option HeaderField := hs.find? (·.name == name)

/-- The fields without those of the given names. -/
def without (hs : Headers) (names : List String) : Headers := hs.filter fun f => !names.contains f.name

/-- The fields with every field of a name replaced by one. -/
def replace (hs : Headers) (field : HeaderField) : Headers := hs.without [field.name] ++ [field]

end Headers

end AccessGateway
