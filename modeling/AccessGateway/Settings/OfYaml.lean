import AccessGateway.Settings.Basic
import AccessGateway.Text.Decimal
import AccessGateway.Yaml.Document

/-!
# Settings from YAML

A plain text is null, a truth value, an integer, a fraction or a text, tried in this order; a quoted text is always
a text. Integers may be hexadecimal, octal or binary behind `0x`, `0o` and `0b`, and decimal digits behind a
leading zero are a text. Tags of the core types force a type; a tag of the application's own is refused.
-/

namespace AccessGateway.Settings

/-- The value of a digit of a base of up to 36. -/
def digitValue? (base : Nat) (c : Char) : Option Nat :=
  let n := if c.isDigit then c.toNat - 48 else if c.toLower.isAlpha then c.toLower.toNat - 87 else base
  if n < base then some n else none

/-- A number in a base, without sign. -/
def inBase? (base : Nat) (cs : List Char) : Option Nat :=
  if cs.isEmpty then none else cs.foldlM (fun n c => (digitValue? base c).map (n * base + ·)) 0

/-- More than one digit, the first of them a zero, behind an optional sign. -/
def hasLeadingZero (cs : List Char) : Bool :=
  let ds := match cs with
    | '-' :: r | '+' :: r => r
    | _ => cs
  1 < ds.length && ds.head? == some '0' && ds.all Char.isDigit

/-- An integer of up to 128 bits. -/
def yamlInteger? (cs : List Char) : Option Int := do
  let (negative, body) := match cs with
    | '-' :: r => (true, r)
    | '+' :: r => (false, r)
    | _ => (false, cs)
  let n ← match body with
    | '0' :: 'x' :: r => inBase? 16 r
    | '0' :: 'o' :: r => inBase? 8 r
    | '0' :: 'b' :: r => inBase? 2 r
    | _ => if hasLeadingZero cs then none else inBase? 10 body
  if negative then if n ≤ 1 <<< 127 then some (-(n : Int)) else none
  else if n < 1 <<< 128 then some n else none

/-- A decimal fraction with an optional sign: digits on at least one side of an optional point, and an optional
exponent. -/
def fraction? (cs : List Char) : Option Text.Decimal := do
  let (negative, cs) := match cs with
    | '-' :: r => (true, r)
    | '+' :: r => (false, r)
    | _ => (false, cs)
  let whole := cs.takeWhile Char.isDigit
  let (frac, rest) := match cs.dropWhile Char.isDigit with
    | '.' :: r => (r.takeWhile Char.isDigit, r.dropWhile Char.isDigit)
    | r => ([], r)
  if whole.isEmpty && frac.isEmpty then none
  let exponent ← match rest with
    | [] => some 0
    | e :: r =>
      if e = 'e' || e = 'E' then
        match r with
        | '-' :: ds => (Text.natural? ds).map fun n => -(n : Int)
        | '+' :: ds => (Text.natural? ds).map Int.ofNat
        | ds => (Text.natural? ds).map Int.ofNat
      else none
  return ⟨negative, Nat.ofDigitChars 10 (whole ++ frac) 0, exponent - frac.length⟩

/-- A fraction of YAML: a finite decimal one, an infinity or not a number. -/
def isYamlFraction (cs : List Char) : Bool :=
  let words := [".inf", ".Inf", ".INF", "+.inf", "+.Inf", "+.INF", "-.inf", "-.Inf", "-.INF", ".nan", ".NaN", ".NAN"]
  words.contains (String.ofList cs) || (fraction? cs).any Text.Decimal.isFinite

/-- The words for null. -/
def isYamlNull (s : String) : Bool := ["", "null", "Null", "NULL", "~"].contains s

/-- The words for truth values. -/
def yamlBool? (s : String) : Option Bool :=
  if ["true", "True", "TRUE"].contains s then some true
  else if ["false", "False", "FALSE"].contains s then some false
  else none

/-- The value a plain text stands for. -/
def plainScalar (s : String) : Scalar :=
  if isYamlNull s then .null
  else
    match yamlBool? s with
    | some b => .bool b
    | none =>
      match yamlInteger? s.toList with
      | some i => .integer i
      | none => if !hasLeadingZero s.toList && isYamlFraction s.toList then .fraction else .text s

/-- The value of a text with a tag: of a core type, or of the type it would have without the tag `!`. -/
def taggedScalar? (tag : String) (plain : Bool) (s : String) : Option Scalar :=
  match tag with
  | "!" => some (if plain then plainScalar s else .text s)
  | "tag:yaml.org,2002:bool" => (yamlBool? s).map .bool
  | "tag:yaml.org,2002:int" => (yamlInteger? s.toList).map .integer
  | "tag:yaml.org,2002:float" => if isYamlFraction s.toList then some .fraction else none
  | "tag:yaml.org,2002:null" => if !s.isEmpty && isYamlNull s then some .null else none
  | _ => if tag.startsWith "!" then none else some (.text s)

/-- Whether a tag may stand on a collection. -/
def isCollectionTag (tag : Option String) : Bool :=
  tag.all fun t => !(1 < t.length && t.startsWith "!")

mutual
/-- The settings a node stands for. -/
def ofNode? : Yaml.Node → Option Setting
  | .text none true s => some (.scalar .file (plainScalar s))
  | .text none false s => some (.scalar .file (.text s))
  | .text (some tag) plain s => (taggedScalar? tag plain s).map (.scalar .file)
  | .list tag items => if isCollectionTag tag then (ofItems? items).map (.list .file) else none
  | .mapping tag entries =>
    if isCollectionTag tag then (ofEntries? entries).map fun es => .group .file (Setting.sortEntries es) else none

/-- The settings of the items of a list. -/
def ofItems? : List Yaml.Node → Option (List Setting)
  | [] => some []
  | n :: ns => do return (← ofNode? n) :: (← ofItems? ns)

/-- The settings of the entries of a mapping. -/
def ofEntries? : List (String × Yaml.Node) → Option (List (String × Setting))
  | [] => some []
  | (k, n) :: es => do return (k, ← ofNode? n) :: (← ofEntries? es)
end

/-- The entries a YAML text holds: none at all if it holds no document, and a failure if it is no mapping. -/
def ofYaml? (text : String) : Option Setting := do
  match ← Yaml.read? text with
  | .text none true "" => some (.group .file [])
  | n@(.mapping _ _) => ofNode? n
  | _ => none

end AccessGateway.Settings
