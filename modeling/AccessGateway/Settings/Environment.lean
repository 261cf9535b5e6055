import AccessGateway.Settings.OfYaml
import AccessGateway.Text.Blank
import AccessGateway.Text.Split

/-!
# Settings from the environment

A variable with the program's prefix, in any case, gives the setting whose path is the rest of its name in lower
case, with a double underscore between levels. Its value is a truth value, a mapping in braces, a list in brackets,
a quoted text, a quoted character, a number, or else a text. A value that does not read to its end is a text as it
stands.
-/

namespace AccessGateway.Settings

/-- The variables of the environment, by name. -/
abbrev Variables := List (String × String)

/-- The value of a variable. -/
def Variables.get? (vs : Variables) (name : String) : Option String := vs.lookup name

/-- The variables with one added, unless it is set. -/
def Variables.define (vs : Variables) (name value : String) : Variables :=
  if (vs.get? name).isSome then vs else vs ++ [(name, value)]

/-- Drops the ASCII blanks in front. -/
private def skipSpace (cs : List Char) : List Char := cs.dropWhile (" \t\n\x0c\r".toList.contains ·)

/-- An integer of 64 bits, with an optional sign. -/
def environmentInteger? (cs : List Char) : Option Int :=
  match cs with
  | '-' :: r => (Text.natural? r).bind fun n => if n ≤ UInt64.size / 2 then some (-(n : Int)) else none
  | _ => (Text.unsigned? (UInt64.size - 1) cs).map Int.ofNat

/-- A number or a text without quotation marks; a fraction has a point. -/
def bareScalar (cs : List Char) : Scalar :=
  if cs.contains '.' && (fraction? cs).isSome then .fraction
  else
    match environmentInteger? cs with
    | some i => .integer i
    | none => .text (String.ofList cs)

/-- The content of a text in double quotation marks, and what follows it. -/
def quotedContent? : List Char → Option (List Char × List Char)
  | '"' :: r => some ([], r)
  | '\\' :: 'u' :: a :: b :: c :: d :: r => do
    let x ← Yaml.hexCharacter? [a, b, c, d]
    return (← quotedContent? r).map (x :: ·) id
  | '\\' :: 'U' :: a :: b :: c :: d :: e :: f :: g :: h :: r => do
    let x ← Yaml.hexCharacter? [a, b, c, d, e, f, g, h]
    return (← quotedContent? r).map (x :: ·) id
  | '\\' :: e :: r => do
    let x ← match e with
      | 'b' => some '\x08'
      | 't' => some '\t'
      | 'n' => some '\n'
      | 'f' => some '\x0c'
      | 'r' => some '\r'
      | '"' => some '"'
      | '\\' => some '\\'
      | _ => none
    return (← quotedContent? r).map (x :: ·) id
  | c :: r => if c = '\\' then none else do return (← quotedContent? r).map (c :: ·) id
  | [] => none

/-- Characters that end a bare text. -/
private def isDelimiter (c : Char) : Bool := ",[]\x7b\x7d".toList.contains c

/-- A name in front of an equals sign: a quoted text, or ASCII letters, digits, underscores and hyphens. -/
def entryName? (cs : List Char) : Option (String × List Char) := do
  match skipSpace cs with
  | '"' :: r =>
    let (k, r) ← quotedContent? r
    return (String.ofList k, r)
  | cs =>
    let k := cs.takeWhile fun c => c.isAlphanum || c = '_' || c = '-'
    if k.isEmpty then none
    else return (String.ofList k, cs.drop k.length)

mutual
/-- A value and what follows it. -/
def value? : Nat → List Char → Option (Setting × List Char)
  | 0, _ => none
  | fuel + 1, cs =>
    let leaf (v : Scalar) (r : List Char) : Option (Setting × List Char) :=
      some (.scalar .environment v, skipSpace r)
    match skipSpace cs with
    | 't' :: 'r' :: 'u' :: 'e' :: r => leaf (.bool true) r
    | 'f' :: 'a' :: 'l' :: 's' :: 'e' :: r => leaf (.bool false) r
    | '\x7b' :: r => do
      let (es, r) ← entries? fuel r
      return (.group .environment (Setting.sortEntries es), skipSpace r)
    | '[' :: r => do
      let (xs, r) ← items? fuel r
      return (.list .environment xs, skipSpace r)
    | '"' :: r => do
      let (s, r) ← quotedContent? r
      leaf (.text (String.ofList s)) r
    | '\'' :: c :: '\'' :: r => leaf (.character c) r
    | '\'' :: _ => none
    | cs =>
      let bare := cs.takeWhile (!isDelimiter ·)
      leaf (bareScalar (Text.trim bare)) (cs.drop bare.length)

/-- The items of a list up to its bracket, each of which may be an empty text; a comma may follow the last one if
the bracket follows at once. -/
def items? : Nat → List Char → Option (List Setting × List Char)
  | 0, _ => none
  | fuel + 1, cs =>
    match cs with
    | ']' :: r => some ([], r)
    | cs => do
      let (x, r) ← value? fuel cs
      match r with
      | ',' :: r =>
        let (xs, r) ← items? fuel r
        return (x :: xs, r)
      | ']' :: r => return ([x], r)
      | _ => none

/-- The entries of a mapping up to its brace; a comma may follow the last one if the brace follows at once. -/
def entries? : Nat → List Char → Option (List (String × Setting) × List Char)
  | 0, _ => none
  | fuel + 1, cs =>
    match cs with
    | '\x7d' :: r => some ([], r)
    | cs => do
      let (k, r) ← entryName? cs
      match skipSpace r with
      | '=' :: r =>
        let (x, r) ← value? fuel r
        match r with
        | ',' :: r =>
          let (es, r) ← entries? fuel r
          return ((k, x) :: es, r)
        | '\x7d' :: r => return ([(k, x)], r)
        | _ => none
      | _ => none
end

/-- The setting the text of a variable stands for. -/
def ofVariable (text : String) : Setting :=
  match value? (2 * text.length + 2) text.toList with
  | some (v, []) => v
  | _ => .scalar .environment (.text text)

/-- The prefix of the program's variables. -/
def variablePrefix : List Char := "headend_".toList

/-- The path a variable names: the parts of its name behind the prefix; none without the prefix or with an empty
part. -/
def variablePath? (name : String) : Option (List String) := do
  let lower := name.toList.map Char.toLower
  let rest ← Text.strip? variablePrefix lower
  let parts := separate rest
  if parts.any List.isEmpty then none else some (parts.map String.ofList)
where
  /-- The parts between double underscores and points. -/
  separate (cs : List Char) : List (List Char) := (dotted cs).splitOn '.'
  /-- Double underscores as points. -/
  dotted : List Char → List Char
    | '_' :: '_' :: r => '.' :: dotted r
    | c :: r => c :: dotted r
    | [] => []

/-- The settings given by the environment; of two variables for one setting the later counts. -/
def ofVariables (vs : Variables) : Setting :=
  vs.foldl (fun acc (name, text) =>
    match variablePath? name with
    | some path => acc.merge (Setting.nest .environment (ofVariable text) path)
    | none => acc) (.group .environment [])

end AccessGateway.Settings
