import AccessGateway.Json.Reader
import AccessGateway.Text.Split
import AccessGateway.Text.Utf8

/-!
# Taking JSON apart

A reader of a record decodes what it asks for and passes over the rest. `parts?` takes a list or a record apart into
the texts of its values. What is passed over must be well-formed, but it is not decoded: a number may be of any size,
and a string may hold any bytes and surrogates that stand alone. The readers of nested values spend one unit of fuel
per step; `parts?` gives twice the length of the text, which no text uses up.
-/

namespace AccessGateway.Json.Scan

/-- The byte of an ASCII character. -/
def ascii (c : Char) : UInt8 := UInt8.ofNat c.toNat

def isBlank (b : UInt8) : Bool := b == ascii ' ' || b == ascii '\n' || b == ascii '\r' || b == ascii '\t'

/-- Drops the blanks that may stand between tokens. -/
def afterBlanks (bs : List UInt8) : List UInt8 := bs.dropWhile isBlank

/-! ## Strings -/

def isHexDigit (b : UInt8) : Bool := (hexValue? (Char.ofNat b.toNat)).isSome

/-- What may follow a backslash: a letter that is an escape, or `u` and four digits. -/
def isEscape : List UInt8 → Bool
  | [] => false
  | b :: r =>
    if b = ascii 'u' then 4 ≤ r.length && (r.take 4).all isHexDigit else (Text.bytes "\"\\/bfnrt").contains b

/-- The content of a string as it stands, and what follows the closing quotation mark. -/
def string? : List UInt8 → Option (List UInt8 × List UInt8)
  | [] => none
  | b :: r =>
    if b = ascii '"' then some ([], r)
    else if b = ascii '\\' then
      match r with
      | [] => none
      | e :: r =>
        if isEscape (e :: r) then (string? r).map fun (content, rest) => (b :: e :: content, rest) else none
    else if b < 0x20 then none
    else (string? r).map fun (content, rest) => (b :: content, rest)

/-- The text that the content of a string stands for. -/
def decoded? (content : List UInt8) : Option String := do
  let text ← Text.text? content
  let (us, rest) ← units? (text.toList ++ ['"'])
  if rest.isEmpty then (characters? us).map String.ofList else none

/-! ## Numbers -/

def isDigit (b : UInt8) : Bool := ascii '0' ≤ b && b ≤ ascii '9'

/-- What follows the digits in front, of which there must be some. -/
def afterDigits? (bs : List UInt8) : Option (List UInt8) :=
  if bs.head?.any isDigit then some (bs.dropWhile isDigit) else none

/-- Drops a sign that may be one of these. -/
def afterSign (signs : List UInt8) : List UInt8 → List UInt8
  | [] => []
  | b :: r => if b ∈ signs then r else b :: r

/-- What follows the digits after a point, if there is one. -/
def afterFraction? : List UInt8 → Option (List UInt8)
  | [] => some []
  | b :: r => if b = ascii '.' then afterDigits? r else some (b :: r)

/-- What follows the exponent, if there is one. -/
def afterExponent? : List UInt8 → Option (List UInt8)
  | [] => some []
  | b :: r =>
    if b = ascii 'e' ∨ b = ascii 'E' then afterDigits? (afterSign [ascii '+', ascii '-'] r) else some (b :: r)

/-- What follows the number in front. -/
def afterNumber? (bs : List UInt8) : Option (List UInt8) := do
  let bs := afterSign [ascii '-'] bs
  let rest ← afterDigits? bs
  let whole := bs.takeWhile isDigit
  if whole.head? = some (ascii '0') ∧ whole.length ≠ 1 then none
  else afterExponent? (← afterFraction? rest)

/-! ## Values -/

def literals : List (List UInt8) := ["null", "true", "false"].map Text.bytes

def afterLiteral? (bs : List UInt8) : Option (List UInt8) := literals.findSome? (Text.strip? · bs)

/-- What values may be parts of. -/
inductive Frame where
  | list
  | record
deriving DecidableEq, Repr

namespace Frame

def opening : Frame → UInt8
  | list => ascii '['
  | record => ascii '\x7b'

def closing : Frame → UInt8
  | list => ascii ']'
  | record => ascii '\x7d'

/-- What a mark opens. -/
def opened? (b : UInt8) : Option Frame :=
  if b = list.opening then some .list else if b = record.opening then some .record else none

/-- What follows the closing mark of an empty frame. -/
def afterClosing? (f : Frame) (bs : List UInt8) : Option (List UInt8) := Text.strip? [f.closing] (afterBlanks bs)

/-- What stands before the value of a part: in a record its name, whose content this is, and a colon. -/
def name? (f : Frame) (bs : List UInt8) : Option (List UInt8 × List UInt8) :=
  match f with
  | list => some ([], bs)
  | record => do
    let (name, bs) ← string? (← Text.strip? [ascii '"'] (afterBlanks bs))
    return (name, ← Text.strip? [ascii ':'] (afterBlanks bs))

end Frame

/-- A part of a list or a record: the content of its name, which is empty in a list, and the text of its value. -/
structure Part where
  name : List UInt8
  value : List UInt8
deriving DecidableEq, Repr

mutual
/-- What follows the value in front. -/
def afterValue? : Nat → List UInt8 → Option (List UInt8)
  | 0, _ => none
  | _ + 1, [] => none
  | fuel + 1, b :: r =>
    if b = ascii '"' then (string? r).map (·.2)
    else
      match Frame.opened? b with
      | some f => (f.afterClosing? r).or ((partsUpTo? fuel f r).map (·.2))
      | none => (afterLiteral? (b :: r)).or (afterNumber? (b :: r))

/-- The parts up to the closing mark, and what follows it. -/
def partsUpTo? : Nat → Frame → List UInt8 → Option (List Part × List UInt8)
  | 0, _, _ => none
  | fuel + 1, f, bs => do
    let (name, r) ← f.name? bs
    let r := afterBlanks r
    let rest ← afterValue? fuel r
    let part : Part := ⟨name, r.take (r.length - rest.length)⟩
    match afterBlanks rest with
    | [] => none
    | b :: rest =>
      if b = ascii ',' then do
        let (parts, rest) ← partsUpTo? fuel f rest
        return (part :: parts, rest)
      else if b = f.closing then return ([part], rest)
      else none
end

/-- The parts of a text that is one list or record, with blanks around it. -/
def parts? (f : Frame) (bs : List UInt8) : Option (List Part) := do
  let r ← Text.strip? [f.opening] (afterBlanks bs)
  let (parts, rest) ← ((f.afterClosing? r).map (([], ·))).or (partsUpTo? (2 * r.length) f r)
  if (afterBlanks rest).isEmpty then some parts else none

end AccessGateway.Json.Scan
