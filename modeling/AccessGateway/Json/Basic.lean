import AccessGateway.Text.Decimal

/-!
# JSON values

The value type of the structured texts that the gateway exchanges. Objects keep their members in order, repeated
names included, so that a reader of a record can refuse repetition and a reader of a map can let the last one win.
-/

namespace AccessGateway

/-- A JSON number: one written as an integer between -2^63 and 2^64 - 1, or any other finite number. -/
inductive JsonNumber where
  | integer (i : Int)
  | fraction (d : Text.Decimal)
deriving DecidableEq, Repr, Inhabited

/-- A JSON value. -/
inductive Json where
  | null
  | bool (b : Bool)
  | number (n : JsonNumber)
  | text (s : String)
  | list (items : List Json)
  | object (members : List (String × Json))
  /-- A well-formed text with no value: a number beyond binary64 or a string with an unpaired surrogate. -/
  | unrepresentable
deriving Repr, Inhabited, BEq

namespace Json

/-- A natural number as a value. -/
def nat (n : Nat) : Json := .number (.integer n)

/-- A text, or null for none. -/
def optional (s : Option String) : Json :=
  match s with
  | some s => .text s
  | none => .null

def texts (ss : List String) : Json := .list (ss.map .text)

/-- The member under a name; the last one if it is repeated. -/
def field? (name : String) : Json → Option Json
  | .object ms => (ms.reverse.find? (·.1 == name)).map (·.2)
  | _ => none

/-- The text of a text value. -/
def text? : Json → Option String
  | .text s => some s
  | _ => none

/-- The number of a value written as a natural number. -/
def nat? : Json → Option Nat
  | .number (.integer i) => if 0 ≤ i then some i.toNat else none
  | _ => none

/-- The items of a list of texts. -/
def texts? : Json → Option (List String)
  | .list xs => xs.mapM text?
  | _ => none

mutual
/-- How deeply lists and objects are nested. -/
def depth : Json → Nat
  | .list xs => depthOfItems xs + 1
  | .object ms => depthOfMembers ms + 1
  | _ => 0

/-- The greatest depth among items. -/
def depthOfItems : List Json → Nat
  | [] => 0
  | x :: xs => max x.depth (depthOfItems xs)

/-- The greatest depth among members. -/
def depthOfMembers : List (String × Json) → Nat
  | [] => 0
  | (_, x) :: ms => max x.depth (depthOfMembers ms)
end

mutual
/-- Every part of the value has a representation. -/
def isRepresentable : Json → Bool
  | .unrepresentable => false
  | .list xs => itemsRepresentable xs
  | .object ms => membersRepresentable ms
  | _ => true

/-- Every item has a representation. -/
def itemsRepresentable : List Json → Bool
  | [] => true
  | x :: xs => x.isRepresentable && itemsRepresentable xs

/-- Every member has a representation. -/
def membersRepresentable : List (String × Json) → Bool
  | [] => true
  | (_, x) :: ms => x.isRepresentable && membersRepresentable ms
end

/-- A value fit to be kept whole: representable and nested less than 128 deep. -/
def isKept (j : Json) : Bool := j.isRepresentable && j.depth < 128

end Json

end AccessGateway
