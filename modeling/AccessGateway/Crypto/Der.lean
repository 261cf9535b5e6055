/-!
# Distinguished encoding

The nested tag, length and content elements that public keys are written in, as far as keys need them: sequences,
numbers, bit and byte strings and object identifiers. Other elements are read over.
-/

namespace AccessGateway

/-- An element. -/
inductive Der where
  | integer (content : List UInt8)
  /-- A bit string, without the byte that counts its unused bits. -/
  | bitString (content : List UInt8)
  | octetString (content : List UInt8)
  | objectId (content : List UInt8)
  | sequence (items : List Der)
  | other
deriving Repr, Inhabited

namespace Der

/-- The length of a content and what follows it. -/
def length? : List UInt8 → Option (Nat × List UInt8)
  | [] => none
  | b :: bs =>
    if b < 0x80 then some (b.toNat, bs)
    else
      let n := b.toNat - 128
      if n ≤ 8 ∧ n ≤ bs.length then some ((bs.take n).foldl (fun k c => k * 256 + c.toNat) 0, bs.drop n) else none

/-- The elements that fill some bytes; there is at least one. -/
def elements? : Nat → List UInt8 → Option (List Der)
  | 0, _ => none
  | _ + 1, [] => none
  | fuel + 1, tag :: bs => do
    let (n, bs) ← length? bs
    if bs.length < n then none
    let content := bs.take n
    let rest := bs.drop n
    let element ←
      if tag = 0x02 then some (integer content)
      else if tag = 0x03 then
        if content.head?.any (fun b => b.toNat ≠ 0 ∧ content.length = 1) then none else some (bitString (content.drop 1))
      else if tag = 0x04 then some (octetString content)
      else if tag = 0x06 then if content.isEmpty then none else some (objectId content)
      else if tag = 0x30 then (elements? fuel content).map sequence
      else if tag = 0x31 then (elements? fuel content).map fun _ => other
      else if tag = 0x01 ∧ n ≠ 1 then none
      else some other
    if rest.isEmpty then some [element] else return element :: (← elements? fuel rest)

/-- The elements that fill some bytes. -/
def read? (bs : List UInt8) : Option (List Der) := elements? (bs.length + 1) bs

mutual
/-- The first of some values that an element holds. -/
def first? {α : Type} (f : Der → Option α) : Der → Option α
  | sequence items => firstAmong? f items
  | e => f e

/-- The first of some values that elements hold. -/
def firstAmong? {α : Type} (f : Der → Option α) : List Der → Option α
  | [] => none
  | e :: es =>
    match first? f e with
    | some a => some a
    | none => firstAmong? f es
end

/-- The content of a string element. -/
def string? : Der → Option (List UInt8)
  | bitString c | octetString c => some c
  | _ => none

end Der

end AccessGateway
