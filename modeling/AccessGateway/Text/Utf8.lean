/-!
# Bytes and text

Text as UTF-8 bytes and back. Key fact: bytes read as a text exactly when they are that text's bytes
(`text?_eq_some_iff`). `lossyText` shows any bytes, with U+FFFD for each maximal ill-formed part.
-/

namespace AccessGateway.Text

def bytes (s : String) : List UInt8 := s.toByteArray.data.toList

/-- The text that well-formed UTF-8 bytes stand for. -/
def text? (bs : List UInt8) : Option String := String.fromUTF8? ⟨bs.toArray⟩

/-- Bytes read as a text exactly when they are the bytes of that text. -/
theorem text?_eq_some_iff {bs : List UInt8} {s : String} : text? bs = some s ↔ bs = bytes s := by
  unfold text? bytes String.fromUTF8?
  split
  · simp only [Option.some.injEq, String.fromUTF8]
    constructor
    · rintro rfl; simp
    · rintro rfl; cases s; simp
  · rename_i h
    simp only [reduceCtorEq, false_iff]
    rintro rfl
    cases s with | _ b hb => exact h (by simpa using hb)

/-- The bytes of a text read back as that text. -/
@[simp] theorem text?_bytes (s : String) : text? (bytes s) = some s :=
  text?_eq_some_iff.2 rfl

/-- For a leading byte, how many continuation bytes follow and between which bounds the first of them lies. -/
private def continuation (b : UInt8) : Option (Nat × UInt8 × UInt8) :=
  if 0xC2 ≤ b ∧ b ≤ 0xDF then some (1, 0x80, 0xBF)
  else if b = 0xE0 then some (2, 0xA0, 0xBF)
  else if b = 0xED then some (2, 0x80, 0x9F)
  else if 0xE1 ≤ b ∧ b ≤ 0xEF then some (2, 0x80, 0xBF)
  else if b = 0xF0 then some (3, 0x90, 0xBF)
  else if b = 0xF4 then some (3, 0x80, 0x8F)
  else if 0xF1 ≤ b ∧ b ≤ 0xF3 then some (3, 0x80, 0xBF)
  else none

/-- Reads up to `n` continuation bytes into the scalar value `acc`, the first of them between `lo` and `hi`;
the flag says whether all were there. -/
private def continued : Nat → UInt8 → UInt8 → Nat → List UInt8 → Bool × Nat × List UInt8
  | 0, _, _, acc, bs => (true, acc, bs)
  | _ + 1, _, _, acc, [] => (false, acc, [])
  | n + 1, lo, hi, acc, b :: bs =>
    if lo ≤ b ∧ b ≤ hi then continued n 0x80 0xBF (acc * 64 + (b.toNat - 0x80)) bs else (false, acc, b :: bs)

private theorem continued_length (n : Nat) (lo hi : UInt8) (acc : Nat) (bs : List UInt8) :
    (continued n lo hi acc bs).2.2.length ≤ bs.length := by
  induction n generalizing lo hi acc bs with
  | zero => simp [continued]
  | succ n ih =>
    cases bs with
    | nil => simp [continued]
    | cons b bs =>
      rw [continued]
      split
      · exact Nat.le_trans (ih ..) (by simp)
      · simp

/-- The payload bits of a leading byte that announces `n` continuation bytes. -/
private def leadBits (n : Nat) (b : UInt8) : Nat := b.toNat % (1 <<< (6 - n))

/-- The characters of any bytes: each maximal part that begins a character and does not complete it, and each
byte that begins none, becomes U+FFFD. -/
def lossyChars (bs : List UInt8) : List Char :=
  match bs with
  | [] => []
  | b :: rest =>
    if b < 0x80 then Char.ofNat b.toNat :: lossyChars rest
    else
      match continuation b with
      | none => '\uFFFD' :: lossyChars rest
      | some (n, lo, hi) =>
        have := continued_length n lo hi (leadBits n b) rest
        let r := continued n lo hi (leadBits n b) rest
        (if r.1 then Char.ofNat r.2.1 else '\uFFFD') :: lossyChars r.2.2
termination_by bs.length
decreasing_by
  all_goals simp only [List.length_cons]
  all_goals omega

/-- A text that shows any bytes. -/
def lossyText (bs : List UInt8) : String := String.ofList (lossyChars bs)

end AccessGateway.Text
