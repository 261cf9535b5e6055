import AccessGateway.Json.Basic

/-!
# Writing JSON

The compact written form: no blanks between tokens, members in the order of the value. Inside a string only the
quotation mark, the backslash and the control characters below 32 are escaped, so the written form holds no line
feed of its own.
-/

namespace AccessGateway.Json

private def hexDigit (n : Nat) : Char := if n < 10 then Char.ofNat (48 + n) else Char.ofNat (87 + n)

/-- A character as it stands inside a JSON string. -/
def escape (c : Char) : List Char :=
  match c with
  | '"' => ['\\', '"']
  | '\\' => ['\\', '\\']
  | '\n' => ['\\', 'n']
  | '\r' => ['\\', 'r']
  | '\t' => ['\\', 't']
  | c =>
    if c.toNat = 8 then ['\\', 'b']
    else if c.toNat = 12 then ['\\', 'f']
    else if c.toNat < 32 then ['\\', 'u', '0', '0', hexDigit (c.toNat / 16), hexDigit (c.toNat % 16)]
    else [c]

def quote (s : String) : List Char := '"' :: s.toList.flatMap escape ++ ['"']

/-- A number in decimal. -/
def writeNumber : JsonNumber → List Char
  | .integer i => if i < 0 then '-' :: Text.digits i.natAbs else Text.digits i.natAbs
  | .fraction d => d.render.toList

mutual
/-- The compact written form of a value. -/
def write : Json → List Char
  | .null | .unrepresentable => ['n', 'u', 'l', 'l']
  | .bool true => ['t', 'r', 'u', 'e']
  | .bool false => ['f', 'a', 'l', 's', 'e']
  | .number n => writeNumber n
  | .text s => quote s
  | .list [] => ['[', ']']
  | .list (x :: xs) => '[' :: write x ++ writeItems xs
  | .object [] => ['\x7b', '\x7d']
  | .object ((k, x) :: ms) => '\x7b' :: quote k ++ ':' :: write x ++ writeMembers ms

/-- The items after the first, and the closing bracket. -/
def writeItems : List Json → List Char
  | [] => [']']
  | x :: xs => ',' :: write x ++ writeItems xs

/-- The members after the first, and the closing brace. -/
def writeMembers : List (String × Json) → List Char
  | [] => ['\x7d']
  | (k, x) :: ms => ',' :: quote k ++ ':' :: write x ++ writeMembers ms
end

/-- The compact text of a value. -/
def render (j : Json) : String := String.ofList j.write

/-- No character of an escape is a line feed. -/
theorem newline_not_mem_escape (c : Char) : '\n' ∉ escape c := by
  have hex : ∀ n, n < 16 → hexDigit n ≠ '\n' := by decide
  unfold escape
  split
  all_goals first | decide | skip
  rename_i h _ _
  split
  · decide
  split
  · decide
  split
  · rename_i h32
    simp only [List.mem_cons, List.not_mem_nil, or_false, not_or]
    refine ⟨by decide, by decide, by decide, by decide, ?_, ?_⟩
    · exact fun he => hex _ (by omega) he.symm
    · exact fun he => hex _ (by omega) he.symm
  · simp only [List.mem_cons, List.not_mem_nil, or_false]
    exact fun he => h he.symm

end AccessGateway.Json
