import AccessGateway.Json.Reader
import AccessGateway.Json.Writer
import AccessGateway.Proofs.Text.Ascii

/-!
# Quoted texts

What stands between the quotation marks of a written text reads back as that text, whatever its characters are
(`units?_flatMap_escape`, `characters?_map_toNat`).  A character is either escaped, and then the reader undoes its
escape, or it stands for itself, and then it is none of those that mean something to the reader.
-/

namespace AccessGateway.Json

variable {c : Char} {cs rest : List Char} {u : Nat}

/-! ### Escapes -/

/-- What a backslash and a letter stand for. -/
def letterEscape? : Char → Option Nat
  | '"' => some 34
  | '\\' => some 92
  | '/' => some 47
  | 'b' => some 8
  | 'f' => some 12
  | 'n' => some 10
  | 'r' => some 13
  | 't' => some 9
  | _ => none

/-- What an escape stands for. -/
def unescaped? : List Char → Option Nat
  | ['\\', c] => letterEscape? c
  | ['\\', 'u', a, b, c, d] => hexUnit? a b c d
  | _ => none

theorem units?_of_unescaped? (h : unescaped? cs = some u) (rest : List Char) :
    units? (cs ++ rest) = (units? rest).map fun (us, r) => (u :: us, r) := by
  unfold unescaped? at h
  split at h
  · unfold letterEscape? at h
    split at h <;> cases h
    all_goals
      rw [List.cons_append, List.singleton_append, units?]
      cases units? rest <;> rfl
  · rename_i a b c d
    simp only [List.cons_append, List.nil_append, units?, h]
    cases units? rest <;> rfl
  · cases h

/-- The escape of a character stands for it. -/
theorem unescaped?_escape (h : c.toNat < 32 ∨ c = '"' ∨ c = '\\') : unescaped? (escape c) = some c.toNat := by
  rcases h with h | rfl | rfl
  · have hall : ∀ n < 32, unescaped? (escape (Char.ofNat n)) = some n := by decide +kernel
    have hescape := hall c.toNat h
    rwa [Char.ofNat_toNat] at hescape
  · rfl
  · rfl

theorem escape_eq_singleton (h : ¬ (c.toNat < 32 ∨ c = '"' ∨ c = '\\')) : escape c = [c] := by
  have hcontrol : ¬ c.toNat < 32 := fun hc => h (.inl hc)
  have hne {d : Char} (hd : d.toNat < 32) : c ≠ d := by
    rintro rfl
    exact hcontrol hd
  rw [escape]
  · rw [if_neg (by omega), if_neg (by omega), if_neg hcontrol]
  · exact fun hc => h (.inr (.inl hc))
  · exact fun hc => h (.inr (.inr hc))
  · exact hne (by decide)
  · exact hne (by decide)
  · exact hne (by decide)

theorem units?_cons (h : ¬ (c.toNat < 32 ∨ c = '"' ∨ c = '\\')) (rest : List Char) :
    units? (c :: rest) = (units? rest).map fun (us, r) => (c.toNat :: us, r) := by
  have hslash : c ≠ '\\' := fun hc => h (.inr (.inr hc))
  have hplain : ¬ (c.toNat < 32 ∨ c = '\\') := fun hc => hc.elim (fun hc => h (.inl hc)) hslash
  rw [units?]
  · rw [if_neg hplain]
    cases units? rest <;> rfl
  · exact fun hc => h (.inr (.inl hc))
  · exact fun _ _ _ _ _ hc _ => hslash hc
  · exact fun _ _ hc _ => hslash hc

theorem units?_escape (c : Char) (rest : List Char) :
    units? (escape c ++ rest) = (units? rest).map fun (us, r) => (c.toNat :: us, r) := by
  by_cases h : c.toNat < 32 ∨ c = '"' ∨ c = '\\'
  · exact units?_of_unescaped? (unescaped?_escape h) rest
  · rw [escape_eq_singleton h, List.singleton_append, units?_cons h]

/-! ### Texts -/

theorem units?_flatMap_escape (cs rest : List Char) :
    units? (cs.flatMap escape ++ '"' :: rest) = some (cs.map Char.toNat, rest) := by
  induction cs with
  | nil => rfl
  | cons c cs ih => rw [List.flatMap_cons, List.append_assoc, units?_escape, ih, Option.map_some, List.map_cons]

/-- No character is half of a surrogate pair. -/
theorem characters?_cons (c : Char) (us : List Nat) : characters? (c.toNat :: us) = (characters? us).map (c :: ·) := by
  have hvalid : c.toNat < 0xD800 ∨ 0xDFFF < c.toNat ∧ c.toNat < 0x110000 := c.valid
  rw [characters?.eq_def]
  dsimp only
  rw [if_neg (by omega), if_neg (by omega), Char.ofNat_toNat]

theorem characters?_map_toNat (cs : List Char) : characters? (cs.map Char.toNat) = some cs := by
  induction cs with
  | nil => rfl
  | cons c cs ih => rw [List.map_cons, characters?_cons, ih, Option.map_some]

theorem quote_append (s : String) (rest : List Char) :
    quote s ++ rest = '"' :: (s.toList.flatMap escape ++ '"' :: rest) := by
  rw [quote, List.cons_append, List.cons_append, List.append_assoc, List.singleton_append]

theorem newline_not_mem_quote (s : String) : '\n' ∉ quote s := by
  intro h
  rcases List.mem_cons.1 h with h | h
  · cases h
  · rcases List.mem_append.1 h with h | h
    · obtain ⟨c, -, hc⟩ := List.mem_flatMap.1 h
      exact newline_not_mem_escape c hc
    · cases List.mem_singleton.1 h

end AccessGateway.Json
