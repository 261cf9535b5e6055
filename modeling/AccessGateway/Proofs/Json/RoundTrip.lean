import AccessGateway.Proofs.Json.Number
import AccessGateway.Proofs.Json.Quoting

/-!
# Written values

A written value reads back as the value that was written, a fraction as one of the same value (`read?_render`), and
it holds no line feed (`newline_not_mem_write`).  Fuel as long as the written form suffices for reading it
(`value?_write`): every token takes at least one character, and reading goes no deeper than there are tokens.
-/

namespace AccessGateway.Json

variable {c : Char} {rest : List Char} {fuel : Nat}

/-! ### Values -/

mutual
/-- A value proper: its integers fit 64 bits and its fractions are finite. -/
def IsValue : Json → Prop
  | .unrepresentable => False
  | .number (.integer i) => -2 ^ 63 ≤ i ∧ i < 2 ^ 64
  | .number (.fraction d) => d.isFinite = true
  | .list xs => ItemsAreValues xs
  | .object ms => MembersAreValues ms
  | .null | .bool _ | .text _ => True

def ItemsAreValues : List Json → Prop
  | [] => True
  | x :: xs => IsValue x ∧ ItemsAreValues xs

def MembersAreValues : List (String × Json) → Prop
  | [] => True
  | (_, x) :: ms => IsValue x ∧ MembersAreValues ms
end

mutual
/-- The value with every fraction as it is written. -/
def written : Json → Json
  | .number (.fraction d) => .number (.fraction d.written)
  | .list xs => .list (writtenItems xs)
  | .object ms => .object (writtenMembers ms)
  | j => j

def writtenItems : List Json → List Json
  | [] => []
  | x :: xs => written x :: writtenItems xs

def writtenMembers : List (String × Json) → List (String × Json)
  | [] => []
  | (k, x) :: ms => (k, written x) :: writtenMembers ms
end

theorem membersAreValues_append (ms ns : List (String × Json)) :
    MembersAreValues (ms ++ ns) ↔ MembersAreValues ms ∧ MembersAreValues ns := by
  induction ms with
  | nil => simp [MembersAreValues]
  | cons m ms ih => simp [MembersAreValues, ih, and_assoc]

theorem writtenMembers_append (ms ns : List (String × Json)) :
    writtenMembers (ms ++ ns) = writtenMembers ms ++ writtenMembers ns := by
  induction ms with
  | nil => rfl
  | cons m ms ih => simp [writtenMembers, ih]

theorem isValue_nat {n : Nat} (h : n < 2 ^ 64) : (Json.nat n).IsValue := ⟨by omega, by exact_mod_cast h⟩

/-! ### The first character -/

/-- A number starts with this character. -/
def StartsNumber (c : Char) : Prop := c.isDigit = true ∨ c = '-'

/-- A value starts with this character. -/
def Starts (c : Char) : Prop := StartsNumber c ∨ c ∈ ['n', 't', 'f', '"', '[', '\x7b']

theorem skipBlanks_cons (h : Starts c) (cs : List Char) : skipBlanks (c :: cs) = c :: cs := by
  refine List.dropWhile_cons_of_neg fun hblank => ?_
  simp only [Bool.or_eq_true, decide_eq_true_eq] at hblank
  rcases hblank with ((rfl | rfl) | rfl) | rfl <;> simp [Starts, StartsNumber] at h

theorem exists_writeNumber_eq (n : JsonNumber) : ∃ c cs, writeNumber n = c :: cs ∧ StartsNumber c := by
  obtain ⟨b, numeral, h⟩ := exists_writeNumber n
  cases b with
  | true => exact ⟨'-', numeral.text, h, .inr rfl⟩
  | false =>
    have hne : numeral.text ≠ [] := List.append_ne_nil_of_left_ne_nil numeral.whole_ne_nil _
    obtain ⟨c, cs, htext⟩ := List.exists_cons_of_ne_nil hne
    refine ⟨c, cs, h.trans htext, .inl ?_⟩
    exact numeral.head?_append _ c (congrArg List.head? htext)

theorem exists_write_eq (j : Json) : ∃ c cs, j.write = c :: cs ∧ Starts c := by
  cases j with
  | null | unrepresentable => exact ⟨'n', _, rfl, .inr (by simp)⟩
  | bool b =>
    cases b with
    | true => exact ⟨'t', _, rfl, .inr (by simp)⟩
    | false => exact ⟨'f', _, rfl, .inr (by simp)⟩
  | number n =>
    obtain ⟨c, cs, h, hc⟩ := exists_writeNumber_eq n
    exact ⟨c, cs, h, .inl hc⟩
  | text s => exact ⟨'"', _, rfl, .inr (by simp)⟩
  | list xs =>
    cases xs with
    | nil => exact ⟨'[', _, rfl, .inr (by simp)⟩
    | cons x xs => exact ⟨'[', _, rfl, .inr (by simp)⟩
  | object ms =>
    cases ms with
    | nil => exact ⟨'\x7b', _, rfl, .inr (by simp)⟩
    | cons m ms => exact ⟨'\x7b', _, rfl, .inr (by simp)⟩

/-! ### Reading token by token -/

theorem value?_number (h : StartsNumber c) (cs : List Char) : value? (fuel + 1) (c :: cs) = number? (c :: cs) := by
  rw [value?, skipBlanks_cons (.inl h)]
  split
  all_goals first
    | rfl
    | rename_i heq
      injection heq with hc
      subst hc
      simp [StartsNumber] at h

theorem value?_quote (s : String) (rest : List Char) : value? (fuel + 1) (quote s ++ rest) = some (.text s, rest) := by
  have hread : value? (fuel + 1) ('"' :: (s.toList.flatMap escape ++ '"' :: rest)) =
      (units? (s.toList.flatMap escape ++ '"' :: rest)).bind fun q =>
        some (((characters? q.1).map fun s => .text (String.ofList s)).getD .unrepresentable, q.2) := rfl
  rw [quote_append, hread, units?_flatMap_escape, Option.bind_some, characters?_map_toNat, Option.map_some,
    Option.getD_some, String.ofList_toList]

theorem value?_bracket (j : Json) (cs : List Char) :
    value? (fuel + 1) ('[' :: (j.write ++ cs)) =
      (value? fuel (j.write ++ cs)).bind fun q => (items? fuel q.2).bind fun l => some (.list (q.1 :: l.1), l.2) := by
  obtain ⟨c, ds, hwrite, hc⟩ := exists_write_eq j
  have hclose : c ≠ ']' := by
    rintro rfl
    simp [Starts, StartsNumber] at hc
  have hskip : skipBlanks ('[' :: (j.write ++ cs)) = '[' :: (j.write ++ cs) := rfl
  have hskip' : skipBlanks (j.write ++ cs) = j.write ++ cs := by
    rw [hwrite, List.cons_append, skipBlanks_cons hc]
  rw [value?, hskip]
  simp only [hskip']
  split
  · rename_i heq
    rw [hwrite, List.cons_append] at heq
    injection heq with heq
    exact absurd heq hclose
  · rfl

theorem items?_comma (cs : List Char) :
    items? (fuel + 1) (',' :: cs) =
      (value? fuel cs).bind fun q => (items? fuel q.2).bind fun l => some (q.1 :: l.1, l.2) := rfl

theorem value?_brace (k : String) (cs : List Char) :
    value? (fuel + 1) ('\x7b' :: (quote k ++ cs)) =
      (member? fuel (quote k ++ cs)).bind fun q =>
        (members? fuel q.2).bind fun l => some (.object (q.1 :: l.1), l.2) := rfl

theorem members?_comma (cs : List Char) :
    members? (fuel + 1) (',' :: cs) =
      (member? fuel cs).bind fun q => (members? fuel q.2).bind fun l => some (q.1 :: l.1, l.2) := rfl

theorem member?_of_value? {j : Json} {cs : List Char} (k : String) (h : value? fuel cs = some (j, rest)) :
    member? (fuel + 1) (quote k ++ ':' :: cs) = some ((k, j), rest) := by
  have hskip (r : List Char) : skipBlanks ('"' :: r) = '"' :: r := rfl
  have hcolon : skipBlanks (':' :: cs) = ':' :: cs := rfl
  rw [quote_append, member?, hskip]
  simp only [units?_flatMap_escape, characters?_map_toNat, hcolon, String.ofList_toList, bind, Option.bind_some]
  rw [h]
  rfl

/-! ### Reading -/

theorem ends_writeItems (xs : List Json) (rest : List Char) : Ends (writeItems xs ++ rest) := by
  intro c hc
  cases xs with
  | nil =>
    cases hc
    decide
  | cons x xs =>
    cases hc
    decide

theorem ends_writeMembers (ms : List (String × Json)) (rest : List Char) : Ends (writeMembers ms ++ rest) := by
  intro c hc
  cases ms with
  | nil =>
    cases hc
    decide
  | cons m ms =>
    cases hc
    decide

theorem value?_writeNumber {n : JsonNumber} (hn : (Json.number n).IsValue) (hrest : Ends rest) :
    value? (fuel + 1) (writeNumber n ++ rest) = some ((Json.number n).written, rest) := by
  obtain ⟨c, cs, h, hc⟩ := exists_writeNumber_eq n
  have hread : value? (fuel + 1) (writeNumber n ++ rest) = number? (writeNumber n ++ rest) := by
    rw [h, List.cons_append]
    exact value?_number hc _
  rw [hread]
  cases n with
  | integer i => exact number?_integer hn.1 hn.2 hrest
  | fraction d => exact number?_fraction hn hrest

theorem length_write_pos (j : Json) : 0 < j.write.length := by
  obtain ⟨c, cs, h, -⟩ := exists_write_eq j
  rw [h, List.length_cons]
  omega

theorem length_writeItems_pos (xs : List Json) : 0 < (writeItems xs).length := by
  cases xs <;> simp [writeItems]

theorem length_writeMembers_pos (ms : List (String × Json)) : 0 < (writeMembers ms).length := by
  cases ms <;> simp [writeMembers]

-- The induction is on the value.  Every token that is read takes a unit of fuel and at least one character, so that
-- what is left of the fuel is as long as what is left of the written form.
mutual
theorem value?_write (j : Json) (hj : j.IsValue) (fuel : Nat) (hfuel : j.write.length ≤ fuel) (rest : List Char)
    (hrest : Ends rest) : value? fuel (j.write ++ rest) = some (j.written, rest) := by
  have hlength := length_write_pos j
  obtain ⟨n, hn⟩ : ∃ n, fuel = n + 1 := Nat.exists_eq_add_one_of_ne_zero (by omega)
  rw [hn]
  cases j with
  | null => rfl
  | unrepresentable => exact hj.elim
  | bool b => cases b <;> rfl
  | number _ => exact value?_writeNumber hj hrest
  | text s => exact value?_quote s rest
  | list xs =>
    cases xs with
    | nil => rfl
    | cons x xs =>
      have hwrite : (Json.list (x :: xs)).write = '[' :: (x.write ++ writeItems xs) := rfl
      simp only [hwrite, List.length_cons, List.length_append] at hfuel
      have hx := value?_write x hj.1 n (by omega) _ (ends_writeItems xs rest)
      have hxs := items?_writeItems xs hj.2 n (by omega) rest
      rw [hwrite, List.cons_append, List.append_assoc, value?_bracket, hx, Option.bind_some]
      dsimp only
      rw [hxs]
      rfl
  | object ms =>
    cases ms with
    | nil => rfl
    | cons m ms =>
      obtain ⟨k, x⟩ := m
      have hwrite : (Json.object ((k, x) :: ms)).write = '\x7b' :: (quote k ++ ':' :: (x.write ++ writeMembers ms)) := by
        simp [write]
      simp only [hwrite, List.length_cons, List.length_append] at hfuel
      have hpos := length_write_pos x
      obtain ⟨l, hl⟩ : ∃ l, n = l + 1 := Nat.exists_eq_add_one_of_ne_zero (by omega)
      have hx := value?_write x hj.1 l (by omega) _ (ends_writeMembers ms rest)
      have hms := members?_writeMembers ms hj.2 (l + 1) (by omega) rest
      rw [hl, hwrite, List.cons_append, List.append_assoc, List.cons_append, List.append_assoc, value?_brace,
        member?_of_value? k hx, Option.bind_some]
      dsimp only
      rw [hms]
      rfl

theorem items?_writeItems (xs : List Json) (hxs : ItemsAreValues xs) (fuel : Nat)
    (hfuel : (writeItems xs).length ≤ fuel) (rest : List Char) :
    items? fuel (writeItems xs ++ rest) = some (writtenItems xs, rest) := by
  have hlength := length_writeItems_pos xs
  obtain ⟨n, hn⟩ : ∃ n, fuel = n + 1 := Nat.exists_eq_add_one_of_ne_zero (by omega)
  rw [hn]
  cases xs with
  | nil => rfl
  | cons x xs =>
    have hwrite : writeItems (x :: xs) = ',' :: (x.write ++ writeItems xs) := rfl
    simp only [hwrite, List.length_cons, List.length_append] at hfuel
    have hx := value?_write x hxs.1 n (by omega) _ (ends_writeItems xs rest)
    have hrest := items?_writeItems xs hxs.2 n (by omega) rest
    rw [hwrite, List.cons_append, List.append_assoc, items?_comma, hx, Option.bind_some]
    dsimp only
    rw [hrest]
    rfl

theorem members?_writeMembers (ms : List (String × Json)) (hms : MembersAreValues ms) (fuel : Nat)
    (hfuel : (writeMembers ms).length ≤ fuel) (rest : List Char) :
    members? fuel (writeMembers ms ++ rest) = some (writtenMembers ms, rest) := by
  have hlength := length_writeMembers_pos ms
  obtain ⟨n, hn⟩ : ∃ n, fuel = n + 1 := Nat.exists_eq_add_one_of_ne_zero (by omega)
  rw [hn]
  cases ms with
  | nil => rfl
  | cons m ms =>
    obtain ⟨k, x⟩ := m
    have hwrite : writeMembers ((k, x) :: ms) = ',' :: (quote k ++ ':' :: (x.write ++ writeMembers ms)) := by
      simp [writeMembers]
    simp only [hwrite, List.length_cons, List.length_append] at hfuel
    have hpos := length_write_pos x
    obtain ⟨l, hl⟩ : ∃ l, n = l + 1 := Nat.exists_eq_add_one_of_ne_zero (by omega)
    have hx := value?_write x hms.1 l (by omega) _ (ends_writeMembers ms rest)
    have hrest := members?_writeMembers ms hms.2 (l + 1) (by omega) rest
    rw [hl, hwrite, List.cons_append, List.append_assoc, List.cons_append, List.append_assoc, members?_comma,
      member?_of_value? k hx, Option.bind_some]
    dsimp only
    rw [hrest]
    rfl
end

/-- A value reads back as it is written. -/
theorem read?_render {j : Json} (hj : j.IsValue) : read? j.render = some j.written := by
  have hvalue := value?_write j hj (2 * j.write.length + 2) (by omega) [] nofun
  rw [List.append_nil] at hvalue
  unfold read? render
  rw [String.toList_ofList]
  dsimp only
  rw [hvalue]
  rfl

/-! ### Lines -/

theorem newline_not_mem_writeNumber (n : JsonNumber) : '\n' ∉ writeNumber n := by
  obtain ⟨b, numeral, h⟩ := exists_writeNumber n
  rw [h]
  cases b with
  | true => simp [sign, newline_not_mem_text]
  | false => simp [sign, newline_not_mem_text]

mutual
theorem newline_not_mem_write (j : Json) : '\n' ∉ j.write := by
  cases j with
  | null | unrepresentable => decide
  | bool b => cases b <;> decide
  | number n => exact newline_not_mem_writeNumber n
  | text s => exact newline_not_mem_quote s
  | list xs =>
    cases xs with
    | nil => decide
    | cons x xs => simp [write, newline_not_mem_write x, newline_not_mem_writeItems xs]
  | object ms =>
    cases ms with
    | nil => decide
    | cons m ms =>
      simp [write, newline_not_mem_quote, newline_not_mem_write m.2, newline_not_mem_writeMembers ms]

theorem newline_not_mem_writeItems (xs : List Json) : '\n' ∉ writeItems xs := by
  cases xs with
  | nil => decide
  | cons x xs => simp [writeItems, newline_not_mem_write x, newline_not_mem_writeItems xs]

theorem newline_not_mem_writeMembers (ms : List (String × Json)) : '\n' ∉ writeMembers ms := by
  cases ms with
  | nil => decide
  | cons m ms =>
    simp [writeMembers, newline_not_mem_quote, newline_not_mem_write m.2, newline_not_mem_writeMembers ms]
end

end AccessGateway.Json
