/-!
# Blank characters

The characters with the Unicode property White_Space, and trimming by them. Key facts: trimming is idempotent,
and a text with no blank at either end is its own trimmed form.
-/

namespace AccessGateway.Text

/-- The property White_Space: the ASCII controls 9 to 13 and the space, next line, the no-break space, the
spaces of general punctuation, and the ideographic space. The zero-width space is not among them. -/
def isBlank (c : Char) : Bool :=
  let n := c.toNat
  (9 ≤ n && n ≤ 13) || n == 0x20 || n == 0x85 || n == 0xA0 || n == 0x1680 || (0x2000 ≤ n && n ≤ 0x200A) ||
    n == 0x2028 || n == 0x2029 || n == 0x202F || n == 0x205F || n == 0x3000

/-- The characters after the leading blanks. -/
def trimStart (cs : List Char) : List Char := cs.dropWhile isBlank

/-- The characters before the trailing blanks. -/
def trimEnd (cs : List Char) : List Char := (cs.reverse.dropWhile isBlank).reverse

/-- The characters without blanks at either end. -/
def trim (cs : List Char) : List Char := trimEnd (trimStart cs)

/-- A text without blanks at either end. -/
def trimmed (s : String) : String := String.ofList (trim s.toList)

private theorem dropWhile_eq_self {α : Type} (p : α → Bool) (l : List α) (h : ∀ a ∈ l.head?, p a = false) :
    l.dropWhile p = l := by
  cases l with
  | nil => rfl
  | cons a l => simp [h a (by simp)]

private theorem head?_dropWhile_not {α : Type} (p : α → Bool) (l : List α) :
    ∀ a ∈ (l.dropWhile p).head?, p a = false := by
  induction l with
  | nil => simp
  | cons a l ih => by_cases h : p a <;> simp_all

/-- No blank leads a text whose leading blanks were dropped. -/
theorem head?_trimStart (cs : List Char) : ∀ c ∈ (trimStart cs).head?, isBlank c = false :=
  head?_dropWhile_not isBlank cs

/-- No blank ends a text whose trailing blanks were dropped. -/
theorem getLast?_trimEnd (cs : List Char) : ∀ c ∈ (trimEnd cs).getLast?, isBlank c = false := by
  intro c hc
  rw [trimEnd, List.getLast?_reverse] at hc
  exact head?_dropWhile_not isBlank cs.reverse c hc

/-- Dropping trailing blanks leaves a front part. -/
theorem trimEnd_prefix (cs : List Char) : trimEnd cs <+: cs := by
  rw [← List.reverse_suffix, trimEnd, List.reverse_reverse]
  exact List.dropWhile_suffix isBlank

/-- A text with no blank at either end is its own trimmed form. -/
theorem trim_eq_self {cs : List Char} (hs : ∀ c ∈ cs.head?, isBlank c = false)
    (he : ∀ c ∈ cs.getLast?, isBlank c = false) : trim cs = cs := by
  rw [trim, trimStart, dropWhile_eq_self _ _ hs, trimEnd, dropWhile_eq_self, List.reverse_reverse]
  simpa using he

/-- No blank leads a trimmed text. -/
theorem head?_trim (cs : List Char) : ∀ c ∈ (trim cs).head?, isBlank c = false := by
  intro c hc
  obtain ⟨t, ht⟩ := trimEnd_prefix (trimStart cs)
  refine head?_trimStart cs c ?_
  rw [← ht, List.head?_append]
  simp only [trim] at hc
  rw [Option.mem_def] at hc
  simp [hc]

/-- No blank ends a trimmed text. -/
theorem getLast?_trim (cs : List Char) : ∀ c ∈ (trim cs).getLast?, isBlank c = false :=
  getLast?_trimEnd (trimStart cs)

/-- Trimming twice is trimming once. -/
@[simp] theorem trim_trim (cs : List Char) : trim (trim cs) = trim cs :=
  trim_eq_self (head?_trim cs) (getLast?_trim cs)

/-- Trimming takes characters away and adds none. -/
theorem mem_of_mem_trim {cs : List Char} {c : Char} (h : c ∈ trim cs) : c ∈ cs := by
  have hend := trimEnd_prefix (trimStart cs)
  exact (List.dropWhile_suffix isBlank).subset (hend.subset h)

/-- A blank at the end makes no difference. -/
theorem trim_concat_blank (cs : List Char) {c : Char} (hc : isBlank c = true) : trim (cs ++ [c]) = trim cs := by
  have hend (ds : List Char) : trimEnd (ds ++ [c]) = trimEnd ds := by
    unfold trimEnd
    rw [List.reverse_append, List.reverse_singleton, List.singleton_append, List.dropWhile_cons_of_pos hc]
  unfold trim trimStart
  rw [List.dropWhile_append]
  split
  · rename_i h
    rw [List.isEmpty_iff.1 h, List.dropWhile_cons_of_pos hc, List.dropWhile_nil]
  · exact hend _

theorem trimmed_eq_of_concat_blank {s t : String} {c : Char} (h : s.toList = t.toList ++ [c])
    (hc : isBlank c = true) : trimmed s = trimmed t := by
  rw [trimmed, h, trim_concat_blank _ hc, trimmed]

end AccessGateway.Text
