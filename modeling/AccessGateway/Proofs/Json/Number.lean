import AccessGateway.Json.Reader
import AccessGateway.Json.Writer
import AccessGateway.Proofs.Text.Decimal

/-!
# Numbers

A number is read from its sign, its digits, and what `fractionAndExponent?` makes of the rest (`number?_append`).
An integer that fits 64 bits reads back as itself, and a finite fraction as one of the same value.
-/

namespace AccessGateway.Json

open Text (digits isDigit_of_mem_digits digits_ne_nil Decimal)

variable {ds frac whole rest tail : List Char} {exponent : Option Int} {b : Bool} {m : Nat} {e : Int}

/-! ### Digits -/

/-- A number that ends here does not go on with what follows. -/
def Ends (rest : List Char) : Prop := ∀ c ∈ rest.head?, c.isDigit = false ∧ c ≠ '.' ∧ c ≠ 'e' ∧ c ≠ 'E'

theorem spanDigits_append (hds : ∀ c ∈ ds, c.isDigit = true) (hrest : ∀ c ∈ rest.head?, c.isDigit = false) :
    spanDigits (ds ++ rest) = (ds, rest) := by
  unfold spanDigits
  rw [List.takeWhile_append_of_pos hds, List.dropWhile_append_of_pos hds]
  cases rest with
  | nil => simp
  | cons c rest =>
    have hc : ¬ c.isDigit = true := by
      rw [hrest c rfl]
      decide
    rw [List.takeWhile_cons_of_neg hc, List.dropWhile_cons_of_neg hc, List.append_nil]

/-! ### What follows the integer digits -/

def fractionText (frac : List Char) : List Char := if frac.isEmpty then [] else '.' :: frac

def exponentText : Option Int → List Char
  | none => []
  | some e => 'e' :: (toString e).toList

/-- The digits after a point, if there is one; and what follows them. -/
def fractionPart? : List Char → Option (List Char × List Char)
  | '.' :: r =>
    let (f, r) := spanDigits r
    if f.isEmpty then none else some (f, r)
  | cs => some ([], cs)

/-- The exponent, if there is one; and what follows it. -/
def exponentPart? (cs : List Char) : Option (Option Int × List Char) :=
  let exponent (neg : Bool) (r : List Char) : Option (Option Int × List Char) :=
    let (e, r) := spanDigits r
    (Text.natural? e).map fun n => (some (if neg then -(n : Int) else n), r)
  match cs with
  | 'e' :: '-' :: r | 'E' :: '-' :: r => exponent true r
  | 'e' :: '+' :: r | 'E' :: '+' :: r => exponent false r
  | 'e' :: r | 'E' :: r => exponent false r
  | _ => some (none, cs)

theorem fractionPart?_of_head? (h : ∀ c ∈ rest.head?, c ≠ '.') : fractionPart? rest = some ([], rest) := by
  unfold fractionPart?
  split
  · exact absurd rfl (h '.' rfl)
  · rfl

theorem fractionAndExponent?_eq (cs : List Char) :
    fractionAndExponent? cs = (fractionPart? cs).bind fun (f, r) => (exponentPart? r).map fun (e, r) => (f, e, r) := by
  have hexponent (f r : List Char) :
      (match r with
        | 'e' :: '-' :: r | 'E' :: '-' :: r =>
          (Text.natural? (spanDigits r).1).map fun n => (f, some (-(n : Int)), (spanDigits r).2)
        | 'e' :: '+' :: r | 'E' :: '+' :: r =>
          (Text.natural? (spanDigits r).1).map fun n => (f, some (n : Int), (spanDigits r).2)
        | 'e' :: r | 'E' :: r => (Text.natural? (spanDigits r).1).map fun n => (f, some (n : Int), (spanDigits r).2)
        | _ => some (f, none, r)) =
      (exponentPart? r).map fun (e, r) => (f, e, r) := by
    unfold exponentPart?
    split <;> simp
  by_cases hpoint : cs.head? = some '.'
  · obtain ⟨r, rfl⟩ := List.head?_eq_some_iff.1 hpoint
    unfold fractionAndExponent? fractionPart?
    by_cases hempty : (spanDigits r).1.isEmpty = true
    · simp [hempty]
    · simp only [hempty]
      exact hexponent _ _
  · have hfraction : fractionPart? cs = some ([], cs) := fractionPart?_of_head? fun c hc hdot => hpoint (hdot ▸ hc)
    rw [hfraction]
    unfold fractionAndExponent?
    split
    · exact absurd rfl hpoint
    · exact hexponent [] _

theorem fractionPart?_point (hfrac : ∀ c ∈ frac, c.isDigit = true) (hne : frac ≠ [])
    (hrest : ∀ c ∈ rest.head?, c.isDigit = false) : fractionPart? ('.' :: (frac ++ rest)) = some (frac, rest) := by
  rw [fractionPart?, spanDigits_append hfrac hrest]
  dsimp only
  rw [if_neg]
  rwa [List.isEmpty_iff]

theorem exponentPart?_of_head? (h : ∀ c ∈ rest.head?, c ≠ 'e' ∧ c ≠ 'E') : exponentPart? rest = some (none, rest) := by
  unfold exponentPart?
  dsimp only
  split
  all_goals first
    | exact absurd rfl (h _ rfl).1
    | exact absurd rfl (h _ rfl).2
    | rfl

theorem toList_toString_int (e : Int) :
    (toString e).toList = if e < 0 then '-' :: digits e.natAbs else digits e.natAbs := by
  have hrepr : toString e = e.repr := rfl
  rw [hrepr, Int.repr_eq_if]
  by_cases h : 0 ≤ e
  · rw [if_pos h, if_neg (by omega), Nat.toList_repr, digits, show e.natAbs = e.toNat by omega]
  · rw [if_neg h, if_pos (by omega), String.toList_append, Nat.toList_repr, digits,
      show e.natAbs = (-e).toNat by omega]
    rfl

theorem exponentPart?_toString (e : Int) (hrest : ∀ c ∈ rest.head?, c.isDigit = false) :
    exponentPart? ('e' :: ((toString e).toList ++ rest)) = some (some e, rest) := by
  have hspan : spanDigits (digits e.natAbs ++ rest) = (digits e.natAbs, rest) :=
    spanDigits_append (fun c hc => isDigit_of_mem_digits hc) hrest
  rw [toList_toString_int]
  by_cases h : e < 0
  · rw [if_pos h, List.cons_append]
    simp only [exponentPart?, hspan, Text.natural?_digits]
    simp [abs_of_neg h]
  · rw [if_neg h]
    obtain ⟨c, ds, hds⟩ := List.exists_cons_of_ne_nil (digits_ne_nil e.natAbs)
    have hc : c.isDigit = true := isDigit_of_mem_digits (hds ▸ List.mem_cons_self)
    have hminus : c ≠ '-' := by
      rintro rfl
      cases hc
    have hplus : c ≠ '+' := by
      rintro rfl
      cases hc
    rw [hds, List.cons_append] at hspan ⊢
    rw [exponentPart?]
    · simp only [hspan, ← hds, Text.natural?_digits]
      simp [abs_of_nonneg (not_lt.1 h)]
    · intro r hr
      injection hr with hr
      exact hminus hr
    · intro r hr
      injection hr with hr
      exact hplus hr

theorem head?_exponentText (exponent : Option Int) (hrest : Ends rest) :
    ∀ c ∈ (exponentText exponent ++ rest).head?, c.isDigit = false ∧ c ≠ '.' := by
  intro c hc
  cases exponent with
  | none => exact ⟨(hrest c hc).1, (hrest c hc).2.1⟩
  | some e =>
    cases hc
    decide

theorem head?_fractionText (frac : List Char) (exponent : Option Int) (hrest : Ends rest) :
    ∀ c ∈ (fractionText frac ++ (exponentText exponent ++ rest)).head?, c.isDigit = false := by
  intro c hc
  cases frac with
  | nil => exact (head?_exponentText exponent hrest c hc).1
  | cons d ds =>
    cases hc
    decide

theorem fractionAndExponent?_append (hfrac : ∀ c ∈ frac, c.isDigit = true) (exponent : Option Int)
    (hrest : Ends rest) :
    fractionAndExponent? (fractionText frac ++ (exponentText exponent ++ rest)) = some (frac, exponent, rest) := by
  have hexponent : exponentPart? (exponentText exponent ++ rest) = some (exponent, rest) := by
    cases exponent with
    | none => exact exponentPart?_of_head? fun c hc => (hrest c hc).2.2
    | some e => exact exponentPart?_toString e fun c hc => (hrest c hc).1
  have hhead := head?_exponentText exponent hrest
  have hfraction : fractionPart? (fractionText frac ++ (exponentText exponent ++ rest)) =
      some (frac, exponentText exponent ++ rest) := by
    cases frac with
    | nil => exact fractionPart?_of_head? fun c hc => (hhead c hc).2
    | cons c cs => exact fractionPart?_point hfrac (List.cons_ne_nil c cs) fun c hc => (hhead c hc).1
  rw [fractionAndExponent?_eq, hfraction, Option.bind_some]
  dsimp only
  rw [hexponent, Option.map_some]

/-! ### Numerals -/

/-- A number as it is written, without its sign. -/
structure Numeral where
  whole : List Char
  frac : List Char
  exponent : Option Int
  whole_ne_nil : whole ≠ []
  isDigit_whole : ∀ c ∈ whole, c.isDigit = true
  isDigit_frac : ∀ c ∈ frac, c.isDigit = true
  length_of_head? : whole.head? = some '0' → whole.length = 1

namespace Numeral

variable {n : Numeral}

def text (n : Numeral) : List Char := n.whole ++ (fractionText n.frac ++ exponentText n.exponent)

def mantissa (n : Numeral) : Nat := Nat.ofDigitChars 10 (n.whole ++ n.frac) 0

def decimal (b : Bool) (n : Numeral) : Decimal := ⟨b, n.mantissa, n.exponent.getD 0 - n.frac.length⟩

/-- It has neither a point nor an exponent. -/
def isWhole (n : Numeral) : Bool := n.frac.isEmpty && n.exponent.isNone

/-- What the numeral with a sign is read as. -/
def toJson (b : Bool) (n : Numeral) : Json :=
  if n.isWhole && !b && n.mantissa < UInt64.size then .number (.integer n.mantissa)
  else if n.isWhole && b && n.mantissa ≠ 0 && n.mantissa ≤ UInt64.size / 2 then .number (.integer (-(n.mantissa : Int)))
  else if (n.decimal b).isFinite then .number (.fraction (n.decimal b))
  else .unrepresentable

theorem toJson_of_not_isWhole (h : n.isWhole = false) (hfinite : (n.decimal b).isFinite = true) :
    n.toJson b = .number (.fraction (n.decimal b)) := by
  simp [toJson, h, hfinite]

theorem head?_append (n : Numeral) (tail : List Char) : ∀ c ∈ (n.whole ++ tail).head?, c.isDigit = true := by
  intro c hc
  rw [List.head?_append_of_ne_nil _ n.whole_ne_nil] at hc
  exact n.isDigit_whole c (List.mem_of_head? hc)

end Numeral

def sign (b : Bool) : List Char := if b then ['-'] else []

theorem number?_append (b : Bool) (n : Numeral) (hrest : Ends rest) :
    number? (sign b ++ n.text ++ rest) = some (n.toJson b, rest) := by
  let tail := fractionText n.frac ++ (exponentText n.exponent ++ rest)
  have htail : fractionAndExponent? tail = some (n.frac, n.exponent, rest) :=
    fractionAndExponent?_append n.isDigit_frac n.exponent hrest
  have hspan : spanDigits (n.whole ++ tail) = (n.whole, tail) :=
    spanDigits_append n.isDigit_whole (head?_fractionText n.frac n.exponent hrest)
  have hempty : ¬ (n.whole.isEmpty = true ∨ (n.whole.head? = some '0' ∧ n.whole.length ≠ 1)) := by
    rw [List.isEmpty_iff]
    exact fun h => h.elim n.whole_ne_nil fun h => h.2 (n.length_of_head? h.1)
  have htext : sign b ++ n.text ++ rest = sign b ++ (n.whole ++ tail) := by
    simp only [Numeral.text, tail, List.append_assoc]
  rw [htext]
  unfold number?
  split
  rename_i negative r hr
  -- The first digit is no sign, so the sign that is read is the one that was written.
  have hparts : b = negative ∧ n.whole ++ tail = r := by
    split at hr
    · rename_i heq
      cases b with
      | true =>
        injection heq with _ heq
        exact ⟨(Prod.mk.inj hr).1, heq.trans (Prod.mk.inj hr).2⟩
      | false =>
        have hhead : (n.whole ++ tail).head? = some '-' := congrArg List.head? heq
        cases n.head?_append tail '-' hhead
    · rename_i hminus
      cases b with
      | true => exact absurd rfl (hminus _)
      | false => exact Prod.mk.inj hr
  obtain ⟨rfl, rfl⟩ := hparts
  simp only [hspan, if_neg hempty, htail, bind, Option.bind, pure]
  unfold Numeral.toJson Numeral.isWhole Numeral.decimal Numeral.mantissa
  split
  · rfl
  · split
    · rfl
    · rfl

/-! ### Integers -/

theorem length_of_head?_digits (h : (digits m).head? = some '0') : (digits m).length = 1 := by
  by_cases hm : m = 0
  · subst hm
    rfl
  · exact absurd h (Text.head?_digits hm)

def Numeral.natural (m : Nat) : Numeral where
  whole := digits m
  frac := []
  exponent := none
  whole_ne_nil := digits_ne_nil m
  isDigit_whole := fun _ hc => isDigit_of_mem_digits hc
  isDigit_frac := nofun
  length_of_head? := length_of_head?_digits

theorem Numeral.mantissa_natural (m : Nat) : (Numeral.natural m).mantissa = m := by
  have happend : digits m ++ [] = digits m := List.append_nil _
  rw [mantissa, natural, happend, Text.ofDigitChars_digits]

theorem writeNumber_integer (i : Int) :
    writeNumber (.integer i) = sign (decide (i < 0)) ++ (Numeral.natural i.natAbs).text := by
  have hdigits : (Numeral.natural i.natAbs).text = digits i.natAbs := List.append_nil _
  rw [writeNumber, hdigits]
  by_cases h : i < 0
  · simp [h, sign]
  · simp [h, sign]

/-- An integer that fits 64 bits, with a sign or without, reads back as itself. -/
theorem number?_integer {i : Int} (hlow : -2 ^ 63 ≤ i) (hhigh : i < 2 ^ 64) (hrest : Ends rest) :
    number? (writeNumber (.integer i) ++ rest) = some (.number (.integer i), rest) := by
  have hmantissa := Numeral.mantissa_natural i.natAbs
  have hwhole : (Numeral.natural i.natAbs).isWhole = true := rfl
  rw [writeNumber_integer, number?_append _ _ hrest, Numeral.toJson, hmantissa, hwhole]
  by_cases h : i < 0
  · have hne : i ≠ 0 := by omega
    have hle : i.natAbs ≤ UInt64.size / 2 := by
      show i.natAbs ≤ 2 ^ 63
      omega
    have hneg : -(i.natAbs : Int) = i := by omega
    rw [hneg]
    simp [h, hne, hle]
  · have hlt : i.natAbs < UInt64.size := by
      show i.natAbs < 2 ^ 64
      omega
    have hpos : (i.natAbs : Int) = i := by omega
    rw [hpos]
    simp [h, hlt]

/-! ### Fractions -/

namespace Numeral

/-- A number with zeros after it and a bare point. -/
def padded (m k : Nat) : Numeral where
  whole := digits (m * 10 ^ k)
  frac := ['0']
  exponent := none
  whole_ne_nil := digits_ne_nil _
  isDigit_whole := fun _ hc => isDigit_of_mem_digits hc
  isDigit_frac := fun _ hc => List.mem_singleton.1 hc ▸ rfl
  length_of_head? := length_of_head?_digits

/-- A number with a point among its digits, or behind them all. -/
def cut {m n : Nat} (hm : m ≠ 0) (hn : 0 < n) (exponent : Option Int) : Numeral where
  whole := (digits m).take n
  frac := (digits m).drop n
  exponent
  whole_ne_nil := by
    intro h
    rcases List.take_eq_nil_iff.1 h with h | h
    · omega
    · exact digits_ne_nil m h
  isDigit_whole := fun _ hc => isDigit_of_mem_digits (List.mem_of_mem_take hc)
  isDigit_frac := fun _ hc => isDigit_of_mem_digits (List.mem_of_mem_drop hc)
  length_of_head? := by
    intro h
    rw [List.head?_take, if_neg (by omega)] at h
    exact absurd h (Text.head?_digits hm)

/-- A number behind a point and zeros. -/
def small (m k : Nat) : Numeral where
  whole := ['0']
  frac := List.replicate k '0' ++ digits m
  exponent := none
  whole_ne_nil := nofun
  isDigit_whole := fun _ hc => List.mem_singleton.1 hc ▸ rfl
  isDigit_frac := by
    intro c hc
    rcases List.mem_append.1 hc with hc | hc
    · exact (List.mem_replicate.1 hc).2 ▸ rfl
    · exact isDigit_of_mem_digits hc
  length_of_head? := fun _ => rfl

theorem mantissa_padded (m k : Nat) : (padded m k).mantissa = m * 10 ^ (k + 1) := by
  have hzero : Nat.ofDigitChars 10 ['0'] (m * 10 ^ k) = 10 * (m * 10 ^ k) := rfl
  rw [mantissa, padded, Nat.ofDigitChars_append, Text.ofDigitChars_digits, hzero, Nat.pow_succ]
  ring

theorem mantissa_cut {n : Nat} (hm : m ≠ 0) (hn : 0 < n) (exponent : Option Int) :
    (cut hm hn exponent).mantissa = m := by
  rw [mantissa, cut, List.take_append_drop, Text.ofDigitChars_digits]

theorem mantissa_small (m k : Nat) : (small m k).mantissa = m := by
  have happend : ['0'] ++ (List.replicate k '0' ++ digits m) = List.replicate (k + 1) '0' ++ digits m := rfl
  rw [mantissa, small, happend, Nat.ofDigitChars_append, Nat.ofDigitChars_replicate_zero, Nat.mul_zero,
    Text.ofDigitChars_digits]

/-- The written form of a mantissa and an exponent. -/
def positional (m : Nat) (e : Int) : Numeral :=
  let point : Int := (digits m).length + e
  if hm : m = 0 then padded 0 0
  else if Decimal.BeforePoint m e then padded m e.toNat
  else if hpoint : 0 < point ∧ point ≤ 16 then cut hm (Int.lt_toNat.2 hpoint.1) none
  else if -5 < point ∧ point ≤ 0 then small m (-point).toNat
  else cut hm Nat.one_pos (some (point - 1))

theorem decimal_positional (b : Bool) (m : Nat) (e : Int) : (positional m e).decimal b = Decimal.spelled b m e := by
  have hlength := List.length_pos_iff.2 (digits_ne_nil m)
  unfold positional Decimal.spelled
  dsimp only
  split
  · rfl
  · rename_i hm
    split
    · rw [decimal, mantissa_padded]
      rfl
    · rename_i hbefore
      unfold Decimal.BeforePoint at hbefore
      split
      · rw [decimal, mantissa_cut]
        congr 1
        simp only [cut, Option.getD_none, List.length_drop]
        omega
      · split
        · rw [decimal, mantissa_small]
          congr 1
          simp only [small, Option.getD_none, List.length_append, List.length_replicate]
          omega
        · rw [decimal, mantissa_cut]
          congr 1
          simp only [cut, Option.getD_some, List.length_drop]
          omega

theorem not_isWhole_positional (m : Nat) (e : Int) : (positional m e).isWhole = false := by
  unfold positional
  dsimp only
  split
  · rfl
  · split
    · rfl
    · split
      · rename_i hbefore hpoint
        unfold Decimal.BeforePoint at hbefore
        have hlength : 0 < ((digits m).drop ((digits m).length + e).toNat).length := by
          rw [List.length_drop]
          omega
        rw [isWhole, Bool.and_eq_false_iff]
        exact .inl (List.isEmpty_eq_false_iff.2 (List.length_pos_iff.1 hlength))
      · split
        · rw [isWhole, Bool.and_eq_false_iff]
          exact .inl (List.isEmpty_eq_false_iff.2 (List.append_ne_nil_of_right_ne_nil _ (digits_ne_nil m)))
        · rw [isWhole, Bool.and_eq_false_iff]
          exact .inr rfl

end Numeral

theorem toList_render (d : Decimal) :
    d.render.toList = sign d.negative ++ (Numeral.positional d.stripped.1 d.stripped.2).text := by
  obtain ⟨m, e, hstrip⟩ : ∃ m e, d.stripped = (m, e) := ⟨_, _, rfl⟩
  have hsign (body : List Char) : (if d.negative = true then '-' :: body else body) = sign d.negative ++ body := by
    cases d.negative <;> rfl
  unfold Decimal.stripped at hstrip
  unfold Decimal.render Decimal.stripped
  rw [String.toList_ofList, hstrip]
  dsimp only
  rw [hsign]
  congr 1
  unfold Numeral.positional
  dsimp only
  split
  · rename_i hm
    subst hm
    rfl
  · rename_i hm
    split
    · rename_i hbefore
      have hpadded : digits (m * 10 ^ e.toNat) = digits m ++ List.replicate e.toNat '0' := Text.digits_mul_pow hm _
      have hcond : Decimal.BeforePoint m e := hbefore
      rw [if_pos hcond, ← hpadded]
      rfl
    · rename_i hbefore
      have hnot : ¬ Decimal.BeforePoint m e := hbefore
      rw [if_neg hnot]
      split
      · rename_i hpoint
        have hfrac : ((digits m).drop ((digits m).length + e).toNat).isEmpty = false := by
          rw [List.isEmpty_eq_false_iff, ← List.length_pos_iff, List.length_drop]
          unfold Decimal.BeforePoint at hnot
          omega
        simp [Numeral.text, Numeral.cut, fractionText, hfrac, exponentText]
      · split
        · have hfrac (k : Nat) : (List.replicate k '0' ++ digits m).isEmpty = false :=
            List.isEmpty_eq_false_iff.2 (List.append_ne_nil_of_right_ne_nil _ (digits_ne_nil m))
          simp only [Numeral.text, Numeral.small, fractionText, hfrac]
          simp [exponentText]
        · simp [Numeral.text, Numeral.cut, fractionText, exponentText]

/-- A finite fraction reads back with the value it has, as it is written. -/
theorem number?_fraction {d : Decimal} (hd : d.isFinite = true) (hrest : Ends rest) :
    number? (writeNumber (.fraction d) ++ rest) = some (.number (.fraction d.written), rest) := by
  let n := Numeral.positional d.stripped.1 d.stripped.2
  have hdecimal : n.decimal d.negative = d.written := Numeral.decimal_positional _ _ _
  have hfinite : (n.decimal d.negative).isFinite = true := by rw [hdecimal, Decimal.isFinite_written, hd]
  rw [writeNumber, toList_render, number?_append _ _ hrest,
    Numeral.toJson_of_not_isWhole (Numeral.not_isWhole_positional _ _) hfinite, hdecimal]

/-! ### The characters of a number -/

theorem exists_writeNumber (n : JsonNumber) : ∃ b numeral, writeNumber n = sign b ++ Numeral.text numeral := by
  cases n with
  | integer i => exact ⟨_, _, writeNumber_integer i⟩
  | fraction d => exact ⟨_, _, toList_render d⟩

theorem newline_not_mem_text (n : Numeral) : '\n' ∉ n.text := by
  intro h
  have hdigit {cs : List Char} (hcs : ∀ c ∈ cs, c.isDigit = true) : '\n' ∉ cs := fun h => nomatch hcs _ h
  have hexponent : '\n' ∉ exponentText n.exponent := by
    cases n.exponent with
    | none => nofun
    | some e =>
      rw [exponentText, toList_toString_int]
      split
      · simp [hdigit fun c hc => isDigit_of_mem_digits hc]
      · simp [hdigit fun c hc => isDigit_of_mem_digits hc]
  have hfrac : '\n' ∉ fractionText n.frac := by
    unfold fractionText
    split
    · nofun
    · simp [hdigit n.isDigit_frac]
  rcases List.mem_append.1 h with h | h
  · exact hdigit n.isDigit_whole h
  · exact (List.mem_append.1 h).elim hfrac hexponent

end AccessGateway.Json
