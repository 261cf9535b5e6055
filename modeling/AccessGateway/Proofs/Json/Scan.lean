import AccessGateway.Json.Scan
import Mathlib

/-!
# The grammar of JSON texts

A text is a value if the grammar derives it (`IsValue`, `IsParts`), and taking a text apart gives exactly the parts
that the grammar names (`parts?_eq_some_iff`).  Each scanner takes what its rule of the grammar allows and nothing
else.  Scanning numbers is greedy, so that one is found only where it does not go on (`Ends`); every other rule says
where it ends.
-/

namespace AccessGateway.Json.Scan

variable {b : UInt8} {bs cs content name rest : List UInt8} {f : Frame}

/-- What holds of all bytes can be decided by their numbers. -/
private theorem forall_byte {p : UInt8 → Prop} (h : ∀ n < 256, p (UInt8.ofNat n)) (b : UInt8) : p b := by
  have hb := h b.toNat b.toNat_lt
  rwa [UInt8.ofNat_toNat] at hb

/-! ### Blanks -/

def IsBlanks (bs : List UInt8) : Prop := ∀ b ∈ bs, isBlank b = true

theorem exists_blanks (bs : List UInt8) : ∃ ws, IsBlanks ws ∧ bs = ws ++ afterBlanks bs :=
  ⟨bs.takeWhile isBlank, fun _ hb => List.mem_takeWhile_imp hb, List.takeWhile_append_dropWhile.symm⟩

theorem afterBlanks_append {ws : List UInt8} (hws : IsBlanks ws) (hb : isBlank b = false) :
    afterBlanks (ws ++ b :: bs) = b :: bs := by
  have hneg : ¬ isBlank b = true := by
    rw [hb]
    decide
  rw [afterBlanks, List.dropWhile_append_of_pos hws, List.dropWhile_cons_of_neg hneg]

theorem afterBlanks_eq_nil_iff : afterBlanks bs = [] ↔ IsBlanks bs := List.dropWhile_eq_nil_iff

/-- A mark that may have blanks before it. -/
theorem strip?_afterBlanks_eq_some_iff (hb : isBlank b = false) :
    Text.strip? [b] (afterBlanks bs) = some rest ↔ ∃ ws, IsBlanks ws ∧ bs = ws ++ b :: rest := by
  rw [Text.strip?_eq_some_iff, List.singleton_append]
  constructor
  · intro h
    obtain ⟨ws, hws, hbs⟩ := exists_blanks bs
    exact ⟨ws, hws, h ▸ hbs⟩
  · rintro ⟨ws, hws, rfl⟩
    exact afterBlanks_append hws hb

/-! ### Strings -/

/-- What may stand between quotation marks.  Bytes beyond ASCII need not be those of a text. -/
inductive IsContent : List UInt8 → Prop where
  | nil : IsContent []
  | plain {b : UInt8} {cs : List UInt8} (hcontrol : ¬ b < 0x20) (hquote : b ≠ ascii '"') (hslash : b ≠ ascii '\\')
      (h : IsContent cs) : IsContent (b :: cs)
  | letter {b : UInt8} {cs : List UInt8} (hb : b ∈ Text.bytes "\"\\/bfnrt") (h : IsContent cs) :
      IsContent (ascii '\\' :: b :: cs)
  | unit {ds cs : List UInt8} (hds : ∀ d ∈ ds, isHexDigit d = true) (hlength : ds.length = 4) (h : IsContent cs) :
      IsContent (ascii '\\' :: ascii 'u' :: (ds ++ cs))

private theorem ne_of_isHexDigit : isHexDigit b = true → ¬ b < 0x20 ∧ b ≠ ascii '"' ∧ b ≠ ascii '\\' := by
  revert b
  apply forall_byte
  decide +kernel

private theorem string?_plain (hcontrol : ¬ b < 0x20) (hquote : b ≠ ascii '"') (hslash : b ≠ ascii '\\')
    (bs : List UInt8) : string? (b :: bs) = (string? bs).map fun (content, rest) => (b :: content, rest) := by
  rw [string?.eq_def]
  simp only [if_neg hquote, if_neg hslash, if_neg hcontrol]

private theorem string?_digits {ds : List UInt8} (hds : ∀ d ∈ ds, isHexDigit d = true) (bs : List UInt8) :
    string? (ds ++ bs) = (string? bs).map fun (content, rest) => (ds ++ content, rest) := by
  induction ds with
  | nil => simp
  | cons d ds ih =>
    obtain ⟨hcontrol, hquote, hslash⟩ := ne_of_isHexDigit (hds d (List.mem_cons_self ..))
    rw [List.cons_append, string?_plain hcontrol hquote hslash, ih fun c hc => hds c (List.mem_cons_of_mem _ hc),
      Option.map_map]
    rfl

/-- The digits after `u` are content of their own, so that they are where the string goes on. -/
private theorem IsContent.exists_append {ds t : List UInt8} (h : IsContent content)
    (hds : ∀ d ∈ ds, isHexDigit d = true) (heq : content ++ ascii '"' :: rest = ds ++ t) :
    ∃ cs, IsContent cs ∧ content = ds ++ cs := by
  induction ds generalizing content with
  | nil => exact ⟨content, h, rfl⟩
  | cons d ds ih =>
    obtain ⟨-, hquote, hslash⟩ := ne_of_isHexDigit (hds d (List.mem_cons_self ..))
    have hds' : ∀ c ∈ ds, isHexDigit c = true := fun c hc => hds c (List.mem_cons_of_mem _ hc)
    cases h with
    | nil => exact absurd (List.cons.inj heq).1.symm hquote
    | letter | unit => exact absurd (List.cons.inj heq).1.symm hslash
    | plain hcontrol hquote' hslash' h =>
      obtain ⟨rfl, htail⟩ := List.cons.inj heq
      obtain ⟨cs, hcs, rfl⟩ := ih h hds' htail
      exact ⟨cs, hcs, rfl⟩

private theorem string?_quote (bs : List UInt8) : string? (ascii '"' :: bs) = some ([], bs) := by
  rw [string?.eq_def]
  simp only [if_true]

private theorem string?_escape (hescape : isEscape (b :: bs) = true) :
    string? (ascii '\\' :: b :: bs) = (string? bs).map fun (content, rest) => (ascii '\\' :: b :: content, rest) := by
  have hne : ascii '\\' ≠ ascii '"' := by decide
  rw [string?.eq_def]
  simp only [if_neg hne, if_true, hescape]

private theorem isEscape_letter (hb : b ∈ Text.bytes "\"\\/bfnrt") (bs : List UInt8) : isEscape (b :: bs) = true := by
  have hne : b ≠ ascii 'u' := by
    rintro rfl
    exact absurd hb (by decide)
  rw [isEscape, if_neg hne, List.contains_iff_mem]
  exact hb

private theorem isEscape_unit {ds : List UInt8} (hds : ∀ d ∈ ds, isHexDigit d = true) (hlength : ds.length = 4)
    (bs : List UInt8) : isEscape (ascii 'u' :: (ds ++ bs)) = true := by
  have htake : (ds ++ bs).take 4 = ds := by rw [← hlength, List.take_left']; rfl
  rw [isEscape, if_pos rfl, htake, List.all_eq_true.2 hds, Bool.and_true, decide_eq_true_eq, List.length_append]
  omega

private theorem isEscape_cases (h : isEscape (b :: bs) = true) :
    b ∈ Text.bytes "\"\\/bfnrt" ∨
      b = ascii 'u' ∧ ∃ ds t, bs = ds ++ t ∧ ds.length = 4 ∧ ∀ d ∈ ds, isHexDigit d = true := by
  rw [isEscape] at h
  split at h
  · rename_i hb
    rw [Bool.and_eq_true, decide_eq_true_eq, List.all_eq_true] at h
    exact .inr ⟨hb, bs.take 4, bs.drop 4, (List.take_append_drop 4 bs).symm, List.length_take_of_le h.1, h.2⟩
  · exact .inl (List.contains_iff_mem.1 h)

theorem string?_eq_some_iff :
    string? bs = some (content, rest) ↔ IsContent content ∧ bs = content ++ ascii '"' :: rest := by
  constructor
  · intro h
    fun_induction string? bs generalizing content rest with
    | case1 => cases h
    | case2 r =>
      cases h
      exact ⟨.nil, rfl⟩
    | case3 => cases h
    | case4 e r hescape _ ih =>
      obtain ⟨⟨cs, rest'⟩, hcs, heq⟩ := Option.map_eq_some_iff.1 h
      obtain ⟨rfl, rfl⟩ := Prod.mk.inj heq
      obtain ⟨hcontent, rfl⟩ := ih hcs
      refine ⟨?_, rfl⟩
      obtain hletter | ⟨rfl, ds, t, ht, hlength, hds⟩ := isEscape_cases hescape
      · exact .letter hletter hcontent
      · obtain ⟨cs', hcs', rfl⟩ := hcontent.exists_append hds ht
        exact .unit hds hlength hcs'
    | case5 => cases h
    | case6 => cases h
    | case7 b r hquote hslash hcontrol ih =>
      obtain ⟨⟨cs, rest'⟩, hcs, heq⟩ := Option.map_eq_some_iff.1 h
      obtain ⟨rfl, rfl⟩ := Prod.mk.inj heq
      obtain ⟨hcontent, rfl⟩ := ih hcs
      exact ⟨.plain hcontrol hquote hslash hcontent, rfl⟩
  · rintro ⟨h, rfl⟩
    induction h with
    | nil => exact string?_quote rest
    | plain hcontrol hquote hslash h ih =>
      rw [List.cons_append, string?_plain hcontrol hquote hslash, ih, Option.map_some]
    | letter hb h ih =>
      rw [List.cons_append, List.cons_append, string?_escape (isEscape_letter hb _), ih, Option.map_some]
    | @unit ds cs hds hlength h ih =>
      rw [List.cons_append, List.cons_append, List.append_assoc, string?_escape (isEscape_unit hds hlength _),
        string?_digits hds, ih, Option.map_some, Option.map_some]

/-! ### Numbers -/

def IsDigits (ds : List UInt8) : Prop := ds ≠ [] ∧ ∀ d ∈ ds, isDigit d = true

inductive IsFraction : List UInt8 → Prop where
  | absent : IsFraction []
  | present {ds : List UInt8} (h : IsDigits ds) : IsFraction (ascii '.' :: ds)

/-- One of the signs, or none. -/
def IsSign (signs sign : List UInt8) : Prop := sign = [] ∨ ∃ b ∈ signs, sign = [b]

inductive IsExponent : List UInt8 → Prop where
  | absent : IsExponent []
  | present {e : UInt8} {sign ds : List UInt8} (he : e = ascii 'e' ∨ e = ascii 'E')
      (hsign : IsSign [ascii '+', ascii '-'] sign) (h : IsDigits ds) : IsExponent (e :: (sign ++ ds))

/-- Whole digits without a zero in front, and what may be written around them. -/
inductive IsNumber : List UInt8 → Prop where
  | intro {sign whole fraction exponent : List UInt8} (hsign : IsSign [ascii '-'] sign) (hwhole : IsDigits whole)
      (hzero : whole.head? = some (ascii '0') → whole.length = 1) (hfraction : IsFraction fraction)
      (hexponent : IsExponent exponent) : IsNumber (sign ++ (whole ++ (fraction ++ exponent)))

/-- A number that stands before this does not go on with it. -/
def Ends (rest : List UInt8) : Prop :=
  ∀ b ∈ rest.head?, isDigit b = false ∧ b ≠ ascii '.' ∧ b ≠ ascii 'e' ∧ b ≠ ascii 'E'

private theorem dropWhile_digits {ds : List UInt8} (hds : ∀ d ∈ ds, isDigit d = true)
    (hrest : ∀ b ∈ rest.head?, isDigit b = false) :
    (ds ++ rest).dropWhile isDigit = rest ∧ (ds ++ rest).takeWhile isDigit = ds := by
  rw [List.dropWhile_append_of_pos hds, List.takeWhile_append_of_pos hds]
  cases rest with
  | nil => simp
  | cons b rest => simp [hrest b rfl]

theorem exists_of_afterDigits? (h : afterDigits? bs = some rest) :
    IsDigits (bs.takeWhile isDigit) ∧ bs = bs.takeWhile isDigit ++ rest := by
  unfold afterDigits? at h
  obtain ⟨hhead, rfl⟩ := Option.ite_none_right_eq_some.1 h |>.imp id Option.some.inj
  refine ⟨⟨?_, fun _ hb => List.mem_takeWhile_imp hb⟩, List.takeWhile_append_dropWhile.symm⟩
  cases bs with
  | nil => cases hhead
  | cons b bs =>
    have hb : isDigit b = true := hhead
    simp [hb]

theorem afterDigits?_append {ds : List UInt8} (hds : IsDigits ds) (hrest : ∀ b ∈ rest.head?, isDigit b = false) :
    afterDigits? (ds ++ rest) = some rest := by
  have hhead : (ds ++ rest).head?.any isDigit = true := by
    cases ds with
    | nil => exact absurd rfl hds.1
    | cons d ds => exact hds.2 d (List.mem_cons_self ..)
  rw [afterDigits?, if_pos hhead, (dropWhile_digits hds.2 hrest).1]

theorem exists_sign (signs bs : List UInt8) : ∃ sign, IsSign signs sign ∧ bs = sign ++ afterSign signs bs := by
  cases bs with
  | nil => exact ⟨[], .inl rfl, rfl⟩
  | cons b bs =>
    rw [afterSign]
    split
    · rename_i hb
      exact ⟨[b], .inr ⟨b, hb, rfl⟩, rfl⟩
    · exact ⟨[], .inl rfl, rfl⟩

theorem afterSign_append {signs sign ds : List UInt8} (hsign : IsSign signs sign) (hds : IsDigits ds)
    (hsigns : ∀ b ∈ signs, isDigit b = false) (rest : List UInt8) :
    afterSign signs (sign ++ (ds ++ rest)) = ds ++ rest := by
  obtain rfl | ⟨b, hb, rfl⟩ := hsign
  · cases ds with
    | nil => exact absurd rfl hds.1
    | cons d ds =>
      have hd : d ∉ signs := fun hmem => by
        have hdigit := hds.2 d (List.mem_cons_self ..)
        rw [hsigns d hmem] at hdigit
        cases hdigit
      rw [List.nil_append, List.cons_append, afterSign, if_neg hd]
  · rw [List.singleton_append, afterSign, if_pos hb]

theorem exists_of_afterFraction? (h : afterFraction? bs = some rest) :
    ∃ fraction, IsFraction fraction ∧ bs = fraction ++ rest := by
  cases bs with
  | nil =>
    cases h
    exact ⟨[], .absent, rfl⟩
  | cons b bs =>
    rw [afterFraction?] at h
    split at h
    · rename_i hb
      obtain ⟨hds, hbs⟩ := exists_of_afterDigits? h
      exact ⟨b :: bs.takeWhile isDigit, hb ▸ .present hds, congrArg (b :: ·) hbs⟩
    · obtain rfl := Option.some.inj h
      exact ⟨[], .absent, rfl⟩

theorem exists_of_afterExponent? (h : afterExponent? bs = some rest) :
    ∃ exponent, IsExponent exponent ∧ bs = exponent ++ rest := by
  cases bs with
  | nil =>
    cases h
    exact ⟨[], .absent, rfl⟩
  | cons b bs =>
    rw [afterExponent?] at h
    split at h
    · rename_i hb
      obtain ⟨sign, hsign, hbs⟩ := exists_sign [ascii '+', ascii '-'] bs
      obtain ⟨hds, hdigits⟩ := exists_of_afterDigits? h
      refine ⟨_, .present hb hsign hds, ?_⟩
      rw [List.cons_append, List.append_assoc, ← hdigits, ← hbs]
    · obtain rfl := Option.some.inj h
      exact ⟨[], .absent, rfl⟩

theorem exists_of_afterNumber? (h : afterNumber? bs = some rest) : ∃ number, IsNumber number ∧ bs = number ++ rest := by
  unfold afterNumber? at h
  simp only [Option.bind_eq_bind, Option.bind_eq_some_iff, Option.ite_none_left_eq_some, not_and_not_right] at h
  obtain ⟨r, hwhole, hzero, r', hfraction, hexponent⟩ := h
  obtain ⟨sign, hsign, hbs⟩ := exists_sign [ascii '-'] bs
  obtain ⟨hdigits, hr⟩ := exists_of_afterDigits? hwhole
  obtain ⟨fraction, hisFraction, rfl⟩ := exists_of_afterFraction? hfraction
  obtain ⟨exponent, hisExponent, rfl⟩ := exists_of_afterExponent? hexponent
  refine ⟨_, .intro hsign hdigits hzero hisFraction hisExponent, ?_⟩
  simp only [List.append_assoc]
  rw [← hr, ← hbs]

theorem afterExponent?_append {exponent : List UInt8} (h : IsExponent exponent) (hrest : Ends rest) :
    afterExponent? (exponent ++ rest) = some rest := by
  cases h with
  | absent =>
    cases rest with
    | nil => rfl
    | cons b rest =>
      obtain ⟨-, -, he, hE⟩ := hrest b rfl
      rw [List.nil_append, afterExponent?, if_neg (by simp [he, hE])]
  | present he hsign hds =>
    have hsigns : ∀ b ∈ [ascii '+', ascii '-'], isDigit b = false := by decide +kernel
    rw [List.cons_append, afterExponent?, if_pos he, List.append_assoc, afterSign_append hsign hds hsigns,
      afterDigits?_append hds fun b hb => (hrest b hb).1]

theorem head?_exponent {exponent : List UInt8} (h : IsExponent exponent) (hrest : Ends rest) :
    ∀ b ∈ (exponent ++ rest).head?, isDigit b = false ∧ b ≠ ascii '.' := by
  intro b hb
  cases h with
  | absent => exact ⟨(hrest b hb).1, (hrest b hb).2.1⟩
  | present he =>
    cases hb
    obtain rfl | rfl := he <;> decide

theorem afterFraction?_append {fraction : List UInt8} (h : IsFraction fraction)
    (hrest : ∀ b ∈ rest.head?, isDigit b = false ∧ b ≠ ascii '.') : afterFraction? (fraction ++ rest) = some rest := by
  cases h with
  | absent =>
    cases rest with
    | nil => rfl
    | cons b rest => rw [List.nil_append, afterFraction?, if_neg (hrest b rfl).2]
  | present hds =>
    rw [List.cons_append, afterFraction?, if_pos rfl, afterDigits?_append hds fun b hb => (hrest b hb).1]

theorem head?_fraction {fraction : List UInt8} (h : IsFraction fraction)
    (hrest : ∀ b ∈ rest.head?, isDigit b = false ∧ b ≠ ascii '.') :
    ∀ b ∈ (fraction ++ rest).head?, isDigit b = false := by
  intro b hb
  cases h with
  | absent => exact (hrest b hb).1
  | present =>
    cases hb
    decide

theorem afterNumber?_append {number : List UInt8} (h : IsNumber number) (hrest : Ends rest) :
    afterNumber? (number ++ rest) = some rest := by
  obtain ⟨hsign, hwhole, hzero, hfraction, hexponent⟩ := h
  rename_i sign whole fraction exponent
  have hhead := head?_exponent hexponent hrest
  have hhead' := head?_fraction hfraction hhead
  have hnotzero : ¬ (whole.head? = some (ascii '0') ∧ whole.length ≠ 1) := fun h => h.2 (hzero h.1)
  have hsigns : ∀ b ∈ [ascii '-'], isDigit b = false := by decide +kernel
  have hassoc : sign ++ (whole ++ (fraction ++ exponent)) ++ rest =
      sign ++ (whole ++ (fraction ++ (exponent ++ rest))) := by simp only [List.append_assoc]
  rw [hassoc, afterNumber?]
  simp only [afterSign_append hsign hwhole hsigns, afterDigits?_append hwhole hhead',
    (dropWhile_digits hwhole.2 hhead').2, if_neg hnotzero, afterFraction?_append hfraction hhead,
    afterExponent?_append hexponent hrest, Option.bind_eq_bind, Option.bind_some]

/-! ### Values -/

/-- What stands before the value of a part, with the content of its name. -/
inductive IsLead : Frame → (name lead : List UInt8) → Prop where
  | item {ws : List UInt8} (hws : IsBlanks ws) : IsLead .list [] ws
  | member {name ws₁ ws₂ ws₃ : List UInt8} (hname : IsContent name) (h₁ : IsBlanks ws₁) (h₂ : IsBlanks ws₂)
      (h₃ : IsBlanks ws₃) :
      IsLead .record name (ws₁ ++ ascii '"' :: (name ++ ascii '"' :: (ws₂ ++ ascii ':' :: ws₃)))

mutual
/-- The texts of values. -/
inductive IsValue : List UInt8 → Prop where
  | literal {literal : List UInt8} (h : literal ∈ literals) : IsValue literal
  | number {number : List UInt8} (h : IsNumber number) : IsValue number
  | string {content : List UInt8} (h : IsContent content) : IsValue (ascii '"' :: (content ++ [ascii '"']))
  | empty {ws : List UInt8} (f : Frame) (hws : IsBlanks ws) : IsValue (f.opening :: (ws ++ [f.closing]))
  | full {parts : List Part} {inner : List UInt8} (f : Frame) (h : IsParts f parts inner) :
      IsValue (f.opening :: (inner ++ [f.closing]))

/-- What stands between the marks of a list or a record that is not empty, with its parts. -/
inductive IsParts : Frame → List Part → List UInt8 → Prop where
  | last {f : Frame} {name lead value ws : List UInt8} (hlead : IsLead f name lead) (hvalue : IsValue value)
      (hws : IsBlanks ws) : IsParts f [⟨name, value⟩] (lead ++ (value ++ ws))
  | cons {f : Frame} {name lead value ws inner : List UInt8} {parts : List Part} (hlead : IsLead f name lead)
      (hvalue : IsValue value) (hws : IsBlanks ws) (h : IsParts f parts inner) :
      IsParts f (⟨name, value⟩ :: parts) (lead ++ (value ++ (ws ++ ascii ',' :: inner)))
end

theorem IsParts.ne_nil {parts : List Part} {inner : List UInt8} (h : IsParts f parts inner) : parts ≠ [] := by
  cases h <;> exact List.cons_ne_nil _ _

theorem Frame.isBlank_closing (f : Frame) : isBlank f.closing = false := by cases f <;> decide

theorem Frame.isBlank_opening (f : Frame) : isBlank f.opening = false := by cases f <;> decide

theorem Frame.opening_ne_quote (f : Frame) : f.opening ≠ ascii '"' := by cases f <;> decide

theorem Frame.closing_ne_comma (f : Frame) : f.closing ≠ ascii ',' := by cases f <;> decide

theorem Frame.opened?_opening (f : Frame) : Frame.opened? f.opening = some f := by cases f <;> decide

theorem Frame.eq_opening (h : Frame.opened? b = some f) : b = f.opening := by
  unfold opened? at h
  split at h
  · rename_i hb
    cases h
    exact hb
  · obtain ⟨hb, rfl⟩ := Option.ite_none_right_eq_some.1 h |>.imp id Option.some.inj
    exact hb

theorem IsNumber.exists_cons {number : List UInt8} (h : IsNumber number) :
    ∃ b bs, number = b :: bs ∧ (isDigit b = true ∨ b = ascii '-') := by
  obtain ⟨hsign, hwhole, -, -, -⟩ := h
  rename_i sign whole fraction exponent
  obtain rfl | ⟨b, hb, rfl⟩ := hsign
  · obtain ⟨d, ds, rfl⟩ := List.exists_cons_of_ne_nil hwhole.1
    exact ⟨d, ds ++ (fraction ++ exponent), rfl, .inl (hwhole.2 d (List.mem_cons_self ..))⟩
  · exact ⟨b, _, rfl, .inr (List.mem_singleton.1 hb)⟩

/-- What a value may begin with. -/
def initials : List UInt8 := Text.bytes "\"[\x7bntf-0123456789"

theorem mem_of_isDigit : isDigit b = true → b ∈ Text.bytes "0123456789" := by
  revert b
  apply forall_byte
  decide +kernel

theorem IsValue.exists_cons {value : List UInt8} (h : IsValue value) : ∃ b bs, value = b :: bs ∧ b ∈ initials := by
  cases h with
  | literal h =>
    have hall : ∀ l ∈ literals, ∃ b ∈ initials, l = b :: l.tail := by decide +kernel
    obtain ⟨b, hb, hl⟩ := hall _ h
    exact ⟨b, _, hl, hb⟩
  | number h =>
    obtain ⟨b, bs, rfl, hb⟩ := h.exists_cons
    have hdigits : ∀ d ∈ Text.bytes "0123456789", d ∈ initials := by decide +kernel
    refine ⟨b, bs, rfl, ?_⟩
    obtain hb | rfl := hb
    · exact hdigits b (mem_of_isDigit hb)
    · decide
  | string => exact ⟨_, _, rfl, by decide⟩
  | empty f => exact ⟨_, _, rfl, by cases f <;> decide⟩
  | full f => exact ⟨_, _, rfl, by cases f <;> decide⟩

/-- What may begin a value is no blank and closes nothing. -/
theorem not_isBlank_of_mem_initials : b ∈ initials → isBlank b = false ∧ ∀ f : Frame, b ≠ f.closing := by
  have hall : ∀ b ∈ initials, isBlank b = false ∧ b ≠ Frame.list.closing ∧ b ≠ Frame.record.closing := by
    decide +kernel
  intro h
  obtain ⟨hblank, hlist, hrecord⟩ := hall b h
  exact ⟨hblank, fun f => by cases f <;> assumption⟩

theorem ends_blanks {ws : List UInt8} (hws : IsBlanks ws) (hb : b = ascii ',' ∨ b = f.closing) :
    Ends (ws ++ b :: rest) := by
  have hmarks : ∀ b ∈ Text.bytes " \n\r\t,]\x7d",
      isDigit b = false ∧ b ≠ ascii '.' ∧ b ≠ ascii 'e' ∧ b ≠ ascii 'E' := by decide +kernel
  intro c hc
  refine hmarks c ?_
  cases ws with
  | nil =>
    cases hc
    obtain rfl | rfl := hb
    · decide
    · cases f <;> decide
  | cons w ws =>
    cases hc
    have hblank : isBlank c = true := hws c (List.mem_cons_self ..)
    simp only [isBlank, Bool.or_eq_true, beq_iff_eq] at hblank
    rcases hblank with ((rfl | rfl) | rfl) | rfl <;> decide

theorem Frame.afterClosing?_eq_some_iff :
    f.afterClosing? bs = some rest ↔ ∃ ws, IsBlanks ws ∧ bs = ws ++ f.closing :: rest :=
  strip?_afterBlanks_eq_some_iff f.isBlank_closing

/-- A name is read with the colon after it, whatever blanks then follow. -/
theorem Frame.exists_of_name? (h : f.name? bs = some (name, rest)) :
    ∃ lead, IsLead f name lead ∧ bs = lead ++ afterBlanks rest := by
  obtain ⟨ws₃, h₃, hrest⟩ := exists_blanks rest
  cases f with
  | list =>
    obtain ⟨rfl, rfl⟩ := Prod.mk.inj (Option.some.inj h)
    exact ⟨ws₃, .item h₃, hrest⟩
  | record =>
    simp only [name?, Option.bind_eq_bind, Option.bind_eq_some_iff] at h
    obtain ⟨r, hquote, ⟨name', r'⟩, hstring, r'', hcolon, heq⟩ := h
    obtain ⟨rfl, rfl⟩ := Prod.mk.inj (Option.some.inj heq)
    obtain ⟨ws₁, h₁, rfl⟩ := (strip?_afterBlanks_eq_some_iff (by decide)).1 hquote
    obtain ⟨hname, rfl⟩ := string?_eq_some_iff.1 hstring
    obtain ⟨ws₂, h₂, rfl⟩ := (strip?_afterBlanks_eq_some_iff (by decide)).1 hcolon
    refine ⟨_, .member hname h₁ h₂ h₃, ?_⟩
    simp only [List.append_assoc, List.cons_append]
    rw [← hrest]

theorem Frame.name?_append {lead : List UInt8} (h : IsLead f name lead) (hb : isBlank b = false) (bs : List UInt8) :
    ∃ r, f.name? (lead ++ b :: bs) = some (name, r) ∧ afterBlanks r = b :: bs := by
  cases h with
  | item hws => exact ⟨_, rfl, afterBlanks_append hws hb⟩
  | @member _ ws₁ ws₂ ws₃ hname h₁ h₂ h₃ =>
    refine ⟨ws₃ ++ b :: bs, ?_, afterBlanks_append h₃ hb⟩
    have hassoc : ws₁ ++ ascii '"' :: (name ++ ascii '"' :: (ws₂ ++ ascii ':' :: ws₃)) ++ b :: bs =
        ws₁ ++ ascii '"' :: (name ++ ascii '"' :: (ws₂ ++ ascii ':' :: (ws₃ ++ b :: bs))) := by
      simp only [List.append_assoc, List.cons_append]
    have hquote : Text.strip? [ascii '"'] (afterBlanks (ws₁ ++ ascii '"' :: (name ++ ascii '"' :: (ws₂ ++ ascii ':' ::
        (ws₃ ++ b :: bs))))) = some (name ++ ascii '"' :: (ws₂ ++ ascii ':' :: (ws₃ ++ b :: bs))) :=
      (strip?_afterBlanks_eq_some_iff (by decide)).2 ⟨ws₁, h₁, rfl⟩
    have hcolon : Text.strip? [ascii ':'] (afterBlanks (ws₂ ++ ascii ':' :: (ws₃ ++ b :: bs))) = some (ws₃ ++ b :: bs) :=
      (strip?_afterBlanks_eq_some_iff (by decide)).2 ⟨ws₂, h₂, rfl⟩
    rw [hassoc, name?, hquote]
    simp only [string?_eq_some_iff.2 ⟨hname, rfl⟩, hcolon, Option.bind_eq_bind, Option.bind_some, Option.pure_def]

/-! ### Soundness -/

theorem exists_of_afterLiteral? (h : afterLiteral? bs = some rest) :
    ∃ literal ∈ literals, bs = literal ++ rest := by
  obtain ⟨literal, hmem, hstrip⟩ := List.exists_of_findSome?_eq_some h
  exact ⟨literal, hmem, Text.strip?_eq_some_iff.1 hstrip⟩

private theorem take_sub_length (value rest : List UInt8) :
    (value ++ rest).take ((value ++ rest).length - rest.length) = value := by
  rw [List.length_append, Nat.add_sub_cancel, List.take_left']
  rfl

mutual
theorem exists_of_afterValue? (fuel : Nat) {bs rest : List UInt8} (h : afterValue? fuel bs = some rest) :
    ∃ value, IsValue value ∧ bs = value ++ rest := by
  cases fuel with
  | zero => cases h
  | succ fuel =>
    cases bs with
    | nil => cases h
    | cons b r =>
      rw [afterValue?] at h
      split at h
      · rename_i hquote
        obtain ⟨⟨content, rest'⟩, hstring, rfl⟩ := Option.map_eq_some_iff.1 h
        obtain ⟨hcontent, rfl⟩ := string?_eq_some_iff.1 hstring
        exact ⟨_, .string hcontent, by simp [hquote]⟩
      split at h
      · rename_i f hopened
        obtain rfl := Frame.eq_opening hopened
        cases hclosing : f.afterClosing? r with
        | some r' =>
          rw [hclosing, Option.some_or] at h
          obtain rfl := Option.some.inj h
          obtain ⟨ws, hws, rfl⟩ := Frame.afterClosing?_eq_some_iff.1 hclosing
          exact ⟨_, .empty f hws, by simp⟩
        | none =>
          rw [hclosing, Option.none_or] at h
          obtain ⟨⟨parts, rest'⟩, hparts, rfl⟩ := Option.map_eq_some_iff.1 h
          obtain ⟨inner, hinner, rfl⟩ := exists_of_partsUpTo? fuel hparts
          exact ⟨_, .full f hinner, by simp⟩
      · cases hliteral : afterLiteral? (b :: r) with
        | some r' =>
          rw [hliteral, Option.some_or] at h
          obtain rfl := Option.some.inj h
          obtain ⟨literal, hmem, heq⟩ := exists_of_afterLiteral? hliteral
          exact ⟨literal, .literal hmem, heq⟩
        | none =>
          rw [hliteral, Option.none_or] at h
          obtain ⟨number, hnumber, heq⟩ := exists_of_afterNumber? h
          exact ⟨number, .number hnumber, heq⟩

theorem exists_of_partsUpTo? (fuel : Nat) {f : Frame} {bs rest : List UInt8} {parts : List Part}
    (h : partsUpTo? fuel f bs = some (parts, rest)) :
    ∃ inner, IsParts f parts inner ∧ bs = inner ++ f.closing :: rest := by
  cases fuel with
  | zero => cases h
  | succ fuel =>
    rw [partsUpTo?] at h
    simp only [Option.bind_eq_bind, Option.bind_eq_some_iff] at h
    obtain ⟨⟨name, r⟩, hname, r', hvalue, h⟩ := h
    obtain ⟨lead, hlead, rfl⟩ := Frame.exists_of_name? hname
    obtain ⟨value, hisValue, hr⟩ := exists_of_afterValue? fuel hvalue
    obtain ⟨ws, hws, hr'⟩ := exists_blanks r'
    rw [hr, take_sub_length] at h
    rw [hr]
    split at h
    · cases h
    · rename_i b t hafter
      rw [hafter] at hr'
      split at h
      · rename_i hcomma
        simp only [Option.bind_eq_some_iff] at h
        obtain ⟨⟨parts', rest'⟩, hparts, heq⟩ := h
        obtain ⟨rfl, rfl⟩ := Prod.mk.inj (Option.some.inj heq)
        obtain ⟨inner, hinner, rfl⟩ := exists_of_partsUpTo? fuel hparts
        refine ⟨_, .cons hlead hisValue hws hinner, ?_⟩
        rw [hr', hcomma]
        simp
      · obtain ⟨hclosing, heq⟩ := Option.ite_none_right_eq_some.1 h
        obtain ⟨rfl, rfl⟩ := Prod.mk.inj (Option.some.inj heq)
        refine ⟨_, .last hlead hisValue hws, ?_⟩
        rw [hr', hclosing]
        simp
end

/-! ### Completeness -/

theorem afterLiteral?_append {literal : List UInt8} (h : literal ∈ literals) (rest : List UInt8) :
    afterLiteral? (literal ++ rest) = some rest := by
  rw [literals, List.mem_map] at h
  obtain ⟨word, hword, rfl⟩ := h
  simp only [List.mem_cons, List.not_mem_nil, or_false] at hword
  rcases hword with rfl | rfl | rfl <;> rfl

/-- What begins a number begins nothing else. -/
private theorem initial_of_number (hb : isDigit b = true ∨ b = ascii '-') (bs : List UInt8) :
    b ≠ ascii '"' ∧ Frame.opened? b = none ∧ afterLiteral? (b :: bs) = none := by
  have hall : ∀ c ∈ Text.bytes "-0123456789", c ≠ ascii '"' ∧ Frame.opened? c = none ∧
      c ≠ ascii 'n' ∧ c ≠ ascii 't' ∧ c ≠ ascii 'f' := by decide +kernel
  have hmem : b ∈ Text.bytes "-0123456789" := by
    obtain hb | rfl := hb
    · exact List.mem_cons_of_mem _ (mem_of_isDigit hb)
    · decide
  obtain ⟨hquote, hopened, hn, ht, hf⟩ := hall b hmem
  refine ⟨hquote, hopened, ?_⟩
  have hwords : literals = [ascii 'n' :: Text.bytes "ull", ascii 't' :: Text.bytes "rue", ascii 'f' :: Text.bytes "alse"] :=
    rfl
  simp only [afterLiteral?, hwords, List.findSome?_cons, List.findSome?_nil, Text.strip?, if_neg hn.symm, if_neg ht.symm,
    if_neg hf.symm]

private theorem afterClosing?_lead {lead : List UInt8} (h : IsLead f name lead) (hb : b ∈ initials) (bs : List UInt8) :
    f.afterClosing? (lead ++ b :: bs) = none := by
  obtain ⟨hblank, hne⟩ := not_isBlank_of_mem_initials hb
  have hstrip : ∀ {c : UInt8} (t : List UInt8), c ≠ f.closing → Text.strip? [f.closing] (c :: t) = none := by
    intro c t hc
    rw [Text.strip?, if_neg hc.symm]
  cases h with
  | item hws => rw [Frame.afterClosing?, afterBlanks_append hws hblank, hstrip _ (hne .list)]
  | member hname h₁ =>
    rw [Frame.afterClosing?, List.append_assoc, List.cons_append, afterBlanks_append h₁ (by decide), hstrip _ (by decide)]

/-- What stands between the marks is not taken for an empty frame. -/
theorem IsParts.afterClosing? {parts : List Part} {inner : List UInt8} (h : IsParts f parts inner) (rest : List UInt8) :
    f.afterClosing? (inner ++ rest) = none := by
  cases h with
  | last hlead hvalue | cons hlead hvalue =>
    obtain ⟨b, bs, rfl, hb⟩ := hvalue.exists_cons
    simp only [List.append_assoc, List.cons_append]
    exact afterClosing?_lead hlead hb _

/-- With this much fuel, every value and every frame that takes no more is scanned to its end. -/
structure Completes (fuel : Nat) : Prop where
  afterValue? : ∀ {value rest : List UInt8}, IsValue value → Ends rest → 2 * value.length ≤ fuel →
    afterValue? fuel (value ++ rest) = some rest
  partsUpTo? : ∀ {f : Frame} {parts : List Part} {inner : List UInt8} (rest : List UInt8), IsParts f parts inner →
    2 * inner.length < fuel → partsUpTo? fuel f (inner ++ f.closing :: rest) = some (parts, rest)

private theorem afterValue?_opening {fuel : Nat} (f : Frame) (r : List UInt8) :
    afterValue? (fuel + 1) (f.opening :: r) = (f.afterClosing? r).or ((partsUpTo? fuel f r).map (·.2)) := by
  rw [afterValue?, if_neg f.opening_ne_quote, f.opened?_opening]

private theorem afterValue?_other {fuel : Nat} (hquote : b ≠ ascii '"') (hopened : Frame.opened? b = none)
    (r : List UInt8) : afterValue? (fuel + 1) (b :: r) = (afterLiteral? (b :: r)).or (afterNumber? (b :: r)) := by
  rw [afterValue?, if_neg hquote, hopened]

theorem Completes.afterValue?_succ {fuel : Nat} {value : List UInt8} (hfuel : Completes fuel) (h : IsValue value)
    (hrest : Ends rest) (hle : 2 * value.length ≤ fuel + 1) : Scan.afterValue? (fuel + 1) (value ++ rest) = some rest := by
  cases h with
  | literal h =>
    have hliteral := afterLiteral?_append h rest
    have hall : ∀ l ∈ literals, ∃ c ∈ Text.bytes "ntf", l = c :: l.tail := by decide +kernel
    have hinitial : ∀ c ∈ Text.bytes "ntf", c ≠ ascii '"' ∧ Frame.opened? c = none := by decide +kernel
    obtain ⟨c, hc, hl⟩ := hall _ h
    obtain ⟨hquote, hopened⟩ := hinitial c hc
    rw [hl, List.cons_append] at hliteral ⊢
    rw [afterValue?_other hquote hopened, hliteral, Option.some_or]
  | number h =>
    have hnumber := afterNumber?_append h hrest
    obtain ⟨c, cs, rfl, hc⟩ := h.exists_cons
    rw [List.cons_append] at hnumber ⊢
    obtain ⟨hquote, hopened, hliteral⟩ := initial_of_number hc (cs ++ rest)
    rw [afterValue?_other hquote hopened, hliteral, Option.none_or, hnumber]
  | string h =>
    rw [List.cons_append, Scan.afterValue?, if_pos rfl, List.append_assoc, List.singleton_append,
      string?_eq_some_iff.2 ⟨h, rfl⟩, Option.map_some]
  | @empty ws f hws =>
    have hclosing : f.afterClosing? (ws ++ f.closing :: rest) = some rest :=
      Frame.afterClosing?_eq_some_iff.2 ⟨ws, hws, rfl⟩
    rw [List.cons_append, List.append_assoc, List.singleton_append, afterValue?_opening, hclosing, Option.some_or]
  | @full parts inner f h =>
    simp only [List.length_cons, List.length_append, List.length_nil] at hle
    rw [List.cons_append, List.append_assoc, List.singleton_append, afterValue?_opening, h.afterClosing?,
      hfuel.partsUpTo? rest h (by omega), Option.none_or, Option.map_some]

/-- A part is read up to the blanks after its value. -/
private theorem partsUpTo?_part {fuel : Nat} {lead value : List UInt8} (hlead : IsLead f name lead)
    (hvalue : IsValue value) (hafter : afterValue? fuel (value ++ rest) = some rest) :
    partsUpTo? (fuel + 1) f (lead ++ (value ++ rest)) =
      match afterBlanks rest with
      | [] => none
      | b :: rest =>
        if b = ascii ',' then (partsUpTo? fuel f rest).map fun (parts, rest) => (⟨name, value⟩ :: parts, rest)
        else if b = f.closing then some ([⟨name, value⟩], rest)
        else none := by
  obtain ⟨b, bs, rfl, hb⟩ := hvalue.exists_cons
  obtain ⟨r, hname, hr⟩ := Frame.name?_append hlead (not_isBlank_of_mem_initials hb).1 (bs ++ rest)
  have htake := take_sub_length (b :: bs) rest
  rw [List.cons_append] at hafter htake ⊢
  rw [partsUpTo?, hname]
  simp only [Option.bind_eq_bind, Option.bind_some, hr, hafter, htake, Option.map_eq_bind]
  rfl

theorem Completes.partsUpTo?_succ {fuel : Nat} {parts : List Part} {inner : List UInt8} (hfuel : Completes fuel)
    (h : IsParts f parts inner) (hlt : 2 * inner.length < fuel + 1) :
    Scan.partsUpTo? (fuel + 1) f (inner ++ f.closing :: rest) = some (parts, rest) := by
  cases h with
  | @last _ name lead value ws hlead hvalue hws =>
    simp only [List.length_append] at hlt
    have hends : Ends (ws ++ f.closing :: rest) := ends_blanks hws (.inr rfl)
    have hafter := hfuel.afterValue? hvalue hends (by omega)
    rw [List.append_assoc, List.append_assoc, partsUpTo?_part hlead hvalue hafter,
      afterBlanks_append hws f.isBlank_closing]
    simp only [if_neg f.closing_ne_comma, if_true]
  | @cons _ name lead value ws inner parts hlead hvalue hws h =>
    simp only [List.length_append, List.length_cons] at hlt
    have hends : Ends (ws ++ ascii ',' :: (inner ++ f.closing :: rest)) := ends_blanks (f := f) hws (.inl rfl)
    have hafter := hfuel.afterValue? hvalue hends (by omega)
    have hparts := hfuel.partsUpTo? rest h (by omega)
    simp only [List.append_assoc, List.cons_append]
    rw [partsUpTo?_part hlead hvalue hafter, afterBlanks_append hws (by decide)]
    simp only [if_true, hparts, Option.map_some]

theorem completes (fuel : Nat) : Completes fuel := by
  induction fuel with
  | zero =>
    refine ⟨fun h _ hle => ?_, fun _ _ hlt => absurd hlt (Nat.not_lt_zero _)⟩
    obtain ⟨b, bs, rfl, -⟩ := h.exists_cons
    rw [List.length_cons] at hle
    omega
  | succ fuel ih => exact ⟨fun h hrest hle => ih.afterValue?_succ h hrest hle, fun _ h hlt => ih.partsUpTo?_succ h hlt⟩

/-! ### Texts -/

/-- A text of a list or a record, with blanks around it, and its parts. -/
inductive IsText (f : Frame) : List Part → List UInt8 → Prop where
  | empty {ws₁ ws₂ ws₃ : List UInt8} (h₁ : IsBlanks ws₁) (h₂ : IsBlanks ws₂) (h₃ : IsBlanks ws₃) :
      IsText f [] (ws₁ ++ f.opening :: (ws₂ ++ f.closing :: ws₃))
  | full {ws₁ ws₂ inner : List UInt8} {parts : List Part} (h₁ : IsBlanks ws₁) (h : IsParts f parts inner)
      (h₂ : IsBlanks ws₂) : IsText f parts (ws₁ ++ f.opening :: (inner ++ f.closing :: ws₂))

/-- Taking a text apart gives the parts that the grammar names, and takes no other text. -/
theorem parts?_eq_some_iff {parts : List Part} : parts? f bs = some parts ↔ IsText f parts bs := by
  unfold parts?
  simp only [Option.bind_eq_bind, Option.bind_eq_some_iff, strip?_afterBlanks_eq_some_iff f.isBlank_opening]
  constructor
  · rintro ⟨r, ⟨ws₁, h₁, rfl⟩, ⟨parts', rest⟩, hparts, hrest⟩
    obtain ⟨hempty, rfl⟩ := Option.ite_none_right_eq_some.1 hrest |>.imp id Option.some.inj
    have hblanks : IsBlanks rest := afterBlanks_eq_nil_iff.1 (List.isEmpty_iff.1 hempty)
    cases hclosing : f.afterClosing? r with
    | some r' =>
      rw [hclosing, Option.map_some, Option.some_or] at hparts
      obtain ⟨rfl, rfl⟩ := Prod.mk.inj (Option.some.inj hparts)
      obtain ⟨ws₂, h₂, rfl⟩ := Frame.afterClosing?_eq_some_iff.1 hclosing
      exact .empty h₁ h₂ hblanks
    | none =>
      rw [hclosing, Option.map_none, Option.none_or] at hparts
      obtain ⟨inner, hinner, rfl⟩ := exists_of_partsUpTo? _ hparts
      exact .full h₁ hinner hblanks
  · rintro (⟨h₁, h₂, h₃⟩ | ⟨h₁, h, h₂⟩)
    · rename_i ws₁ ws₂ ws₃
      have hclosing : f.afterClosing? (ws₂ ++ f.closing :: ws₃) = some ws₃ :=
        Frame.afterClosing?_eq_some_iff.2 ⟨ws₂, h₂, rfl⟩
      refine ⟨_, ⟨ws₁, h₁, rfl⟩, ([], ws₃), ?_, ?_⟩
      · rw [hclosing, Option.map_some, Option.some_or]
      · rw [afterBlanks_eq_nil_iff.2 h₃]
        rfl
    · rename_i ws₁ ws₂ inner
      refine ⟨_, ⟨ws₁, h₁, rfl⟩, (parts, ws₂), ?_, ?_⟩
      · rw [h.afterClosing?, Option.map_none, Option.none_or]
        refine (completes _).partsUpTo? ws₂ h ?_
        rw [List.length_append, List.length_cons]
        omega
      · rw [afterBlanks_eq_nil_iff.2 h₂]
        rfl

end AccessGateway.Json.Scan
