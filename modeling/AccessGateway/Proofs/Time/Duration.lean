import AccessGateway.Proofs.Text.Numeral
import AccessGateway.Settings.Decode
import Mathlib

/-!
# Durations written and read back

A duration is read from a number and a unit (`Duration.read?_eq_some_iff`).  It is written in milliseconds below one
second and in whole seconds otherwise, so what is read back of a second and more has lost its fraction
(`Duration.read?_render`), and with it every setting that was given so.
-/

namespace AccessGateway

open Text

/-- What a number counts. -/
inductive TimeUnit where
  | millisecond
  | second
  | minute
  | hour
deriving DecidableEq, Repr

namespace TimeUnit

def symbol : TimeUnit → List Char
  | millisecond => ['m', 's']
  | second => ['s']
  | minute => ['m']
  | hour => ['h']

def millis : TimeUnit → Nat
  | millisecond => 1
  | second => 1000
  | minute => 60000
  | hour => 3600000

end TimeUnit

namespace Duration

variable {s : String} {d : Duration} {cs number : List Char} {n : Nat} {u : TimeUnit}

/-- A text that stands for a number of a unit; a number alone counts seconds. -/
inductive Spells : List Char → Nat → TimeUnit → Prop where
  | counted {number : List Char} {n : Nat} (u : TimeUnit) (h : IsSignedNumeral number n) (hn : n < 2 ^ 64) :
      Spells (number ++ u.symbol) n u
  | bare {number : List Char} {n : Nat} (h : IsSignedNumeral number n) (hn : n < 2 ^ 64) : Spells number n .second

/-! ### Reading -/

theorem count?_eq_some_iff : count? cs = some n ↔ IsSignedNumeral cs n ∧ n < 2 ^ 64 := by
  have hsize : UInt64.size - 1 = 2 ^ 64 - 1 := rfl
  rw [count?, unsigned?_eq_some_iff, hsize]
  refine and_congr_right fun _ => ?_
  omega

theorem stripUnit?_eq_some_iff {unit r : List Char} : stripUnit? unit cs = some r ↔ cs = r ++ unit := by
  unfold stripUnit?
  rw [Option.ite_none_right_eq_some, List.isSuffixOf_iff_suffix, Option.some.injEq]
  constructor
  · rintro ⟨⟨front, rfl⟩, hr⟩
    rw [← hr]
    simp
  · rintro rfl
    exact ⟨List.suffix_append r unit, by simp⟩

/-- A text has not got a unit with another character in one place. -/
theorem stripUnit?_eq_none {unit front tail : List Char} {a c : Char} (h : a ≠ c) :
    stripUnit? (unit ++ a :: tail) (front ++ c :: tail) = none := by
  rw [← Option.not_isSome_iff_eq_none, Option.isSome_iff_exists]
  rintro ⟨r, hr⟩
  have heq := stripUnit?_eq_some_iff.1 hr
  rw [← List.append_assoc] at heq
  have hplace := List.append_inj_right' heq rfl
  exact h (List.cons.inj hplace).1.symm

theorem ne_of_isDigit {a c : Char} (ha : a.isDigit = false) (hc : c.isDigit = true) : a ≠ c := by
  rintro rfl
  rw [ha] at hc
  cases hc

/-- A number is read as what the first unit it has makes of it, and a number ends in no unit. -/
theorem read?_of_spells (h : Spells s.toList n u) : read? s = some ⟨n * u.millis⟩ := by
  generalize hcs : s.toList = cs at h
  unfold read?
  rw [hcs]
  dsimp only
  cases h with
  | @counted number _ _ h hn =>
    have hcount : count? number = some n := count?_eq_some_iff.2 ⟨h, hn⟩
    have hstrip : stripUnit? u.symbol (number ++ u.symbol) = some number := stripUnit?_eq_some_iff.2 rfl
    obtain ⟨front, c, rfl, hc⟩ := h.exists_last
    cases u with
    | millisecond =>
      simp only [TimeUnit.symbol] at hstrip ⊢
      simp only [hstrip, hcount, Option.map_some, TimeUnit.millis, Nat.mul_one]
    | second =>
      have hmillis : stripUnit? ['m', 's'] (front ++ [c] ++ ['s']) = none := by
        rw [List.append_assoc]
        exact @stripUnit?_eq_none [] front ['s'] 'm' c (ne_of_isDigit (by decide) hc)
      simp only [TimeUnit.symbol] at hstrip ⊢
      simp only [hmillis, hstrip, hcount, Option.map_some, TimeUnit.millis, ofSeconds]
    | minute =>
      have hmillis : stripUnit? ['m', 's'] (front ++ [c] ++ ['m']) = none :=
        @stripUnit?_eq_none ['m'] (front ++ [c]) [] 's' 'm' (by decide)
      have hsecond : stripUnit? ['s'] (front ++ [c] ++ ['m']) = none :=
        @stripUnit?_eq_none [] (front ++ [c]) [] 's' 'm' (by decide)
      simp only [TimeUnit.symbol] at hstrip ⊢
      simp only [hmillis, hsecond, hstrip, hcount, Option.map_some, TimeUnit.millis, ofSeconds, Nat.mul_assoc]
    | hour =>
      have hmillis : stripUnit? ['m', 's'] (front ++ [c] ++ ['h']) = none :=
        @stripUnit?_eq_none ['m'] (front ++ [c]) [] 's' 'h' (by decide)
      have hsecond : stripUnit? ['s'] (front ++ [c] ++ ['h']) = none :=
        @stripUnit?_eq_none [] (front ++ [c]) [] 's' 'h' (by decide)
      have hminute : stripUnit? ['m'] (front ++ [c] ++ ['h']) = none :=
        @stripUnit?_eq_none [] (front ++ [c]) [] 'm' 'h' (by decide)
      simp only [TimeUnit.symbol] at hstrip ⊢
      simp only [hmillis, hsecond, hminute, hstrip, hcount, Option.map_some, TimeUnit.millis, ofSeconds, Nat.mul_assoc]
  | bare h hn =>
    have hcount : count? cs = some n := count?_eq_some_iff.2 ⟨h, hn⟩
    obtain ⟨front, c, rfl, hc⟩ := h.exists_last
    have hnone (unit : List Char) {a : Char} (ha : a.isDigit = false) :
        stripUnit? (unit ++ [a]) (front ++ [c]) = none :=
      stripUnit?_eq_none (ne_of_isDigit ha hc)
    have hmillis : stripUnit? ['m', 's'] (front ++ [c]) = none := hnone ['m'] (by decide)
    have hsecond : stripUnit? ['s'] (front ++ [c]) = none := hnone [] (by decide)
    have hminute : stripUnit? ['m'] (front ++ [c]) = none := hnone [] (by decide)
    have hhour : stripUnit? ['h'] (front ++ [c]) = none := hnone [] (by decide)
    simp only [hmillis, hsecond, hminute, hhour, hcount, Option.map_some, TimeUnit.millis, ofSeconds]

theorem spells_of_strip {unit : List Char} (hunit : unit = u.symbol) (hstrip : stripUnit? unit cs = some number)
    (hcount : count? number = some n) : Spells cs n u := by
  subst hunit
  obtain ⟨hnumeral, hlt⟩ := count?_eq_some_iff.1 hcount
  rw [stripUnit?_eq_some_iff.1 hstrip]
  exact .counted u hnumeral hlt

/-- What is read is a number with the unit that was found behind it, or alone. -/
theorem spells_of_read? (h : read? s = some d) : ∃ n u, Spells s.toList n u ∧ d.millis = n * u.millis := by
  unfold read? at h
  dsimp only at h
  split at h
  case h_1 number hstrip =>
    obtain ⟨n, hcount, rfl⟩ := Option.map_eq_some_iff.1 h
    exact ⟨n, .millisecond, spells_of_strip rfl hstrip hcount, (Nat.mul_one n).symm⟩
  split at h
  case h_1 number hstrip =>
    obtain ⟨n, hcount, rfl⟩ := Option.map_eq_some_iff.1 h
    exact ⟨n, .second, spells_of_strip rfl hstrip hcount, rfl⟩
  split at h
  case h_1 number hstrip =>
    obtain ⟨n, hcount, rfl⟩ := Option.map_eq_some_iff.1 h
    exact ⟨n, .minute, spells_of_strip rfl hstrip hcount, Nat.mul_assoc n 60 1000⟩
  split at h
  case h_1 number hstrip =>
    obtain ⟨n, hcount, rfl⟩ := Option.map_eq_some_iff.1 h
    exact ⟨n, .hour, spells_of_strip rfl hstrip hcount, Nat.mul_assoc n 3600 1000⟩
  obtain ⟨n, hcount, rfl⟩ := Option.map_eq_some_iff.1 h
  obtain ⟨hnumeral, hlt⟩ := count?_eq_some_iff.1 hcount
  exact ⟨n, .second, .bare hnumeral hlt, rfl⟩

theorem read?_eq_some_iff : read? s = some d ↔ ∃ n u, Spells s.toList n u ∧ d.millis = n * u.millis := by
  constructor
  · exact spells_of_read?
  · rintro ⟨n, u, h, hd⟩
    rw [read?_of_spells h, ← hd]

/-! ### Writing and reading back -/

/-- What is left of a duration that is written: all of it below a second, the whole seconds from a second on. -/
def shown (d : Duration) : Duration := if d.seconds = 0 then d else ofSeconds d.seconds

theorem seconds_ofSeconds (n : Nat) : (ofSeconds n).seconds = n := Nat.mul_div_left n (by decide)

theorem shown_of_seconds_eq_zero (h : d.seconds = 0) : d.shown = d := if_pos h

theorem shown_of_seconds_ne_zero (h : d.seconds ≠ 0) : d.shown = ofSeconds d.seconds := if_neg h

theorem ofSeconds_seconds_iff : ofSeconds d.seconds = d ↔ 1000 ∣ d.millis := by
  constructor
  · intro heq
    exact Dvd.intro_left d.seconds (congrArg millis heq)
  · intro hdvd
    have hmillis : d.seconds * 1000 = d.millis := Nat.div_mul_cancel hdvd
    exact congrArg Duration.mk hmillis

theorem shown_eq_self_iff : d.shown = d ↔ d.seconds = 0 ∨ 1000 ∣ d.millis := by
  by_cases h : d.seconds = 0
  · exact iff_of_true (shown_of_seconds_eq_zero h) (.inl h)
  · rw [shown_of_seconds_ne_zero h, or_iff_right h, ofSeconds_seconds_iff]

theorem seconds_shown (d : Duration) : d.shown.seconds = d.seconds := by
  by_cases h : d.seconds = 0
  · rw [shown_of_seconds_eq_zero h]
  · rw [shown_of_seconds_ne_zero h, seconds_ofSeconds]

theorem shown_shown (d : Duration) : d.shown.shown = d.shown := by
  rw [shown_eq_self_iff, seconds_shown]
  by_cases h : d.seconds = 0
  · exact .inl h
  · rw [shown_of_seconds_ne_zero h]
    exact .inr (Nat.dvd_mul_left 1000 d.seconds)

/-- Less than a second is lost. -/
theorem millis_of_shown (d : Duration) : d.shown.millis ≤ d.millis ∧ d.millis < d.shown.millis + 1000 := by
  by_cases h : d.seconds = 0
  · rw [shown_of_seconds_eq_zero h]
    omega
  · have hmillis : d.shown.millis = d.millis / 1000 * 1000 := congrArg millis (shown_of_seconds_ne_zero h)
    omega

theorem toList_render (d : Duration) : d.render.toList =
    if d.millis % 1000 ≠ 0 ∧ d.seconds = 0 then digits d.millis ++ TimeUnit.millisecond.symbol
    else digits d.seconds ++ TimeUnit.second.symbol := by
  have hdigits (n : Nat) : (toString n).toList = digits n := Nat.toList_repr
  have hmillis : (toString "ms").toList = TimeUnit.millisecond.symbol := rfl
  have hsecond : (toString "s").toList = TimeUnit.second.symbol := rfl
  unfold render
  split
  · simp only [String.toList_append, hdigits, hmillis]
  · simp only [String.toList_append, hdigits, hsecond]

theorem spells_digits (u : TimeUnit) (h : n < 2 ^ 64) : Spells (digits n ++ u.symbol) n u :=
  .counted u (isSignedNumeral_digits n) h

theorem read?_render (hd : d.seconds < 2 ^ 64) : read? d.render = some d.shown := by
  have htext := toList_render d
  have hseconds : d.seconds = d.millis / 1000 := rfl
  rw [read?_eq_some_iff]
  by_cases h : d.millis % 1000 ≠ 0 ∧ d.seconds = 0
  · rw [if_pos h] at htext
    rw [htext, shown_of_seconds_eq_zero h.2]
    exact ⟨d.millis, .millisecond, spells_digits .millisecond (by omega), (Nat.mul_one d.millis).symm⟩
  · rw [if_neg h] at htext
    rw [htext]
    refine ⟨d.seconds, .second, spells_digits .second hd, ?_⟩
    by_cases hzero : d.seconds = 0
    · rw [shown_of_seconds_eq_zero hzero]
      simp only [TimeUnit.millis]
      omega
    · rw [shown_of_seconds_ne_zero hzero]
      rfl

end Duration

namespace Settings.Decoder

open Duration (Spells)

variable {given : Setting} {d : Duration}

theorem duration_eq_ok_iff : duration given = .ok d ↔ ∃ s, text given = .ok s ∧ Duration.read? s = some d := by
  unfold duration
  cases text given with
  | error blame => simp [bind, Except.bind]
  | ok s =>
    simp only [bind, Except.bind, Except.ok.injEq, exists_eq_left']
    cases Duration.read? s <;> simp [pure, Except.pure]

theorem duration_text_eq_ok_iff {o : Origin} {s : String} :
    duration (.scalar o (.text s)) = .ok d ↔ Duration.read? s = some d := by
  rw [duration_eq_ok_iff]
  constructor
  · rintro ⟨t, ht, hread⟩
    cases ht
    exact hread
  · intro hread
    exact ⟨s, rfl, hread⟩

theorem duration_eq_ok_iff_spells : duration given = .ok d ↔
    ∃ s n u, text given = .ok s ∧ Spells s.toList n u ∧ d.millis = n * u.millis := by
  simp only [duration_eq_ok_iff, Duration.read?_eq_some_iff, exists_and_left]

theorem spells_of_fraction (h : duration given = .ok d) (hfraction : ¬ 1000 ∣ d.millis) :
    ∃ s, text given = .ok s ∧ Spells s.toList d.millis .millisecond := by
  obtain ⟨s, n, u, hs, hspells, hd⟩ := duration_eq_ok_iff_spells.1 h
  refine ⟨s, hs, ?_⟩
  -- Every other unit is a whole number of seconds.
  cases u with
  | millisecond =>
    obtain rfl : d.millis = n := hd.trans (Nat.mul_one n)
    exact hspells
  | second => exact absurd (hd ▸ Nat.dvd_mul_left 1000 n) hfraction
  | minute => exact absurd (hd ▸ Dvd.dvd.mul_left (by decide) n) hfraction
  | hour => exact absurd (hd ▸ Dvd.dvd.mul_left (by decide) n) hfraction

theorem millis_of_spells {s : String} {n : Nat} (h : duration given = .ok d) (hs : text given = .ok s)
    (hspells : Spells s.toList n .millisecond) : d.millis = n := by
  have hgiven : duration given = .ok ⟨n * 1⟩ := duration_eq_ok_iff_spells.2 ⟨s, n, .millisecond, hs, hspells, rfl⟩
  obtain rfl := Except.ok.inj (h.symm.trans hgiven)
  exact Nat.mul_one n

/-- A setting is a duration exactly if it spells one.  A duration whose seconds fit 64 bits is read back as what is
shown of it, and that does not change any more.  It is the duration itself if that is below a second or has no fraction
of a second.  The others lose their fraction, and they are those given as a number of milliseconds above a thousand that
is no whole number of seconds. -/
theorem duration_of_render (h : duration given = .ok d) (hd : d.seconds < 2 ^ 64) (o : Origin) :
    (∀ e, duration given = .ok e ↔ ∃ s n u, text given = .ok s ∧ Spells s.toList n u ∧ e.millis = n * u.millis) ∧
      duration (.scalar o (.text d.render)) = .ok d.shown ∧
      duration (.scalar o (.text d.shown.render)) = .ok d.shown ∧
      (d.shown.millis ≤ d.millis ∧ d.millis < d.shown.millis + 1000) ∧
      (duration (.scalar o (.text d.render)) = .ok d ↔ d.seconds = 0 ∨ 1000 ∣ d.millis) ∧
      (duration (.scalar o (.text d.render)) ≠ .ok d ↔
        ∃ s n, text given = .ok s ∧ Spells s.toList n .millisecond ∧ 1000 < n ∧ ¬ 1000 ∣ n) := by
  have hback : duration (.scalar o (.text d.render)) = .ok d.shown :=
    duration_text_eq_ok_iff.2 (Duration.read?_render hd)
  have hagain : duration (.scalar o (.text d.shown.render)) = .ok d.shown := by
    have hread := @Duration.read?_render d.shown (by rw [Duration.seconds_shown]; exact hd)
    rw [Duration.shown_shown] at hread
    exact duration_text_eq_ok_iff.2 hread
  have hexact : duration (.scalar o (.text d.render)) = .ok d ↔ d.seconds = 0 ∨ 1000 ∣ d.millis := by
    rw [hback, Except.ok.injEq, Duration.shown_eq_self_iff]
  refine ⟨fun e => duration_eq_ok_iff_spells, hback, hagain, d.millis_of_shown, hexact, ?_⟩
  rw [ne_eq, hexact, not_or]
  have hseconds : d.seconds = d.millis / 1000 := rfl
  constructor
  · rintro ⟨hsecond, hfraction⟩
    obtain ⟨s, hs, hspells⟩ := spells_of_fraction h hfraction
    exact ⟨s, d.millis, hs, hspells, by omega, hfraction⟩
  · rintro ⟨s, n, hs, hspells, hlarge, hfraction⟩
    have hmillis := millis_of_spells h hs hspells
    rw [hmillis]
    exact ⟨by omega, hfraction⟩

theorem duration_of_render_fraction :
    duration (.scalar .file (.text "1500ms")) = .ok ⟨1500⟩ ∧ Duration.seconds ⟨1500⟩ < 2 ^ 64 ∧
      duration (.scalar .file (.text (Duration.render ⟨1500⟩))) = .ok ⟨1000⟩ ∧
      duration (.scalar .file (.text (Duration.render ⟨1500⟩))) ≠ .ok ⟨1500⟩ := by
  have hgiven : duration (.scalar .file (.text "1500ms")) = .ok ⟨1500⟩ := rfl
  have hsize : Duration.seconds ⟨1500⟩ < 2 ^ 64 := by decide
  obtain ⟨-, hback, -, -, hexact, -⟩ := duration_of_render hgiven hsize .file
  refine ⟨hgiven, hsize, hback, ?_⟩
  rw [ne_eq, hexact]
  decide

/-- A second and a half is written as one second. -/
theorem fraction_lost : ¬ ∀ (given : Setting) (d : Duration), duration given = .ok d → d.seconds < 2 ^ 64 →
    ∀ o, duration (.scalar o (.text d.render)) = .ok d := by
  intro h
  have hback : duration (.scalar .file (.text "1s")) = .ok ⟨1500⟩ :=
    h (.scalar .file (.text "1500ms")) ⟨1500⟩ rfl (by decide) .file
  have hsecond : duration (.scalar .file (.text "1s")) = .ok ⟨1000⟩ := rfl
  rw [hsecond] at hback
  cases hback

end Settings.Decoder

end AccessGateway
