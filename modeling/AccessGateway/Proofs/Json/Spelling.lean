import AccessGateway.Json.Scan
import AccessGateway.Proofs.Json.Quoting
import Mathlib

/-!
# What strings stand for

What stands between quotation marks comes in pieces, each of which is a character or an escape (`IsPiece`).  A piece
stands for a character, unless it is half of a surrogate pair, and then the two halves do together (`Spells`).  The
reader takes the pieces one after another (`units?_eq_some_iff`) and joins the halves (`spells_iff`), so that it
decodes what spells a text, as that text, and nothing else (`Scan.decoded?_eq_some_iff`).
-/

namespace AccessGateway.Json

variable {c : Char} {cs s piece rest : List Char} {u : Nat} {us : List Nat}

/-! ### Pieces -/

/-- A piece with the unit it stands for: a character as it is, or an escape. -/
inductive IsPiece : List Char → Nat → Prop where
  | plain {c : Char} (h : ¬ (c.toNat < 32 ∨ c = '"' ∨ c = '\\')) : IsPiece [c] c.toNat
  | escape {piece : List Char} {u : Nat} (h : unescaped? piece = some u) : IsPiece piece u

/-- The units of pieces that stand one after another. -/
inductive HasUnits : List Char → List Nat → Prop where
  | nil : HasUnits [] []
  | cons {piece cs : List Char} {u : Nat} {us : List Nat} (hpiece : IsPiece piece u) (h : HasUnits cs us) :
      HasUnits (piece ++ cs) (u :: us)

theorem units?_append (h : IsPiece piece u) (rest : List Char) :
    units? (piece ++ rest) = (units? rest).map fun (us, r) => (u :: us, r) := by
  cases h with
  | plain h => exact units?_cons h rest
  | escape h => exact units?_of_unescaped? h rest

/-- The characters begin with what has these units and a quotation mark after it. -/
private def Quotes (cs : List Char) (us : List Nat) (rest : List Char) : Prop :=
  ∃ content, HasUnits content us ∧ cs = content ++ '"' :: rest

private theorem quotes_append (piece : List Char) (hpiece : IsPiece piece u)
    (ih : ∀ us rest, units? cs = some (us, rest) → Quotes cs us rest) (h : units? (piece ++ cs) = some (us, rest)) :
    Quotes (piece ++ cs) us rest := by
  rw [units?_append hpiece] at h
  obtain ⟨⟨us', rest'⟩, hunits, heq⟩ := Option.map_eq_some_iff.1 h
  obtain ⟨rfl, rfl⟩ := Prod.mk.inj heq
  obtain ⟨content, hcontent, rfl⟩ := ih us' rest' hunits
  exact ⟨piece ++ content, .cons hpiece hcontent, by rw [List.append_assoc]⟩

private theorem quotes_letter (ih : ∀ us rest, units? cs = some (us, rest) → Quotes cs us rest)
    (h : units? ('\\' :: c :: cs) = some (us, rest)) (hletter : letterEscape? c = some u) :
    Quotes ('\\' :: c :: cs) us rest :=
  quotes_append ['\\', c] (.escape hletter) ih h

private theorem quotes_of_units? (h : units? cs = some (us, rest)) : Quotes cs us rest := by
  induction cs using units?.induct generalizing us rest with
  | case1 r =>
    obtain ⟨rfl, rfl⟩ := Prod.mk.inj (Option.some.inj h)
    exact ⟨[], .nil, rfl⟩
  | case2 a b c d r ih =>
    cases hu : hexUnit? a b c d with
    | none =>
      rw [units?, hu] at h
      cases h
    | some u => exact quotes_append ['\\', 'u', a, b, c, d] (.escape hu) (fun _ _ => ih) h
  | case3 r _ ih | case4 r _ ih | case5 r _ ih | case6 r _ ih | case7 r _ ih | case8 r _ ih | case9 r _ ih
  | case10 r _ ih => exact quotes_letter (fun _ _ => ih) h rfl
  | case11 c r =>
    rw [units?] at h
    · cases h
    all_goals assumption
  | case12 c r _ _ _ hcontrol =>
    rw [units?, if_pos hcontrol] at h
    · cases h
    all_goals assumption
  | case13 c r hquote _ _ hplain ih =>
    refine quotes_append [c] (.plain ?_) (fun _ _ => ih) h
    rintro (hc | hc | hc)
    · exact hplain (.inl hc)
    · exact hquote hc
    · exact hplain (.inr hc)
  | case14 => cases h

theorem units?_eq_some_iff :
    units? cs = some (us, rest) ↔ ∃ content, HasUnits content us ∧ cs = content ++ '"' :: rest := by
  constructor
  · exact quotes_of_units?
  · rintro ⟨content, hcontent, rfl⟩
    induction hcontent with
    | nil => rfl
    | cons hpiece _ ih => rw [List.append_assoc, units?_append hpiece, ih, Option.map_some]

/-! ### Characters -/

/-- What stands between quotation marks, and the characters it stands for. -/
inductive Spells : List Char → List Char → Prop where
  | nil : Spells [] []
  | single {piece cs s : List Char} {c : Char} (hpiece : IsPiece piece c.toNat) (h : Spells cs s) :
      Spells (piece ++ cs) (c :: s)
  | pair {first second cs s : List Char} {u v : Nat} (hfirst : IsPiece first u) (hsecond : IsPiece second v)
      (hu : 0xD800 ≤ u ∧ u < 0xDC00) (hv : 0xDC00 ≤ v ∧ v < 0xE000) (h : Spells cs s) :
      Spells (first ++ (second ++ cs)) (Char.ofNat (0x10000 + (u - 0xD800) * 1024 + (v - 0xDC00)) :: s)

private theorem hexValue?_lt {n : Nat} (h : hexValue? c = some n) : n < 16 := by
  unfold hexValue? at h
  dsimp only at h
  split at h
  · cases h
    omega
  split at h
  · cases h
    omega
  split at h
  · cases h
    omega
  · cases h

private theorem unescaped?_lt (h : unescaped? piece = some u) : u < 65536 := by
  unfold unescaped? at h
  split at h
  · unfold letterEscape? at h
    split at h <;> cases h <;> omega
  · simp only [hexUnit?, Option.bind_eq_bind, Option.bind_eq_some_iff, Option.pure_def, Option.some.injEq] at h
    obtain ⟨p, hp, q, hq, r, hr, t, ht, rfl⟩ := h
    have hp' := hexValue?_lt hp
    have hq' := hexValue?_lt hq
    have hr' := hexValue?_lt hr
    have ht' := hexValue?_lt ht
    omega
  · cases h

/-- What is not half of a pair is a character. -/
private theorem IsPiece.toNat_ofNat (h : IsPiece piece u) (hhigh : ¬ (0xD800 ≤ u ∧ u < 0xDC00))
    (hlow : ¬ (0xDC00 ≤ u ∧ u < 0xE000)) : (Char.ofNat u).toNat = u := by
  cases h with
  | plain => rw [Char.ofNat_toNat]
  | escape h =>
    have hlt := unescaped?_lt h
    refine Text.toNat_ofNat ?_
    unfold Nat.isValidChar
    omega

private theorem spells_of_characters? (hunits : HasUnits cs us) (h : characters? us = some s) : Spells cs s := by
  induction us using characters?.induct generalizing cs s with
  | case1 =>
    cases hunits
    cases h
    exact .nil
  | case2 u hu v us hv ih =>
    rw [characters?.eq_def] at h
    simp only [if_pos hu, if_pos hv] at h
    obtain ⟨s, hs, rfl⟩ := Option.map_eq_some_iff.1 h
    obtain _ | ⟨hfirst, _ | ⟨hsecond, hunits⟩⟩ := hunits
    exact .pair hfirst hsecond hu hv (ih hunits hs)
  | case3 u hu v us hv =>
    rw [characters?.eq_def] at h
    simp only [if_pos hu, if_neg hv] at h
    cases h
  | case4 u hu =>
    rw [characters?.eq_def] at h
    simp only [if_pos hu] at h
    cases h
  | case5 u us hhigh hlow =>
    rw [characters?.eq_def] at h
    simp only [if_neg hhigh, if_pos hlow] at h
    cases h
  | case6 u us hhigh hlow ih =>
    rw [characters?.eq_def] at h
    simp only [if_neg hhigh, if_neg hlow] at h
    obtain ⟨s, hs, rfl⟩ := Option.map_eq_some_iff.1 h
    obtain _ | ⟨hpiece, hunits⟩ := hunits
    refine .single ?_ (ih hunits hs)
    rwa [hpiece.toNat_ofNat hhigh hlow]

theorem spells_iff : Spells cs s ↔ ∃ us, HasUnits cs us ∧ characters? us = some s := by
  constructor
  · intro h
    induction h with
    | nil => exact ⟨[], .nil, rfl⟩
    | @single piece cs s c hpiece h ih =>
      obtain ⟨us, hunits, hs⟩ := ih
      exact ⟨c.toNat :: us, .cons hpiece hunits, by rw [characters?_cons, hs, Option.map_some]⟩
    | pair hfirst hsecond hu hv h ih =>
      obtain ⟨us, hunits, hs⟩ := ih
      refine ⟨_, .cons hfirst (.cons hsecond hunits), ?_⟩
      rw [characters?.eq_def]
      simp only [if_pos hu, if_pos hv, hs, Option.map_some]
  · rintro ⟨us, hunits, h⟩
    exact spells_of_characters? hunits h

/-! ### Decoded texts -/

namespace Scan

/-- The content of a string spells a text. -/
def StandsFor (content : List UInt8) (t : String) : Prop :=
  ∃ text : String, content = Text.bytes text ∧ Spells text.toList t.toList

theorem decoded?_eq_some_iff {content : List UInt8} {t : String} :
    decoded? content = some t ↔ StandsFor content t := by
  simp only [decoded?, StandsFor, Option.bind_eq_bind, Option.bind_eq_some_iff, Text.text?_eq_some_iff]
  refine exists_congr fun text => and_congr_right fun _ => ?_
  rw [spells_iff]
  constructor
  · rintro ⟨⟨us, rest⟩, hunits, h⟩
    obtain ⟨hrest, h⟩ := Option.ite_none_right_eq_some.1 h
    obtain ⟨cs, hcs, rfl⟩ := Option.map_eq_some_iff.1 h
    obtain rfl : rest = [] := List.isEmpty_iff.1 hrest
    obtain ⟨content, hcontent, heq⟩ := units?_eq_some_iff.1 hunits
    obtain rfl := List.append_cancel_right heq
    exact ⟨us, hcontent, by rw [hcs, String.toList_ofList]⟩
  · rintro ⟨us, hunits, h⟩
    refine ⟨(us, []), units?_eq_some_iff.2 ⟨_, hunits, rfl⟩, ?_⟩
    rw [if_pos List.isEmpty_nil, h, Option.map_some, String.ofList_toList]

end Scan

end AccessGateway.Json
