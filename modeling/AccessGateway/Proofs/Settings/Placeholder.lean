import AccessGateway.Settings.Placeholder
import Mathlib

/-!
# One pass over a text with placeholders

A pass reads a text from the left: where a placeholder starts it is taken whole, and any other character is copied
(`Pass`).  Every text has exactly one pass (`Pass.unique`), which looks at nothing but the text, and expansion writes
the pieces of that pass one after the other (`exists_pass`).  So what is put in for a placeholder is never read again,
and a text without a placeholder stays as it is (`expand_of_forall`).
-/

namespace AccessGateway.Settings

variable {cs text text' rest rest' : List Char} {p p' : Placeholder} {value : String → Option String}

/-- The name of a variable that a placeholder may stand for. -/
structure IsVariableName (name : List Char) : Prop where
  starts : name.head?.any startsVariable = true
  inside : ∀ c ∈ name, inVariable c = true

/-- The texts of a placeholder: without a default, which is the empty one, or with a default in which there is no
closing brace. -/
inductive Placeholder.Written : Placeholder → List Char → Prop where
  | bare {name : List Char} (hname : IsVariableName name) :
      Written ⟨name, []⟩ ('$' :: '\x7b' :: (name ++ ['\x7d']))
  | defaulted {name default : List Char} (hname : IsVariableName name) (hdefault : '\x7d' ∉ default) :
      Written ⟨name, default⟩ ('$' :: '\x7b' :: (name ++ ':' :: '-' :: (default ++ ['\x7d'])))

/-- No placeholder starts a text. -/
def StartsNone (cs : List Char) : Prop := ∀ p text, Placeholder.Written p text → ¬ text <+: cs

/-- What is written for a placeholder: the value of its variable, or else its default. -/
def Placeholder.replacement (value : String → Option String) (p : Placeholder) : List Char :=
  ((value (String.ofList p.name)).map String.toList).getD p.default

/-- What a pass makes of one place in a text. -/
inductive Piece where
  | copied (c : Char)
  | placeholder (text : List Char) (p : Placeholder)
deriving DecidableEq, Repr

namespace Piece

/-- The part of the text that a piece was read from. -/
def source : Piece → List Char
  | copied c => [c]
  | placeholder text _ => text

/-- What is written for a piece. -/
def written (value : String → Option String) : Piece → List Char
  | copied c => [c]
  | placeholder _ p => p.replacement value

end Piece

/-- A pass over a text from the left. -/
inductive Pass : List Char → List Piece → Prop where
  | nil : Pass [] []
  | taken {p : Placeholder} {text rest : List Char} {ps : List Piece} (h : p.Written text) (next : Pass rest ps) :
      Pass (text ++ rest) (.placeholder text p :: ps)
  | copied {c : Char} {rest : List Char} {ps : List Piece} (h : StartsNone (c :: rest))
      (next : Pass rest ps) : Pass (c :: rest) (.copied c :: ps)

/-! ### Reading a placeholder -/

theorem inVariable_closing : inVariable '\x7d' = false := by decide

theorem inVariable_colon : inVariable ':' = false := by decide

/-- A name ends where a character follows that no name has. -/
private theorem takeWhile_name {name : List Char} {c : Char} (h : IsVariableName name) (hc : inVariable c = false)
    (rest : List Char) :
    (name ++ c :: rest).takeWhile inVariable = name ∧ (name ++ c :: rest).dropWhile inVariable = c :: rest := by
  rw [List.takeWhile_append_of_pos h.inside, List.dropWhile_append_of_pos h.inside]
  simp [hc]

/-- A default ends at the closing brace. -/
private theorem takeWhile_default {default : List Char} (h : '\x7d' ∉ default) (rest : List Char) :
    (default ++ '\x7d' :: rest).takeWhile (· ≠ '\x7d') = default ∧
      (default ++ '\x7d' :: rest).dropWhile (· ≠ '\x7d') = '\x7d' :: rest := by
  have hne : ∀ c ∈ default, decide (c ≠ '\x7d') = true := fun c hc => decide_eq_true fun heq => h (heq ▸ hc)
  rw [List.takeWhile_append_of_pos hne, List.dropWhile_append_of_pos hne]
  simp

/-- Behind a dollar sign and an opening brace, the reader takes exactly the texts of placeholders. -/
theorem readPlaceholder?_eq_some_iff :
    readPlaceholder? cs = some (p, rest) ↔ ∃ text, p.Written text ∧ '$' :: '\x7b' :: cs = text ++ rest := by
  constructor
  · intro h
    unfold readPlaceholder? at h
    dsimp only at h
    split at h
    case isFalse => cases h
    case isTrue hstart =>
      have hname : IsVariableName (cs.takeWhile inVariable) := ⟨hstart, fun c hc => List.mem_takeWhile_imp hc⟩
      have hcs := List.takeWhile_append_dropWhile (p := inVariable) (l := cs)
      split at h
      case h_1 r hdrop =>
        simp only [Option.some.injEq, Prod.mk.injEq] at h
        obtain ⟨rfl, rfl⟩ := h
        refine ⟨_, .bare hname, ?_⟩
        rw [hdrop] at hcs
        simp [hcs]
      case h_2 r hdrop =>
        split at h
        case h_1 tail hclose =>
          simp only [Option.some.injEq, Prod.mk.injEq] at h
          obtain ⟨rfl, rfl⟩ := h
          have hdefault : '\x7d' ∉ r.takeWhile (· ≠ '\x7d') := fun hmem => by
            simpa using List.mem_takeWhile_imp hmem
          have hr := List.takeWhile_append_dropWhile (p := (· ≠ '\x7d')) (l := r)
          refine ⟨_, .defaulted hname hdefault, ?_⟩
          rw [hclose] at hr
          rw [hdrop] at hcs
          simp only [List.cons_append, List.append_assoc, List.nil_append, hr, hcs]
        case h_2 => cases h
      case h_3 => cases h
  · rintro ⟨text, hwritten, hcs⟩
    cases hwritten with
    | @bare name hname =>
      obtain rfl : cs = name ++ '\x7d' :: rest := by simpa using hcs
      obtain ⟨htake, hdrop⟩ := takeWhile_name hname inVariable_closing rest
      simp [readPlaceholder?, htake, hdrop, hname.starts]
    | @defaulted name default hname hdefault =>
      obtain rfl : cs = name ++ ':' :: '-' :: (default ++ '\x7d' :: rest) := by simpa using hcs
      obtain ⟨htake, hdrop⟩ := takeWhile_name hname inVariable_colon ('-' :: (default ++ '\x7d' :: rest))
      obtain ⟨hvalue, hclose⟩ := takeWhile_default hdefault rest
      simp only [readPlaceholder?, htake, hdrop, hname.starts, hvalue, hclose, ↓reduceIte]

theorem Placeholder.Written.exists_cons (h : p.Written text) : ∃ cs, text = '$' :: '\x7b' :: cs := by
  cases h with
  | bare => exact ⟨_, rfl⟩
  | defaulted => exact ⟨_, rfl⟩

/-- At most one placeholder starts a text. -/
theorem Placeholder.Written.unique (h : p.Written text) (h' : p'.Written text') (heq : text ++ rest = text' ++ rest') :
    p = p' ∧ text = text' ∧ rest = rest' := by
  obtain ⟨cs, rfl⟩ := h.exists_cons
  have hread : readPlaceholder? (cs ++ rest) = some (p, rest) := readPlaceholder?_eq_some_iff.2 ⟨_, h, rfl⟩
  have hread' : readPlaceholder? (cs ++ rest) = some (p', rest') := readPlaceholder?_eq_some_iff.2 ⟨_, h', heq⟩
  rw [hread] at hread'
  simp only [Option.some.injEq, Prod.mk.injEq] at hread'
  obtain ⟨rfl, rfl⟩ := hread'
  exact ⟨rfl, List.append_cancel_right heq, rfl⟩

/-! ### The pass over a text -/

theorem Pass.source {ps : List Piece} (h : Pass cs ps) : ps.flatMap Piece.source = cs := by
  induction h with
  | nil => rfl
  | taken _ _ ih => rw [List.flatMap_cons, ih, Piece.source]
  | copied _ _ ih => rw [List.flatMap_cons, ih, Piece.source, List.singleton_append]

theorem Pass.unique {ps qs : List Piece} (h : Pass cs ps) (h' : Pass cs qs) : ps = qs := by
  induction h generalizing qs with
  | nil =>
    generalize hcs : ([] : List Char) = cs at h'
    cases h' with
    | nil => rfl
    | taken h =>
      obtain ⟨_, rfl⟩ := h.exists_cons
      cases hcs
    | copied => cases hcs
  | @taken p text rest ps h next ih =>
    generalize hcs : text ++ rest = cs at h'
    cases h' with
    | nil =>
      obtain ⟨_, rfl⟩ := h.exists_cons
      cases hcs
    | taken hq next' =>
      obtain ⟨rfl, rfl, rfl⟩ := h.unique hq hcs
      rw [ih next']
    | copied hnone => exact absurd ⟨rest, hcs⟩ (hnone p text h)
  | @copied c rest ps hnone next ih =>
    generalize hcs : c :: rest = cs at h'
    cases h' with
    | nil => cases hcs
    | taken hq next' => exact absurd ⟨_, hcs.symm⟩ (hnone _ _ hq)
    | copied _ next' =>
      obtain ⟨rfl, rfl⟩ := List.cons.inj hcs
      rw [ih next']

/-! ### Expansion -/

theorem expand_written (h : p.Written text) :
    expand value (text ++ rest) = p.replacement value ++ expand value rest := by
  obtain ⟨cs, rfl⟩ := h.exists_cons
  have hread : readPlaceholder? (cs ++ rest) = some (p, rest) := readPlaceholder?_eq_some_iff.2 ⟨_, h, rfl⟩
  rw [List.cons_append, List.cons_append, expand.eq_2]
  split
  · rename_i p' rest' heq
    rw [hread] at heq
    simp only [Option.some.injEq, Prod.mk.injEq] at heq
    obtain ⟨rfl, rfl⟩ := heq
    rfl
  · rename_i heq
    rw [hread] at heq
    cases heq

theorem expand_copied {c : Char} (h : StartsNone (c :: cs)) : expand value (c :: cs) = c :: expand value cs := by
  by_cases hopen : ∃ r, c = '$' ∧ cs = '\x7b' :: r
  · obtain ⟨r, rfl, rfl⟩ := hopen
    have hread : readPlaceholder? r = none := by
      rw [Option.eq_none_iff_forall_ne_some]
      rintro ⟨p, rest⟩ hsome
      obtain ⟨text, hwritten, heq⟩ := readPlaceholder?_eq_some_iff.1 hsome
      exact h p text hwritten ⟨rest, heq.symm⟩
    rw [expand.eq_2]
    split
    · rename_i heq
      rw [hread] at heq
      cases heq
    · rfl
  · exact expand.eq_3 value c cs fun r hc hcs => hopen ⟨r, hc, hcs⟩

/-- Every text has a pass, and whatever the variables are, expansion writes its pieces. -/
theorem exists_pass (cs : List Char) :
    ∃ ps, Pass cs ps ∧ ∀ value, expand value cs = ps.flatMap (Piece.written value) := by
  induction hn : cs.length using Nat.strong_induction_on generalizing cs with
  | _ n ih =>
    by_cases hplace : ∃ p text, Placeholder.Written p text ∧ text <+: cs
    · obtain ⟨p, text, hwritten, rest, rfl⟩ := hplace
      have hlength : rest.length < n := by
        obtain ⟨_, rfl⟩ := hwritten.exists_cons
        simp only [List.length_append, List.length_cons] at hn
        omega
      obtain ⟨ps, hpass, hexpand⟩ := ih rest.length hlength rest rfl
      refine ⟨.placeholder text p :: ps, .taken hwritten hpass, fun value => ?_⟩
      rw [expand_written hwritten, hexpand, List.flatMap_cons, Piece.written]
    · push Not at hplace
      cases cs with
      | nil => exact ⟨[], .nil, fun value => expand.eq_1 value⟩
      | cons c cs =>
        obtain ⟨ps, hpass, hexpand⟩ := ih cs.length (by simp only [List.length_cons] at hn; omega) cs rfl
        refine ⟨.copied c :: ps, .copied hplace hpass, fun value => ?_⟩
        rw [expand_copied hplace, hexpand, List.flatMap_cons, Piece.written, List.singleton_append]

theorem Pass.expand_eq {ps : List Piece} (h : Pass cs ps) (value : String → Option String) :
    expand value cs = ps.flatMap (Piece.written value) := by
  obtain ⟨qs, hpass, hexpand⟩ := exists_pass cs
  rw [h.unique hpass, hexpand]

/-- A text is what the pieces of the pass over another one are written as. -/
def Expands (value : String → Option String) (given text : String) : Prop :=
  ∃ ps, Pass given.toList ps ∧ text.toList = ps.flatMap (Piece.written value)

theorem expands_iff {given text : String} : Expands value given text ↔ text = expandText value given := by
  constructor
  · rintro ⟨ps, hpass, htext⟩
    rw [expandText, hpass.expand_eq, ← htext, String.ofList_toList]
  · rintro rfl
    obtain ⟨ps, hpass, hexpand⟩ := exists_pass given.toList
    exact ⟨ps, hpass, by rw [expandText, String.toList_ofList, hexpand]⟩

/-- A text with no placeholder in it is copied. -/
theorem expand_of_forall (h : ∀ p text, Placeholder.Written p text → ¬ text <:+: cs) : expand value cs = cs := by
  induction cs with
  | nil => exact expand.eq_1 value
  | cons c cs ih =>
    have hnone : StartsNone (c :: cs) := fun p text hwritten hprefix => h p text hwritten hprefix.isInfix
    rw [expand_copied hnone, ih fun p text hwritten hinfix => h p text hwritten (List.infix_cons hinfix)]

end AccessGateway.Settings
