import AccessGateway.Firewall
import AccessGateway.Proofs.Json.Scan
import AccessGateway.Proofs.Json.Spelling
import Mathlib

/-!
# The word of the policy service

A policy service lets a user through by a record with one member `allowed` that is true (`Firewall.IsGrant`).  A list
that holds true and nothing else does the same (`Firewall.IsBare`), since a record may be written as the list of its
values, and nothing else does (`Firewall.grants_iff`).  So a check comes out well exactly if an answer arrives that is
no error and says yes in either way (`Firewall.check_eq_true_iff`), and is a no in every other case.
-/

namespace AccessGateway.Firewall

open Json.Scan

variable {body : List UInt8}

/-- A text of a record whose names all spell texts, of which one is `allowed` and stands before true. -/
def IsGrant (body : List UInt8) : Prop :=
  ∃ before after name, IsText .record (before ++ ⟨name, Text.bytes "true"⟩ :: after) body ∧
    StandsFor name "allowed" ∧ ∀ m ∈ before ++ after, ∃ other, StandsFor m.name other ∧ other ≠ "allowed"

/-- A text of a list in which true stands alone. -/
def IsBare (body : List UInt8) : Prop :=
  ∃ ws₁ ws₂ ws₃ ws₄, IsBlanks ws₁ ∧ IsBlanks ws₂ ∧ IsBlanks ws₃ ∧ IsBlanks ws₄ ∧
    body = ws₁ ++ ascii '[' :: (ws₂ ++ (Text.bytes "true" ++ (ws₃ ++ ascii ']' :: ws₄)))

theorem isBare_iff : IsBare body ↔ ∃ items, IsText .list items body ∧ items.map Part.value = [Text.bytes "true"] := by
  constructor
  · rintro ⟨ws₁, ws₂, ws₃, ws₄, h₁, h₂, h₃, h₄, rfl⟩
    have hparts : IsParts .list [⟨[], Text.bytes "true"⟩] (ws₂ ++ (Text.bytes "true" ++ ws₃)) :=
      .last (.item h₂) (.literal (by decide)) h₃
    refine ⟨[⟨[], Text.bytes "true"⟩], ?_, rfl⟩
    have htext := IsText.full h₁ hparts h₄
    simp only [List.append_assoc] at htext
    exact htext
  · rintro ⟨items, htext, hvalues⟩
    cases htext with
    | empty => cases hvalues
    | full h₁ hparts h₄ =>
      cases hparts with
      | last hlead hvalue hws =>
        obtain rfl : _ = Text.bytes "true" := (List.cons.inj hvalues).1
        cases hlead with
        | item h₂ =>
          refine ⟨_, _, _, _, h₁, h₂, hws, h₄, ?_⟩
          simp only [List.append_assoc]
          rfl
      | cons _ _ _ hparts => exact absurd (List.map_eq_nil_iff.1 (List.cons.inj hvalues).2) hparts.ne_nil

theorem isGrant_iff : IsGrant body ↔ ∃ members, IsText .record members body ∧
    (∀ m ∈ members, (decoded? m.name).isSome = true) ∧
    (members.filter fun m => decoded? m.name = some "allowed").map Part.value = [Text.bytes "true"] := by
  simp only [IsGrant, ← decoded?_eq_some_iff]
  constructor
  · rintro ⟨before, after, name, htext, hname, hothers⟩
    have hother : ∀ m ∈ before ++ after, ¬ decide (decoded? m.name = some "allowed") = true := by
      intro m hm hallowed
      obtain ⟨other, hother, hne⟩ := hothers m hm
      rw [decide_eq_true_eq, hother] at hallowed
      exact hne (Option.some.inj hallowed)
    have hbefore := List.filter_eq_nil_iff.2 fun m hm => hother m (List.mem_append_left _ hm)
    have hafter := List.filter_eq_nil_iff.2 fun m hm => hother m (List.mem_append_right _ hm)
    refine ⟨_, htext, fun m hm => ?_, ?_⟩
    · obtain hm | rfl | hm := List.mem_append.1 hm |>.imp id List.mem_cons.1
      · obtain ⟨other, hother, -⟩ := hothers m (List.mem_append_left _ hm)
        exact Option.isSome_of_eq_some hother
      · exact Option.isSome_of_eq_some hname
      · obtain ⟨other, hother, -⟩ := hothers m (List.mem_append_right _ hm)
        exact Option.isSome_of_eq_some hother
    · rw [List.filter_append, hbefore, List.filter_cons, if_pos (decide_eq_true hname), hafter]
      rfl
  · rintro ⟨members, htext, hnames, hvalues⟩
    obtain ⟨m, hfilter, hvalue⟩ := List.map_eq_singleton_iff.1 hvalues
    obtain ⟨before, after, rfl, hbefore, hm, hafter⟩ := List.filter_eq_cons_iff.1 hfilter
    obtain ⟨name, value⟩ := m
    obtain rfl : value = Text.bytes "true" := hvalue
    refine ⟨before, after, name, htext, of_decide_eq_true hm, fun m hm => ?_⟩
    have hmem : m ∈ before ++ ⟨name, Text.bytes "true"⟩ :: after := by
      rw [List.mem_append, List.mem_cons]
      exact (List.mem_append.1 hm).imp id .inr
    obtain ⟨other, hother⟩ := Option.isSome_iff_exists.1 (hnames m hmem)
    refine ⟨other, hother, ?_⟩
    rintro rfl
    obtain hm | hm := List.mem_append.1 hm
    · exact hbefore m hm (decide_eq_true hother)
    · exact List.filter_eq_nil_iff.1 hafter m hm (decide_eq_true hother)

theorem grants_iff : grants body = true ↔ IsGrant body ∨ IsBare body := by
  rw [grants, Bool.or_eq_true, isGrant_iff, isBare_iff, Option.any_eq_true, Option.any_eq_true]
  simp only [parts?_eq_some_iff, Bool.and_eq_true, List.all_eq_true, decide_eq_true_eq]

/-- A record as it is written says what its member says. -/
example (b : Bool) : grants (Text.bytes (Json.object [("allowed", .bool b)]).render) = b := by
  cases b <;> decide +kernel

/-- What stands in the other members is not decoded. -/
example : grants (Text.bytes "\x7b\"allowed\":true,\"reason\":\"" ++ [0xFF] ++ Text.bytes "\"\x7d") = true := by
  decide +kernel

theorem decision_eq_true_iff {address : String} {e : Exchange} :
    decision address e = true ↔ ∃ answer body, e = .answered answer ∧ ¬ (400 ≤ answer.status ∧ answer.status < 600) ∧
      answer.body = some body ∧ (IsGrant body ∨ IsBare body) := by
  cases e with
  | failed f => simp [decision, Exchange.body]
  | answered answer =>
    simp only [Exchange.answered.injEq, exists_and_left, exists_eq_left']
    by_cases hstatus : 400 ≤ answer.status ∧ answer.status < 600
    · simp [decision, Exchange.body, hstatus]
    · cases hbody : answer.body with
      | none => simp [decision, Exchange.body, hstatus, hbody]
      | some body => simp [decision, Exchange.body, hstatus, hbody, grants_iff]

/-- A check comes out well exactly if the service can be asked and gives a final answer that is no error, whose body
arrives whole and grants access in a record or by true alone in a list. -/
theorem check_eq_true_iff {σ : Type} (address : String) (token : Option String) (service : PolicyQuery → σ → Exchange × σ)
    (userId target : String) (s : σ) :
    ((Firewall.service address token).check service userId target s).1 = true ↔
      ∃ q, query? address token userId target = some q ∧ ∃ answer body, (service q s).1 = .answered answer ∧
        ¬ (400 ≤ answer.status ∧ answer.status < 600) ∧ answer.body = some body ∧ (IsGrant body ∨ IsBare body) := by
  cases hquery : query? address token userId target with
  | none => simp [check, hquery]
  | some q => simp only [check, hquery, Option.some.injEq, exists_eq_left', decision_eq_true_iff]

/-- A service that answers with a list is taken to let the user through. -/
theorem check_of_list :
    ((Firewall.service "http://policy.internal/check-access" none).check
        (fun _ s => (.answered ⟨200, "OK", some (Text.bytes "[true]")⟩, s)) "alice" "api.internal" ()).1 = true ∧
      ∀ members, ¬ IsText .record members (Text.bytes "[true]") := by
  refine ⟨by decide +kernel, fun members h => ?_⟩
  have hparts : parts? .record (Text.bytes "[true]") = none := by decide +kernel
  rw [parts?_eq_some_iff.2 h] at hparts
  cases hparts

end AccessGateway.Firewall
