/-!
# Dialogues

Work that asks its surroundings: it ends with a result, or makes a call and goes on with the answer. A dialogue can
be run with surroundings that keep a state, and it takes part in exactly the exchanges its calls and any answers to
them allow; so a law about every run speaks of every behaviour of the surroundings.
-/

namespace AccessGateway

/-- Work that makes calls and ends with a result. -/
inductive Dialogue (Call : Type) (Answer : Call → Type) (α : Type) where
  | done (a : α)
  | ask (c : Call) (next : Answer c → Dialogue Call Answer α)

structure Exchanged (Call : Type) (Answer : Call → Type) where
  call : Call
  answer : Answer call

namespace Dialogue

variable {Call : Type} {Answer : Call → Type} {α β σ : Type}

/-- One work after another. -/
def bind : Dialogue Call Answer α → (α → Dialogue Call Answer β) → Dialogue Call Answer β
  | .done a, f => f a
  | .ask c next, f => .ask c fun answer => (next answer).bind f

instance : Monad (Dialogue Call Answer) where
  pure := .done
  bind := bind

/-- A single call. -/
def call (c : Call) : Dialogue Call Answer (Answer c) := .ask c .done

/-- Calls whose answers are of no interest, one after the other. -/
def callAll (c : β → Call) : List β → Dialogue Call Answer Unit
  | [] => .done ()
  | b :: bs => .ask (c b) fun _ => callAll c bs

/-- Runs a dialogue in surroundings that answer calls and keep a state. -/
def run (answer : (c : Call) → σ → Answer c × σ) : Dialogue Call Answer α → σ → α × σ
  | .done a, s => (a, s)
  | .ask c next, s =>
    let (a, s) := answer c s
    run answer (next a) s

/-- The dialogue may take part in these exchanges, in this order, and end with this result. -/
inductive Runs : Dialogue Call Answer α → List (Exchanged Call Answer) → α → Prop where
  | done (a : α) : Runs (.done a) [] a
  | ask {c : Call} {next : Answer c → Dialogue Call Answer α} (answer : Answer c) {es : List (Exchanged Call Answer)}
      {a : α} (h : Runs (next answer) es a) : Runs (.ask c next) (⟨c, answer⟩ :: es) a

@[simp] theorem pure_eq (a : α) : (pure a : Dialogue Call Answer α) = .done a := rfl

@[simp] theorem bind_eq (d : Dialogue Call Answer α) (f : α → Dialogue Call Answer β) : d >>= f = d.bind f := rfl

@[simp] theorem bind_done (d : Dialogue Call Answer α) : d.bind .done = d := by
  induction d with
  | done a => rfl
  | ask c next ih => simp [bind, ih]

/-- A run of one work after another is a run of the first and then a run of the second. -/
theorem runs_bind_iff {d : Dialogue Call Answer α} {f : α → Dialogue Call Answer β}
    {es : List (Exchanged Call Answer)} {b : β} :
    Runs (d.bind f) es b ↔ ∃ es₁ es₂ a, es = es₁ ++ es₂ ∧ Runs d es₁ a ∧ Runs (f a) es₂ b := by
  induction d generalizing es with
  | done a =>
    constructor
    · exact fun h => ⟨[], es, a, rfl, .done a, h⟩
    · rintro ⟨es₁, es₂, a', rfl, ⟨_⟩, h⟩
      exact h
  | ask c next ih =>
    constructor
    · rintro (_ | ⟨answer, h⟩)
      obtain ⟨es₁, es₂, a, rfl, h₁, h₂⟩ := (ih answer).1 h
      exact ⟨_, es₂, a, rfl, .ask answer h₁, h₂⟩
    · rintro ⟨_, es₂, a, rfl, (_ | ⟨answer, h₁⟩), h₂⟩
      exact .ask answer ((ih answer).2 ⟨_, es₂, a, rfl, h₁, h₂⟩)

end Dialogue

end AccessGateway
