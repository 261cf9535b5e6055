import AccessGateway.Proofs.Lookup
import AccessGateway.Settings.EnvFile
import Mathlib

/-!
# What environment files give

A file gives its variables values in the order of its entries, up to the first bad one (`EnvFile.assignments`), and
loading it adds them one after the other (`EnvFile.load_eq`).  What is set stays as it is, so of several values that are
added for one variable the first counts (`Variables.get?_defineAll`).  A value may depend on variables that are set, but
the variables that a file defines depend on the file alone (`EnvFile.names_assignments`).
-/

namespace AccessGateway.Settings

/-! ### Variables added one after the other -/

namespace Variables

/-- The variables with some more added in their order. -/
def defineAll (vs : Variables) (given : List (String × String)) : Variables :=
  given.foldl (fun vs e => vs.define e.1 e.2) vs

theorem defineAll_cons (vs : Variables) (e : String × String) (given : List (String × String)) :
    vs.defineAll (e :: given) = (vs.define e.1 e.2).defineAll given := rfl

theorem get?_define (vs : Variables) (n v name : String) :
    (vs.define n v).get? name = (vs.get? name).or (if name = n then some v else none) := by
  unfold define get?
  split
  case isTrue hset =>
    by_cases hname : name = n
    · subst hname
      obtain ⟨w, hw⟩ := Option.isSome_iff_exists.1 hset
      rw [hw, Option.some_or]
    · rw [if_neg hname, Option.or_none]
  case isFalse =>
    rw [List.lookup_append]
    by_cases hname : name = n
    · simp [hname]
    · simp [hname, List.lookup_cons, beq_false_of_ne hname]

/-- What is set keeps its value, and anything else gets the first value that is added for it. -/
theorem get?_defineAll (vs : Variables) (given : List (String × String)) (name : String) :
    (vs.defineAll given).get? name = (vs.get? name).or (given.lookup name) := by
  induction given generalizing vs with
  | nil => rw [List.lookup_nil, Option.or_none, defineAll, List.foldl_nil]
  | cons e given ih =>
    obtain ⟨n, v⟩ := e
    rw [defineAll_cons, ih, get?_define, Option.or_assoc]
    by_cases hname : name = n
    · subst hname
      rw [if_pos rfl, Option.some_or, List.lookup_cons_self]
    · rw [if_neg hname, Option.none_or, List.lookup_cons, beq_false_of_ne hname]

end Variables

namespace EnvFile

/-! ### The entries of a file -/

/-- The value an entry gives its variable: a substituted name stands for the variable that is set, or else for what the
file has given it. -/
def entryValue? (vs : Variables) (given : List (String × String)) (text : List Char) : Option String :=
  let value (n : String) : String := ((vs.get? n).or (given.lookup n)).getD ""
  let read :=
    if text.isEmpty || text.head? = some '#' then some []
    else readValue? value ⟨[], false, false, false, false, .outside⟩ text
  read.map String.ofList

/-- What lines give, up to the first bad one. -/
def assignmentsOf (vs : Variables) (given : List (String × String)) : List (List Char) → List (String × String)
  | [] => []
  | line :: lines =>
    match readEntry? line with
    | none => []
    | some none => assignmentsOf vs given lines
    | some (some (name, text)) =>
      match entryValue? vs given text with
      | none => []
      | some v => (name, v) :: assignmentsOf (vs.define name v) ((name, v) :: given) lines

/-- The lines of a file, without a byte order mark. -/
def linesOf (content : List UInt8) : List (List Char) :=
  let bs := match content with
    | 0xEF :: 0xBB :: 0xBF :: r => r
    | bs => bs
  logicalLines [] .complete (textLines (physicalLines bs))

/-- The lines of a file that is one line of text. -/
theorem linesOf_bytes (line : String) (hline : physicalLines (Text.bytes line) = [Text.bytes line])
    (hmark : (Text.bytes line).head? ≠ some 0xEF) :
    linesOf (Text.bytes line) = logicalLines [] .complete [line.toList] := by
  have htext : textLines [Text.bytes line] = [line.toList] := by
    rw [textLines, Text.text?_bytes]
    rfl
  unfold linesOf
  dsimp only
  split
  · rename_i hbytes
    exact absurd (congrArg List.head? hbytes) hmark
  · rw [hline, htext]

/-- What a file gives over the variables that are set. -/
def assignments (vs : Variables) (content : List UInt8) : List (String × String) :=
  assignmentsOf vs [] (linesOf content)

theorem addEntries_eq (vs : Variables) (given : List (String × String)) (lines : List (List Char)) :
    addEntries vs given lines = vs.defineAll (assignmentsOf vs given lines) := by
  induction lines generalizing vs given with
  | nil => rfl
  | cons line lines ih =>
    rw [addEntries, assignmentsOf]
    cases readEntry? line with
    | none => rfl
    | some entry =>
      cases entry with
      | none => exact ih vs given
      | some entry =>
        obtain ⟨name, text⟩ := entry
        dsimp only [entryValue?]
        split
        case h_1 hread =>
          rw [hread]
          rfl
        case h_2 v hread =>
          rw [hread, Option.map_some]
          exact ih (vs.define name (String.ofList v)) ((name, String.ofList v) :: given)

/-- Loading a file adds what it gives. -/
theorem load_eq (vs : Variables) (content : List UInt8) : load vs content = vs.defineAll (assignments vs content) :=
  addEntries_eq vs [] (linesOf content)

/-! ### The variables of a file -/

/-- Two states of reading a value that differ in their output only. -/
def ValueState.Alike (s t : ValueState) : Prop := ∃ output, t = { s with output := output }

namespace ValueState.Alike

variable {s t : ValueState}

theorem ended_eq (h : s.Alike t) : t.ended = s.ended := by
  obtain ⟨output, rfl⟩ := h
  rfl

/-- What a character does to a state does not depend on its output. -/
theorem step (h : s.Alike t) (value value' : String → String) (c : Char) :
    Option.Rel Alike (s.step value c) (t.step value' c) := by
  obtain ⟨output, rfl⟩ := h
  unfold ValueState.step
  dsimp only
  repeat' split
  any_goals exact .none
  any_goals exact .some ⟨_, rfl⟩
  cases unescaped? c with
  | none => exact .none
  | some x => exact .some ⟨_, rfl⟩

theorem isSome_finish (h : s.Alike t) (value value' : String → String) :
    (readValue?.finish value s).isSome = (readValue?.finish value' t).isSome := by
  obtain ⟨output, rfl⟩ := h
  unfold readValue?.finish
  dsimp only
  split
  · rfl
  · split <;> rfl

theorem isSome_readValue? (h : s.Alike t) (value value' : String → String) (cs : List Char) :
    (readValue? value s cs).isSome = (readValue? value' t cs).isSome := by
  induction cs generalizing s t with
  | nil => exact h.isSome_finish value value'
  | cons c cs ih =>
    have hstep := h.step value value' c
    rw [readValue?, readValue?, h.ended_eq]
    split
    · exact h.isSome_finish value value'
    · revert hstep
      generalize s.step value c = next
      generalize t.step value' c = next'
      intro hstep
      cases hstep with
      | none => rfl
      | some hnext => exact ih hnext

end ValueState.Alike

theorem isSome_entryValue? (vs vs' : Variables) (given given' : List (String × String)) (text : List Char) :
    (entryValue? vs given text).isSome = (entryValue? vs' given' text).isSome := by
  unfold entryValue?
  dsimp only
  rw [Option.isSome_map, Option.isSome_map]
  split
  · rfl
  · exact ValueState.Alike.isSome_readValue? ⟨_, rfl⟩ _ _ text

theorem names_assignmentsOf (vs vs' : Variables) (given given' : List (String × String)) (lines : List (List Char)) :
    (assignmentsOf vs given lines).map Prod.fst = (assignmentsOf vs' given' lines).map Prod.fst := by
  induction lines generalizing vs vs' given given' with
  | nil => rfl
  | cons line lines ih =>
    rw [assignmentsOf, assignmentsOf]
    cases readEntry? line with
    | none => rfl
    | some entry =>
      cases entry with
      | none => exact ih vs vs' given given'
      | some entry =>
        obtain ⟨name, text⟩ := entry
        have hvalue := isSome_entryValue? vs vs' given given' text
        dsimp only
        generalize entryValue? vs given text = v at hvalue ⊢
        generalize entryValue? vs' given' text = v' at hvalue ⊢
        cases v with
        | none =>
          cases v' with
          | none => rfl
          | some => cases hvalue
        | some v =>
          cases v' with
          | none => cases hvalue
          | some v' =>
            rw [List.map_cons, List.map_cons, ih (vs.define name v) (vs'.define name v')]

theorem names_assignments (vs vs' : Variables) (content : List UInt8) :
    (assignments vs content).map Prod.fst = (assignments vs' content).map Prod.fst :=
  names_assignmentsOf vs vs' [] [] (linesOf content)

/-- A file defines a variable: one of its entries in front of the first bad one names it. -/
def Defines (content : List UInt8) (name : String) : Prop := name ∈ (assignments [] content).map Prod.fst

/-- A file that is read over the variables set so far. -/
structure Reading where
  environment : Variables
  content : List UInt8
deriving DecidableEq, Repr

namespace Reading

/-- The value that a file gives a variable which is not set. -/
def value? (r : Reading) (name : String) : Option String := (assignments r.environment r.content).lookup name

theorem value?_eq_none_iff {r : Reading} {name : String} : r.value? name = none ↔ ¬ Defines r.content name := by
  rw [value?, lookup_eq_none_iff_not_mem, names_assignments r.environment [], Defines]

end Reading

end EnvFile

end AccessGateway.Settings
