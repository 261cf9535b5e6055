import AccessGateway.Proofs.Preamble.Extension
import Mathlib.Order.Nat

/-!
# When a preamble is decided

The fronts of a byte string are read one after the other, each longer than the one before.  They are undecided up to
some length, and what is said then is said of every longer front: a preamble is read from the front that it fills and
from all longer ones (`read_take_of_read`), and after the first refusal there are only refusals
(`exists_first_refusal`).  The three courses that this leaves are `decided_once`.
-/

namespace AccessGateway.Preamble

variable {s : List UInt8} {p : Preamble} {e : PreambleError} {m n : Nat}

/-! ### Fronts of a byte string -/

private theorem take_append_of_le (h : m ≤ n) : ∃ more, s.take n = s.take m ++ more := by
  obtain ⟨more, hmore⟩ := List.take_prefix_take_left h
  exact ⟨more, hmore.symm⟩

/-- What is read from a front is read from every longer one. -/
private theorem read_take_mono (h : read (s.take m) = .ok (some p)) (hmn : m ≤ n) :
    read (s.take n) = .ok (some p) := by
  obtain ⟨more, hmore⟩ := take_append_of_le (s := s) hmn
  rw [hmore]
  exact read_append_of_ok_some h more

/-- After a refusal there are only refusals, for the same reason unless that one was the length. -/
theorem refused_take_mono (h : read (s.take m) = .error e) (hmn : m ≤ n) :
    ∃ e', read (s.take n) = .error e' ∧ (e = .tooLong ∨ e' = e) := by
  obtain ⟨more, hmore⟩ := take_append_of_le (s := s) hmn
  rw [hmore]
  exact read_append_of_error h more

/-- No front of an undecided byte string is decided. -/
theorem undecided_take (h : read s = .ok none) (n : Nat) : read (s.take n) = .ok none := by
  have hwhole : s = s.take n ++ s.drop n := (List.take_append_drop n s).symm
  rcases hfront : read (s.take n) with e | _ | p
  · obtain ⟨e', he', -⟩ := read_append_of_error hfront (s.drop n)
    rw [← hwhole, h] at he'
    cases he'
  · rfl
  · have hp := read_append_of_ok_some hfront (s.drop n)
    rw [← hwhole, h] at hp
    cases hp

/-! ### The length at which it is decided -/

/-- A preamble is read as soon as the last of its bytes is there, and not before. -/
theorem read_take_of_read (h : read s = .ok (some p)) (n : Nat) :
    read (s.take n) = if p.headerLength ≤ n then .ok (some p) else .ok none := by
  have hlen : p.headerLength ≤ s.length := (headerLength_le_of_read h).1
  have hwhole : s = s.take n ++ s.drop n := (List.take_append_drop n s).symm
  split
  · rename_i hn
    have hfront : p.headerLength ≤ (s.take n).length := by
      rw [List.length_take]
      omega
    rw [hwhole] at h
    exact (read_append_eq_ok_some_iff hfront (s.drop n)).1 h
  · rename_i hn
    -- a shorter front that is decided would decide the whole otherwise
    rcases hfront : read (s.take n) with e | _ | q
    · obtain ⟨e', he', -⟩ := read_append_of_error hfront (s.drop n)
      rw [← hwhole, h] at he'
      cases he'
    · rfl
    · have hq := read_append_of_ok_some hfront (s.drop n)
      rw [← hwhole, h] at hq
      obtain rfl : p = q := Option.some.inj (Except.ok.inj hq)
      have hfits := (headerLength_le_of_read hfront).1
      rw [List.length_take] at hfits
      omega

/-- The fronts of a refused byte string are undecided up to the first that is refused. -/
theorem exists_first_refusal (h : read s = .error e) :
    ∃ d e₁, d ≤ s.length ∧ (∀ n < d, read (s.take n) = .ok none) ∧ read (s.take d) = .error e₁ := by
  have hrefused : ∃ n, ∃ e', read (s.take n) = .error e' := ⟨s.length, e, by rw [List.take_length]; exact h⟩
  classical
  obtain ⟨e₁, he₁⟩ := Nat.find_spec hrefused
  refine ⟨Nat.find hrefused, e₁, Nat.find_le ⟨e, by rw [List.take_length]; exact h⟩, ?_, he₁⟩
  intro n hn
  rcases hfront : read (s.take n) with e' | _ | p
  · exact absurd ⟨e', hfront⟩ (Nat.find_min hrefused hn)
  · rfl
  · rw [read_take_mono hfront (Nat.le_of_lt hn)] at he₁
    cases he₁

/-- Reading decides once and for all.  The fronts of a byte string, by their lengths, are all undecided; or a preamble
is read from exactly those that reach its last byte, and it is the same in all of them; or they are refused from some
length on, for one reason unless the first was the length.  What is read lies within the buffer and is not too long,
and a front of the greatest length is decided. -/
theorem decided_once (s : List UInt8) :
    ((∀ n, read (s.take n) = .ok none) ∨
      (∃ p, p.headerLength ≤ s.length ∧
        ∀ n, read (s.take n) = if p.headerLength ≤ n then .ok (some p) else .ok none) ∨
      (∃ d e, d ≤ s.length ∧ (∀ n < d, read (s.take n) = .ok none) ∧ read (s.take d) = .error e ∧
        ∀ n, d ≤ n → ∃ e', read (s.take n) = .error e' ∧ (e = .tooLong ∨ e' = e))) ∧
      (∀ n p, read (s.take n) = .ok (some p) →
        p.headerLength ≤ (s.take n).length ∧ p.headerLength ≤ maxLength) ∧
      (∀ n, maxLength ≤ (s.take n).length → read (s.take n) ≠ .ok none) := by
  refine ⟨?_, fun n p => headerLength_le_of_read, ?_⟩
  · rcases hread : read s with e | _ | p
    · obtain ⟨d, e₁, hd, hbefore, hfirst⟩ := exists_first_refusal hread
      exact .inr (.inr ⟨d, e₁, hd, hbefore, hfirst, fun n hn => refused_take_mono hfirst hn⟩)
    · exact .inl (undecided_take hread)
    · exact .inr (.inl ⟨p, (headerLength_le_of_read hread).1, read_take_of_read hread⟩)
  · intro n hfull hundecided
    have hshort := length_lt_of_read_eq_ok_none hundecided
    omega

/-- A token without a target is undecided until its line ends. -/
example :
    let line := [0x54, 0x4F, 0x4B, 0x45, 0x4E, 0x3A, 0x61]
    read (line.take 7) = .ok none ∧ read (line ++ [0x0A, 0x78]) = .error .missingTarget := by
  decide

end AccessGateway.Preamble
