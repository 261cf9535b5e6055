import AccessGateway.Preamble.Stream
import AccessGateway.Proofs.Preamble.Encoding
import AccessGateway.Proofs.Preamble.Extension

/-!
# Preambles in pieces

Reading a preamble from a stream comes to reading the bytes of the stream at once, however they are cut into pieces.
The reader stops with some of the bytes held and the others still to come (`readStream_eq_stopped`), and what it holds
then decides as all the bytes do (`readStream_iff_readComplete`).
-/

namespace AccessGateway

namespace ByteStream

/-- A read that takes nothing found nothing, if there was room for a byte. -/
theorem flatten_eq_nil_of_takePiece {room : Nat} {ps : List (List UInt8)} (hroom : 0 < room)
    (h : (takePiece room ps).1 = []) : ps.flatten = [] := by
  induction ps with
  | nil => rfl
  | cons p ps ih =>
    cases p with
    | nil =>
      rw [takePiece] at h
      rw [List.flatten_cons, List.nil_append]
      exact ih h
    | cons b p =>
      rw [takePiece, List.take_eq_nil_iff] at h
      rcases h with h | h
      · omega
      · cases h

end ByteStream

namespace Preamble

/-- There is room for a byte while the buffer is undecided. -/
theorem room_pos {held : List UInt8} (h : read held = .ok none) : 0 < room held.length := by
  have := length_lt_of_read_eq_ok_none h
  unfold room
  omega

/-- What the reader answers when it stops with some bytes held and the rest of the stream still to come. -/
def stopped (held : List UInt8) (rest : ByteStream) : Except Failure OpenedStream × ByteStream :=
  match read held with
  | .error e => (.error (.framing e), rest)
  | .ok (some p) => (.ok ⟨p, held.drop p.headerLength, rest⟩, rest)
  | .ok none =>
    match rest.broken with
    | some e => (.error (.io e), rest)
    | none => (.error (.framing .incomplete), rest)

/-- The reader stops somewhere in the stream, and at its end if what it holds is undecided. -/
theorem readStream_eq_stopped (held : List UInt8) (s : ByteStream) :
    ∃ front rest, readStream held s = stopped front rest ∧ front ++ rest.pending = held ++ s.pending ∧
      rest.broken = s.broken ∧ (read front = .ok none → rest.pending = []) := by
  fun_induction readStream held s with
  | case1 held s e hread =>
    refine ⟨held, s, ?_, rfl, rfl, fun h => ?_⟩
    · rw [stopped, hread]
    · rw [hread] at h
      cases h
  | case2 held s p hread =>
    refine ⟨held, s, ?_, rfl, rfl, fun h => ?_⟩
    · rw [stopped, hread]
    · rw [hread] at h
      cases h
  | case3 held s hread next hnext e hbroken =>
    have hend : s.pending = [] := ByteStream.flatten_eq_nil_of_takePiece (room_pos hread) hnext
    refine ⟨held, ⟨[], s.broken⟩, ?_, ?_, rfl, fun _ => rfl⟩
    · rw [stopped, hread]
      dsimp only
      rw [hbroken]
    · rw [hend]
      rfl
  | case4 held s hread next hnext hbroken =>
    have hend : s.pending = [] := ByteStream.flatten_eq_nil_of_takePiece (room_pos hread) hnext
    refine ⟨held, ⟨[], s.broken⟩, ?_, ?_, rfl, fun _ => rfl⟩
    · rw [stopped, hread]
      dsimp only
      rw [hbroken]
    · rw [hend]
      rfl
  | case5 held s hread next hnext _ ih =>
    obtain ⟨front, rest, hstop, hbytes, hbroken, hend⟩ := ih
    refine ⟨front, rest, hstop, ?_, hbroken, hend⟩
    rw [hbytes, List.append_assoc]
    congr 1
    exact ByteStream.takePiece_flatten _ _

/-- A preamble read from a stream is the preamble of all its bytes, and no byte after it is lost. -/
theorem readComplete_of_readStream {s s' : ByteStream} {o : OpenedStream} (h : readStream [] s = (.ok o, s')) :
    readComplete s.pending = .ok o.preamble ∧
      o.early ++ s'.pending = s.pending.drop o.preamble.headerLength ∧ o.rest = s' := by
  obtain ⟨front, rest, hstop, hbytes, -, -⟩ := readStream_eq_stopped [] s
  rw [hstop, stopped] at h
  rw [List.nil_append] at hbytes
  rcases hread : read front with e | _ | p
  · rw [hread] at h
    cases h
  · rw [hread] at h
    dsimp only at h
    split at h <;> cases h
  · rw [hread] at h
    cases h
    rw [← hbytes]
    refine ⟨readComplete_eq_ok_iff.2 (read_append_of_ok_some hread _), ?_, rfl⟩
    exact (List.drop_append_of_le_length (headerLength_le_of_read hread).1).symm

/-- A stream that is refused, whether it broke off or not, starts with no complete preamble. -/
theorem readComplete_of_readStream_error {s : ByteStream} {f : Failure} (h : (readStream [] s).1 = .error f) :
    ∃ e, readComplete s.pending = .error e := by
  obtain ⟨front, rest, hstop, hbytes, -, hend⟩ := readStream_eq_stopped [] s
  rw [hstop, stopped] at h
  rw [List.nil_append] at hbytes
  rw [← hbytes]
  rcases hread : read front with e | _ | p
  · obtain ⟨e', hall, -⟩ := read_append_of_error hread rest.pending
    exact ⟨e', by rw [readComplete_eq, hall]⟩
  · rw [hend hread, List.append_nil]
    exact ⟨.incomplete, readComplete_eq_incomplete_iff.2 hread⟩
  · rw [hread] at h
    cases h

/-- What a stream that does not break off is refused for. -/
private theorem readStream_eq_error {pieces : List (List UInt8)} {e : Failure} {s' : ByteStream}
    (h : readStream [] ⟨pieces, none⟩ = (.error e, s')) :
    (e = .framing .incomplete ∧ readComplete pieces.flatten = .error .incomplete) ∨
      ∃ e₁ e₂, e = .framing e₁ ∧ e₁ ≠ .incomplete ∧ readComplete pieces.flatten = .error e₂ ∧ e₂ ≠ .incomplete ∧
        (e₁ = .tooLong ∨ e₂ = e₁) := by
  obtain ⟨front, rest, hstop, hbytes, hbroken, hend⟩ := readStream_eq_stopped [] ⟨pieces, none⟩
  rw [hstop, stopped] at h
  rw [List.nil_append, ByteStream.pending, ByteStream.pending] at hbytes
  rcases hread : read front with e₁ | _ | p
  · rw [hread] at h
    cases h
    obtain ⟨e₂, hall, he⟩ := read_append_of_error hread s'.pieces.flatten
    have hne := read_ne_incomplete front
    have hne' := read_ne_incomplete (front ++ s'.pieces.flatten)
    rw [hread, ne_eq, Except.error.injEq] at hne
    rw [hall, ne_eq, Except.error.injEq] at hne'
    refine .inr ⟨e₁, e₂, rfl, hne, ?_, hne', he⟩
    rw [← hbytes, readComplete_eq, hall]
  · rw [hread, hbroken] at h
    cases h
    have hnil : s'.pieces.flatten = [] := hend hread
    rw [hnil, List.append_nil] at hbytes
    rw [← hbytes]
    exact .inl ⟨rfl, readComplete_eq_incomplete_iff.2 hread⟩
  · rw [hread] at h
    cases h

/-- The reader of a stream answers as the reader of all its bytes, however the stream is cut into pieces: with the same
preamble, after which no byte is lost, doubled or moved; with "incomplete" for the same streams; and with a refusal for
the same streams, where only one that is too long may be refused for another reason. -/
theorem readStream_iff_readComplete (pieces : List (List UInt8)) :
    (∀ p, (∃ early rest, (readStream [] ⟨pieces, none⟩).1 = .ok ⟨p, early, rest⟩) ↔
      readComplete pieces.flatten = .ok p) ∧
    (∀ o, (readStream [] ⟨pieces, none⟩).1 = .ok o →
      o.early ++ (readStream [] ⟨pieces, none⟩).2.pending = pieces.flatten.drop o.preamble.headerLength) ∧
    ((readStream [] ⟨pieces, none⟩).1 = .error (.framing .incomplete) ↔
      readComplete pieces.flatten = .error .incomplete) ∧
    (∀ e, e ≠ .incomplete → readComplete pieces.flatten = .error e →
      (readStream [] ⟨pieces, none⟩).1 = .error (.framing e) ∨
        (readStream [] ⟨pieces, none⟩).1 = .error (.framing .tooLong)) := by
  rcases hr : readStream [] ⟨pieces, none⟩ with ⟨f | o, s'⟩
  · dsimp only
    rcases readStream_eq_error hr with ⟨rfl, hall⟩ | ⟨e₁, e₂, rfl, hne, hall, hne', he⟩
    · rw [hall]
      refine ⟨fun p => by simp, nofun, by simp, fun e hne h => ?_⟩
      exact absurd (Except.error.inj h).symm hne
    · rw [hall]
      refine ⟨fun p => by simp, nofun, by simp [hne, hne'], fun e _ h => ?_⟩
      obtain rfl := Except.error.inj h
      rcases he with rfl | rfl
      · exact .inr rfl
      · exact .inl rfl
  · dsimp only
    obtain ⟨hall, hpayload, -⟩ := readComplete_of_readStream hr
    have hall : readComplete pieces.flatten = .ok o.preamble := hall
    rw [hall]
    refine ⟨fun p => ⟨?_, fun h => ?_⟩, fun o' h => ?_, by simp, fun e _ h => by cases h⟩
    · rintro ⟨early, rest, h⟩
      cases h
      rfl
    · cases h
      exact ⟨o.early, o.rest, rfl⟩
    · cases h
      exact hpayload

/-- A preamble in two pieces, the first of which ends within the marker, and the payload behind it. -/
theorem readStream_cut_marker :
    ∃ o, (readStream [] ⟨[(encodeText "t" "h:1").take 3, (encodeText "t" "h:1").drop 3 ++ [0x54, 0x4F]], none⟩).1 =
        .ok o ∧
      o.preamble = ⟨"t", "h:1", 17⟩ ∧
      o.early ++ (readStream []
        ⟨[(encodeText "t" "h:1").take 3, (encodeText "t" "h:1").drop 3 ++ [0x54, 0x4F]], none⟩).2.pending =
          [0x54, 0x4F] := by
  obtain ⟨hread, hpayload, -⟩ := readStream_iff_readComplete
    [(encodeText "t" "h:1").take 3, (encodeText "t" "h:1").drop 3 ++ [0x54, 0x4F]]
  have hall : readComplete
      [(encodeText "t" "h:1").take 3, (encodeText "t" "h:1").drop 3 ++ [0x54, 0x4F]].flatten =
        .ok ⟨"t", "h:1", 17⟩ := by
    rw [List.flatten_cons, List.flatten_singleton, ← List.append_assoc, List.take_append_drop]
    exact readComplete_eq_ok_iff.2
      (read_encodeText (by decide) (by decide) (by decide) (by decide) (by decide) [0x54, 0x4F])
  obtain ⟨early, rest, ho⟩ := (hread _).2 hall
  exact ⟨_, ho, rfl, (hpayload _ ho).trans rfl⟩

end Preamble

end AccessGateway
