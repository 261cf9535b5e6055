import AccessGateway.Proofs.Preamble.Decision
import AccessGateway.Proofs.Preamble.Stream
import Mathlib.Data.List.Induction

/-!
# The buffer of the reader

The reader of a stream goes on while what it holds is undecided, which is less than the greatest length, so that every
read asks for a byte or more and the buffer never holds more than one byte above it.  A turn that goes on adds bytes,
so there are no more such turns than the greatest length.  This is so for any source of bytes, also one that never
ends (`Reads`, `withinBounds_of_reads`); the turns on a stream are those of `readStream` (`readStream_of_reads`), which
says "incomplete" only at the end of its bytes.  Main statement: `readStream_bounded`.  The bounds are reached
(`exists_reads_full`).
-/

namespace AccessGateway

/-- What reads take from a source of bytes: in which state of the source a read of at most so many bytes may take
some, and with which state after it. -/
structure ByteSource (σ : Type) where
  Takes : Nat → σ → List UInt8 → σ → Prop
  length_le {n : Nat} {s s' : σ} {chunk : List UInt8} (h : Takes n s chunk s') : chunk.length ≤ n

/-- A source that may give any bytes. -/
def ByteSource.any : ByteSource Unit where
  Takes n _ chunk _ := chunk.length ≤ n
  length_le h := h

namespace ByteStream

theorem length_takePiece_le (n : Nat) (ps : List (List UInt8)) : (takePiece n ps).1.length ≤ n := by
  induction ps with
  | nil => exact Nat.zero_le n
  | cons p ps ih =>
    cases p with
    | nil => exact ih
    | cons b p => exact List.length_take_le n (b :: p)

/-- A stream in pieces as a source. -/
def source : ByteSource ByteStream where
  Takes n s chunk s' := takePiece n s.pieces = (chunk, s'.pieces) ∧ s'.broken = s.broken
  length_le {n s s' chunk} h := by
    have hle := length_takePiece_le n s.pieces
    rw [h.1] at hle
    exact hle

end ByteStream

namespace Preamble

variable {σ : Type} {src : ByteSource σ} {s₀ s : σ} {chunks : List (List UInt8)} {held : List UInt8}

/-! ### The turns of the loop -/

/-- The turns of the reader that go on: what is held is undecided, and a read of as many bytes as there is room for
takes some.  The chunks are those that the reads have taken one after the other. -/
inductive Reads (src : ByteSource σ) (s₀ : σ) : List (List UInt8) → List UInt8 → σ → Prop where
  | start : Reads src s₀ [] [] s₀
  | turn {chunks : List (List UInt8)} {held chunk : List UInt8} {s s' : σ} (h : Reads src s₀ chunks held s)
      (hundecided : read held = .ok none) (htakes : src.Takes (room held.length) s chunk s') (hne : chunk ≠ []) :
      Reads src s₀ (chunks ++ [chunk]) (held ++ chunk) s'

/-- What is held after some reads that took bytes, and what the next one asks for. -/
structure WithinBounds (chunks : List (List UInt8)) (held : List UInt8) : Prop where
  flatten_eq : held = chunks.flatten
  ne_nil : ∀ chunk ∈ chunks, chunk ≠ []
  reads_le : chunks.length ≤ maxLength
  bytes_le : held.length ≤ maxLength + 1
  asked : read held = .ok none →
    held.length < maxLength ∧ 1 ≤ room held.length ∧ room held.length ≤ min 1024 (maxLength + 1 - held.length)

/-- An undecided buffer is asked to grow by a byte at least, and not beyond one byte above the greatest length. -/
theorem asked_of_undecided (h : read held = .ok none) :
    held.length < maxLength ∧ 1 ≤ room held.length ∧ room held.length ≤ min 1024 (maxLength + 1 - held.length) :=
  ⟨length_lt_of_read_eq_ok_none h, room_pos h, Nat.le_refl _⟩

/-- Every turn adds bytes to the buffer. -/
theorem Reads.length_le (h : Reads src s₀ chunks held s) : chunks.length ≤ held.length := by
  induction h with
  | start => exact Nat.le_refl 0
  | turn _ _ _ hne ih =>
    have hpos := List.length_pos_iff.2 hne
    rw [List.length_append, List.length_append, List.length_singleton]
    omega

/-- The bounds hold at the start, and every turn starts with less than the greatest length and keeps them. -/
theorem withinBounds_of_reads (h : Reads src s₀ chunks held s) : WithinBounds chunks held := by
  induction h with
  | start => exact ⟨rfl, by simp, Nat.zero_le _, Nat.zero_le _, asked_of_undecided⟩
  | @turn chunks held chunk s s' hreads hundecided htakes hne ih =>
    obtain ⟨hshort, -, hroom⟩ := asked_of_undecided hundecided
    have htaken := src.length_le htakes
    have hturns := hreads.length_le
    refine ⟨?_, ?_, ?_, ?_, asked_of_undecided⟩
    · rw [List.flatten_append, List.flatten_singleton, ← ih.flatten_eq]
    · simpa [or_imp, forall_and, hne] using ih.ne_nil
    · rw [List.length_append, List.length_singleton]
      omega
    · rw [List.length_append]
      omega

/-! ### The turns on a stream -/

variable {stream rest : ByteStream}

/-- No byte is lost by the turns, and the stream still breaks off as it did. -/
theorem Reads.conserves (h : Reads ByteStream.source stream chunks held rest) :
    held ++ rest.pending = stream.pending ∧ rest.broken = stream.broken := by
  induction h with
  | start => exact ⟨rfl, rfl⟩
  | @turn chunks held chunk s s' _ _ htakes _ ih =>
    have hflatten := ByteStream.takePiece_flatten (room held.length) s.pieces
    rw [htakes.1] at hflatten
    refine ⟨?_, htakes.2.trans ih.2⟩
    rw [← ih.1, List.append_assoc]
    exact congrArg (held ++ ·) hflatten

private theorem readStream_turn {chunk : List UInt8} {s s' : ByteStream} (hundecided : read held = .ok none)
    (htakes : ByteStream.source.Takes (room held.length) s chunk s') (hne : chunk ≠ []) :
    readStream held s = readStream (held ++ chunk) s' := by
  obtain ⟨hpieces, hbroken⟩ := htakes
  obtain ⟨pieces', broken'⟩ := s'
  rw [readStream, hundecided]
  dsimp only at hpieces hbroken ⊢
  rw [hpieces, dif_neg hne, hbroken]

/-- The turns are those of the reader. -/
theorem readStream_of_reads (h : Reads ByteStream.source stream chunks held rest) :
    readStream [] stream = readStream held rest := by
  induction h with
  | start => rfl
  | turn _ hundecided htakes hne ih => exact ih.trans (readStream_turn hundecided htakes hne)

/-- How the last turn answers, by what is held and what is left of the stream: for a preamble the buffer is cut within
its bounds, and an undecided buffer is told apart from the others by the end of the stream alone. -/
inductive Concludes (held : List UInt8) (rest : ByteStream) : Except Failure OpenedStream → Prop where
  | refused {e : PreambleError} (hread : read held = .error e) (hne : e ≠ .incomplete) :
      Concludes held rest (.error (.framing e))
  | opened {p : Preamble} (hread : read held = .ok (some p)) (hfits : p.headerLength ≤ held.length) :
      Concludes held rest (.ok ⟨p, held.drop p.headerLength, rest⟩)
  | broken {e : SystemError} (hread : read held = .ok none) (hend : rest.pending = [])
      (hbroken : rest.broken = some e) : Concludes held rest (.error (.io e))
  | ended (hread : read held = .ok none) (hend : rest.pending = []) (hwhole : rest.broken = none) :
      Concludes held rest (.error (.framing .incomplete))

/-- From every turn the reader comes to a last one. -/
theorem exists_concludes (held : List UInt8) (rest : ByteStream) :
    ∀ chunks, Reads ByteStream.source stream chunks held rest →
      ∃ chunks held' rest', Reads ByteStream.source stream chunks held' rest' ∧
        Concludes held' rest' (readStream held rest).1 := by
  fun_induction readStream held rest with
  | case1 held rest e hread =>
    intro chunks h
    refine ⟨chunks, held, rest, h, .refused hread fun he => ?_⟩
    exact read_ne_incomplete held (he ▸ hread)
  | case2 held rest p hread =>
    intro chunks h
    exact ⟨chunks, held, rest, h, .opened hread (headerLength_le_of_read hread).1⟩
  | case3 held rest hread next hnext e hbroken =>
    intro chunks h
    have hend : rest.pending = [] := ByteStream.flatten_eq_nil_of_takePiece (room_pos hread) hnext
    exact ⟨chunks, held, rest, h, .broken hread hend hbroken⟩
  | case4 held rest hread next hnext hwhole =>
    intro chunks h
    have hend : rest.pending = [] := ByteStream.flatten_eq_nil_of_takePiece (room_pos hread) hnext
    exact ⟨chunks, held, rest, h, .ended hread hend hwhole⟩
  | case5 held rest hread next hnext _ ih =>
    intro chunks h
    exact ih (chunks ++ [next.1]) (h.turn hread ⟨rfl, rfl⟩ hnext)

/-- A stream is incomplete exactly if it ends, and does not break off, with all its bytes undecided. -/
theorem readStream_eq_incomplete_iff (stream : ByteStream) :
    (readStream [] stream).1 = .error (.framing .incomplete) ↔
      stream.broken = none ∧ read stream.pending = .ok none := by
  obtain ⟨chunks, held, rest, hreads, hlast⟩ := exists_concludes [] stream [] .start
  obtain ⟨hbytes, hbroken⟩ := hreads.conserves
  rw [← hbytes, ← hbroken]
  generalize (readStream [] stream).1 = answer at hlast ⊢
  cases hlast with
  | refused hread hne =>
    obtain ⟨e', he', -⟩ := read_append_of_error hread rest.pending
    simp [he', hne]
  | opened hread _ => simp [read_append_of_ok_some hread]
  | broken _ _ hbroken => simp [hbroken]
  | ended hread hend hwhole => simp [hread, hend, hwhole]

/-- From whatever source it reads, the reader takes bytes at most as often as the greatest length says and never holds
more than one byte above it; while undecided it holds less than that length and asks for a byte at least, and for no
more than there is room for.  On a stream the reader goes through these turns and comes to a last one, in which a
preamble is cut off within the bounds of the buffer; and it answers "incomplete" exactly if the stream has ended, and
not broken off, and all its bytes are undecided. -/
theorem readStream_bounded :
    (∀ (σ : Type) (src : ByteSource σ) (s₀ s : σ) (chunks : List (List UInt8)) (held : List UInt8),
      Reads src s₀ chunks held s → WithinBounds chunks held) ∧
    ∀ stream : ByteStream,
      (∀ chunks held rest, Reads ByteStream.source stream chunks held rest →
        readStream [] stream = readStream held rest) ∧
      (∃ chunks held rest, Reads ByteStream.source stream chunks held rest ∧
        Concludes held rest (readStream [] stream).1) ∧
      ((readStream [] stream).1 = .error (.framing .incomplete) ↔
        stream.broken = none ∧ read stream.pending = .ok none) := by
  refine ⟨fun σ src s₀ s chunks held h => withinBounds_of_reads h, fun stream => ⟨?_, ?_, ?_⟩⟩
  · exact fun chunks held rest h => readStream_of_reads h
  · exact exists_concludes [] stream [] .start
  · exact readStream_eq_incomplete_iff stream

/-- A token line in two pieces, after which the stream ends. -/
theorem readStream_bounded_ended :
    let stream : ByteStream := ⟨[[0x54, 0x4F, 0x4B], [0x45, 0x4E, 0x3A, 0x61, 0x0A]], none⟩
    Reads ByteStream.source stream stream.pieces stream.pending ⟨[[]], none⟩ ∧
      WithinBounds stream.pieces stream.pending ∧ (readStream [] stream).1 = .error (.framing .incomplete) := by
  intro stream
  have hreads : Reads ByteStream.source stream stream.pieces stream.pending ⟨[[]], none⟩ := by
    have hfirst : Reads ByteStream.source stream [[0x54, 0x4F, 0x4B]] [0x54, 0x4F, 0x4B]
        ⟨[[], [0x45, 0x4E, 0x3A, 0x61, 0x0A]], none⟩ := Reads.start.turn (by decide) ⟨rfl, rfl⟩ (by decide)
    exact hfirst.turn (by decide) ⟨rfl, rfl⟩ (by decide)
  obtain ⟨hbounds, hstream⟩ := readStream_bounded
  exact ⟨hreads, hbounds _ _ _ _ _ _ hreads, (hstream stream).2.2.2 ⟨rfl, by decide⟩⟩

/-! ### The bounds are reached -/

/-- What can be read from a source can be read from a stream of the same pieces, whatever comes after them. -/
theorem exists_reads_stream (h : Reads src s₀ chunks held s) (more : List (List UInt8)) (broken : Option SystemError) :
    ∃ rest, Reads ByteStream.source ⟨chunks ++ more, broken⟩ chunks held rest ∧ rest.broken = broken ∧
      ∀ n, ByteStream.takePiece n rest.pieces = ByteStream.takePiece n more := by
  induction h generalizing more with
  | start => exact ⟨⟨more, broken⟩, .start, rfl, fun _ => rfl⟩
  | @turn chunks held chunk s s' _ hundecided htakes hne ih =>
    obtain ⟨rest, hreads, hbroken, htake⟩ := ih (chunk :: more)
    have hle := src.length_le htakes
    have hpiece : ByteStream.takePiece (room held.length) (chunk :: more) = (chunk, [] :: more) := by
      cases chunk with
      | nil => exact absurd rfl hne
      | cons b chunk => rw [ByteStream.takePiece, List.take_of_length_le hle, List.drop_of_length_le hle]
    refine ⟨⟨[] :: more, broken⟩, ?_, rfl, fun _ => rfl⟩
    rw [List.append_assoc]
    exact hreads.turn hundecided ⟨(htake _).trans hpiece, hbroken.symm⟩ hne

/-- A token line that has not ended is undecided. -/
theorem read_tokenLine {token : List UInt8} (hline : lineFeed ∉ token)
    (hshort : (tokenMarker ++ token).length < maxLength) : read (tokenMarker ++ token) = .ok none := by
  have hnone : Text.splitFirst? lineFeed (tokenMarker ++ token) = none := by
    rw [Text.splitFirst?_eq_none_iff, List.mem_append, not_or]
    exact ⟨by decide, hline⟩
  have hline : readLine tokenMarker .missingToken (tokenMarker ++ token) = .ok none := by
    rw [readLine, if_pos (compatible_append tokenMarker token), hnone]
  have heither : readEither (tokenMarker ++ token) = .ok none := by
    have hmagic : Text.strip? magic (tokenMarker ++ token) = none := rfl
    have hpre : (tokenMarker ++ token).isPrefixOf magic = false := rfl
    rw [readEither, hmagic, hpre, readText_eq, readPair, hline]
    rfl
  rw [read_eq, heither]
  exact if_neg (Nat.not_le.2 hshort)

/-- Bytes that are undecided can be read one at a time. -/
theorem reads_bytes {bytes : List UInt8} (h : read bytes = .ok none) :
    Reads .any () (bytes.map fun b => [b]) bytes () := by
  induction bytes using List.reverseRecOn with
  | nil => exact .start
  | append_singleton bytes b ih =>
    have hfront : read bytes = .ok none := by
      have htake := undecided_take h bytes.length
      rwa [List.take_left] at htake
    rw [List.map_append]
    exact (ih hfront).turn hfront (room_pos hfront) (List.cons_ne_nil b [])

/-- There is a stream from which the reader takes bytes as often as the greatest length says, and of which it then
holds one byte more than that. -/
theorem exists_reads_full :
    ∃ (stream rest : ByteStream) (chunks : List (List UInt8)) (held : List UInt8),
      Reads ByteStream.source stream chunks held rest ∧ chunks.length = maxLength ∧ held.length = maxLength + 1 := by
  -- one byte less than the greatest length, one at a time, and then the two for which there is room
  obtain ⟨line, hundecided, hlength⟩ : ∃ line, read line = .ok none ∧ line.length = maxLength - 1 := by
    have hlength : (tokenMarker ++ List.replicate (maxLength - 7) 0x61).length = maxLength - 1 := by
      rw [List.length_append, List.length_replicate]
      decide
    refine ⟨_, read_tokenLine (fun hmem => ?_) (hlength ▸ (by decide)), hlength⟩
    exact absurd (List.eq_of_mem_replicate hmem) (by decide)
  have hfits : ByteSource.any.Takes (room line.length) () [0x61, 0x61] () := by
    show 2 ≤ room line.length
    rw [hlength]
    decide
  have hlast := (reads_bytes hundecided).turn hundecided hfits (by decide)
  obtain ⟨rest, hreads, -⟩ := exists_reads_stream hlast [] none
  refine ⟨_, rest, _, _, hreads, ?_, ?_⟩
  · rw [List.length_append, List.length_map, hlength]
    decide
  · rw [List.length_append, hlength]
    decide

end Preamble

end AccessGateway
