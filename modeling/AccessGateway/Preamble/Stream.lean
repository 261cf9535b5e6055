import AccessGateway.Failure

/-!
# Reading a preamble from a stream

A stream delivers its bytes in pieces. The reader looks for a preamble in what it holds and asks for more while
undecided, never holding more than one byte above the greatest length. Key facts: each read asks for at least one
byte and at most 1024, and the loop ends because every read takes bytes from the stream.
-/

namespace AccessGateway

/-- A stream of bytes: the pieces still to come, and the failure it breaks off with, if any. -/
structure ByteStream where
  pieces : List (List UInt8)
  broken : Option SystemError
deriving DecidableEq, Repr

namespace ByteStream

/-- The bytes still to come. -/
def pending (s : ByteStream) : List UInt8 := s.pieces.flatten

/-- The first piece that holds a byte, cut to `room`, and the pieces after the cut. -/
def takePiece (room : Nat) : List (List UInt8) → List UInt8 × List (List UInt8)
  | [] => ([], [])
  | [] :: ps => takePiece room ps
  | (b :: p) :: ps => ((b :: p).take room, (b :: p).drop room :: ps)

/-- Nothing is lost by a cut. -/
theorem takePiece_flatten (room : Nat) (ps : List (List UInt8)) :
    (takePiece room ps).1 ++ (takePiece room ps).2.flatten = ps.flatten := by
  induction ps with
  | nil => rfl
  | cons p ps ih =>
    cases p with
    | nil => simpa [takePiece] using ih
    | cons b p =>
      simp only [takePiece, List.flatten_cons]
      rw [← List.append_assoc, List.take_append_drop]

/-- A cut that takes bytes leaves fewer. -/
theorem takePiece_length {room : Nat} {ps : List (List UInt8)} (h : (takePiece room ps).1 ≠ []) :
    (takePiece room ps).2.flatten.length < ps.flatten.length := by
  rw [← takePiece_flatten room ps, List.length_append]
  have := List.length_pos_iff.2 h
  omega

end ByteStream

/-- What the reader of a stream hands on: the preamble, the payload bytes that came with it, and the stream. -/
structure OpenedStream where
  preamble : Preamble
  early : List UInt8
  rest : ByteStream
deriving DecidableEq, Repr

namespace Preamble

/-- How many bytes the next read asks for, given how many are held. -/
def room (held : Nat) : Nat := min 1024 (maxLength + 1 - held)

/-- Reads pieces until the bytes held start with a complete preamble. -/
def readStream (held : List UInt8) (s : ByteStream) : Except Failure OpenedStream × ByteStream :=
  match read held with
  | .error e => (.error (.framing e), s)
  | .ok (some p) => (.ok ⟨p, held.drop p.headerLength, s⟩, s)
  | .ok none =>
    let next := ByteStream.takePiece (room held.length) s.pieces
    if h : next.1 = [] then
      match s.broken with
      | some e => (.error (.io e), ⟨[], s.broken⟩)
      | none => (.error (.framing .incomplete), ⟨[], s.broken⟩)
    else
      have := ByteStream.takePiece_length h
      readStream (held ++ next.1) ⟨next.2, s.broken⟩
termination_by s.pieces.flatten.length
decreasing_by exact this

end Preamble

end AccessGateway
