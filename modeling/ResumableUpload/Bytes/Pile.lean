import ResumableUpload.Bytes
/-!
# Piles of bytes

A pile is a sequence of bytes that grows at its end, and whose size is always
known.  Adding to it costs no more than what is added.  What a pile stands for
is the list of its bytes, `Pile.bytes`; each operation is described by what it
does to that list.
-/

namespace ResumableUpload

/-- A sequence of bytes that grows at its end. -/
structure Pile where
  /-- The bytes, the last one first. -/
  reversed : Bytes := []
  size : Nat := 0
  size_eq : size = reversed.length := by rfl

namespace Pile

def empty : Pile := {}

def bytes (pile : Pile) : Bytes :=
  pile.reversed.reverse

/-- The pile with further bytes at its end. -/
def push (pile : Pile) (further : Bytes) : Pile where
  reversed := further.reverseAux pile.reversed
  size := pile.size + further.length
  size_eq := by
    rw [List.reverseAux_eq, List.length_append, List.length_reverse,
      pile.size_eq, Nat.add_comm]

def ofBytes (bytes : Bytes) : Pile :=
  push empty bytes

def isEmpty (pile : Pile) : Bool :=
  pile.size == 0

theorem size_eq_length (pile : Pile) : pile.size = pile.bytes.length := by
  rw [bytes, List.length_reverse, pile.size_eq]

@[simp]
theorem bytes_empty : empty.bytes = [] :=
  rfl

@[simp]
theorem bytes_push (pile : Pile) (further : Bytes) :
    (pile.push further).bytes = pile.bytes ++ further := by
  simp [bytes, push, List.reverseAux_eq]

@[simp]
theorem bytes_ofBytes (bytes : Bytes) : (ofBytes bytes).bytes = bytes := by
  rw [ofBytes, bytes_push, bytes_empty, List.nil_append]

@[simp]
theorem size_push (pile : Pile) (further : Bytes) :
    (pile.push further).size = pile.size + further.length :=
  rfl

theorem isEmpty_iff (pile : Pile) : pile.isEmpty = true ↔ pile.bytes = [] := by
  simp [isEmpty, size_eq_length]

/-- Two piles of the same bytes are the same pile. -/
@[ext]
theorem ext {pile other : Pile} (same : pile.bytes = other.bytes) :
    pile = other := by
  obtain ⟨reversed, size, rfl⟩ := pile
  obtain ⟨reversed', size', rfl⟩ := other
  have same : reversed = reversed' := List.reverse_inj.1 same
  subst same
  rfl

end Pile

end ResumableUpload
