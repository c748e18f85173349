/-!
# Half-open ranges

A `Span` holds the bytes from `start` up to and not including `stop`. The same type
serves ranges of addresses, of physical memory and of offsets within an object.
-/

namespace SharedMemory

/-- The bytes `start`, `start + 1`, …, `stop - 1`. -/
structure Span where
  start : Nat
  stop : Nat
deriving DecidableEq

namespace Span

/-- The span of `size` bytes from `start`. -/
def ofSize (start size : Nat) : Span := ⟨start, start + size⟩

/-- The number of bytes in a span. -/
def size (s : Span) : Nat := s.stop - s.start

/-- A span without bytes. -/
def isEmpty (s : Span) : Bool := s.size == 0

/-- An address that lies in the span. -/
def Contains (s : Span) (address : Nat) : Prop := s.start ≤ address ∧ address < s.stop

instance (s : Span) (address : Nat) : Decidable (s.Contains address) :=
  inferInstanceAs (Decidable (_ ∧ _))

/-- Two spans of which neither ends before the other starts. -/
def Meets (s t : Span) : Prop := s.start < t.stop ∧ t.start < s.stop

instance (s t : Span) : Decidable (s.Meets t) :=
  inferInstanceAs (Decidable (_ ∧ _))

/-- Spans that have an address in common meet. -/
theorem meets_of_contains {s t : Span} {address : Nat} (left : s.Contains address)
    (right : t.Contains address) : s.Meets t :=
  ⟨Nat.lt_of_le_of_lt left.1 right.2, Nat.lt_of_le_of_lt right.1 left.2⟩

/-- The bytes of both spans; empty, at the later start, when they are disjoint. -/
def inter (s t : Span) : Span :=
  let start := max s.start t.start
  ⟨start, max start (min s.stop t.stop)⟩

/-- A span of some size has that size. -/
@[simp] theorem size_ofSize (start size : Nat) : (ofSize start size).size = size := by
  simp [ofSize, Span.size]

/-- An address lies in an intersection if it lies in both spans. -/
theorem contains_inter {s t : Span} {address : Nat} :
    (s.inter t).Contains address ↔ s.Contains address ∧ t.Contains address := by
  simp only [inter, Contains]
  omega

end Span

end SharedMemory
