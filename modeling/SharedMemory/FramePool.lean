import SharedMemory.Errno
import SharedMemory.Span
import SharedMemory.Word

/-!
# Page frames

A `FramePool` is a region of page frames that are handed out in contiguous runs. A
run is taken at the lowest place where it fits.
-/

namespace SharedMemory

/-- Page frames from `base` on, each of which is taken or free. -/
structure FramePool where
  base : Nat
  taken : List Bool
deriving DecidableEq

namespace FramePool

/-- A pool of free frames. -/
def free (base frames : Nat) : FramePool := ⟨base, List.replicate frames false⟩

/-- The memory that the pool manages. -/
def region (p : FramePool) : Span := .ofSize p.base (p.taken.length * pageSize)

/-- The number of bytes handed out. -/
def usedBytes (p : FramePool) : Nat := p.taken.count true * pageSize

/-- For each frame the number of free frames from there on. -/
def freeRuns (taken : List Bool) : List Nat :=
  taken.foldr (fun busy runs => (if busy then 0 else runs.headD 0 + 1) :: runs) []

/-- The lowest frame from which `count` frames are free. -/
def firstFit? (p : FramePool) (count : Nat) : Option Nat :=
  (freeRuns p.taken).findIdx? (count ≤ ·)

/-- Makes the `count` frames from `first` on all taken or all free. -/
def mark (p : FramePool) (first count : Nat) (busy : Bool) : FramePool :=
  { p with taken := p.taken.mapIdx fun i old =>
      if first ≤ i ∧ i < first + count then busy else old }

/-- Marking frames leaves their number. -/
@[simp] theorem length_taken_mark (p : FramePool) (first count : Nat) (busy : Bool) :
    (p.mark first count busy).taken.length = p.taken.length := by
  simp [mark]

/-- What marking does to each frame. -/
theorem getElem?_taken_mark (p : FramePool) (first count : Nat) (busy : Bool) (i : Nat) :
    (p.mark first count busy).taken[i]? =
      p.taken[i]?.map fun old => if first ≤ i ∧ i < first + count then busy else old := by
  simp [mark]

/-- Takes the lowest run of free frames that holds `length` bytes, a positive number
of whole pages. -/
def allocate (p : FramePool) (length : Nat) : Except Errno (Span × FramePool) :=
  if length = 0 ∨ ¬ PageAligned length then
    .error .einval
  else
    match p.firstFit? (length / pageSize) with
    | none => .error .enomem
    | some first =>
        .ok (.ofSize (p.base + first * pageSize) length, p.mark first (length / pageSize) true)

/-- Gives frames back. -/
def release (p : FramePool) (s : Span) : FramePool :=
  p.mark ((s.start - p.base) / pageSize) (s.size / pageSize) false

end FramePool

end SharedMemory
