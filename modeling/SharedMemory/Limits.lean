import SharedMemory.Word

/-!
# Limits on segments
-/

namespace SharedMemory

/-- What a registry allows. -/
structure Limits where
  /-- The smallest size of a segment, in bytes. -/
  minSize : Nat := 1
  /-- The largest size of a segment, in bytes. -/
  maxSize : Nat := maxWord - 0x1000000
  /-- The largest number of segments. -/
  maxSegments : Nat := 4096
  /-- The largest number of pages of all segments together. -/
  maxTotalPages : Nat := maxWord - 0x1000000
  /-- The largest number of attachments of one process. Reported and not enforced. -/
  maxAttach : Nat := 4096
  /-- The largest identifier of a segment; the smallest is zero. -/
  maxId : Int := 0x7fffffff

end SharedMemory
