import SharedMemory.Text.FlagSet

/-!
# Flag words of the system calls

Each call takes a signed word of flags. Bits that have no meaning to the call are
ignored.
-/

namespace SharedMemory

/-- A word of flags as the caller passes it. -/
structure FlagWord where
  word : Int32

namespace FlagWord

/-- The bits of the word as a number. -/
def bits (f : FlagWord) : Nat := f.word.toUInt32.toNat

/-- The permission bits that a request for a segment carries. -/
def mode (f : FlagWord) : Nat := f.bits % 512

end FlagWord

/-- How a segment is looked up or made. -/
structure GetFlags where
  /-- Make the segment if no segment has the key. -/
  create : Bool
  /-- With `create`: refuse if a segment has the key. -/
  exclusive : Bool
  /-- Ask for huge pages. Accepted and ignored. -/
  hugePages : Bool
  /-- Ask for no swap to be reserved. Accepted and ignored. -/
  noReserve : Bool

namespace GetFlags

/-- Reads the flags from bit 9 on. -/
def ofWord (f : FlagWord) : GetFlags where
  create := f.bits.testBit 9
  exclusive := f.bits.testBit 10
  hugePages := f.bits.testBit 11
  noReserve := f.bits.testBit 12

/-- The flags as a number. -/
def bits (f : GetFlags) : Nat :=
  512 * f.create.toNat + 1024 * f.exclusive.toNat + 2048 * f.hugePages.toNat +
    4096 * f.noReserve.toNat

/-- How the flags are written. -/
def describe (f : GetFlags) : String :=
  Text.flagSet "ShmGetFlags"
    [("IPC_CREAT", f.create), ("IPC_EXCL", f.exclusive), ("SHM_HUGETLB", f.hugePages),
      ("SHM_NORESERVE", f.noReserve)]

end GetFlags

/-- How a segment is attached. -/
structure AttachFlags where
  /-- Attach without the right to write. -/
  readOnly : Bool
  /-- Round the address down to a page. -/
  round : Bool
  /-- Replace what is mapped at the address. -/
  remap : Bool
  /-- Attach with the right to execute. -/
  execute : Bool

namespace AttachFlags

/-- Reads the flags from bit 12 on. -/
def ofWord (f : FlagWord) : AttachFlags where
  readOnly := f.bits.testBit 12
  round := f.bits.testBit 13
  remap := f.bits.testBit 14
  execute := f.bits.testBit 15

/-- The flags as a number. -/
def bits (f : AttachFlags) : Nat :=
  4096 * f.readOnly.toNat + 8192 * f.round.toNat + 16384 * f.remap.toNat +
    32768 * f.execute.toNat

/-- How the flags are written. -/
def describe (f : AttachFlags) : String :=
  Text.flagSet "ShmAtFlags"
    [("SHM_RDONLY", f.readOnly), ("SHM_RND", f.round), ("SHM_REMAP", f.remap),
      ("SHM_EXEC", f.execute)]

end AttachFlags

end SharedMemory
