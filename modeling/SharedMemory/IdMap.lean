/-!
# Identifier maps

A user namespace renames user and group identifiers. Its map is a list of extents,
each of which carries a run of identifiers inside the namespace to a run of kernel
identifiers. The first extent that holds an identifier decides.
-/

namespace SharedMemory

/-- A user as the kernel knows it. -/
structure Uid where
  val : UInt32
deriving DecidableEq

/-- A group as the kernel knows it. -/
structure Gid where
  val : UInt32
deriving DecidableEq

/-- The sum of two identifiers, if it is an identifier. -/
def addId? (a b : UInt32) : Option UInt32 :=
  if a.toNat + b.toNat < UInt32.size then some (a + b) else none

/-- The identifiers `first`, …, `first + length - 1` of a namespace stand for the
kernel identifiers `firstKernel`, …, `firstKernel + length - 1`. -/
structure Extent where
  first : UInt32
  firstKernel : UInt32
  length : UInt32
deriving DecidableEq

namespace Extent

/-- The kernel identifier that an identifier of the namespace stands for. -/
def toKernel? (e : Extent) (id : UInt32) : Option UInt32 :=
  if e.first ≤ id ∧ id - e.first < e.length then addId? e.firstKernel (id - e.first) else none

/-- The identifier of the namespace that stands for a kernel identifier. -/
def ofKernel? (e : Extent) (id : UInt32) : Option UInt32 :=
  if e.firstKernel ≤ id ∧ id - e.firstKernel < e.length then addId? e.first (id - e.firstKernel)
  else none

end Extent

/-- A list of extents. -/
structure IdMap where
  extents : List Extent
deriving DecidableEq

namespace IdMap

/-- The identifier shown in place of one that has no name in a namespace. -/
def overflowId : UInt32 := 65534

/-- Every identifier but the largest stands for itself. -/
def identity : IdMap := ⟨[⟨0, 0, 4294967295⟩]⟩

/-- The kernel identifier that an identifier of the namespace stands for. -/
def toKernel? (m : IdMap) (id : UInt32) : Option UInt32 :=
  m.extents.findSome? (·.toKernel? id)

/-- The identifier of the namespace that stands for a kernel identifier, if any does. -/
def ofKernel? (m : IdMap) (id : UInt32) : Option UInt32 :=
  m.extents.findSome? (·.ofKernel? id)

/-- The identifier shown inside the namespace for a kernel identifier. -/
def ofKernel (m : IdMap) (id : UInt32) : UInt32 :=
  (m.ofKernel? id).getD overflowId

end IdMap

end SharedMemory
