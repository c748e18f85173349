import SharedMemory.Text.FlagSet

/-!
# Access rights

An `Access` is a set of the rights to read, write and execute. The `Permissions` of
a segment hold one such set for its owner, one for the owning group and one for
everybody else, packed in the low nine bits of a mode.
-/

namespace SharedMemory

/-- A set of rights. -/
structure Access where
  read : Bool
  write : Bool
  execute : Bool
deriving DecidableEq

namespace Access

/-- Every right. -/
def all : Access := ⟨true, true, true⟩

/-- The right to read and no other. -/
def readOnly : Access := ⟨true, false, false⟩

/-- The rights to read and to write. -/
def readWrite : Access := ⟨true, true, false⟩

/-- Reads the three low bits: read is 4, write is 2, execute is 1. -/
def ofBits (bits : Nat) : Access :=
  ⟨bits.testBit 2, bits.testBit 1, bits.testBit 0⟩

/-- The rights as a number below 8. -/
def bits (a : Access) : Nat :=
  4 * a.read.toNat + 2 * a.write.toNat + a.execute.toNat

/-- Every right of `asked` is a right of `a`. -/
def allows (a asked : Access) : Bool :=
  (a.read || !asked.read) && (a.write || !asked.write) && (a.execute || !asked.execute)

/-- How a set of rights is written. -/
def describe (a : Access) : String :=
  Text.flagSet "AccessType" [("READ", a.read), ("WRITE", a.write), ("EXECUTE", a.execute)]

/-- A set of rights allows itself. -/
@[simp] theorem allows_refl (a : Access) : a.allows a = true := by
  rcases a with ⟨read, write, execute⟩
  cases read <;> cases write <;> cases execute <;> rfl

/-- What is allowed by allowed rights is allowed. -/
theorem allows_trans {a b c : Access} (outer : a.allows b = true) (inner : b.allows c = true) :
    a.allows c = true := by
  simp only [allows, Bool.and_eq_true, Bool.or_eq_true, Bool.not_eq_true'] at *
  grind

/-- A set of rights is read back from its bits. -/
@[simp] theorem ofBits_bits (a : Access) : ofBits a.bits = a := by
  rcases a with ⟨read, write, execute⟩
  cases read <;> cases write <;> cases execute <;> rfl

end Access

/-- The rights of the owner, of the owning group and of everybody else. -/
structure Permissions where
  user : Access
  group : Access
  other : Access
deriving DecidableEq

namespace Permissions

/-- Reads the low nine bits of a mode. -/
def ofMode (mode : Nat) : Permissions :=
  ⟨Access.ofBits (mode >>> 6), Access.ofBits (mode >>> 3), Access.ofBits mode⟩

/-- The permissions as a mode of nine bits. -/
def toMode (p : Permissions) : Nat :=
  64 * p.user.bits + 8 * p.group.bits + p.other.bits

/-- The rights a mode asks for when a segment is looked up: those of any of its
three sets. -/
def requested (mode : Nat) : Access :=
  Access.ofBits (mode >>> 6 ||| mode >>> 3 ||| mode)

/-- How permissions are written. -/
def describe (p : Permissions) : String :=
  "FilePermissions \x7b user: " ++ p.user.describe ++ ", group: " ++ p.group.describe ++
    ", other: " ++ p.other.describe ++ " \x7d"

/-- Permissions are read back from their mode. -/
@[simp] theorem ofMode_toMode (p : Permissions) : ofMode p.toMode = p := by
  rcases p with ⟨⟨ur, uw, ux⟩, ⟨gr, gw, gx⟩, ⟨or, ow, ox⟩⟩
  revert ur uw ux gr gw gx or ow ox
  decide

end Permissions

end SharedMemory
