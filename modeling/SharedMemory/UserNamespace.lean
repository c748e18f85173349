import SharedMemory.IdMap

/-!
# User namespaces

User namespaces form a tree under the initial one. A namespace is a value that
carries its whole line of ancestors; a serial number keeps apart namespaces that
were made alike.
-/

namespace SharedMemory

/-- A scope for capabilities with its own names for users and groups. -/
inductive UserNamespace where
  /-- The namespace in which every identifier is a kernel identifier. -/
  | initial
  /-- A namespace nested in `parent` and owned by a user. -/
  | child (serial : Nat) (parent : UserNamespace) (owner : Uid) (uidMap gidMap : IdMap)
deriving DecidableEq

namespace UserNamespace

/-- The namespace around this one. -/
def parent? : UserNamespace → Option UserNamespace
  | initial => none
  | child _ parent _ _ _ => some parent

/-- The user that owns the namespace. -/
def owner : UserNamespace → Uid
  | initial => ⟨0⟩
  | child _ _ owner _ _ => owner

/-- The names of users in the namespace. -/
def uidMap : UserNamespace → IdMap
  | initial => .identity
  | child _ _ _ uidMap _ => uidMap

/-- The names of groups in the namespace. -/
def gidMap : UserNamespace → IdMap
  | initial => .identity
  | child _ _ _ _ gidMap => gidMap

/-- The user that goes by `id` in the namespace. -/
def toUid? (ns : UserNamespace) (id : UInt32) : Option Uid :=
  (ns.uidMap.toKernel? id).map Uid.mk

/-- The group that goes by `id` in the namespace. -/
def toGid? (ns : UserNamespace) (id : UInt32) : Option Gid :=
  (ns.gidMap.toKernel? id).map Gid.mk

/-- The name of a user in the namespace. -/
def ofUid (ns : UserNamespace) (uid : Uid) : UInt32 := ns.uidMap.ofKernel uid.val

/-- The name of a group in the namespace. -/
def ofGid (ns : UserNamespace) (gid : Gid) : UInt32 := ns.gidMap.ofKernel gid.val

end UserNamespace

end SharedMemory
