import SharedMemory.UserNamespace

/-!
# Credentials and requesters

`Credentials` are what permission checks see of a task. A `Requester` adds which
process asks and when, as far as that is known.
-/

namespace SharedMemory

/-- A set of capabilities; bit `n` is capability number `n`. -/
structure Capabilities where
  bits : UInt64
deriving DecidableEq

namespace Capabilities

/-- No capability. -/
def empty : Capabilities := ⟨0⟩

/-- The right to lock memory. -/
def ipcLock : Capabilities := ⟨0x4000⟩

/-- The right to pass permission checks on segments. -/
def ipcOwner : Capabilities := ⟨0x8000⟩

/-- The right to administer the system. -/
def sysAdmin : Capabilities := ⟨0x200000⟩

/-- The capabilities of either set. -/
def union (a b : Capabilities) : Capabilities := ⟨a.bits ||| b.bits⟩

/-- Every capability that is known here. -/
def all : Capabilities := (ipcLock.union ipcOwner).union sysAdmin

/-- Every capability of `b` is in `a`. -/
def Includes (a b : Capabilities) : Prop := a.bits &&& b.bits = b.bits

instance (a b : Capabilities) : Decidable (a.Includes b) :=
  inferInstanceAs (Decidable (_ = _))

end Capabilities

/-- The identity that permission checks look at. -/
structure Credentials where
  uid : Uid
  gid : Gid
  /-- The supplementary groups. -/
  groups : List Gid
  capabilities : Capabilities
  userNs : UserNamespace
deriving DecidableEq

namespace Credentials

/-- A user and a group without privileges. -/
def plain (uid : Uid) (gid : Gid) (userNs : UserNamespace) : Credentials :=
  ⟨uid, gid, [], .empty, userNs⟩

/-- User zero with every capability in the namespace. -/
def superuser (userNs : UserNamespace) : Credentials :=
  ⟨⟨0⟩, ⟨0⟩, [], .all, userNs⟩

/-- Adds supplementary groups. -/
def withGroups (c : Credentials) (groups : List Gid) : Credentials :=
  { c with groups := c.groups ++ groups }

/-- Adds capabilities. -/
def withCapabilities (c : Credentials) (capabilities : Capabilities) : Credentials :=
  { c with capabilities := c.capabilities.union capabilities }

/-- Membership in a group, the primary one included. -/
def inGroup (c : Credentials) (gid : Gid) : Bool := c.gid = gid || c.groups.contains gid

/-- Whether the credentials hold a capability in a namespace. What is held in a
namespace holds in all below it, and a namespace's owner holds everything in it when
living in the namespace around it. -/
def hasCapabilityIn (c : Credentials) (capability : Capabilities) : UserNamespace → Bool
  | .initial =>
      c.userNs = .initial && decide (c.capabilities.Includes capability)
  | .child serial parent owner uidMap gidMap =>
      if c.userNs = .child serial parent owner uidMap gidMap then
        decide (c.capabilities.Includes capability)
      else if c.userNs = parent && c.uid = owner then
        true
      else
        c.hasCapabilityIn capability parent

end Credentials

/-- The number of a process. -/
abbrev Pid := UInt32

/-- A point in time, in nanoseconds. -/
structure Instant where
  nanos : Nat
deriving DecidableEq

namespace Instant

/-- The time before any event. -/
def zero : Instant := ⟨0⟩

/-- The number of nanoseconds in a second. -/
def nanosPerSecond : Nat := 1000000000

/-- The time of whole seconds and further nanoseconds. -/
def ofParts (seconds nanos : Nat) : Instant := ⟨seconds * nanosPerSecond + nanos⟩

/-- The whole seconds. -/
def seconds (t : Instant) : Nat := t.nanos / nanosPerSecond

/-- The nanoseconds past the last whole second. -/
def subsecond (t : Instant) : Nat := t.nanos % nanosPerSecond

end Instant

/-- Who asks, and when. Process and time are missing when no process asks, as in the
teardown of an exiting task. -/
structure Requester where
  credentials : Credentials
  pid : Option Pid
  now : Option Instant

end SharedMemory
