import SharedMemory.Credentials
import SharedMemory.Object
import SharedMemory.Text.Numeral
import SharedMemory.Word

/-!
# Shared memory segments

A `Segment` is a run of page frames that tasks map under one identifier. This module
holds what a segment decides by itself: who may access it and who may change it, what
is reported of it and where its bytes are.
-/

namespace SharedMemory

/-- A user and a group that own something. -/
structure Owner where
  uid : Uid
  gid : Gid
deriving DecidableEq

/-- The owner that credentials stand for. -/
def Credentials.owner (c : Credentials) : Owner := ⟨c.uid, c.gid⟩

/-- Where a segment is in its life. -/
inductive Lifetime where
  /-- It stays, whether it is mapped or not. -/
  | active
  /-- It was removed and goes as soon as nothing refers to it. -/
  | pending
deriving DecidableEq

/-- How a lifetime is written. -/
def Lifetime.describe : Lifetime → String
  | active => "Active"
  | pending => "PendingDestruction"

/-- The key of segments that cannot be found by key. -/
def privateKey : Int := 0

/-- The device number shown for every mapping of a segment. -/
def segmentDevice : Nat := 0x100000000

/-- The mode bit that shows a segment is waiting for its destruction. -/
def destructionBit : Nat := 512

/-- A shared memory segment. -/
structure Segment where
  /-- The registry that made the segment. -/
  registry : Handle .registry
  /-- The pool that the backing was taken from. -/
  pool : Handle .pool
  /-- The namespace whose capabilities override permission checks. -/
  userNs : UserNamespace
  id : Int
  key : Int
  creator : Owner
  creatorPid : Pid
  /-- The number of bytes asked for. -/
  size : Nat
  /-- The memory behind the segment, a whole number of pages. -/
  backing : Span
  /-- The number of references to the segment. -/
  attachCount : Nat
  lifetime : Lifetime
  /-- The backing was given back. -/
  destroyed : Bool
  perms : Permissions
  owner : Owner
  attachTime : Instant
  detachTime : Instant
  changeTime : Instant
  /-- The last process that attached or detached the segment. -/
  lastPid : Pid

/-- How a segment is to be attached. -/
structure AttachMode where
  readOnly : Bool
  execute : Bool
  /-- Take the address exactly and replace what is mapped there. -/
  fixed : Bool

/-- The rights that an attachment asks for. -/
def AttachMode.access (m : AttachMode) : Access := ⟨true, !m.readOnly, m.execute⟩

/-- What is reported of a segment. Owners are named in the namespace of whoever asks. -/
structure SegmentStatus where
  key : Int
  uid : UInt32
  gid : UInt32
  creatorUid : UInt32
  creatorGid : UInt32
  mode : Nat
  sequence : Nat
  size : Nat
  attachTime : Int
  detachTime : Int
  changeTime : Int
  creatorPid : Int
  lastPid : Int
  attachCount : Nat

/-- A report without content. -/
def SegmentStatus.blank : SegmentStatus := ⟨0, 0, 0, 0, 0, 0, 0, 0, 0, 0, 0, 0, 0, 0⟩

namespace Segment

/-- The size of the backing. -/
def effectiveSize (g : Segment) : Nat := g.backing.size

/-- The number of pages of the backing. -/
def pages (g : Segment) : Nat := g.effectiveSize / pageSize

/-- The rights that the permissions give to credentials: the owner's, else the
group's, else everybody's. -/
def rightsOf (g : Segment) (c : Credentials) : Access :=
  if g.owner.uid = c.uid then g.perms.user
  else if c.inGroup g.owner.gid then g.perms.group
  else g.perms.other

/-- Whether credentials may access the segment so: by its permissions or by the
capability to pass them. -/
def permits (g : Segment) (c : Credentials) (asked : Access) : Bool :=
  (g.rightsOf c).allows asked || c.hasCapabilityIn .ipcOwner g.userNs

/-- Whether credentials may act as an owner: those of the owner, of the creator, or of
an administrator. -/
def ownedBy (g : Segment) (c : Credentials) : Bool :=
  g.owner.uid = c.uid || g.creator.uid = c.uid || c.hasCapabilityIn .sysAdmin g.userNs

/-- Notes who attached the segment, and when, as far as that is known. -/
def noteAttach (g : Segment) (q : Requester) : Segment :=
  { g with attachTime := q.now.getD g.attachTime, lastPid := q.pid.getD g.lastPid }

/-- Notes who detached the segment, and when, as far as that is known. -/
def noteDetach (g : Segment) (q : Requester) : Segment :=
  { g with detachTime := q.now.getD g.detachTime, lastPid := q.pid.getD g.lastPid }

/-- What is reported of the segment to someone who may read it. -/
def status (g : Segment) (c : Credentials) : Except Errno SegmentStatus :=
  if g.permits c .readOnly then
    .ok {
      key := g.key
      uid := c.userNs.ofUid g.owner.uid
      gid := c.userNs.ofGid g.owner.gid
      creatorUid := c.userNs.ofUid g.creator.uid
      creatorGid := c.userNs.ofGid g.creator.gid
      mode := g.perms.toMode + if g.lifetime = .pending then destructionBit else 0
      sequence := 0
      size := g.size
      attachTime := signed 64 g.attachTime.seconds
      detachTime := signed 64 g.detachTime.seconds
      changeTime := signed 64 g.changeTime.seconds
      creatorPid := signed 32 g.creatorPid.toNat
      lastPid := signed 32 g.lastPid.toNat
      attachCount := g.attachCount }
  else
    .error .eacces

/-- Gives the segment a new owner, named in the requester's namespace, and new
permissions. -/
def setOwner (g : Segment) (q : Requester) (uid gid : UInt32) (mode : Nat) :
    Except Errno Segment :=
  if g.ownedBy q.credentials then
    match q.credentials.userNs.toUid? uid, q.credentials.userNs.toGid? gid with
    | some uid, some gid =>
        .ok { g with
          perms := .ofMode mode
          owner := ⟨uid, gid⟩
          changeTime := q.now.getD g.changeTime }
    | _, _ => .error .einval
  else
    .error .eperm

/-- Finds as much of `optional` as the segment has, and fails if it does not have all
of `required`. -/
def locate (g : Segment) (required optional : Span) : Resolution :=
  let source := optional.inter ⟨0, g.effectiveSize⟩
  { locations :=
      if source.isEmpty then [] else [⟨source, g.backing, g.backing.start + source.start⟩]
    failure := if g.effectiveSize < required.stop then some .efault else none }

/-- What is shown of the segment behind a mapping. -/
def identity (g : Segment) : Identity where
  name := "SYSV" ++ Text.zeroPadded 8 g.key
  device := segmentDevice
  inode := (g.id % wordSize).toNat

/-- How a segment is written. -/
def describe (g : Segment) : String :=
  "Shm \x7b id: " ++ Text.decimal g.id ++ ", key: " ++ Text.decimal g.key ++
    ", size: " ++ Text.decimal g.size ++ ", effective_size: " ++ Text.decimal g.effectiveSize ++
    ", mappings: " ++ Text.decimal g.attachCount ++ " \x7d"

end Segment

end SharedMemory
