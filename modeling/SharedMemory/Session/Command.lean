import SharedMemory.Kernel.SystemCalls

/-!
# Commands of a session

A session works on objects by name. A command says what to do with which of them, and
under which name to keep what results.
-/

namespace SharedMemory

namespace Session

/-- A requester put together from named credentials. -/
structure Context where
  credentials : String
  pid : Option Pid
  now : Option Instant

/-- Who asks. -/
inductive Asker where
  | context (c : Context)
  | task (name : String)

/-- A registry that stands alone, or the one of an IPC namespace. -/
inductive RegistryName where
  | registry (name : String)
  | ipc (name : String)

/-- An address space that stands alone, or a task's. -/
inductive SpaceName where
  | space (name : String)
  | task (name : String)

/-- A segment or a window. -/
inductive ObjectName where
  | segment (name : String)
  | window (name : String)

/-- A kept request or a kept reference. -/
inductive ReferenceName where
  | request (name : String)
  | reference (name : String)

/-- What an object can be told. -/
inductive Notice where
  | added | removed | copied

/-- The kinds of objects that can be dropped. -/
inductive Droppable where
  | registry | ipc | task | segment | request | reference | space

/-- What to change in a kept request; what is left out stays. -/
structure RequestEdit where
  length : Option Nat
  offset : Option Nat
  address : Option Nat
  fixed : Option Bool
  perms : Option Access
  maxPerms : Option Access

/-- What to do. -/
inductive Command where
  | makeUserNamespace (name parent : String) (owner : Uid) (uidMap gidMap : IdMap)
  /-- Credentials of a user and a group, or of the superuser. -/
  | makeCredentials (name userNs : String) (owner : Option Owner) (groups : List Gid)
      (capabilities : Capabilities)
  | mapIds (userNs : String) (ids : List UInt32)
  | hasCapability (credentials : String) (capability : Capabilities) (userNs : String)
  | inGroups (credentials : String) (groups : List Gid)
  | makePool (name : String) (base frames : Nat)
  | allocate (pool : String) (length : Nat) (name : Option String)
  | release (pool range : String)
  | usedBytes (pool : String)
  | makeRegistry (name userNs pool : String) (limits : Limits)
  | makeNamespace (name userNs pool : String) (limits : Limits)
  | findOrCreate (registry : RegistryName) (asker : Asker) (asked : SegmentRequest)
      (name : Option String)
  | find (registry : RegistryName) (id : Int) (name : Option String)
  | describeRegistry (registry : RegistryName)
  | releaseAll (registry : RegistryName)
  | describeSegment (segment : String)
  | attach (segment : String) (asker : Asker) (address : Nat) (mode : AttachMode)
      (name : Option String)
  | status (segment : String) (asker : Asker)
  | setOwner (segment : String) (asker : Asker) (uid gid : UInt32) (mode : Nat)
  | ownedBy (segment credentials : String)
  | markDestroyed (segment : String)
  | notify (notice : Notice) (object : ObjectName) (asker : Asker) (span : Span) (offset : Nat)
  | locate (object : ObjectName) (required optional : Span) (access : Access)
  | makeWindow (name : String) (base length : Nat) (split refuses : Bool) (copies : Option Nat)
  | describeWindow (window : String)
  | windowRequest (window name : String)
  | editRequest (request : String) (edit : RequestEdit)
  | describeRequest (request : String)
  | cloneReference (source : ReferenceName) (name : Option String)
  | sameObject (first second : String)
  | makeSpace (name : String) (range : Span)
  | mmap (space : SpaceName) (asker : Asker) (request : String)
  | munmap (space : SpaceName) (asker : Asker) (address length : Nat)
  | detach (space : SpaceName) (asker : Asker) (address : Nat)
  | unmapAll (space : SpaceName) (asker : Asker)
  | forkSpace (space : SpaceName) (asker : Asker) (name : String)
  | faultSpace (space : SpaceName) (address : Nat) (access : Access)
  | overlaps (space : SpaceName) (address length : Nat)
  | findArea (space : SpaceName) (address : Nat)
  | resolve (space : SpaceName) (address : Nat)
  | describeSpace (space : SpaceName)
  | makeClock (name : String) (start : Option Instant)
  | tick (clock : String) (reset advance : Option Instant)
  | makeTask (name : String) (pid : Pid) (credentials ipc clock : String) (range : Span)
  | describeTask (task : String)
  | shmget (task : String) (key : Int) (size : Nat) (flags : FlagWord)
  | shmat (task : String) (id : Int) (address : Nat) (flags : FlagWord)
  | shmdt (task : String) (address : Nat)
  | shmctl (task : String) (id code : Int) (buffer : ControlBuffer)
  | forkTask (task name : String) (pid : Pid)
  | exit (task : String)
  | fault (task : String) (address : Nat) (access : Access)
  | raiseSignal (task : String) (signal : UInt32)
  | takeSignal (task : String)
  | drop (kind : Droppable) (name : String)

end Session

end SharedMemory
