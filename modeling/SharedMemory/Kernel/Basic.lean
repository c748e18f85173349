import SharedMemory.AddressSpace.Basic
import SharedMemory.Event
import SharedMemory.FramePool
import SharedMemory.Registry
import SharedMemory.Segment
import SharedMemory.Window

/-!
# The kernel's state

The `Kernel` holds every live object in the slot of its handle, together with the log.
Operations that can be refused run in `KernelM`; what they changed before the refusal
stays changed.

A `Fault` is noted when something happens that must not: arithmetic leaves the machine
word, a reference is given back that was never taken, a span is turned around, or a handle
names nothing. The kernel halts at the first fault; what the state holds after that means
nothing.
-/

namespace SharedMemory

/-- A clock that moves when told to, and wraps around. -/
structure Clock where
  nanos : UInt64

/-- A process: who it is, which segments it sees and what it has mapped. -/
structure Task where
  pid : Pid
  credentials : Credentials
  /-- The registry of the task's IPC namespace. -/
  ipc : Handle .registry
  clock : Handle .clock
  space : AddressSpace
  /-- The page faults that were resolved. -/
  minorFaults : Nat
  /-- The signal to be delivered next. -/
  signal : Option UInt32

/-- Whose address space is meant: one that stands alone, or a task's. -/
inductive SpaceRef where
  | alone (id : Handle .space)
  | ofTask (id : Handle .task)
deriving DecidableEq

/-- What must not happen. -/
inductive Fault where
  /-- Arithmetic leaves the machine word, or a span is turned around. -/
  | arithmetic
  /-- A reference is given back that was never taken. -/
  | overdrawn
  /-- A registry gives up pages that it does not count. -/
  | uncounted
  /-- A handle names nothing. -/
  | dangling
deriving DecidableEq

/-- All live objects. -/
structure Kernel where
  pools : Slots .pool FramePool := {}
  /-- Every segment made so far, also after its destruction. -/
  segments : Slots .segment Segment := {}
  registries : Slots .registry Registry := {}
  windows : Slots .window Window := {}
  /-- The address spaces that belong to no task. -/
  spaces : Slots .space AddressSpace := {}
  /-- The map requests that wait to be used. -/
  requests : Slots .request MapRequest := {}
  /-- The references held on their own. -/
  references : Slots .reference Object := {}
  clocks : Slots .clock Clock := {}
  tasks : Slots .task Task := {}
  /-- How many user namespaces were made below the initial one. -/
  userNamespaces : Nat := 0
  /-- The log, the latest event first. -/
  log : List Event := []
  /-- What happened that must not, the latest first. -/
  faults : List Fault := []

/-- Operations that can be refused. A refusal keeps the changes made before it. -/
abbrev KernelM := EStateM Errno Kernel

namespace Kernel

/-- Notes an event in the log. -/
def emit (k : Kernel) (e : Event) : Kernel := { k with log := e :: k.log }

/-- What was noted in the log since an earlier state, the earliest event first. -/
def logSince (k earlier : Kernel) : List Event :=
  (k.log.take (k.log.length - earlier.log.length)).reverse

/-- Notes a fault. -/
def halt (k : Kernel) (cause : Fault) : Kernel := { k with faults := cause :: k.faults }

/-- Whether something happened that must not. -/
def halted (k : Kernel) : Bool := !k.faults.isEmpty

/-- Halts unless a condition holds. -/
def require (k : Kernel) (condition : Prop) [Decidable condition] (cause : Fault) : Kernel :=
  if condition then k else k.halt cause

/-- Replaces a segment. -/
def setSegment (k : Kernel) (s : Handle .segment) (g : Segment) : Kernel :=
  { k with segments := k.segments.set s g }

/-- Replaces a registry. -/
def setRegistry (k : Kernel) (r : Handle .registry) (registry : Registry) : Kernel :=
  { k with registries := k.registries.set r registry }

/-- Replaces a window. -/
def setWindow (k : Kernel) (w : Handle .window) (window : Window) : Kernel :=
  { k with windows := k.windows.set w window }

/-- Replaces a frame pool. -/
def setPool (k : Kernel) (p : Handle .pool) (pool : FramePool) : Kernel :=
  { k with pools := k.pools.set p pool }

/-- Replaces a task. -/
def setTask (k : Kernel) (t : Handle .task) (task : Task) : Kernel :=
  { k with tasks := k.tasks.set t task }

/-- The address space that is meant. -/
def space? (k : Kernel) : SpaceRef → Option AddressSpace
  | .alone id => k.spaces.get? id
  | .ofTask id => (k.tasks.get? id).map (·.space)

/-- Replaces the address space that is meant. -/
def setSpace (k : Kernel) (a : AddressSpace) : SpaceRef → Kernel
  | .alone id => { k with spaces := k.spaces.set id a }
  | .ofTask id =>
      match k.tasks.get? id with
      | some task => k.setTask id { task with space := a }
      | none => k

/-- What is shown of an object behind a mapping. -/
def identity? (k : Kernel) : Object → Option Identity
  | .segment s => (k.segments.get? s).map (·.identity)
  | .window w => (k.windows.get? w).map (·.identity)

/-- Makes a user namespace nested in another. -/
def makeUserNamespace (k : Kernel) (parent : UserNamespace) (owner : Uid) (uidMap gidMap : IdMap) :
    UserNamespace × Kernel :=
  (.child k.userNamespaces parent owner uidMap gidMap,
    { k with userNamespaces := k.userNamespaces + 1 })

end Kernel

namespace KernelM

/-- A step that is never reached. -/
def stuck {α : Type} : KernelM α := fun k => .error .efault (k.halt .dangling)

/-- A value that is there, or else a refusal. -/
def orRefuse {α : Type} (value : Option α) (cause : Errno) : KernelM α :=
  match value with
  | some a => pure a
  | none => throw cause

/-- A value that is always there. -/
def orStuck {α : Type} (value : Option α) : KernelM α :=
  match value with
  | some a => pure a
  | none => stuck

/-- A result as it was computed. -/
def ofExcept {α : Type} (result : Except Errno α) : KernelM α :=
  match result with
  | .ok a => pure a
  | .error cause => throw cause

/-- Refuses unless a condition holds. -/
def check (condition : Prop) [Decidable condition] (cause : Errno) : KernelM Unit :=
  if condition then pure () else throw cause

end KernelM

end SharedMemory
