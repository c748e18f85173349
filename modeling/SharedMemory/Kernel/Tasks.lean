import SharedMemory.Kernel.Registries
import SharedMemory.Kernel.Spaces

/-!
# Tasks

A task asks in its own name, at the time of its clock. It keeps its IPC namespace alive
and owns its address space; both go with it, in this order.
-/

namespace SharedMemory

/-- The signal for an access to memory that is not mapped so. -/
def segmentationSignal : UInt32 := 11

namespace Clock

/-- The clock stopped at a time. -/
def stoppedAt (t : Instant) : Clock := ⟨UInt64.ofNat t.nanos⟩

/-- The clock after a while. -/
def advance (c : Clock) (amount : Instant) : Clock := ⟨c.nanos + UInt64.ofNat amount.nanos⟩

/-- The time that a clock shows. -/
def now (c : Clock) : Instant := ⟨c.nanos.toNat⟩

end Clock

namespace Kernel

/-- Makes a clock. -/
def makeClock (k : Kernel) (c : Clock) : Handle .clock × Kernel :=
  (k.clocks.fresh, { k with clocks := k.clocks.insert c })

/-- Replaces a clock. -/
def setClock (k : Kernel) (h : Handle .clock) (c : Clock) : Kernel :=
  { k with clocks := k.clocks.set h c }

/-- Makes a task with nothing mapped. -/
def makeTask (k : Kernel) (pid : Pid) (credentials : Credentials) (ipc : Handle .registry)
    (clock : Handle .clock) (range : Span) : Handle .task × Kernel :=
  (k.tasks.fresh,
    { k.require (range.stop < wordSize) .arithmetic with
      tasks := k.tasks.insert ⟨pid, credentials, ipc, clock, .empty range, 0, none⟩ })

/-- A task as it asks for something. -/
def requester? (k : Kernel) (task : Task) : Option Requester :=
  (k.clocks.get? task.clock).map fun clock =>
    ⟨task.credentials, some task.pid, some clock.now⟩

/-- Makes a child of a task with a copy of its mappings, in the same namespaces. -/
def forkTask (t : Handle .task) (childPid : Pid) : KernelM (Handle .task) := do
  let task ← KernelM.orStuck ((← get).tasks.get? t)
  let space ← forkSpaceValue task.space
  modify (·.emit (.forked task.pid childPid))
  let k ← get
  set { k with
    tasks := k.tasks.insert
      { task with pid := childPid, space, minorFaults := 0, signal := none } }
  return k.tasks.fresh

/-- Unmaps everything a task has mapped, in nobody's name. -/
def exitTask (k : Kernel) (t : Handle .task) : Kernel :=
  match k.tasks.get? t with
  | some task => k.unmapAll (.ofTask t) ⟨task.credentials, none, none⟩
  | none => k.halt .dangling

/-- Drops a task: first its hold on the IPC namespace goes, then its address space. -/
def dropTask (k : Kernel) (t : Handle .task) : Kernel :=
  match k.tasks.get? t with
  | some task =>
      ({ k with tasks := k.tasks.erase t }.collectNamespace task.ipc).dropSpaceValue task.space
  | none => k

/-- Leaves a signal for a task. Signal zero takes a pending signal back. -/
def raiseSignal (k : Kernel) (t : Handle .task) (signal : UInt32) : Kernel :=
  match k.tasks.get? t with
  | some task => k.setTask t { task with signal := if signal = 0 then none else some signal }
  | none => k.halt .dangling

/-- Takes the pending signal of a task. -/
def takeSignal (k : Kernel) (t : Handle .task) : Option UInt32 × Kernel :=
  match k.tasks.get? t with
  | some task => (task.signal, k.setTask t { task with signal := none })
  | none => (none, k.halt .dangling)

/-- Counts a page fault of a task. -/
def countFault (k : Kernel) (t : Handle .task) : Kernel :=
  match k.tasks.get? t with
  | some task => k.setTask t { task with minorFaults := task.minorFaults + 1 }
  | none => k.halt .dangling

/-- Handles a page fault of a task. A fault that cannot be resolved leaves a signal. -/
def faultTask (k : Kernel) (t : Handle .task) (address : Nat) (access : Access) : Bool × Kernel :=
  match k.tasks.get? t with
  | none => (false, k.halt .dangling)
  | some task =>
      let (resolved, k') := (k.emit (.faulted address access)).faultSpace (.ofTask t) address access
      if resolved then
        (true, k'.countFault t)
      else
        (false,
          (k'.emit (.segmentationFault task.pid address access)).raiseSignal t segmentationSignal)

end Kernel

end SharedMemory
