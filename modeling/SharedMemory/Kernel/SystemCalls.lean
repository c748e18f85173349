import SharedMemory.Kernel.Tasks

/-!
# System calls

The four calls by which a task gets, attaches, detaches and controls segments.
-/

namespace SharedMemory

/-- The buffer that a control call passes, by the kind of what it holds. -/
inductive ControlBuffer where
  | null
  | status (status : SegmentStatus)
  | limits (report : LimitsReport)
  | usage (report : UsageReport)

/-- What a control call asks for. -/
inductive ControlCommand where
  | remove | set | stat | lock | unlock | limits | usage
  | unsupported (code : Int)
deriving DecidableEq

/-- The command with a number. -/
def ControlCommand.ofCode (code : Int) : ControlCommand :=
  if code = 0 then .remove
  else if code = 1 then .set
  else if code = 2 then .stat
  else if code = 3 then .limits
  else if code = 11 then .lock
  else if code = 12 then .unlock
  else if code = 14 then .usage
  else .unsupported code

namespace Kernel

/-- A task together with how it asks for something. -/
def caller (t : Handle .task) : KernelM (Task × Requester) := do
  let k ← get
  let task ← KernelM.orStuck (k.tasks.get? t)
  let q ← KernelM.orStuck (k.requester? task)
  return (task, q)

/-- Notes that a segment is asked for, and which flags have no effect. -/
def noteGet (key : Int) (size : Nat) (flagWord : FlagWord) : KernelM Unit := do
  modify (·.emit (.getCalled key size flagWord))
  let flags := GetFlags.ofWord flagWord
  if flags.hugePages || flags.noReserve then
    modify (·.emit (.getIgnored flags))

/-- Finds or makes a segment; the answer is its identifier. -/
def shmget (t : Handle .task) (key : Int) (size : Nat) (flagWord : FlagWord) : KernelM Int := do
  noteGet key size flagWord
  let flags := GetFlags.ofWord flagWord
  let (task, q) ← caller t
  let s ← findOrCreate task.ipc q {
    key, size
    mode := flagWord.mode
    isPrivate := key = privateKey
    create := flags.create
    exclusive := flags.exclusive }
  let g ← KernelM.orStuck ((← get).segments.get? s)
  return g.id

/-- The segment with an identifier in a task's IPC namespace. -/
def findSegment (task : Task) (id : Int) : KernelM (Handle .segment) := do
  let registry ← KernelM.orStuck ((← get).registries.get? task.ipc)
  KernelM.orRefuse (registry.find? id) .einval

/-- The address that an attachment asks for, rounded down to a page if the flags say so.
Zero leaves the choice open and does not go with replacing what is mapped. -/
def attachAddress (address : Nat) (flags : AttachFlags) : Except Errno Nat :=
  if ¬ PageAligned address ∧ flags.round = false then .error .einval
  else if pageDown address = 0 ∧ flags.remap = true then .error .einval
  else .ok (pageDown address)

/-- Attaches a segment; the answer is the address, as a signed number. An address that is
asked for is taken exactly. -/
def shmat (t : Handle .task) (id : Int) (address : Nat) (flagWord : FlagWord) : KernelM Int := do
  modify (·.emit (.attachCalled id address flagWord))
  let flags := AttachFlags.ofWord flagWord
  let start ← KernelM.ofExcept (attachAddress address flags)
  let (task, q) ← caller t
  let s ← findSegment task id
  let g ← KernelM.orStuck ((← get).segments.get? s)
  KernelM.check (¬ (start ≠ 0 ∧ flags.remap = false ∧
    task.space.overlaps start g.effectiveSize = true)) .einval
  let request ← attach s q start ⟨flags.readOnly, flags.execute, decide (start ≠ 0)⟩
  let mapped ← mmap (.ofTask t) q request
  modify (·.emit (.attached id mapped))
  return signed 64 mapped

/-- Detaches the segment that is attached at an address. -/
def shmdt (t : Handle .task) (address : Nat) : KernelM Int := do
  modify (·.emit (.detachCalled address))
  let (_, q) ← caller t
  detach (.ofTask t) q address
  return 0

/-- The commands of a control call that concern one segment. The answer is the buffer
afterwards. -/
def controlSegment (command : ControlCommand) (s : Handle .segment) (q : Requester)
    (buffer : ControlBuffer) : KernelM ControlBuffer := do
  match command with
  | .stat =>
      let status ← segmentStatus s q
      match buffer with
      | .status _ => return .status status
      | _ => throw .efault
  | .set =>
      match buffer with
      | .status wanted =>
          setSegmentOwner s q wanted.uid wanted.gid wanted.mode
          return buffer
      | _ => throw .efault
  | .remove =>
      let g ← KernelM.orStuck ((← get).segments.get? s)
      KernelM.check (g.ownedBy q.credentials) .eperm
      modify (·.markDestroyed s)
      return buffer
  | .lock | .unlock | .limits | .usage => return buffer
  | .unsupported code =>
      modify (·.emit (.controlUnsupported code))
      throw .einval

/-- Controls a segment or reports on all of them; the answer is the buffer afterwards. -/
def shmctl (t : Handle .task) (id code : Int) (buffer : ControlBuffer) : KernelM ControlBuffer := do
  modify (·.emit (.controlCalled id code))
  let (task, q) ← caller t
  let registry ← KernelM.orStuck ((← get).registries.get? task.ipc)
  match ControlCommand.ofCode code, buffer with
  | .limits, .limits _ => return .limits registry.limitsReport
  | .limits, _ => throw .efault
  | .usage, .usage _ => return .usage registry.usageReport
  | .usage, _ => throw .efault
  | command, _ =>
      let s ← findSegment task id
      controlSegment command s q buffer

end Kernel

end SharedMemory
