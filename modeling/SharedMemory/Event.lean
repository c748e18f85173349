import SharedMemory.Access
import SharedMemory.Errno
import SharedMemory.Flags
import SharedMemory.Credentials
import SharedMemory.Span
import SharedMemory.Text.Numeral

/-!
# Events

What the kernel notes in its log, and how each note is written.
-/

namespace SharedMemory

/-- The weight of an event. -/
inductive Level where
  | trace | debug | warn
deriving DecidableEq

/-- How a level is written. -/
def Level.describe : Level → String
  | trace => "TRACE"
  | debug => "DEBUG"
  | warn => "WARN"

/-- Something worth a line in the log. -/
inductive Event where
  | framesTaken (span : Span)
  | framesReleased (span : Span)
  | idsExhausted
  | segmentCreated (id key : Int) (size pages : Nat)
  | segmentDestroyed (id : Int) (backing : Span)
  | attachedWithoutPid (id : Int)
  | detachedWithoutPid (id : Int)
  | mapped (span : Span) (name : String) (perms : Access)
  | unmapped (span : Span)
  | faultUnresolved (address : Nat) (cause : Errno)
  | spaceDropped (areas : Nat)
  | forked (parent child : Pid)
  | faulted (address : Nat) (access : Access)
  | segmentationFault (pid : Pid) (address : Nat) (access : Access)
  | getCalled (key : Int) (size : Nat) (flags : FlagWord)
  | getIgnored (flags : GetFlags)
  | attachCalled (id : Int) (address : Nat) (flags : FlagWord)
  | attached (id : Int) (address : Nat)
  | detachCalled (address : Nat)
  | controlCalled (id command : Int)
  | controlUnsupported (command : Int)

namespace Event

open Text

/-- The weight of an event. -/
def level : Event → Level
  | framesTaken _ | framesReleased _ | unmapped _ | faulted _ _ => .trace
  | idsExhausted | segmentationFault _ _ _ | controlUnsupported _ => .warn
  | _ => .debug

/-- A span of physical memory. -/
def physicalSpan (s : Span) : String :=
  physicalAddress s.start ++ ".." ++ physicalAddress s.stop

/-- A span of plain numbers. -/
def plainSpan (s : Span) : String := "[" ++ hex s.start ++ ", " ++ hex s.stop ++ ")"

/-- A span of virtual addresses. -/
def virtualSpan (s : Span) : String :=
  "[" ++ virtualAddress s.start ++ ", " ++ virtualAddress s.stop ++ ")"

/-- What the log says of an event. -/
def message : Event → String
  | framesTaken span => "backing alloc " ++ plainSpan span
  | framesReleased span => "backing release " ++ physicalSpan span
  | idsExhausted => "shm ids exhausted, they may be leaking"
  | segmentCreated id key size pages =>
      "shm " ++ decimal id ++ " created: key=" ++ decimal key ++ " size=" ++ decimal size ++
        " pages=" ++ decimal pages
  | segmentDestroyed id backing =>
      "shm " ++ decimal id ++ " destroyed, releasing " ++ physicalSpan backing
  | attachedWithoutPid id =>
      "adding mapping to shm " ++ decimal id ++
        " without a pid; not updating the last attach pid"
  | detachedWithoutPid id =>
      "removing mapping from shm " ++ decimal id ++
        " without a pid; not updating the last detach pid"
  | mapped span name perms =>
      "mmap: " ++ virtualSpan span ++ " " ++ name ++ " perms=" ++ perms.describe
  | unmapped span => "munmap: " ++ plainSpan span
  | faultUnresolved address cause =>
      "page fault at " ++ virtualAddress address ++ " not satisfiable: " ++ cause.name
  | spaceDropped areas =>
      "dropping address space with " ++ decimal areas ++ " live mappings"
  | forked parent child => "fork: " ++ decimal parent.toNat ++ " -> " ++ decimal child.toNat
  | faulted address access =>
      "Page fault at " ++ virtualAddress address ++ ", access: " ++ access.describe
  | segmentationFault pid address access =>
      decimal pid.toNat ++ ": segmentation fault at " ++ virtualAddress address ++
        ", access: " ++ access.describe
  | getCalled key size flags =>
      "sys_shmget <= key: " ++ decimal key ++ ", size: " ++ decimal size ++
        ", shmflg: " ++ octal flags.bits
  | getIgnored flags => "sys_shmget: ignoring " ++ flags.describe
  | attachCalled id address flags =>
      "sys_shmat <= shmid: " ++ decimal id ++ ", shmaddr: " ++ hex address ++
        ", shmflg: " ++ octal flags.bits
  | attached id address =>
      "sys_shmat: shm " ++ decimal id ++ " attached at " ++ virtualAddress address
  | detachCalled address => "sys_shmdt <= shmaddr: " ++ hex address
  | controlCalled id command =>
      "sys_shmctl <= shmid: " ++ decimal id ++ ", cmd: " ++ decimal command
  | controlUnsupported command =>
      "sys_shmctl: unsupported command " ++ decimal command

/-- The line in the log. -/
def render (e : Event) : String := e.level.describe ++ " " ++ e.message

end Event

end SharedMemory
