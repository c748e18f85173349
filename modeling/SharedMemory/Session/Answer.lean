import SharedMemory.Kernel.SystemCalls

/-!
# Answers of a session
-/

namespace SharedMemory

namespace Session

/-- Why a command has no answer. -/
inductive Refusal where
  /-- The kernel refused. -/
  | errno (cause : Errno)
  /-- The name in a field of the command is not bound. -/
  | unbound (field : String)

/-- How identifiers are renamed by a user namespace, and what it is. -/
structure IdReport where
  toUids : List (Option UInt32)
  toGids : List (Option UInt32)
  ofUids : List UInt32
  ofGids : List UInt32
  owner : UInt32
  hasParent : Bool

/-- What an address space shows. -/
structure SpaceReport where
  range : Span
  areaCount : Nat
  areas : List Span
  pages : List (Nat × Nat)

/-- What a task shows. -/
structure TaskReport where
  pid : Pid
  uid : Uid
  gid : Gid
  segments : Nat
  minorFaults : Nat

/-- What a command answers. -/
inductive Answer where
  | done
  | truth (b : Bool)
  | truths (bs : List Bool)
  | number (n : Int)
  | optionalNumber (n : Option Int)
  | span (s : Span)
  | optionalSpan (s : Option Span)
  | instant (t : Instant)
  | ids (report : IdReport)
  | registry (r : Registry)
  | segment (g : Segment)
  | foundSegment (g : Option Segment)
  | status (s : SegmentStatus)
  | resolution (r : Resolution)
  | request (m : MapRequest)
  | requestDetails (m : MapRequest) (identity : Identity)
  | reference (segment : Option Int) (identity : Identity)
  | window (references : Nat) (journal : List WindowCall)
  | space (report : SpaceReport)
  | task (report : TaskReport)
  /-- What a control call returns, and its buffer afterwards. -/
  | control (result : Int) (buffer : ControlBuffer)

end Session

end SharedMemory
