import SharedMemory.Kernel.Basic

/-!
# References and the life of segments

Objects count their references. A segment that is marked for destruction is destroyed
when its last reference goes, or at once if it has none: its registry forgets it and its
frames go back to the pool, exactly once.
-/

namespace SharedMemory

namespace Kernel

/-- Gives frames back to their pool. -/
def releaseFrames (k : Kernel) (p : Handle .pool) (s : Span) : Kernel :=
  match k.pools.get? p with
  | some pool => (k.emit (.framesReleased s)).setPool p (pool.release s)
  | none => k.halt .dangling

/-- Makes a registry, if it still exists, forget a segment. -/
def forgetSegment (k : Kernel) (g : Segment) : Kernel :=
  match k.registries.get? g.registry with
  | some registry =>
      if (registry.find? g.id).isSome then
        (k.require (g.pages ≤ registry.totalPages) .uncounted).setRegistry g.registry
          (registry.unregister g.id g.pages)
      else k
  | none => k

/-- Destroys a segment, once. -/
def destroy (k : Kernel) (s : Handle .segment) : Kernel :=
  match k.segments.get? s with
  | some g =>
      if g.destroyed then k
      else
        (((k.setSegment s { g with destroyed := true }).emit
          (.segmentDestroyed g.id g.backing)).forgetSegment g).releaseFrames g.pool g.backing
  | none => k.halt .dangling

/-- Marks a segment for destruction. It is no longer found by key, and is destroyed at
once if nothing refers to it. -/
def markDestroyed (k : Kernel) (s : Handle .segment) : Kernel :=
  match k.segments.get? s with
  | some g =>
      let marked := k.setSegment s { g with key := privateKey, lifetime := .pending }
      if g.attachCount = 0 then marked.destroy s else marked
  | none => k.halt .dangling

/-- Takes a reference to an object. -/
def acquire (k : Kernel) : Object → Kernel
  | .segment s =>
      match k.segments.get? s with
      | some g => k.setSegment s { g with attachCount := g.attachCount + 1 }
      | none => k.halt .dangling
  | .window w =>
      match k.windows.get? w with
      | some window => k.setWindow w { window with references := window.references + 1 }
      | none => k.halt .dangling

/-- Gives a reference to a segment back, which destroys it if it was the last and the
segment is marked for destruction. -/
def releaseSegment (k : Kernel) (s : Handle .segment) : Kernel :=
  match k.segments.get? s with
  | some g =>
      let released :=
        (k.require (0 < g.attachCount) .overdrawn).setSegment s
          { g with attachCount := g.attachCount - 1 }
      if g.attachCount = 1 ∧ g.lifetime = .pending then released.destroy s else released
  | none => k.halt .dangling

/-- Gives a reference to an object back. -/
def release (k : Kernel) : Object → Kernel
  | .segment s => k.releaseSegment s
  | .window w =>
      match k.windows.get? w with
      | some window =>
          (k.require (0 < window.references) .overdrawn).setWindow w
            { window with references := window.references - 1 }
      | none => k.halt .dangling

/-- Gives references back one after the other. -/
def releaseEach (k : Kernel) (objects : List Object) : Kernel := objects.foldl release k

/-! ## What objects are told and asked -/

/-- Tells an object that a span of addresses maps it from an offset on. A window may
refuse. -/
def notifyAdded (q : Requester) (object : Object) (span : Span) (offset : Nat) : KernelM Unit := do
  let k ← get
  match object with
  | .segment s =>
      let g ← KernelM.orStuck (k.segments.get? s)
      set (k.setSegment s (g.noteAttach q))
      if q.pid.isNone then
        modify (·.emit (.attachedWithoutPid g.id))
  | .window w =>
      let window ← KernelM.orStuck (k.windows.get? w)
      set (k.setWindow w (window.record (.added span offset)))
      KernelM.check (window.refuses = false) .eperm

/-- Tells an object that a span of addresses no longer maps it. -/
def notifyRemoved (k : Kernel) (q : Requester) (object : Object) (span : Span) (offset : Nat) :
    Kernel :=
  match object with
  | .segment s =>
      match k.segments.get? s with
      | some g =>
          let noted := k.setSegment s (g.noteDetach q)
          if q.pid.isNone then noted.emit (.detachedWithoutPid g.id) else noted
      | none => k.halt .dangling
  | .window w =>
      match k.windows.get? w with
      | some window => k.setWindow w (window.record (.removed span offset))
      | none => k.halt .dangling

/-- Tells an object that a mapping of it is copied into another address space. A window
refuses when its copies are used up. -/
def notifyCopied (object : Object) (span : Span) (offset : Nat) : KernelM Unit := do
  let k ← get
  match object with
  | .segment _ => pure ()
  | .window w =>
      let window ← KernelM.orStuck (k.windows.get? w)
      let recorded := window.record (.copied span offset)
      match window.copies with
      | none => set (k.setWindow w recorded)
      | some 0 =>
          set (k.setWindow w recorded)
          throw .enomem
      | some (left + 1) => set (k.setWindow w { recorded with copies := some left })

/-- Asks an object where its bytes are. -/
def locate (k : Kernel) (object : Object) (required optional : Span) (access : Access) :
    Resolution × Kernel :=
  match object with
  | .segment s =>
      match k.segments.get? s with
      | some g => (g.locate required optional, k)
      | none => (⟨[], some .efault⟩, k.halt .dangling)
  | .window w =>
      match k.windows.get? w with
      | some window =>
          (window.locate required optional,
            k.setWindow w (window.record (.located required optional access)))
      | none => (⟨[], some .efault⟩, k.halt .dangling)

/-! ## Requests on a segment -/

/-- Asks for a segment to be mapped: the request that results carries a reference. -/
def attach (s : Handle .segment) (q : Requester) (address : Nat) (mode : AttachMode) :
    KernelM MapRequest := do
  let k ← get
  let g ← KernelM.orStuck (k.segments.get? s)
  KernelM.check (¬ (g.lifetime = .pending ∧ g.attachCount = 0)) .eidrm
  KernelM.check (g.permits q.credentials mode.access) .eacces
  set (k.setSegment s { g.noteAttach q with attachCount := g.attachCount + 1 })
  return {
    object := .segment s
    length := g.size
    offset := 0
    address
    fixed := mode.fixed
    perms := mode.access
    maxPerms := .all }

/-- What is reported of a segment. -/
def segmentStatus (s : Handle .segment) (q : Requester) : KernelM SegmentStatus := do
  let g ← KernelM.orStuck ((← get).segments.get? s)
  KernelM.ofExcept (g.status q.credentials)

/-- Gives a segment a new owner and new permissions. -/
def setSegmentOwner (s : Handle .segment) (q : Requester) (uid gid : UInt32) (mode : Nat) :
    KernelM Unit := do
  let g ← KernelM.orStuck ((← get).segments.get? s)
  let changed ← KernelM.ofExcept (g.setOwner q uid gid mode)
  modify (·.setSegment s changed)

/-- Takes a reference to a window along with a request to map all of it. -/
def windowRequest (w : Handle .window) : KernelM MapRequest := do
  let window ← KernelM.orStuck ((← get).windows.get? w)
  modify (·.acquire (.window w))
  return {
    object := .window w
    length := window.length
    offset := 0
    address := 0
    fixed := false
    perms := .readWrite
    maxPerms := .all }

end Kernel

end SharedMemory
