import SharedMemory.Kernel.Segments

/-!
# Finding and making segments

A registry finds a segment by its key or makes a new one, within its limits and those of
the frame pool. A registry that belongs to an IPC namespace lives until the namespace's
handle and all its tasks are gone, and then marks every segment for destruction.
-/

namespace SharedMemory

/-- What a segment is asked for. -/
structure SegmentRequest where
  key : Int
  size : Nat
  mode : Nat
  /-- Always make a new segment, which is never found by key. -/
  isPrivate : Bool
  /-- Make the segment if no segment has the key. -/
  create : Bool
  /-- With `create`: refuse if a segment has the key. -/
  exclusive : Bool

namespace Kernel

/-- Makes a pool of free frames. -/
def makePool (k : Kernel) (base frames : Nat) : Handle .pool × Kernel :=
  (k.pools.fresh,
    { k.require (PageAligned base ∧ base + frames * pageSize < wordSize) .arithmetic with
      pools := k.pools.insert (.free base frames) })

/-- Takes frames from a pool. -/
def allocateFrames (p : Handle .pool) (length : Nat) : KernelM Span := do
  let k ← get
  let pool ← KernelM.orStuck (k.pools.get? p)
  let (span, taken) ← KernelM.ofExcept (pool.allocate length)
  set ((k.setPool p taken).emit (.framesTaken span))
  return span

/-- Makes a registry without segments. -/
def makeRegistry (k : Kernel) (userNs : UserNamespace) (pool : Handle .pool) (limits : Limits)
    (holder : Holder) : Handle .registry × Kernel :=
  (k.registries.fresh,
    { k with registries := k.registries.insert (.empty userNs pool limits holder) })

/-- The key of a segment. -/
def keyOf? (k : Kernel) (s : Handle .segment) : Option Int := (k.segments.get? s).map (·.key)

/-- The first segment in a registry with a key. No segment is found by the private key. -/
def findByKey? (k : Kernel) (registry : Registry) (key : Int) : Option (Handle .segment) :=
  if key = privateKey then none
  else (registry.table.find? fun entry => k.keyOf? entry.2 = some key).map (·.2)

/-- Whether the segment found for a key may be handed to whoever asked for it. -/
def mayOpen (g : Segment) (q : Requester) (asked : SegmentRequest) : Except Errno Unit :=
  if !g.permits q.credentials (Permissions.requested asked.mode) then .error .eacces
  else if g.size < asked.size then .error .einval
  else if asked.create && asked.exclusive then .error .eexist
  else .ok ()

/-- A new segment on its backing. -/
def newSegment (r : Handle .registry) (registry : Registry) (q : Requester)
    (asked : SegmentRequest) (id : Int) (backing : Span) : Segment where
  registry := r
  pool := registry.pool
  userNs := registry.userNs
  id
  key := if asked.isPrivate then privateKey else asked.key
  creator := q.credentials.owner
  creatorPid := q.pid.getD 0
  size := asked.size
  backing
  attachCount := 0
  lifetime := .active
  destroyed := false
  perms := .ofMode asked.mode
  owner := q.credentials.owner
  attachTime := .zero
  detachTime := .zero
  changeTime := q.now.getD .zero
  lastPid := 0

/-- Puts a new segment of so many pages into the kernel and into its registry. -/
def addSegment (k : Kernel) (r : Handle .registry) (registry : Registry) (g : Segment)
    (pages : Nat) : Kernel :=
  { k with
    segments := k.segments.insert g
    registries := k.registries.set r (registry.register g.id k.segments.fresh pages) }

/-- Makes a segment: its size is rounded up to pages, the limit on pages is kept, an
identifier is found, and then frames are taken. -/
def createSegment (r : Handle .registry) (registry : Registry) (q : Requester)
    (asked : SegmentRequest) : KernelM (Handle .segment) := do
  let length ← KernelM.orRefuse (pageUp? asked.size) .einval
  let pages := length / pageSize
  KernelM.check (registry.totalPages + pages < wordSize ∧
    registry.totalPages + pages ≤ registry.limits.maxTotalPages) .enospc
  match registry.nextFreeId? with
  | none =>
      modify (·.emit .idsExhausted)
      throw .enospc
  | some id =>
      let backing ← allocateFrames registry.pool length
      let s := (← get).segments.fresh
      modify (·.addSegment r registry (newSegment r registry q asked id backing) pages)
      modify (·.emit (.segmentCreated id asked.key asked.size pages))
      return s

/-- Finds the segment that is asked for, or makes it. -/
def findOrCreate (r : Handle .registry) (q : Requester) (asked : SegmentRequest) :
    KernelM (Handle .segment) := do
  let k ← get
  let registry ← KernelM.orStuck (k.registries.get? r)
  KernelM.check (¬ ((asked.create ∨ asked.isPrivate) ∧
    (asked.size < registry.limits.minSize ∨ registry.limits.maxSize < asked.size))) .einval
  KernelM.check (registry.table.length < registry.limits.maxSegments) .enospc
  if asked.isPrivate then
    createSegment r registry q asked
  else
    match k.findByKey? registry asked.key with
    | some s =>
        let g ← KernelM.orStuck (k.segments.get? s)
        KernelM.ofExcept (mayOpen g q asked)
        return s
    | none =>
        KernelM.check asked.create .enoent
        createSegment r registry q asked

/-- Marks every segment of a registry for destruction, in the order of identifiers. -/
def releaseAll (k : Kernel) (r : Handle .registry) : Kernel :=
  match k.registries.get? r with
  | some registry => (registry.table.map (·.2)).foldl markDestroyed k
  | none => k.halt .dangling

/-! ## The end of a registry -/

/-- Lets a registry go, and nothing else. -/
def eraseRegistry (k : Kernel) (r : Handle .registry) : Kernel :=
  { k with registries := k.registries.erase r }

/-- Drops the handle of a registry that belongs to no IPC namespace. Its segments stay as
they are. -/
def dropRegistry (k : Kernel) (r : Handle .registry) : Kernel :=
  match k.registries.get? r with
  | some registry => if registry.holder = .handle then k.eraseRegistry r else k
  | none => k

/-- Whether some task lives in the IPC namespace of a registry. -/
def hasTaskIn (k : Kernel) (r : Handle .registry) : Bool := k.tasks.values.any (·.ipc = r)

/-- Ends an IPC namespace that neither its handle nor a task keeps. -/
def collectNamespace (k : Kernel) (r : Handle .registry) : Kernel :=
  match k.registries.get? r with
  | some registry =>
      if registry.holder = .ipc false ∧ k.hasTaskIn r = false then
        (k.releaseAll r).eraseRegistry r
      else k
  | none => k

/-- Drops the handle of an IPC namespace. -/
def dropNamespace (k : Kernel) (r : Handle .registry) : Kernel :=
  match k.registries.get? r with
  | some registry =>
      if registry.holder = .ipc true then
        (k.setRegistry r { registry with holder := .ipc false }).collectNamespace r
      else k
  | none => k

end Kernel

end SharedMemory
