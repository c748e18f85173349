import SharedMemory.Proofs.Areas
import SharedMemory.Proofs.Holders
import SharedMemory.Proofs.Outcome

/-!
# What can happen to objects

Whatever an operation does to pools, segments, registries and windows is a sequence of the
few changes listed in `Kernel.Change`. A change is made while certain references exist, and
says which references exist after it: a reference is made from another one or by attaching
a segment that is still to be had, and only a reference that exists is given back. Changes
that no count, no registration and no frame depends on are all `Kernel.Alike`.

What happens to the holders is listed in `Kernel.Turn`: addresses are unmapped, an area is
mapped where there is room, pages are established, and holders come and go. A
`Kernel.Course` is a sequence of such turns; every invariant of the kernel is an invariant
of each turn.

Some things are done only by whoever may: to map an area, to give a segment a new owner, to
remove a segment or to make one, to make a registry, and to take from a registry what keeps it.
They are the `Deed`s, and changes and turns say which deeds may be done.
-/

namespace SharedMemory

/-- The frames that an event says were given back. -/
def Event.released? : Event → Option Span
  | .framesReleased s => some s
  | _ => none

/-- A segment without the notes on who used it, and when. -/
def Segment.unnoted (g : Segment) : Segment :=
  { g with attachTime := .zero, detachTime := .zero, lastPid := 0 }

/-- A segment without what may change at any time: who owns it, what it permits, and when and
by whom it was used. -/
def Segment.core (g : Segment) : Segment :=
  { g with
    perms := .ofMode 0, owner := g.creator, attachTime := .zero, detachTime := .zero,
    changeTime := .zero, lastPid := 0 }

/-- A registry without what keeps it. -/
def Registry.core (r : Registry) : Registry := { r with holder := .handle }

/-- What is done only by whoever may. -/
inductive Deed where
  /-- An area is mapped into an address space, which belongs to a bearer if it is a task's. -/
  | map (ref : SpaceRef) (bearer : Option Credentials) (v : Area)
  /-- A segment gets a new owner and new permissions. -/
  | assign (s : Handle .segment)
  /-- A segment is marked for destruction. -/
  | remove (s : Handle .segment)
  /-- A registry makes a segment. -/
  | make (r : Handle .registry)
  /-- A registry is made that takes its memory from a pool. -/
  | draw (p : Handle .pool)
  /-- A registry goes, or loses its handle or a task that lives in its namespace. -/
  | forsake (r : Handle .registry)

namespace Kernel

/-- A reference to the object may be made from none: the object is there, and is no segment
that was removed and has lost its last reference. -/
def Usable (k : Kernel) : Object → Prop
  | .segment s => ∃ g, k.segments.get? s = some g ∧ ¬ (g.lifetime = .pending ∧ g.attachCount = 0)
  | .window w => ∃ window, k.windows.get? w = some window

/-- A segment that is about to be made: what was asked for, and all that was checked and
found for it. -/
structure Creation (k : Kernel) where
  owner : Handle .registry
  registry : Registry
  requester : Requester
  asked : SegmentRequest
  length : Nat
  id : Int
  pool : FramePool
  backing : Span
  remaining : FramePool
  registered : k.registries.get? owner = some registry
  sized : registry.limits.minSize ≤ asked.size ∧ asked.size ≤ registry.limits.maxSize
  room : registry.table.length < registry.limits.maxSegments
  unclaimed : asked.isPrivate = true ∨ k.findByKey? registry asked.key = none
  rounded : pageUp? asked.size = some length
  affordable : registry.totalPages + length / pageSize < wordSize ∧
    registry.totalPages + length / pageSize ≤ registry.limits.maxTotalPages
  free : registry.nextFreeId? = some id
  pooled : k.pools.get? registry.pool = some pool
  allocated : pool.allocate length = .ok (backing, remaining)

namespace Creation

variable {k : Kernel}

/-- The segment that is made. -/
def segment (c : Creation k) : Segment :=
  newSegment c.owner c.registry c.requester c.asked c.id c.backing

/-- The kernel with the segment. -/
def result (c : Creation k) : Kernel :=
  ((k.setPool c.registry.pool c.remaining).emit (.framesTaken c.backing)).addSegment c.owner
    c.registry c.segment (c.length / pageSize)

end Creation

/-- Two kernels that differ at most in the log, in notes on segments and windows, and in faults
that have to do with no count. -/
structure Alike (k k' : Kernel) : Prop where
  holders : k'.holderPart = k.holderPart
  pools : k'.pools = k.pools
  segments : k'.segments.map Segment.unnoted = k.segments.map Segment.unnoted
  registries : k'.registries = k.registries
  windows : k'.windows.map (·.references) = k.windows.map (·.references)
  released : k'.log.filterMap Event.released? = k.log.filterMap Event.released?
  faults : ∀ cause ∈ k'.faults, cause ∈ k.faults ∨ cause = .arithmetic ∨ cause = .dangling

/-- One change of the objects, with the references that exist before it and after it. -/
inductive Change (may : Deed → Prop) :
    Kernel → Multiset Object → Kernel → Multiset Object → Prop
  /-- Something is noted. -/
  | note {k refs k'} (alike : k.Alike k') : Change may k refs k' refs
  | acquire {k refs} (object : Object) (allowed : object ∈ refs ∨ k.Usable object) :
      Change may k refs (k.acquire object) (object ::ₘ refs)
  | release {k refs} (object : Object) : Change may k (object ::ₘ refs) (k.release object) refs
  | assign {k refs s g g' q uid gid mode} (found : k.segments.get? s = some g)
      (granted : g.setOwner q uid gid mode = .ok g') (permitted : may (.assign s)) :
      Change may k refs (k.setSegment s g') refs
  | markDestroyed {k refs} (s : Handle .segment) (permitted : may (.remove s)) :
      Change may k refs (k.markDestroyed s) refs
  | create {k refs} (c : Creation k) (permitted : may (.make c.owner)) :
      Change may k refs c.result refs
  | makePool {k refs} (base frames : Nat) :
      Change may k refs { k with pools := k.pools.insert (.free base frames) } refs
  | makeRegistry {k refs} (userNs : UserNamespace) (p : Handle .pool) (limits : Limits)
      (holder : Holder) (permitted : may (.draw p)) :
      Change may k refs (k.makeRegistry userNs p limits holder).2 refs
  /-- An IPC namespace loses its handle. -/
  | unhold {k refs r registry} (found : k.registries.get? r = some registry)
      (permitted : may (.forsake r)) :
      Change may k refs (k.setRegistry r { registry with holder := .ipc false }) refs
  | eraseRegistry {k refs} (r : Handle .registry) (permitted : may (.forsake r)) :
      Change may k refs (k.eraseRegistry r) refs
  | makeWindow {k refs} (w : Window) (unused : w.references = 0) :
      Change may k refs (k.makeWindow w).2 refs

/-- Steps of one kind made one after the other. -/
inductive Chain (Step : Kernel → Multiset Object → Kernel → Multiset Object → Prop) :
    Kernel → Multiset Object → Kernel → Multiset Object → Prop
  | refl {k refs} : Chain Step k refs k refs
  | tail {k refs k' refs' k'' refs''} (before : Chain Step k refs k' refs')
      (last : Step k' refs' k'' refs'') : Chain Step k refs k'' refs''

/-- Changes of the objects one after the other. -/
abbrev Changes (may : Deed → Prop) := Chain (Change may)

/-- Where the address space under a reference comes from when holders come and go: it was there
and belongs to whom it belonged, or none was ever made under the reference. In that case it is a
copy of another one, without the pages, that belongs to nobody or to whom the other belongs, or it
is new. -/
inductive Origin (k k' : Kernel) (ref : SpaceRef) : AddressSpace → Prop
  | same {a} (found : k.space? ref = some a) (bearer : k'.bearer? ref = k.bearer? ref) :
      Origin k k' ref a
  | copy {source a} (fresh : ¬ k.Made ref) (found : k.space? source = some a)
      (bearer : k'.bearer? ref = none ∨ k'.bearer? ref = k.bearer? source) :
      Origin k k' ref { a with pages := [] }
  | new {range} (fresh : ¬ k.Made ref) (upright : range.start ≤ range.stop)
      (bounded : range.stop < wordSize) : Origin k k' ref (.empty range)

/-- A part of an object that an area maps from the start of one of the area's pages on. -/
structure Spans (v : Area) (l : Location) : Prop where
  start : v.offset ≤ l.source.start
  aligned : PageAligned (l.source.start - v.offset)
  stop : l.source.stop ≤ v.mappedBytes.stop

/-- What an object located for an area is mapped by it, and a segment located what it has of
the bytes that the area maps. -/
structure Locates (k : Kernel) (v : Area) (ls : List Location) : Prop where
  spans : ∀ l ∈ ls, Spans v l
  segment : ∀ l ∈ ls, ∀ s, v.object = .segment s → ∃ g, k.segments.get? s = some g ∧
    l.source = v.mappedBytes.inter ⟨0, g.effectiveSize⟩ ∧ l.address = g.backing.start + l.source.start

/-- An area can be mapped into an address space: there is room for it before the end of the range,
and in a range that starts a page it is made of whole pages within the range. -/
structure Mappable (a : AddressSpace) (v : Area) : Prop where
  room : a.HasRoom v.span
  nonempty : v.span.start < v.span.stop
  below : v.span.stop ≤ a.range.stop
  placed : PageAligned a.range.start → (PageAligned v.span.start ∧ PageAligned v.span.stop) ∧
    a.range.start ≤ v.span.start

/-- A change of the objects or of the holders. -/
inductive Turn (may : Deed → Prop) : Kernel → Multiset Object → Kernel → Multiset Object → Prop
  | change {k refs k' refs'} (change : Change may k refs k' refs') : Turn may k refs k' refs'
  | unmap {k refs ref a s} (found : k.space? ref = some a) (cut : a.CleanCut s) :
      Turn may k refs (k.setSpace (a.unmap s) ref) refs
  | map {k refs ref a v} (found : k.space? ref = some a) (mappable : Mappable a v)
      (permitted : may (.map ref (k.bearer? ref) v)) :
      Turn may k refs (k.setSpace (a.map v) ref) refs
  | establish {k refs ref a v ls} (found : k.space? ref = some a) (member : v ∈ a.areas)
      (located : k.Locates v ls) : Turn may k refs (k.setSpace (a.establishAll v ls) ref) refs
  /-- Holders come and go, or change in other ways than by their mappings. -/
  | rehold {k refs k'} (same : k'.objectPart = k.objectPart)
      (made : ∀ {ref}, k.Made ref → k'.Made ref)
      (origin : ∀ {ref a}, k'.space? ref = some a → Origin k k' ref a)
      (settled : ∀ {t task}, k.tasks.get? t = some task →
        (∃ task', k'.tasks.get? t = some task' ∧ task'.ipc = task.ipc) ∨ may (.forsake task.ipc)) :
      Turn may k refs k' refs

/-- Changes of the objects and of the holders one after the other. -/
abbrev Course (may : Deed → Prop) := Chain (Turn may)

namespace Chain

variable {Step Step' : Kernel → Multiset Object → Kernel → Multiset Object → Prop}
  {k k' k'' : Kernel} {refs refs' refs'' : Multiset Object}

/-- One step is a chain. -/
theorem single (step : Step k refs k' refs') : Chain Step k refs k' refs' := .tail .refl step

/-- Chains may be joined. -/
theorem trans (first : Chain Step k refs k' refs') (second : Chain Step k' refs' k'' refs'') :
    Chain Step k refs k'' refs'' := by
  induction second with
  | refl => exact first
  | tail _ last ih => exact .tail ih last

/-- The references may be counted in another way. -/
theorem recount {refs₁ refs₂ : Multiset Object} (steps : Chain Step k refs k' refs')
    (before : refs = refs₁) (after : refs' = refs₂) : Chain Step k refs₁ k' refs₂ := by
  rwa [← before, ← after]

/-- Steps may be weakened along a chain. -/
theorem mono (weaker : ∀ {k refs k' refs'}, Step k refs k' refs' → Step' k refs k' refs')
    (steps : Chain Step k refs k' refs') : Chain Step' k refs k' refs' := by
  induction steps with
  | refl => exact .refl
  | tail _ last ih => exact .tail ih (weaker last)

/-- What every step preserves, a sequence of steps preserves. -/
theorem preserves (property : Kernel → Multiset Object → Prop)
    (step : ∀ {k refs k' refs'}, Step k refs k' refs' → property k refs → property k' refs')
    (steps : Chain Step k refs k' refs') (start : property k refs) : property k' refs' := by
  induction steps with
  | refl => exact start
  | tail _ last ih => exact step last ih

end Chain

section

variable {k k' : Kernel} {refs refs' : Multiset Object} {may may' : Deed → Prop}

/-! ## Deeds -/

private theorem Change.mono (weaker : ∀ d, may d → may' d) (change : Change may k refs k' refs') :
    Change may' k refs k' refs' := by
  cases change with
  | note alike => exact .note alike
  | acquire object allowed => exact .acquire object allowed
  | release object => exact .release object
  | assign found granted permitted => exact .assign found granted (weaker _ permitted)
  | markDestroyed s permitted => exact .markDestroyed s (weaker _ permitted)
  | create c permitted => exact .create c (weaker _ permitted)
  | makePool base frames => exact .makePool base frames
  | makeRegistry userNs p limits holder permitted =>
      exact .makeRegistry userNs p limits holder (weaker _ permitted)
  | unhold found permitted => exact .unhold found (weaker _ permitted)
  | eraseRegistry r permitted => exact .eraseRegistry r (weaker _ permitted)
  | makeWindow w unused => exact .makeWindow w unused

/-- What few deeds permit, more permit. -/
theorem Turn.mono (weaker : ∀ d, may d → may' d) (turn : Turn may k refs k' refs') :
    Turn may' k refs k' refs' := by
  cases turn with
  | change change => exact .change (change.mono weaker)
  | unmap found cut => exact .unmap found cut
  | map found mappable permitted => exact .map found mappable (weaker _ permitted)
  | establish found member located => exact .establish found member located
  | rehold same made origin settled =>
      exact .rehold same made origin fun here => (settled here).imp_right (weaker _)

/-! ## Notes -/

/-- Kernels that are alike have the same segments, but for the bookkeeping. -/
theorem Alike.core (alike : k.Alike k') :
    k'.segments.map Segment.core = k.segments.map Segment.core := by
  have same := congrArg (·.map Segment.core) alike.segments
  rw [Slots.map_map, Slots.map_map] at same
  exact same

/-- An entry in the log that gives no frames back is a change. -/
theorem Change.emit (e : Event) (quiet : e.released? = none) : Change may k refs (k.emit e) refs :=
  .note ⟨rfl, rfl, rfl, rfl, rfl, by simp [Kernel.emit, quiet], fun _ member => .inl member⟩

/-- To halt for want of a number or an object is a change. -/
theorem Change.halt (cause : Fault) (mild : cause = .arithmetic ∨ cause = .dangling) :
    Change may k refs (k.halt cause) refs := by
  refine .note ⟨rfl, rfl, rfl, rfl, rfl, rfl, fun cause' member => ?_⟩
  rcases List.mem_cons.mp member with rfl | member
  · exact .inr mild
  · exact .inl member

/-- A window may be replaced that has as many references. -/
theorem Change.window {w : Handle .window} {old new : Window} (found : k.windows.get? w = some old)
    (same : new.references = old.references) : Change may k refs (k.setWindow w new) refs :=
  .note ⟨rfl, rfl, rfl, rfl, Slots.map_set_of_eq found same, rfl, fun _ => .inl⟩

/-- A segment may be replaced that differs in its notes only. -/
theorem Change.segment {s : Handle .segment} {g g' : Segment} (found : k.segments.get? s = some g)
    (same : g'.unnoted = g.unnoted) : Change may k refs (k.setSegment s g') refs :=
  .note ⟨rfl, rfl, Slots.map_set_of_eq found same, rfl, rfl, rfl, fun _ => .inl⟩

/-! ## Holders -/

/-- A change leaves the holders. -/
theorem Change.holderPart (change : Change may k refs k' refs') : k'.holderPart = k.holderPart := by
  cases change with
  | note alike => exact alike.holders
  | makePool => rfl
  | makeRegistry => rfl
  | makeWindow => rfl
  | _ => simp [Creation.result]

/-- Changes leave the holders. -/
theorem Chain.holderPart (changes : Changes may k refs k' refs') : k'.holderPart = k.holderPart := by
  induction changes with
  | refl => rfl
  | tail _ last ih => exact last.holderPart.trans ih

/-- Changes leave what the holders refer to. -/
theorem Chain.held (changes : Changes may k refs k' refs') : k'.held = k.held :=
  held_congr changes.holderPart

/-- A space that was made stays made. -/
theorem Turn.made {ref : SpaceRef} (turn : Turn may k refs k' refs') (made : k.Made ref) :
    k'.Made ref := by
  cases turn with
  | change change => exact (made_congr change.holderPart ref).mpr made
  | unmap => exact (made_setSpace _ _ _).mpr made
  | map => exact (made_setSpace _ _ _).mpr made
  | establish => exact (made_setSpace _ _ _).mpr made
  | rehold _ kept => exact kept made

/-- A turn is a change of the objects, or leaves them. -/
theorem Turn.change_or_same (turn : Turn may k refs k' refs') :
    Change may k refs k' refs' ∨ (k'.objectPart = k.objectPart ∧ refs' = refs) := by
  cases turn with
  | change change => exact .inl change
  | unmap => exact .inr ⟨objectPart_setSpace _ _, rfl⟩
  | map => exact .inr ⟨objectPart_setSpace _ _, rfl⟩
  | establish => exact .inr ⟨objectPart_setSpace _ _, rfl⟩
  | rehold same => exact .inr ⟨same, rfl⟩

/-- Changes are a course. -/
theorem Chain.course (changes : Changes may k refs k' refs') :
    Course may k refs k' refs' := by
  induction changes with
  | refl => exact .refl
  | tail _ last ih => exact .tail ih (.change last)

end

end Kernel

end SharedMemory
