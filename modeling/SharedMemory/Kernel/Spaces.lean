import SharedMemory.AddressSpace.Fault
import SharedMemory.Kernel.Segments

/-!
# Mapping and unmapping

The operations on address spaces, with what they mean for the objects that are mapped:
every area holds one reference to its object.
-/

namespace SharedMemory

namespace Kernel

/-- Makes an address space that stands alone. -/
def makeSpace (k : Kernel) (range : Span) : Handle .space × Kernel :=
  (k.spaces.fresh,
    { k.require (range.stop < wordSize) .arithmetic with spaces := k.spaces.insert (.empty range) })

/-! ## Unmapping -/

/-- Carries out one effect of unmapping. -/
def perform (q : Requester) (k : Kernel) : Effect → Kernel
  | .removed object span offset =>
      (k.require (span.start ≤ span.stop ∧ offset < wordSize) .arithmetic).notifyRemoved q object
        span offset
  | .kept object offset => (k.require (offset < wordSize) .arithmetic).acquire object
  | .unmapped span => k.emit (.unmapped span)
  | .dropped object => k.release object

/-- Unmaps a span of an address space and carries out the effects. -/
def unmapSpan (k : Kernel) (ref : SpaceRef) (q : Requester) (s : Span) : Kernel :=
  match k.space? ref with
  | some a =>
      (a.unmapEffects s).foldl (perform q)
        ((k.require (s.start ≤ s.stop) .arithmetic).setSpace (a.unmap s) ref)
  | none => k.halt .dangling

/-- Unmaps spans one after the other. -/
def unmapEach (k : Kernel) (ref : SpaceRef) (q : Requester) (spans : List Span) : Kernel :=
  spans.foldl (fun k s => k.unmapSpan ref q s) k

/-- Unmaps everything. -/
def unmapAll (k : Kernel) (ref : SpaceRef) (q : Requester) : Kernel :=
  match k.space? ref with
  | some a => k.unmapSpan ref q a.range
  | none => k.halt .dangling

/-- Unmaps the pages of `length` bytes from an address on, which must start a page. -/
def munmap (ref : SpaceRef) (q : Requester) (address length : Nat) : KernelM Unit := do
  KernelM.check (length ≠ 0 ∧ PageAligned address) .einval
  let stop ← KernelM.orRefuse ((pageUp? length).bind (addWord? address)) .einval
  modify (·.unmapSpan ref q ⟨address, stop⟩)

/-- The segment that is mapped from its start on at an address. -/
def attachedFrom? (a : AddressSpace) (address : Nat) : Option (Handle .segment) :=
  match a.areaFrom? address with
  | some ⟨_, 0, _, _, .segment s⟩ => some s
  | _ => none

/-- Detaches the segment that is mapped from its start on at an address: every piece of it
within its size is unmapped.

No reference is held while the pieces are looked up. The area at the address refers to the
segment all that time, so a reference that is taken before and given back before the first
piece is unmapped is never the last one: the count ends where it was and nothing is
destroyed. -/
def detach (ref : SpaceRef) (q : Requester) (address : Nat) : KernelM Unit := do
  let k ← get
  let a ← KernelM.orStuck (k.space? ref)
  let s ← KernelM.orRefuse (attachedFrom? a address) .einval
  let g ← KernelM.orStuck (k.segments.get? s)
  let extent : Span := ⟨address, addSaturating address g.effectiveSize⟩
  modify (·.unmapEach ref q (a.piecesWithin (.segment s) extent))

/-! ## Mapping -/

/-- Makes room at an exact address: what is mapped there is unmapped. -/
def placeFixed (ref : SpaceRef) (q : Requester) (address length : Nat) : KernelM Nat := do
  let a ← KernelM.orStuck ((← get).space? ref)
  KernelM.check (PageAligned address) .einval
  let stop ← KernelM.orRefuse (addWord? address length) .enomem
  KernelM.check (a.range.start ≤ address ∧ stop ≤ a.range.stop) .enomem
  modify (·.unmapSpan ref q ⟨address, stop⟩)
  return address

/-- Finds room anywhere, at the hint if it serves. -/
def placeAnywhere (ref : SpaceRef) (hint length : Nat) : KernelM Nat := do
  let a ← KernelM.orStuck ((← get).space? ref)
  KernelM.orRefuse (a.place? hint length) .enomem

/-- Finds room for a request, at the exact address or anywhere. -/
def placeRequest (ref : SpaceRef) (q : Requester) (m : MapRequest) (length : Nat) : KernelM Nat :=
  if m.fixed then placeFixed ref q m.address length else placeAnywhere ref m.address length

/-- Maps the object of a request without touching the reference that the request carries;
the area takes its own. -/
def install (ref : SpaceRef) (q : Requester) (m : MapRequest) : KernelM Nat := do
  KernelM.check (m.length ≠ 0) .einval
  KernelM.check (m.maxPerms.allows m.perms) .eacces
  let length ← KernelM.orRefuse (pageUp? m.length) .enomem
  let start ← placeRequest ref q m length
  let span := Span.ofSize start length
  modify (·.require (span.stop < wordSize) .arithmetic)
  notifyAdded q m.object span m.offset
  let k ← get
  let identity ← KernelM.orStuck (k.identity? m.object)
  let a ← KernelM.orStuck (k.space? ref)
  let area : Area := ⟨span, m.offset, m.perms, m.maxPerms, m.object⟩
  set (((k.emit (.mapped span identity.name m.perms)).setSpace (a.map area) ref).acquire m.object)
  return start

/-- Maps the object of a request and uses the request up: the reference that it carries is
given back, also when the request is refused. -/
def mmap (ref : SpaceRef) (q : Requester) (m : MapRequest) : KernelM Nat := fun k =>
  match install ref q m k with
  | .ok start k' => .ok start (k'.release m.object)
  | .error cause k' => .error cause (k'.release m.object)

/-! ## Copying and dropping -/

/-- Copies areas in ascending order, up to the first that may not be copied. Every copy
takes a reference. -/
def copyAreas : List Area → Kernel → (List Area × Option Errno) × Kernel
  | [], k => (([], none), k)
  | v :: rest, k =>
      match notifyCopied v.object v.span v.offset k with
      | .error cause k' => (([], some cause), k')
      | .ok _ k' =>
          let ((copied, failure), k'') := copyAreas rest (k'.acquire v.object)
          ((v :: copied, failure), k'')

/-- Drops an address space with what it still maps. The objects are not told; the
references go back in ascending order. -/
def dropSpaceValue (k : Kernel) (a : AddressSpace) : Kernel :=
  (if a.areas.isEmpty then k else k.emit (.spaceDropped a.areas.length)).releaseEach
    (a.areas.map (·.object))

/-- Copies the mappings of an address space into a new one, without its pages. -/
def forkSpaceValue (a : AddressSpace) : KernelM AddressSpace := fun k =>
  match copyAreas a.areas k with
  | ((copied, none), k') => .ok ⟨a.range, copied, []⟩ k'
  | ((copied, some cause), k') => .error cause (k'.dropSpaceValue ⟨a.range, copied, []⟩)

/-- Copies the mappings of an address space into a new one that stands alone. -/
def forkSpace (ref : SpaceRef) : KernelM (Handle .space) := do
  let a ← KernelM.orStuck ((← get).space? ref)
  let child ← forkSpaceValue a
  let k ← get
  set { k with spaces := k.spaces.insert child }
  return k.spaces.fresh

/-- Drops an address space that stands alone. -/
def dropSpace (k : Kernel) (id : Handle .space) : Kernel :=
  match k.spaces.get? id with
  | some a => { k with spaces := k.spaces.erase id }.dropSpaceValue a
  | none => k

/-! ## Page faults -/

/-- The arithmetic of a fault at an address stays within the word and does not fall below
zero. -/
def FaultFits (v : Area) (address : Nat) : Prop :=
  v.span.start ≤ pageDown address ∧ (v.requiredAt address).stop < wordSize ∧
    v.mappedBytes.stop < wordSize

instance (v : Area) (address : Nat) : Decidable (FaultFits v address) :=
  inferInstanceAs (Decidable (_ ∧ _))

/-- The arithmetic of establishing the pages of a located part stays within the word and
does not fall below zero. -/
def LocationFits (v : Area) (l : Location) : Prop :=
  v.offset ≤ l.source.start ∧ l.address + l.source.size ≤ wordSize ∧
    v.addressOf l + l.source.size ≤ wordSize

instance (v : Area) (l : Location) : Decidable (LocationFits v l) :=
  inferInstanceAs (Decidable (_ ∧ _))

/-- Resolves a page fault: establishes what the object has of the area, and says whether
the access may go on. -/
def faultSpace (k : Kernel) (ref : SpaceRef) (address : Nat) (access : Access) : Bool × Kernel :=
  match k.space? ref with
  | none => (false, k.halt .dangling)
  | some a =>
      match a.faultingArea? address access with
      | none => (false, k)
      | some v =>
          let (resolution, asked) :=
            (k.require (FaultFits v address) .arithmetic).locate v.object (v.requiredAt address)
              v.mappedBytes access
          let established :=
            (asked.require (∀ l ∈ resolution.locations, LocationFits v l) .arithmetic).setSpace
              (a.establishAll v resolution.locations) ref
          match resolution.failure with
          | none => (true, established)
          | some cause => (false, established.emit (.faultUnresolved address cause))

end Kernel

end SharedMemory
