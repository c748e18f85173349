import SharedMemory.Proofs.Attachment
import SharedMemory.Proofs.Forking

/-!
# Page faults, page by page

A page fault in an area of a segment establishes every page of the area that the segment has, and
no other; so faulting again changes nothing (`AddressSpace.Shown`, `Kernel.FaultsExactly`). Whether
the access may go on is another matter: the segment must have the page at fault as a whole. Areas
that system calls made map no more than their segment has (`World.ByCalls.supplied`), so in them
every access goes on that the area allows.
-/

namespace SharedMemory

namespace Area

variable {v : Area} {g : Segment} {address : Nat}

/-- The pages that are established for an area that starts a page are those that the segment has. -/
theorem establishes_showing_iff (start : PageAligned v.span.start) :
    v.Establishes (v.showing g) address ↔
      PageAligned address ∧ v.span.Contains address ∧ v.offsetAt address < g.effectiveSize := by
  rw [Establishes, addressOf_showing, Location.pageCount, source_showing]
  simp only [Span.Contains, Span.size, PageAligned, offsetAt, pageSize] at *
  omega

end Area

namespace AddressSpace

variable {a b : AddressSpace} {v : Area} {l : Location} {g : Segment} {address : Nat}

/-- What a segment locates for an area is established as one part. -/
theorem establishAll_locate (a : AddressSpace) (v : Area) (g : Segment) (required : Span) :
    a.establishAll v (g.locate required v.mappedBytes).locations = a.establish v (v.showing g) := by
  have start : (v.mappedBytes.inter ⟨0, g.effectiveSize⟩).start = v.offset :=
    congrArg Span.start (v.source_showing g)
  by_cases empty : (v.mappedBytes.inter ⟨0, g.effectiveSize⟩).isEmpty = true
  · -- Nothing is located, and a part without pages establishes nothing.
    have none : (v.showing g).pageCount = 0 := by
      have size : (v.showing g).source.size = 0 := beq_iff_eq.mp empty
      rw [Location.pageCount, size]
      rfl
    have pages : a.pages.filter (fun entry => ¬ v.Establishes (v.showing g) entry.1) = a.pages := by
      rw [List.filter_eq_self]
      intro entry _
      rw [decide_eq_true_eq, Area.Establishes, none]
      omega
    rw [Segment.locate, if_pos empty, establish, pages, Area.pagesOf, none]
    rfl
  · rw [Segment.locate, if_neg empty, start]
    rfl

private theorem establish_establish (a : AddressSpace) (v : Area) (l : Location) :
    (a.establish v l).establish v l = a.establish v l := by
  have own : (v.pagesOf l).filter (fun entry => ¬ v.Establishes l entry.1) = [] := by
    rw [List.filter_eq_nil_iff]
    intro entry member
    obtain ⟨i, inside, rfl⟩ := List.mem_map.mp member
    have bound := List.mem_range.mp inside
    rw [decide_eq_true_eq, not_not]
    refine ⟨Nat.le_add_right _ _, ?_, ?_⟩
    · simp only [pageSize]
      omega
    · simp only [Nat.add_sub_cancel_left, Nat.mul_mod_left]
  simp only [establish, List.filter_append, own, List.nil_append, List.filter_filter, Bool.and_self]

/-- Of an area's pages those that a segment has are established, with the rights of the area and
where the segment has them. No other page changes. -/
structure Shown (a : AddressSpace) (v : Area) (g : Segment) (b : AddressSpace) : Prop where
  range : b.range = a.range
  areas : b.areas = a.areas
  pages : ∀ page, PageAligned page → v.span.Contains page → v.offsetAt page < g.effectiveSize →
    b.page? page = some ⟨g.backing.start + v.offsetAt page, v.perms⟩
  places : ∀ x, v.span.Contains x → v.offsetAt (pageDown x) < g.effectiveSize →
    b.resolve? x = some (g.backing.start + v.offset + (x - v.span.start))
  others : ∀ page, ¬ (PageAligned page ∧ v.span.Contains page ∧
    v.offsetAt page < g.effectiveSize) → b.page? page = a.page? page

private theorem page?_establish_showing (a : AddressSpace) (start : PageAligned v.span.start)
    (aligned : PageAligned address) (holds : v.span.Contains address)
    (has : v.offsetAt address < g.effectiveSize) : (a.establish v (v.showing g)).page? address =
    some ⟨g.backing.start + v.offsetAt address, v.perms⟩ := by
  obtain ⟨_, upper, whole⟩ := (Area.establishes_showing_iff start).mpr ⟨aligned, holds, has⟩
  rw [Area.addressOf_showing] at upper whole
  obtain ⟨i, turn⟩ : ∃ i, address = v.span.start + i * pageSize := by
    refine ⟨(address - v.span.start) / pageSize, ?_⟩
    have below := holds.1
    simp only [pageSize] at *
    omega
  have inside : i < (v.showing g).pageCount := by
    simp only [pageSize] at *
    omega
  have established := a.page?_establish (v := v) inside
  rw [Area.addressOf_showing, ← turn] at established
  rw [established, Area.offsetAt, turn, Nat.add_sub_cancel_left, Area.showing, Nat.add_assoc]

private theorem shown_establish (a : AddressSpace) (g : Segment) (start : PageAligned v.span.start)
    : a.Shown v g (a.establish v (v.showing g)) where
  range := rfl
  areas := rfl
  pages := fun _ => a.page?_establish_showing start
  places := by
    intro x holds has
    have below := pageDown_le x
    have from' : v.span.start ≤ pageDown x := by
      have lower := holds.1
      simp only [PageAligned, pageDown, pageSize] at *
      omega
    have page := a.page?_establish_showing start (pageAligned_pageDown x)
      ⟨from', Nat.lt_of_le_of_lt below holds.2⟩ has
    rw [resolve?, page, Option.map_some, Area.offsetAt]
    congr 1
    simp only
    omega
  others := by
    intro page outside
    rw [← Area.establishes_showing_iff start] at outside
    exact page?_establish_of_not outside

end AddressSpace

namespace Kernel

variable {k : Kernel} {ref : SpaceRef} {a : AddressSpace} {v : Area} {s : Handle .segment}
  {g : Segment} {address : Nat} {access : Access}

/-- An area maps a segment, and the numbers that it takes to find the segment's memory are machine
words. -/
structure Finds (k : Kernel) (v : Area) (s : Handle .segment) (g : Segment) : Prop where
  object : v.object = .segment s
  present : k.segments.get? s = some g
  fits : v.offset + v.span.size < wordSize
  backed : g.backing.stop < wordSize

/-- A page fault does what it should. The access may go on if its page lies in an area that allows
it and the segment has the whole page. Where no area allows the access nothing happens; where one
does, the area is shown as far as the segment has it and nothing else changes, whether the access
may go on or not. A second fault changes nothing. -/
structure FaultsExactly (k : Kernel) (ref : SpaceRef) (a : AddressSpace) (address : Nat)
    (access : Access) : Prop where
  resolved : (k.faultSpace ref address access).1 = true ↔
    ∃ v ∈ a.areas, v.span.Contains address ∧ v.perms.allows access = true ∧
      ∃ s g, v.object = .segment s ∧ k.segments.get? s = some g ∧
        v.offsetAt (pageDown address) + pageSize ≤ g.effectiveSize
  ignored : (¬ ∃ v ∈ a.areas, v.span.Contains address ∧ v.perms.allows access = true) →
    k.faultSpace ref address access = (false, k)
  shown : ∀ v ∈ a.areas, v.span.Contains address → v.perms.allows access = true →
    ∃ s g b, v.object = .segment s ∧ k.segments.get? s = some g ∧ a.Shown v g b ∧
      (k.faultSpace ref address access).2.unlogged = (k.setSpace b ref).unlogged
  again : ∀ k', (k.faultSpace ref address access).2 = k' →
    (k'.faultSpace ref address access).1 = (k.faultSpace ref address access).1 ∧
      (k'.faultSpace ref address access).2.unlogged = k'.unlogged

/-- A page fault in an area of a segment establishes what the segment has of it. -/
theorem Finds.faultSpace (finds : k.Finds v s g) (found : k.space? ref = some a) (laid : a.Laid)
    (origin : PageAligned a.range.start) (faulting : a.faultingArea? address access = some v) :
    k.faultSpace ref address access =
      if v.offsetAt (pageDown address) + pageSize ≤ g.effectiveSize then
        (true, k.setSpace (a.establish v (v.showing g)) ref)
      else
        (false, (k.setSpace (a.establish v (v.showing g)) ref).emit
          (.faultUnresolved address .efault)) := by
  obtain ⟨member, holds⟩ := AddressSpace.areaAt?_eq_some (Option.filter_eq_some_iff.mp faulting).1
  have below := Nat.lt_of_le_of_lt (laid.below v member) laid.bounded
  have asked : k.require (FaultFits v address) .arithmetic = k := by
    apply if_pos
    obtain ⟨start, stop⟩ := (laid.tidy origin).aligned v member
    have fits := finds.fits
    have lower := holds.1
    have upper := holds.2
    simp only [FaultFits, Area.requiredAt, Area.mappedBytes, Span.ofSize, Span.size, PageAligned,
      pageDown, pageSize] at *
    omega
  have answered : k.require (∀ l ∈ (g.locate (v.requiredAt address) v.mappedBytes).locations,
      LocationFits v l) .arithmetic = k :=
    if_pos fun l inside => (locationFits inside below finds.backed).1
  have located : k.locate v.object (v.requiredAt address) v.mappedBytes access =
      (g.locate (v.requiredAt address) v.mappedBytes, k) := by
    simp only [finds.object, locate, finds.present]
  simp only [Kernel.faultSpace, found, faulting, asked, located, answered,
    AddressSpace.establishAll_locate]
  by_cases enough : v.offsetAt (pageDown address) + pageSize ≤ g.effectiveSize
  · have held : (g.locate (v.requiredAt address) v.mappedBytes).failure = none :=
      if_neg (Nat.not_lt.mpr enough)
    rw [if_pos enough, held]
  · have lacking : (g.locate (v.requiredAt address) v.mappedBytes).failure = some .efault :=
      if_pos (Nat.not_le.mp enough)
    rw [if_neg enough, lacking]

private theorem Finds.congr {k' : Kernel} (finds : k.Finds v s g) (same : k'.segments = k.segments)
    : k'.Finds v s g :=
  ⟨finds.object, same ▸ finds.present, finds.fits, finds.backed⟩

/-- A second page fault finds established what it would establish. -/
theorem Finds.faultSpace_again {k' : Kernel} (finds : k.Finds v s g)
    (found : k.space? ref = some a) (laid : a.Laid) (origin : PageAligned a.range.start)
    (faulting : a.faultingArea? address access = some v)
    (after : (k.faultSpace ref address access).2 = k') :
    (k'.faultSpace ref address access).1 = (k.faultSpace ref address access).1 ∧
      (k'.faultSpace ref address access).2.unlogged = k'.unlogged := by
  have first := finds.faultSpace found laid origin faulting
  have same : k'.segments = k.segments ∧
      k'.space? ref = some (a.establish v (v.showing g)) := by
    have placed := space?_setSpace found (a.establish v (v.showing g)) ref
    rw [if_pos rfl] at placed
    rw [← after, first]
    split <;> exact ⟨segments_setSpace _ _, placed⟩
  have second := (finds.congr same.1).faultSpace same.2 (laid.withPages _) origin faulting
  rw [AddressSpace.establish_establish, setSpace_self same.2] at second
  rw [first, second]
  split <;> exact ⟨rfl, rfl⟩

/-- The area that a fault finds holds the address and allows the access. -/
theorem faultingArea?_eq_some_iff (ordered : a.Ordered) :
    a.faultingArea? address access = some v ↔
      v ∈ a.areas ∧ v.span.Contains address ∧ v.perms.allows access = true := by
  rw [AddressSpace.faultingArea?, Option.filter_eq_some_iff, ordered.areaAt?_eq_some_iff, and_assoc]

private theorem faultsExactly_of_none (found : k.space? ref = some a) (ordered : a.Ordered)
    (forbidden : a.faultingArea? address access = none) : k.FaultsExactly ref a address access := by
  have nothing := faultSpace_of_none found forbidden
  have nowhere {v : Area} :
      ¬ (v ∈ a.areas ∧ v.span.Contains address ∧ v.perms.allows access = true) := by
    rw [← faultingArea?_eq_some_iff ordered, forbidden]
    nofun
  constructor
  case resolved =>
    rw [nothing]
    constructor
    · nofun
    · intro somewhere
      obtain ⟨v, member, holds, allowed, _⟩ := somewhere
      exact (nowhere ⟨member, holds, allowed⟩).elim
  case ignored => exact fun _ => nothing
  case shown =>
    intro v member holds allowed
    exact (nowhere ⟨member, holds, allowed⟩).elim
  case again =>
    intro k' after
    rw [nothing] at after
    subst after
    rw [nothing]
    exact ⟨rfl, rfl⟩

/-- Where an area allows the access and finds the memory, a page fault does what it should. -/
theorem Finds.faultsExactly (finds : k.Finds v s g) (found : k.space? ref = some a) (laid : a.Laid)
    (origin : PageAligned a.range.start) (faulting : a.faultingArea? address access = some v) :
    k.FaultsExactly ref a address access := by
  obtain ⟨member, holds, allowed⟩ := (faultingArea?_eq_some_iff laid.toOrdered).mp faulting
  have effect := finds.faultSpace found laid origin faulting
  have unique {v' : Area} (member' : v' ∈ a.areas) (holds' : v'.span.Contains address) : v' = v :=
    laid.toOrdered.area_unique address member' holds' member holds
  constructor
  case resolved =>
    rw [effect]
    split
    case isTrue enough =>
      exact iff_of_true rfl ⟨v, member, holds, allowed, s, g, finds.object, finds.present, enough⟩
    case isFalse lacking =>
      refine iff_of_false nofun ?_
      intro somewhere
      obtain ⟨v', member', holds', _, s', g', object, present, enough⟩ := somewhere
      obtain rfl := unique member' holds'
      cases finds.object.symm.trans object
      cases finds.present.symm.trans present
      exact lacking enough
  case ignored => exact fun nowhere => (nowhere ⟨v, member, holds, allowed⟩).elim
  case shown =>
    intro v' member' holds' _
    obtain rfl := unique member' holds'
    have start := ((laid.tidy origin).aligned v' member).1
    refine ⟨s, g, _, finds.object, finds.present, a.shown_establish g start, ?_⟩
    rw [effect]
    split <;> rfl
  case again => exact fun k' => finds.faultSpace_again found laid origin faulting

/-- Page faults in an address space that maps segments only do what they should. -/
theorem faultsExactly (found : k.space? ref = some a) (laid : a.Laid)
    (origin : PageAligned a.range.start) (finds : ∀ v ∈ a.areas, ∃ s g, k.Finds v s g)
    (address : Nat) (access : Access) : k.FaultsExactly ref a address access := by
  cases faulting : a.faultingArea? address access with
  | none => exact faultsExactly_of_none found laid.toOrdered faulting
  | some v =>
      obtain ⟨s, g, finds⟩ := finds v ((faultingArea?_eq_some_iff laid.toOrdered).mp faulting).1
      exact finds.faultsExactly found laid origin faulting

/-! ## Areas that system calls made -/

/-- An area maps a segment, which has all that the area maps. -/
def Supplies (k : Kernel) (v : Area) : Prop :=
  ∃ s g, v.object = .segment s ∧ k.segments.get? s = some g ∧
    v.offset + v.span.size ≤ g.effectiveSize

private theorem Supplies.evolves {k' : Kernel} (supplies : k.Supplies v) (evolves : k.Evolves k') :
    k'.Supplies v := by
  obtain ⟨s, g, object, present, inside⟩ := supplies
  obtain ⟨g', present', evolved⟩ := evolves present
  exact ⟨s, g', object, present', evolved.effectiveSize ▸ inside⟩

private theorem Supplies.part {w : Area} (supplies : k.Supplies v) (part : w.Part v) :
    k.Supplies w := by
  obtain ⟨s, g, object, present, inside⟩ := supplies
  refine ⟨s, g, part.object.trans object, present, ?_⟩
  have start := part.start
  have stop := part.stop
  have nonempty := part.nonempty
  rw [part.offset]
  simp only [Span.size] at *
  omega

/-- Whatever page is at fault, the segment has all of it. -/
theorem Supplies.enough (supplies : k.Supplies v) (object : v.object = .segment s)
    (present : k.segments.get? s = some g)
    (aligned : PageAligned v.span.start ∧ PageAligned v.span.stop)
    (holds : v.span.Contains address) :
    v.offsetAt (pageDown address) + pageSize ≤ g.effectiveSize := by
  obtain ⟨_, _, object', present', inside⟩ := supplies
  cases object.symm.trans object'
  cases present.symm.trans present'
  obtain ⟨start, stop⟩ := aligned
  have lower := holds.1
  have upper := holds.2
  simp only [Area.offsetAt, Span.size, PageAligned, pageDown, pageSize] at *
  omega

/-- The copy of an address space has its areas. -/
theorem forkSpace_child {c : Handle .space} {k' : Kernel} (laid : k.Laid)
    (forked : forkSpace ref k = .ok c k') :
    ∃ a, k.space? ref = some a ∧ k'.space? (.alone c) = some { a with pages := [] } := by
  cases found : k.space? ref with
  | none =>
      have refused : forkSpace ref k = .error .efault (k.halt .dangling) := by
        apply KernelM.Ends.eq_error
        simp [forkSpace, found]
      cases forked.symm.trans refused
  | some a =>
      rcases copies_or_balks a.areas k with ⟨k₁, copies⟩ | ⟨done, v, later, cause, k₁, cut, balks⟩
      · cases forked.symm.trans (forkSpace_of_copies found copies)
        exact ⟨a, rfl, (copies.duplicated (laid.spaces found).toOrdered found).child⟩
      · cases forked.symm.trans (forkSpace_of_balks found cut balks)

end Kernel

namespace World

open Kernel

/-- An address space that only system calls map into: since it was bare nothing else has mapped into
it, or it is the copy of such an address space. -/
inductive ByCalls : World → SpaceRef → Prop
  | bare {w ref a} (reached : w.Reachable anything) (found : w.kernel.space? ref = some a)
      (none : a.areas = []) : ByCalls w ref
  | later {w ref} {o : Operation} (before : ByCalls w ref) (enabled : o.Enabled w)
      (calls : ∀ q h, o ≠ .mmap ref q h) : ByCalls (o.run w) ref
  | copied {w ref c k} (before : ByCalls w ref)
      (forked : Kernel.forkSpace ref w.kernel = .ok c k) :
      ByCalls ((Operation.forkSpace ref).run w) (.alone c)
  | inherited {w t childPid child k} (before : ByCalls w (.ofTask t))
      (forked : Kernel.forkTask t childPid w.kernel = .ok child k) :
      ByCalls ((Operation.forkTask t childPid).run w) (.ofTask child)

variable {w w' : World} {o : Operation} {may : Deed → Prop} {t : Handle .task} {v : Area}
  {ref : SpaceRef} {a : AddressSpace}

/-- A segment that is attached is mapped no further than it goes. -/
theorem Reachable.supplies_attached {id answer : Int} {address : Nat} {flagWord : FlagWord}
    {k : Kernel} (reachable : w.Reachable anything)
    (carriedOut : Kernel.shmat t id address flagWord w.kernel = .ok answer k)
    (attached : w.kernel.Attached t id flagWord answer v k) : w.kernel.Supplies v := by
  obtain ⟨_, _, s, g, start, length, b, u, names, _, place, rounded, found, mapped, span, offset,
    object⟩ := (shmat_extent t id address flagWord).ok carriedOut
  obtain ⟨_, found', member⟩ := attached.installed.mem
  cases found.symm.trans found'
  have later : Reachable anything ((Operation.shmat t id address flagWord).run w) :=
    reachable.tail trivial trivial
  have laid := later.laid suits_anything
  have after : ((Operation.shmat t id address flagWord).run w).kernel = k :=
    KernelM.after_of_ok carriedOut
  rw [after] at laid
  have placed := laid.spaces found
  have here : u.span.start = start := congrArg Span.start span
  have same : v.span.start = u.span.start := by
    apply signed_inj (placed.start_lt member) (placed.start_lt mapped)
    rw [← attached.answer, place, here]
  have area : v = u := placed.area_unique v.span.start member
    ⟨Nat.le_refl _, placed.nonempty v member⟩ mapped
    ⟨Nat.le_of_eq same.symm, by rw [same]; exact placed.nonempty u mapped⟩
  have whole : length = g.effectiveSize :=
    Option.some.inj (rounded.symm.trans (reachable.rounded s g names.present))
  refine ⟨s, g, area ▸ object, names.present, ?_⟩
  rw [area, span, offset, Span.size_ofSize, Nat.zero_add, whole]

/-- An area is a part of one that the address space had, or of one that was mapped. -/
theorem Step.mem_areas (step : Step may w w') (laid : w.kernel.Laid) (made : w.kernel.Made ref)
    (found' : w'.kernel.space? ref = some a) (member : v ∈ a.areas) :
    ∃ u, v.Part u ∧ ((∃ b, w.kernel.space? ref = some b ∧ u ∈ b.areas) ∨
      ∃ bearer, may (.map ref bearer u)) := by
  cases found : w.kernel.space? ref with
  | some b =>
      obtain ⟨u, part, before | mapped⟩ := (step.traced laid found).traces a found' v member
      · exact ⟨u, part, .inl ⟨b, rfl, before⟩⟩
      · exact ⟨u, part, .inr mapped⟩
  | none =>
      have start : Traced may ref [] w.kernel := ⟨made, by rw [found]; nofun⟩
      have traced : Traced may ref [] w'.kernel :=
        step.kernel (Traced may ref []) Turn.traced (fun same _ traced => traced.congr same) laid
          start
      obtain ⟨u, part, before | mapped⟩ := traced.traces a found' v member
      · cases before
      · exact ⟨u, part, .inr mapped⟩

private theorem Step.made (step : Step may w w') (laid : w.kernel.Laid) (made : w.kernel.Made ref) :
    w'.kernel.Made ref :=
  step.kernel (·.Made ref) (fun turn _ => turn.made) (fun same _ => (made_congr same ref).mpr) laid
    made

/-- What a world has come to: segments have all that is mapped of them under a reference that was
handed out. -/
structure Supplied (w : World) (ref : SpaceRef) : Prop where
  reached : w.Reachable anything
  made : w.kernel.Made ref
  areas : ∀ a, w.kernel.space? ref = some a → ∀ v ∈ a.areas, w.kernel.Supplies v

private theorem Supplied.later (before : w.Supplied ref) (enabled : o.Enabled w)
    (calls : ∀ q h, o ≠ .mmap ref q h) : (o.run w).Supplied ref := by
  have laid := before.reached.laid suits_anything
  have step := step_run laid enabled
  refine ⟨before.reached.tail trivial enabled, step.made laid before.made, ?_⟩
  intro a found' v member
  apply Supplies.evolves ?_ step.evolves
  obtain ⟨u, part, ⟨b, found, old⟩ | ⟨_, does⟩⟩ := step.mem_areas laid before.made found' member
  · exact (before.areas b found u old).part part
  · cases does with
    | mmap => exact (calls _ _ rfl).elim
    | shmat carriedOut attached =>
        exact (before.reached.supplies_attached carriedOut attached).part part
    | shmctl _ controls => cases controls

private theorem Supplied.copied {child : SpaceRef} (before : w.Supplied ref) (enabled : o.Enabled w)
    (found : w.kernel.space? ref = some a)
    (copy : (o.run w).kernel.space? child = some { a with pages := [] }) :
    (o.run w).Supplied child := by
  have step := step_run (before.reached.laid suits_anything) enabled
  refine ⟨before.reached.tail trivial enabled, made_of_space? copy, ?_⟩
  intro b found' v member
  cases copy.symm.trans found'
  exact (before.areas a found v member).evolves step.evolves

/-- Segments have all that system calls map of them. -/
theorem ByCalls.supplied (calls : ByCalls w ref) : w.Supplied ref := by
  induction calls with
  | bare reached found none =>
      refine ⟨reached, made_of_space? found, ?_⟩
      intro a found' v member
      cases found.symm.trans found'
      rw [none] at member
      cases member
  | later _ enabled calls ih => exact ih.later enabled calls
  | @copied w ref c k _ forked ih =>
      obtain ⟨a, found, copy⟩ := forkSpace_child (ih.reached.laid suits_anything) forked
      rw [← KernelM.after_of_ok forked] at copy
      exact ih.copied (o := .forkSpace ref) trivial found copy
  | @inherited w t childPid child k _ forked ih =>
      have ends : (Kernel.forkTask t childPid).Ends w.kernel
          (fun child k' => Forked w.kernel t child k' ∧ Passage idle w.kernel 0 k' 0)
          (fun _ k' => Passage idle w.kernel 0 k' 0) := forkTask_ends t childPid
      obtain ⟨⟨a, found, copy⟩, _⟩ := ends.ok forked
      rw [← KernelM.after_of_ok forked] at copy
      exact ih.copied (o := .forkTask t childPid) trivial found copy

private theorem ByCalls.follow {operations : List Operation} (before : ByCalls w ref)
    (admitted : w.Admits operations) (calls : ∀ o ∈ operations, ∀ q h, o ≠ .mmap ref q h) :
    ByCalls (w.follow operations) ref := by
  induction operations generalizing w with
  | nil => exact before
  | cons o rest ih =>
      apply ih (before.later admitted.1 (calls o (List.mem_cons_self ..))) admitted.2
      exact fun o' member => calls o' (List.mem_cons_of_mem _ member)

/-- Page faults are resolved exactly where an area allows the access and its segment has the page,
and show of the area what the segment has. In address spaces that only system calls map into, the
segment has every page, so areas alone decide. -/
theorem faults_resolved :
    (∀ {k : Kernel} {ref : SpaceRef} {a : AddressSpace}, k.space? ref = some a → a.Laid →
      PageAligned a.range.start → (∀ v ∈ a.areas, ∃ s g, k.Finds v s g) →
      ∀ address access, k.FaultsExactly ref a address access) ∧
    ∀ {w : World} {ref : SpaceRef} {a : AddressSpace}, w.ByCalls ref →
      w.kernel.space? ref = some a → PageAligned a.range.start →
      (∀ s g, w.kernel.segments.get? s = some g → g.backing.stop < wordSize) →
      ∀ address access, w.kernel.FaultsExactly ref a address access ∧
        ((w.kernel.faultSpace ref address access).1 = true ↔
          ∃ v ∈ a.areas, v.span.Contains address ∧ v.perms.allows access = true) := by
  refine ⟨faultsExactly, ?_⟩
  intro w ref a calls found origin words address access
  have supplied := calls.supplied
  have laid := (supplied.reached.laid suits_anything).spaces found
  have finds : ∀ v ∈ a.areas, ∃ s g, w.kernel.Finds v s g := by
    intro v member
    obtain ⟨s, g, object, present, inside⟩ := supplied.areas a found v member
    have word := words s g present
    refine ⟨s, g, object, present, Nat.lt_of_le_of_lt inside ?_, word⟩
    exact Nat.lt_of_le_of_lt (Nat.sub_le _ _) word
  have exactly := faultsExactly found laid origin finds address access
  refine ⟨exactly, exactly.resolved.trans ⟨?_, ?_⟩⟩
  · intro somewhere
    obtain ⟨v, member, holds, allowed, _⟩ := somewhere
    exact ⟨v, member, holds, allowed⟩
  · intro somewhere
    obtain ⟨v, member, holds, allowed⟩ := somewhere
    obtain ⟨s, g, finds⟩ := finds v member
    have enough := (supplied.areas a found v member).enough finds.object finds.present
      ((laid.tidy origin).aligned v member) holds
    exact ⟨v, member, holds, allowed, s, g, finds.object, finds.present, enough⟩

/-- A mapping of five pages of a segment that has three loses its second page. -/
def overlong : List Operation :=
  let root : Requester := ⟨.superuser .initial, none, none⟩
  [.makePool 0x80000000 16, .makeRegistry .initial ⟨0⟩ {} .handle,
    .findOrCreate ⟨0⟩ root ⟨privateKey, 0x3000, 0o600, true, false, false⟩,
    .makeSpace ⟨0x10000, 0x40000⟩, .attach ⟨0⟩ root 0 ⟨false, false, false⟩,
    .editRequest ⟨0⟩ ⟨.segment ⟨0⟩, 0x5000, 0, 0, false, .readWrite, .all⟩,
    .mmap (.alone ⟨0⟩) root ⟨0⟩, .munmap (.alone ⟨0⟩) root 0x11000 0x1000]

/-- A fault in the last page of the mapping is not resolved, and the third page of the segment is
shown all the same. A child whose parent attached a segment twice and unmapped a page of it may read
there. -/
theorem faults_resolved_overlong :
    let w := ({} : World).follow overlong
    let w' := ({} : World).follow sharing
    (∃ a b, w.kernel.space? (.alone ⟨0⟩) = some a ∧
      w.kernel.FaultsExactly (.alone ⟨0⟩) a 0x14123 .readOnly ∧
      (w.kernel.faultSpace (.alone ⟨0⟩) 0x14123 .readOnly).1 = false ∧
      (w.kernel.faultSpace (.alone ⟨0⟩) 0x14123 .readOnly).2.space? (.alone ⟨0⟩) = some b ∧
      b.resolve? 0x12345 = some 0x80002345 ∧ b.page? 0x13000 = none) ∧
    w'.ByCalls (.ofTask ⟨1⟩) ∧
      (w'.kernel.faultSpace (.ofTask ⟨1⟩) 0x12345 .readOnly).1 = true := by
  intro w w'
  constructor
  · have reachable : w.Reachable anything :=
      reachable_follow (by decide +kernel) fun _ _ => trivial
    have state : ∃ a ∈ w.kernel.space? (.alone ⟨0⟩), PageAligned a.range.start ∧ a.pages = [] ∧
        a.areas = [⟨⟨0x10000, 0x11000⟩, 0, .readWrite, .all, .segment ⟨0⟩⟩,
          ⟨⟨0x12000, 0x15000⟩, 0x2000, .readWrite, .all, .segment ⟨0⟩⟩] := by
      decide +kernel
    have memory : ∃ g ∈ w.kernel.segments.get? ⟨0⟩, g.backing = ⟨0x80000000, 0x80003000⟩ := by
      decide +kernel
    clear_value w
    obtain ⟨a, found, origin, pages, areas⟩ := state
    obtain ⟨g, present, backing⟩ := memory
    have laid := (reachable.laid suits_anything).spaces found
    have finds : ∀ v ∈ a.areas, ∃ s g, w.kernel.Finds v s g := by
      intro v member
      refine ⟨⟨0⟩, g, ?_, present, ?_, by rw [backing]; decide⟩ <;>
      · rw [areas] at member
        revert v
        decide
    have exactly := faults_resolved.1 found laid origin finds 0x14123 .readOnly
    obtain ⟨s, g', b, object, present', shown, after⟩ := exactly.shown
      ⟨⟨0x12000, 0x15000⟩, 0x2000, .readWrite, .all, .segment ⟨0⟩⟩ (by simp [areas]) (by decide)
      (by decide)
    cases object
    cases present.symm.trans present'
    have size : g.effectiveSize = 0x3000 := by
      rw [Segment.effectiveSize, backing]
      rfl
    have left := (congrArg (·.space? (.alone ⟨0⟩)) after).trans
      (space?_setSpace found b (.alone ⟨0⟩))
    refine ⟨a, b, found, exactly, ?_, left, ?_, ?_⟩
    · apply Bool.eq_false_iff.mpr
      intro resolved
      obtain ⟨v, member, holds, _, s, g', object, present', enough⟩ := exactly.resolved.mp resolved
      simp only [areas, List.mem_cons, List.not_mem_nil, or_false] at member
      rcases member with rfl | rfl
      · exact absurd holds (by decide)
      · cases object
        cases present.symm.trans present'
        rw [size] at enough
        exact absurd enough (by decide)
    · rw [shown.places 0x12345 (by decide) (by rw [size]; decide), backing]
      rfl
    · have outside : a.page? 0x13000 = none := by
        rw [AddressSpace.page?, pages]
        rfl
      rw [shown.others 0x13000 (by rw [size]; decide), outside]
  · have started : (({} : World).follow (sharing.take 4)).ByCalls (.ofTask ⟨0⟩) := by
      have bare : ∃ a ∈ (({} : World).follow (sharing.take 4)).kernel.space? (.ofTask ⟨0⟩),
          a.areas = [] := by
        decide +kernel
      obtain ⟨a, found, none⟩ := bare
      exact .bare (reachable_follow (by decide +kernel) fun _ _ => trivial) found none
    let used := (({} : World).follow (sharing.take 4)).follow ((sharing.drop 4).take 5)
    have later : used.ByCalls (.ofTask ⟨0⟩) :=
      started.follow (by decide +kernel) (by simp [sharing])
    have forks : ∃ k, Kernel.forkTask ⟨0⟩ 2 used.kernel = .ok ⟨1⟩ k := by decide +kernel
    obtain ⟨k, forked⟩ := forks
    have calls : w'.ByCalls (.ofTask ⟨1⟩) := later.inherited forked
    have state : ∃ a ∈ w'.kernel.space? (.ofTask ⟨1⟩), PageAligned a.range.start ∧
        ∃ v ∈ a.areas, v.span.Contains 0x12345 ∧ v.perms.allows .readOnly = true := by
      decide +kernel
    have words : ∀ g ∈ w'.kernel.segments.values, g.backing.stop < wordSize := by decide +kernel
    clear_value w'
    obtain ⟨a, found, origin, somewhere⟩ := state
    refine ⟨calls, ((faults_resolved.2 calls found origin ?_ 0x12345 .readOnly).2).mpr somewhere⟩
    exact fun s g present => words g (Slots.mem_values.mpr ⟨s, present⟩)

end World

end SharedMemory
