import Mathlib.Order.Bounds.Basic
import SharedMemory.Proofs.Immunity
import SharedMemory.Proofs.Mappings

/-!
# Detaching a segment

A segment is detached at the address where it is mapped from its start on. All that the address
space maps of the segment from there to the segment's size is unmapped, and nothing else
(`AddressSpace.Detaches`). That is the attachment made there, unless another attachment of the same
segment reaches into the same addresses; what it has there is lost too. And an attachment whose
first page was unmapped cannot be detached any more, whatever is left of it.
-/

namespace SharedMemory

/-- An area is a piece of the attachment that maps a segment to an extent: it lies within the
extent, and maps of the segment what is as far from its start. -/
structure Area.BelongsTo (v : Area) (s : Handle .segment) (extent : Span) : Prop where
  object : v.object = .segment s
  inside : extent.start ≤ v.span.start ∧ v.span.stop ≤ extent.stop
  offset : v.offset = v.span.start - extent.start

instance (v : Area) (s : Handle .segment) (extent : Span) : Decidable (v.BelongsTo s extent) :=
  decidable_of_iff (v.object = .segment s ∧
    (extent.start ≤ v.span.start ∧ v.span.stop ≤ extent.stop) ∧
      v.offset = v.span.start - extent.start)
    ⟨fun holds => ⟨holds.1, holds.2.1, holds.2.2⟩, fun belongs =>
      ⟨belongs.object, belongs.inside, belongs.offset⟩⟩

/-- The part of an area that holds the area's first address starts like the area. -/
theorem Area.Part.begins {v w : Area} (part : w.Part v) (holds : w.span.Contains v.span.start) :
    w.span.start = v.span.start ∧ w.offset = v.offset := by
  have start : w.span.start = v.span.start := Nat.le_antisymm holds.1 part.start
  have offset := part.offset
  rw [start] at offset
  exact ⟨start, by omega⟩

namespace AddressSpace

variable {a b : AddressSpace} {v : Area} {s : Handle .segment} {extent : Span} {address : Nat}

/-- An address maps some byte of an object. -/
def MapsAt (a : AddressSpace) (object : Object) (address : Nat) : Prop :=
  ∃ m, a.mapping? address = some m ∧ m.object = object

/-- An address belongs to the attachment that maps a segment to an extent. -/
def InAttachment (a : AddressSpace) (s : Handle .segment) (extent : Span) (address : Nat) : Prop :=
  ∃ v ∈ a.areas, v.BelongsTo s extent ∧ v.span.Contains address

/-- What starts in an extent and maps a segment belongs to the attachment that maps the segment to
the extent. -/
def Unmixed (a : AddressSpace) (s : Handle .segment) (extent : Span) : Prop :=
  ∀ v ∈ a.areas, v.object = .segment s → extent.Contains v.span.start → v.BelongsTo s extent

instance (a : AddressSpace) (s : Handle .segment) (extent : Span) (address : Nat) :
    Decidable (a.InAttachment s extent address) :=
  inferInstanceAs (Decidable (∃ v ∈ a.areas, _))

instance (a : AddressSpace) (s : Handle .segment) (extent : Span) :
    Decidable (a.Unmixed s extent) :=
  inferInstanceAs (Decidable (∀ v ∈ a.areas, _))

/-- Of one address space another one is left when all that maps a segment in an extent is
unmapped. -/
structure Detaches (a : AddressSpace) (s : Handle .segment) (extent : Span) (b : AddressSpace) :
    Prop where
  gone : ∀ {address}, extent.Contains address → a.MapsAt (.segment s) address →
    b.mapping? address = none ∧ b.page? address = none
  kept : ∀ {address}, ¬ (extent.Contains address ∧ a.MapsAt (.segment s) address) →
    b.mapping? address = a.mapping? address ∧ b.page? address = a.page? address

private theorem Ordered.mapsAt_of_contains (ordered : a.Ordered) (member : v ∈ a.areas)
    (holds : v.span.Contains address) : a.MapsAt v.object address :=
  ⟨v.mappingAt address, ordered.mapping?_eq_some_iff.mpr ⟨v, member, holds, rfl⟩, rfl⟩

/-- The pieces that are detached hold what maps the segment in its extent: no area reaches the end
of the word, so it makes no difference that the extent is cut off there. -/
theorem Laid.exists_piece_iff (laid : a.Laid) (member : v ∈ a.areas) (size : Nat) :
    (∃ piece ∈ a.piecesWithin (.segment s) ⟨v.span.start, addSaturating v.span.start size⟩,
        piece.Contains address) ↔
      (Span.ofSize v.span.start size).Contains address ∧ a.MapsAt (.segment s) address := by
  refine Iff.trans (laid.toOrdered.exists_piece_iff member ?_) ⟨fun taken => ?_, fun taken => ?_⟩
  · rfl
  · exact ⟨⟨taken.1.1, (Nat.lt_min.mp taken.1.2).1⟩, taken.2⟩
  · obtain ⟨within, m, mapped, object⟩ := taken
    obtain ⟨w, inside, holds, _⟩ := laid.toOrdered.mapping?_eq_some_iff.mp mapped
    have below := laid.below w inside
    have bounded := laid.bounded
    have upper := holds.2
    have word : address < maxWord := by
      unfold maxWord
      omega
    exact ⟨⟨within.1, Nat.lt_min.mpr ⟨within.2, word⟩⟩, m, mapped, object⟩

/-- Where something starts that maps an object, all that maps a segment within a size is taken away
piece by piece. -/
theorem Laid.detaches (laid : a.Laid) (member : v ∈ a.areas) (size : Nat) :
    a.Detaches s (.ofSize v.span.start size)
      ((a.piecesWithin (.segment s) ⟨v.span.start, addSaturating v.span.start size⟩).foldl
        AddressSpace.unmap a) := by
  have ordered := laid.toOrdered
  have upright : ∀ piece ∈ a.piecesWithin (.segment s)
      ⟨v.span.start, addSaturating v.span.start size⟩, piece.start ≤ piece.stop :=
    fun _ piece => Kernel.upright_of_mem_piecesWithin ordered piece
  constructor
  · intro address within maps
    have taken := (laid.exists_piece_iff member size).mpr ⟨within, maps⟩
    rw [ordered.mapping?_foldl_unmap upright, page?_foldl_unmap, if_pos taken, if_pos taken]
    exact ⟨rfl, rfl⟩
  · intro address spared
    have kept := mt (laid.exists_piece_iff member size).mp spared
    rw [ordered.mapping?_foldl_unmap upright, page?_foldl_unmap, if_neg kept, if_neg kept]
    exact ⟨rfl, rfl⟩

/-- What is left when an attachment is detached is the rest of the address space if and only if no
other attachment of the segment is mixed with it. -/
theorem Detaches.unmixed_iff (detaches : a.Detaches s extent b) (ordered : a.Ordered)
    (covers : v ∈ a.areas) (start : v.span.start = extent.start) :
    (∀ address, ¬ a.InAttachment s extent address →
      b.mapping? address = a.mapping? address ∧ b.page? address = a.page? address) ↔
      a.Unmixed s extent := by
  constructor
  · intro spares w member object within
    by_contra stray
    have nonempty := ordered.nonempty w member
    have maps := ordered.mapsAt_of_contains member ⟨Nat.le_refl w.span.start, nonempty⟩
    rw [object] at maps
    have gone := (detaches.gone within maps).1
    -- No other area holds the first address of `w`, so it is in no attachment but would be kept.
    have outside : ¬ a.InAttachment s extent w.span.start := by
      intro inside
      obtain ⟨u, among, belongs, holds⟩ := inside
      have same := ordered.area_unique w.span.start among holds member ⟨Nat.le_refl _, nonempty⟩
      exact stray (same ▸ belongs)
    obtain ⟨m, mapped, _⟩ := maps
    rw [(spares w.span.start outside).1, mapped] at gone
    cases gone
  · intro unmixed address outside
    apply detaches.kept
    intro taken
    obtain ⟨within, m, mapped, object⟩ := taken
    obtain ⟨w, member, holds, rfl⟩ := ordered.mapping?_eq_some_iff.mp mapped
    have behind : extent.start ≤ w.span.start := by
      rw [← start]
      exact ordered.start_le covers member holds (Nat.le_trans (Nat.le_of_eq start) within.1)
    have belongs := unmixed w member object ⟨behind, Nat.lt_of_le_of_lt holds.1 within.2⟩
    exact outside ⟨w, member, belongs, holds⟩

/-- A segment is attached where an area maps it from its start on. -/
theorem Ordered.attachedFrom? (ordered : a.Ordered) (member : v ∈ a.areas) (first : v.offset = 0)
    (object : v.object = .segment s) : Kernel.attachedFrom? a v.span.start = some s := by
  unfold Kernel.attachedFrom?
  rw [ordered.areaFrom? member]
  obtain ⟨span, _, perms, maxPerms, _⟩ := v
  cases first
  cases object
  rfl

/-- Nothing is attached where nothing is mapped. -/
theorem Ordered.attachedFrom?_eq_none (ordered : a.Ordered) (unmapped : a.mapping? address = none) :
    Kernel.attachedFrom? a address = none := by
  apply Option.eq_none_iff_forall_not_mem.mpr
  intro s found
  obtain ⟨v, member, rfl, _⟩ := Kernel.attachedFrom?_eq_some found
  have nonempty := ordered.nonempty v member
  exact ordered.mapping?_eq_none_iff.mp unmapped v member ⟨Nat.le_refl _, nonempty⟩

/-- No address belongs to attachments that start at different addresses. -/
theorem Ordered.not_inAttachment (ordered : a.Ordered) {s' : Handle .segment} {extent' : Span}
    (inside : a.InAttachment s' extent' address) (other : extent'.start ≠ extent.start) :
    ¬ a.InAttachment s extent address := by
  intro inside'
  obtain ⟨v, member, belongs, holds⟩ := inside
  obtain ⟨w, member', belongs', holds'⟩ := inside'
  obtain rfl := ordered.area_unique address member holds member' holds'
  have first := belongs.offset.symm.trans belongs'.offset
  have lower := belongs.inside.1
  have lower' := belongs'.inside.1
  omega

/-- At the addresses of an area, an address space has parts of the area only. -/
structure PartsOnly (a : AddressSpace) (v : Area) : Prop extends a.Ordered where
  parts : ∀ u ∈ a.areas, ∀ x, u.span.Contains x → v.span.Contains x → u.Part v

/-- What is left of the areas has parts only at the addresses of each. -/
theorem Ordered.partsOnly (ordered : a.Ordered) (ordered' : b.Ordered)
    (parts : ∀ w ∈ b.areas, ∃ u ∈ a.areas, w.Part u) (member : v ∈ a.areas) : b.PartsOnly v where
  toOrdered := ordered'
  parts := by
    intro w inside x holds within
    obtain ⟨u, among, part⟩ := parts w inside
    obtain rfl := ordered.area_unique x among (part.contains holds) member within
    exact part

/-- As long as the first address of an attachment is mapped, what is left of the attachment is
attached there. -/
theorem PartsOnly.attachedFrom?_of_mapped (only : a.PartsOnly v)
    (nonempty : v.span.start < v.span.stop) (first : v.offset = 0) (object : v.object = .segment s)
    (mapped : a.mapping? v.span.start ≠ none) :
    Kernel.attachedFrom? a v.span.start = some s := by
  obtain ⟨m, mapped⟩ := Option.ne_none_iff_exists'.mp mapped
  obtain ⟨u, member, holds, _⟩ := only.mapping?_eq_some_iff.mp mapped
  have part := only.parts u member _ holds ⟨Nat.le_refl _, nonempty⟩
  obtain ⟨start, offset⟩ := part.begins holds
  rw [← start]
  exact only.attachedFrom? member (offset.trans first) (part.object.trans object)

private theorem PartsOnly.mapping (only : a.PartsOnly v) {m : Mapping}
    (within : v.span.Contains address)
    (mapped : a.mapping? address = some m) : m = v.mappingAt address := by
  obtain ⟨u, member, holds, rfl⟩ := only.mapping?_eq_some_iff.mp mapped
  exact (only.parts u member address holds within).mappingAt holds.1

/-- When what is left of an attachment is detached, nothing of it stays. -/
theorem PartsOnly.cleared (only : a.PartsOnly v) (covered : a.Covered)
    (object : v.object = .segment s) (detaches : a.Detaches s v.span b)
    (within : v.span.Contains address) : b.mapping? address = none ∧ b.page? address = none := by
  cases mapped : a.mapping? address with
  | none =>
      have spared : ¬ (v.span.Contains address ∧ a.MapsAt (.segment s) address) := by
        intro taken
        obtain ⟨_, m, present, _⟩ := taken
        cases mapped.symm.trans present
      rw [(detaches.kept spared).1, (detaches.kept spared).2]
      exact ⟨mapped, covered.page?_eq_none only.toOrdered mapped⟩
  | some m =>
      have same := congrArg Mapping.object (only.mapping within mapped)
      exact detaches.gone within ⟨m, mapped, same.trans object⟩

/-- Unless another attachment of the segment is mixed with it, what else is attached stays
attached. -/
theorem Detaches.attachedFrom? (detaches : a.Detaches s extent b) (ordered : a.Ordered)
    (ordered' : b.Ordered) (parts : ∀ w ∈ b.areas, ∃ u ∈ a.areas, w.Part u)
    (unmixed : a.Unmixed s extent) {start : Nat} {s' : Handle .segment}
    (other : start ≠ extent.start) (attached : Kernel.attachedFrom? a start = some s') :
    Kernel.attachedFrom? b start = some s' := by
  obtain ⟨v, member, rfl, object, offset⟩ := Kernel.attachedFrom?_eq_some attached
  have nonempty := ordered.nonempty v member
  have spared : ¬ (extent.Contains v.span.start ∧ a.MapsAt (.segment s) v.span.start) := by
    intro taken
    obtain ⟨within, m, mapped, same⟩ := taken
    obtain ⟨u, among, holds, rfl⟩ := ordered.mapping?_eq_some_iff.mp mapped
    obtain rfl := ordered.area_unique v.span.start among holds member ⟨Nat.le_refl _, nonempty⟩
    -- It would be the first piece of the attachment, and start where the attachment does.
    have first := (unmixed u member same within).offset
    have lower := within.1
    omega
  have only := ordered.partsOnly ordered' parts member
  apply only.attachedFrom?_of_mapped nonempty offset object
  rw [(detaches.kept spared).1]
  intro unmapped
  exact ordered.mapping?_eq_none_iff.mp unmapped v member ⟨Nat.le_refl _, nonempty⟩

end AddressSpace

namespace Kernel

open KernelM

variable {k k' : Kernel} {t : Handle .task} {task : Task} {q : Requester} {s : Handle .segment}
  {g : Segment} {address : Nat}

/-! ## The system call -/

/-- To detach is to unmap the pieces that the segment has in its extent. -/
theorem shmdt_of_attached (here : k.tasks.get? t = some task)
    (asking : k.requester? task = some q) (attached : attachedFrom? task.space address = some s)
    (present : k.segments.get? s = some g) :
    shmdt t address k = .ok 0 ((k.emit (.detachCalled address)).unmapEach (.ofTask t) q
      (task.space.piecesWithin (.segment s) ⟨address, addSaturating address g.effectiveSize⟩)) := by
  apply Ends.eq_ok
  have called : caller t (k.emit (.detachCalled address)) = .ok (task, q) _ :=
    caller_eq_ok here asking
  have space : (k.emit (.detachCalled address)).space? (.ofTask t) = some task.space :=
    space?_ofTask here
  have still : (k.emit (.detachCalled address)).segments.get? s = some g := present
  simp only [shmdt, ends_bind, ends_modify, ends_iff_of_ok called, detach, ends_get, ends_orStuck,
    ends_orRefuse, ends_pure]
  simp [space, attached, still]

private theorem shmdt_of_unattached (here : k.tasks.get? t = some task)
    (asking : k.requester? task = some q) (unattached : attachedFrom? task.space address = none) :
    shmdt t address k = .error .einval (k.emit (.detachCalled address)) := by
  apply Ends.eq_error
  have called : caller t (k.emit (.detachCalled address)) = .ok (task, q) _ :=
    caller_eq_ok here asking
  have space : (k.emit (.detachCalled address)).space? (.ofTask t) = some task.space :=
    space?_ofTask here
  simp only [shmdt, ends_bind, ends_modify, ends_iff_of_ok called, detach, ends_get, ends_orStuck,
    ends_orRefuse, ends_pure]
  simp [space, unattached]

/-- A segment was detached from a task at an address. -/
structure DetachedAt (k : Kernel) (t : Handle .task) (address : Nat) (task : Task)
    (s : Handle .segment) (g : Segment) (task' : Task) (k' : Kernel) : Prop where
  before : k.tasks.get? t = some task
  attached : attachedFrom? task.space address = some s
  present : k.segments.get? s = some g
  after : k'.tasks.get? t = some task'
  detaches : task.space.Detaches s (.ofSize address g.effectiveSize) task'.space
  backdrop : k'.backdrop = k.backdrop
  asking : ∃ q, k.requester? task = some q

/-- A call to detach that is carried out detaches a segment. -/
theorem shmdt_detaches (laid : k.Laid) (t : Handle .task) (address : Nat) :
    (shmdt t address).Ends k
      (fun answer k' => answer = 0 ∧ ∃ task s g task', DetachedAt k t address task s g task' k')
      (fun _ _ => True) := by
  have immune := immune_backdrop ⟨0⟩ k.backdrop
  have still := immune.shmdt t address (fun _ _ _ _ => trivial) rfl
  refine ⟨fun {answer k'} done => ?_, fun _ => trivial⟩
  have same : k'.backdrop = k.backdrop := still.ok done
  have spec : (shmdt t address).Ends k (fun _ _ => ∃ task q s g, k.tasks.get? t = some task ∧
      k.requester? task = some q ∧ attachedFrom? task.space address = some s ∧
        k.segments.get? s = some g) (fun _ _ => True) := by
    simp only [shmdt, detach, bind_assoc]
    refine .modify_bind (ends_caller_bind trivial fun task q here asking => ?_)
    refine .get_bind (.orStuck_bind trivial fun a space => ?_)
    refine .orRefuse_bind trivial fun s attached => .orStuck_bind trivial fun g present => ?_
    cases (space?_ofTask (k := k.emit (.detachCalled address)) here).symm.trans space
    exact .modify_bind (ends_pure.mpr ⟨task, q, s, g, here, asking, attached, present⟩)
  obtain ⟨task, q, s, g, here, asking, attached, present⟩ := spec.ok done
  rw [shmdt_of_attached here asking attached present] at done
  cases done
  obtain ⟨v, member, rfl, _⟩ := attachedFrom?_eq_some attached
  obtain ⟨task', here', _⟩ := task_of_backdrop same here
  have before : (k.emit (.detachCalled v.span.start)).space? (.ofTask t) = some task.space :=
    space?_ofTask here
  have left := (space?_ofTask here').symm.trans (space?_unmapEach q
    (task.space.piecesWithin (.segment s)
      ⟨v.span.start, addSaturating v.span.start g.effectiveSize⟩) before)
  have detaches : task.space.Detaches s (.ofSize v.span.start g.effectiveSize) task'.space := by
    rw [Option.some.inj left]
    exact (laid.spaces (space?_ofTask here)).detaches member g.effectiveSize
  exact ⟨rfl, task, s, g, task', here, attached, present, here', detaches, same, q, asking⟩

/-! ## What is attached -/

/-- The object of a request is mapped to as many pages as its length takes. -/
theorem install_extent (ref : SpaceRef) (q : Requester) (m : MapRequest) :
    (install ref q m).Ends k
      (fun start k' => ∃ length a, pageUp? m.length = some length ∧ k'.space? ref = some a ∧
        m.areaAt (.ofSize start length) ∈ a.areas)
      (fun _ _ => True) := by
  unfold install
  refine .check_bind trivial fun nonzero => .check_bind trivial fun allowed => ?_
  refine .orRefuse_bind trivial fun length rounded => ?_
  refine (ends_trivial _ _).bind fun start k₁ placed => .modify_bind ?_
  refine (ends_trivial _ _).bind fun _ k₂ told => .get_bind ?_
  refine .orStuck_bind trivial fun identity named => ?_
  refine .orStuck_bind trivial fun a here => .set_bind (ends_pure.mpr ?_)
  refine ⟨length, a.map (m.areaAt (.ofSize start length)), rounded, ?_,
    AddressSpace.mem_insertArea_self _ a.areas⟩
  rw [space?_congr (holderPart_acquire _)]
  exact (space?_setSpace (k := k₂.emit _) here _ ref).trans (if_pos rfl)

private theorem mmap_extent (ref : SpaceRef) (q : Requester) (m : MapRequest) :
    (mmap ref q m).Ends k
      (fun start k' => ∃ length a, pageUp? m.length = some length ∧ k'.space? ref = some a ∧
        m.areaAt (.ofSize start length) ∈ a.areas)
      (fun _ _ => True) := by
  refine ⟨fun {start k'} done => ?_, fun _ => trivial⟩
  unfold mmap at done
  split at done
  case h_1 start' k₁ installed =>
    cases done
    rw [space?_congr (holderPart_release _)]
    exact (install_extent ref q m).ok installed
  case h_2 => cases done

/-- A segment that is attached is mapped from its start on, with all pages that its size takes. -/
theorem shmat_extent (t : Handle .task) (id : Int) (address : Nat) (flagWord : FlagWord) :
    (shmat t id address flagWord).Ends k
      (fun answer k' => ∃ task q s g start length a v, k.Names t id task s g ∧
        k.requester? task = some q ∧ answer = signed 64 start ∧ pageUp? g.size = some length ∧
        k'.space? (.ofTask t) = some a ∧ v ∈ a.areas ∧ v.span = .ofSize start length ∧
        v.offset = 0 ∧ v.object = .segment s)
      (fun _ _ => True) := by
  simp only [shmat, attach, bind_assoc, pure_bind]
  refine .modify_bind (.ofExcept_bind (fun _ _ => trivial) fun start granted => ?_)
  refine ends_caller_bind trivial fun task q here asking => ?_
  refine ends_findSegment_bind trivial trivial fun registry s registered listed => ?_
  refine .get_bind (.orStuck_bind trivial fun g present => .check_bind trivial fun free => ?_)
  refine .get_bind (.orStuck_bind trivial fun g' present' => ?_)
  refine .check_bind trivial fun usable => .check_bind trivial fun permitted => .set_bind ?_
  cases present.symm.trans present'
  refine (mmap_extent (.ofTask t) q _).bind fun mapped k' reached => ?_
  obtain ⟨length, a, rounded, space, member⟩ := reached
  have named : k.Names t id task s g := ⟨here, ⟨registry, registered, listed⟩, present⟩
  exact .modify_bind (ends_pure.mpr ⟨task, q, s, g, mapped, length, a, _, named, asking, rfl,
    rounded, space, member, rfl, rfl, rfl⟩)

end Kernel

/-- The operation unmaps addresses of a task. -/
def Operation.UnmapsIn (t : Handle .task) : Operation → Prop
  | munmap (.ofTask t') _ _ _ => t' = t
  | _ => False

namespace World

open Kernel

variable {w w' : World} {t : Handle .task} {task : Task} {a : AddressSpace} {v : Area}
  {s : Handle .segment} {ref : SpaceRef}

/-- A segment that is mapped is there. -/
theorem Reachable.present_of_mapped (reachable : w.Reachable anything)
    (here : w.kernel.space? ref = some a) (member : v ∈ a.areas) (object : v.object = .segment s) :
    ∃ g, w.kernel.segments.get? s = some g := by
  have mapped : .segment s ∈ w.kernel.held + 0 :=
    mapped_subset_held here (Multiset.mem_coe.mpr (List.mem_map.mpr ⟨v, member, object⟩))
  rw [add_zero] at mapped
  obtain ⟨g, found, _⟩ := (reachable.counted suits_anything).segment mapped
  exact ⟨g, found⟩

/-- After a segment was detached, what the task maps are parts of what it mapped before. -/
theorem Reachable.parts_of_detached (reachable : w.Reachable anything) {k : Kernel} {task' : Task}
    {address : Nat} {answer : Int} (here : w.kernel.tasks.get? t = some task)
    (done : Kernel.shmdt t address w.kernel = .ok answer k)
    (here' : k.tasks.get? t = some task') :
    ∀ v ∈ task'.space.areas, ∃ u ∈ task.space.areas, v.Part u := by
  intro v member
  have laid := reachable.laid suits_anything
  have after : ((Operation.shmdt t address).run w).kernel = k := KernelM.after_of_ok done
  have traced := (step_run (o := .shmdt t address) laid trivial).traced laid (space?_ofTask here)
  rw [after] at traced
  obtain ⟨u, part, before | ⟨_, does⟩⟩ := traced.traces _ (space?_ofTask here') v member
  · exact ⟨u, before, part⟩
  · cases does

/-- Detaching at an address takes away all that maps the segment from there to its size, and
nothing else. So it takes nothing but the attachment that starts at the address if and only if no
other attachment of the segment reaches into these addresses. Then the other attachments are left
whole, and each can still be detached at its own address. -/
theorem detaches_one_attachment (reachable : w.Reachable anything) {address : Nat} {answer : Int}
    {k : Kernel} (done : Kernel.shmdt t address w.kernel = .ok answer k) :
    answer = 0 ∧ ∃ task s g task', DetachedAt w.kernel t address task s g task' k ∧
      ((∀ x, ¬ task.space.InAttachment s (.ofSize address g.effectiveSize) x →
          task'.space.mapping? x = task.space.mapping? x ∧
            task'.space.page? x = task.space.page? x) ↔
        task.space.Unmixed s (.ofSize address g.effectiveSize)) ∧
      (task.space.Unmixed s (.ofSize address g.effectiveSize) →
        ∀ start s', start ≠ address → attachedFrom? task.space start = some s' →
          (∀ size x, task.space.InAttachment s' (.ofSize start size) x →
            task'.space.mapping? x = task.space.mapping? x ∧
              task'.space.page? x = task.space.page? x) ∧
          ∃ k', Kernel.shmdt t start k = .ok 0 k') := by
  have laid := reachable.laid suits_anything
  have ends : (Kernel.shmdt t address).Ends w.kernel (fun answer k' => answer = 0 ∧
      ∃ task s g task', DetachedAt w.kernel t address task s g task' k') (fun _ _ => True) :=
    shmdt_detaches laid t address
  obtain ⟨rfl, task, s, g, task', detached⟩ := ends.ok done
  have ordered := (laid.spaces (space?_ofTask detached.before)).toOrdered
  obtain ⟨v, member, start, _⟩ := attachedFrom?_eq_some detached.attached
  have spares := detached.detaches.unmixed_iff ordered member start
  refine ⟨rfl, task, s, g, task', detached, spares, fun unmixed start s' other attached => ?_⟩
  constructor
  · intro size x inside
    exact spares.mpr unmixed x (ordered.not_inAttachment inside other)
  · have step := step_run (o := .shmdt t address) laid trivial
    have after : ((Operation.shmdt t address).run w).kernel = k := KernelM.after_of_ok done
    have ordered' : task'.space.Ordered := by
      have laid' := step.laid laid
      rw [after] at laid'
      exact (laid'.spaces (space?_ofTask detached.after)).toOrdered
    have parts := reachable.parts_of_detached detached.before done detached.after
    have still := detached.detaches.attachedFrom? ordered ordered' parts unmixed other attached
    -- The segment is still there, and the task has its clock.
    obtain ⟨u, among, _, object, _⟩ := attachedFrom?_eq_some attached
    obtain ⟨g', found⟩ :=
      reachable.present_of_mapped (space?_ofTask detached.before) among object
    obtain ⟨g'', found', _⟩ := step.evolves found
    rw [after] at found'
    obtain ⟨q, asking⟩ := detached.asking
    obtain ⟨_, here', bare⟩ := task_of_backdrop detached.backdrop detached.before
    cases detached.after.symm.trans here'
    rw [← requester?_of_backdrop detached.backdrop bare] at asking
    exact ⟨_, shmdt_of_attached detached.after asking still found'⟩

/-- Of two attachments side by side, the first with a hole in it, the first is detached. -/
theorem detaches_one_attachment_sharing :
    let w := ({} : World).follow sharing
    w.Reachable anything ∧ ∃ task task' k, Kernel.shmdt ⟨0⟩ 0x10000 w.kernel = .ok 0 k ∧
      w.kernel.tasks.get? ⟨0⟩ = some task ∧ k.tasks.get? ⟨0⟩ = some task' ∧
      task.space.InAttachment ⟨0⟩ (.ofSize 0x13000 0x3000) 0x13000 ∧
      (∀ x, ¬ task.space.InAttachment ⟨0⟩ (.ofSize 0x10000 0x3000) x →
        task'.space.mapping? x = task.space.mapping? x ∧
          task'.space.page? x = task.space.page? x) ∧
      ∃ k', Kernel.shmdt ⟨0⟩ 0x13000 k = .ok 0 k' := by
  intro w
  have reachable : w.Reachable anything :=
    reachable_follow (by decide +kernel) fun _ _ => trivial
  have evaluated : ∀ task ∈ w.kernel.tasks.get? ⟨0⟩, ∀ s ∈ attachedFrom? task.space 0x10000,
      ∀ g ∈ w.kernel.segments.get? s, s = ⟨0⟩ ∧ g.effectiveSize = 0x3000 ∧
        task.space.InAttachment ⟨0⟩ (.ofSize 0x13000 0x3000) 0x13000 ∧
        task.space.Unmixed ⟨0⟩ (.ofSize 0x10000 0x3000) ∧
        attachedFrom? task.space 0x13000 = some ⟨0⟩ := by decide +kernel
  obtain ⟨k, done⟩ : ∃ k, Kernel.shmdt ⟨0⟩ 0x10000 w.kernel = .ok 0 k := by decide +kernel
  obtain ⟨_, task, s, g, task', detached, spares, others⟩ := detaches_one_attachment reachable done
  obtain ⟨rfl, size, inside, unmixed, attached⟩ :=
    evaluated task detached.before s detached.attached g detached.present
  rw [size] at spares others
  exact ⟨reachable, task, task', k, done, detached.before, detached.after, inside,
    spares.mpr unmixed, (others unmixed 0x13000 ⟨0⟩ (by decide) attached).2⟩

/-- A task attaches a segment of two pages, and then once more over the second page of that. -/
def overlaying : List Operation :=
  [.makePool 0x80000000 16, .makeRegistry .initial ⟨0⟩ {} (.ipc true), .makeClock ⟨0⟩,
    .makeTask 1 (.superuser .initial) ⟨0⟩ ⟨0⟩ ⟨0x10000000, 0x11000000⟩,
    .shmget ⟨0⟩ privateKey 0x2000 ⟨0o600⟩, .shmat ⟨0⟩ 1 0x10000000 ⟨0⟩,
    .shmat ⟨0⟩ 1 0x10001000 ⟨0o40000⟩]

/-- When the first of two attachments of a segment is detached, the second loses a page if it was
made over the tail of the first, and can no longer be detached. -/
theorem detaching_takes_overlaid :
    let w := ({} : World).follow overlaying
    w.Reachable anything ∧
    (∃ task ∈ w.kernel.tasks.get? ⟨0⟩,
      task.space.InAttachment ⟨0⟩ (.ofSize 0x10001000 0x2000) 0x10001000 ∧
      ¬ task.space.InAttachment ⟨0⟩ (.ofSize 0x10000000 0x2000) 0x10001000) ∧
    (∃ k, Kernel.shmdt ⟨0⟩ 0x10000000 w.kernel = .ok 0 k) ∧
    (∃ task ∈ ((Kernel.shmdt ⟨0⟩ 0x10000000).after w.kernel).tasks.get? ⟨0⟩,
      task.space.mapping? 0x10001000 = none) ∧
    ¬ ∃ k, Kernel.shmdt ⟨0⟩ 0x10001000 ((Kernel.shmdt ⟨0⟩ 0x10000000).after w.kernel) =
      .ok 0 k := by
  refine ⟨reachable_follow (by decide +kernel) fun _ _ => trivial, ?_⟩
  decide +kernel

/-! ## Fragments -/

private theorem suits_unmapsIn (t : Handle .task) : Suits (Operation.UnmapsIn t) idle where
  covers := by
    intro w o d permitted does
    cases does <;> cases permitted

/-- While addresses of a task are unmapped, its areas are parts of what they were. -/
theorem Run.traced_of_unmapsIn (cut : Run (Operation.UnmapsIn t) w w') (laid : w.kernel.Laid)
    (found : w.kernel.space? ref = some a) : Traced idle ref a.areas w'.kernel := by
  have both : w'.kernel.Laid ∧ Traced idle ref a.areas w'.kernel := by
    refine cut.preserves (suits_unmapsIn t)
      (fun w => w.kernel.Laid ∧ Traced idle ref a.areas w.kernel) ?_ laid
      ⟨laid, traced_start laid found⟩
    intro w w' step before
    refine ⟨step.laid before.1, ?_⟩
    exact step.kernel (Traced idle ref a.areas) Turn.traced
      (fun same _ traced => traced.congr same) before.1 before.2
  exact both.2

private theorem Run.backdrop_of_unmapsIn (cut : Run (Operation.UnmapsIn t) w w') :
    w'.kernel.backdrop = w.kernel.backdrop := by
  induction cut with
  | refl => rfl
  | @tail w' o _ permitted _ ih =>
      cases o with
      | munmap ref q address length =>
          have immune := immune_backdrop ⟨0⟩ w.kernel.backdrop
          have maps : w'.kernel.MapsOnly ref (fun _ => True) := fun _ _ _ _ => trivial
          exact (immune.munmap q address length maps ih).after
      | _ => cases permitted

/-- A segment that is attached is mapped to as many pages as it has, and while addresses are
unmapped, parts of that are what its addresses map. -/
theorem attached_partsOnly (reachable : w.Reachable anything) {id : Int} {address : Nat}
    {flagWord : FlagWord} {answer : Int} {k : Kernel}
    (done : Kernel.shmat t id address flagWord w.kernel = .ok answer k)
    (cut : Run (Operation.UnmapsIn t) ((Operation.shmat t id address flagWord).run w) w') :
    ∃ task q s g task' v, w.kernel.Names t id task s g ∧ w'.kernel.tasks.get? t = some task' ∧
      w'.kernel.requester? task' = some q ∧ answer = signed 64 v.span.start ∧
      v.span.start < wordSize ∧ v.span = .ofSize v.span.start g.effectiveSize ∧
      0 < g.effectiveSize ∧ v.offset = 0 ∧ v.object = .segment s ∧ task'.space.PartsOnly v := by
  have laid := reachable.laid suits_anything
  have after : ((Operation.shmat t id address flagWord).run w).kernel = k :=
    KernelM.after_of_ok done
  have laid' := (step_run (o := .shmat t id address flagWord) laid trivial).laid laid
  have attaching : (Kernel.shmat t id address flagWord).Ends w.kernel _ _ :=
    shmat_extent t id address flagWord
  obtain ⟨task, q, s, g, start, length, a, v, named, asking, answers, rounded, space, member, span,
    first, object⟩ := attaching.ok done
  rw [← after] at space
  have placed := laid'.spaces space
  -- Neither attaching nor unmapping touches the backdrop.
  have same : w'.kernel.backdrop = w.kernel.backdrop := by
    have immune := immune_backdrop ⟨0⟩ w.kernel.backdrop
    have attach := immune.shmat t id address flagWord (fun _ _ _ _ => trivial)
      (fun _ _ _ _ => trivial) rfl
    exact cut.backdrop_of_unmapsIn.trans attach.after
  obtain ⟨task', here', bare⟩ := task_of_backdrop same named.caller
  rw [← requester?_of_backdrop same bare] at asking
  have traced := cut.traced_of_unmapsIn laid' space
  have ordered' : task'.space.Ordered := by
    have later := (cut.mono fun _ _ => trivial : Run anything _ w').preserves suits_anything
      (·.kernel.Laid) Step.laid laid' laid'
    exact (later.spaces (space?_ofTask here')).toOrdered
  have parts : ∀ u ∈ task'.space.areas, ∃ u' ∈ a.areas, u.Part u' := by
    intro u inside
    obtain ⟨u', part, before | ⟨_, never⟩⟩ := traced.traces _ (space?_ofTask here') u inside
    · exact ⟨u', before, part⟩
    · exact never.elim
  have sized := (reachable.accounted suits_anything).sized named.present
  obtain rfl : length = g.effectiveSize := IsLeast.unique (isLeast_of_pageUp? rounded) sized.least
  obtain rfl : v.span.start = start := congrArg Span.start span
  exact ⟨task, q, s, g, task', v, named, here', asking, answers, placed.start_lt member, span,
    sized.positive, first, object, placed.toOrdered.partsOnly ordered' parts member⟩

/-- However an attachment was cut into fragments by unmapping addresses, what its addresses still
map is the attachment. Detaching it at its address succeeds as long as its first page is mapped, and
then none of its addresses is mapped any more and no page is left there. Once the first page was
unmapped, detaching is refused and nothing changes, whatever else is left of the attachment. -/
theorem fragments_detached (reachable : w.Reachable anything) {id : Int} {address : Nat}
    {flagWord : FlagWord} {answer : Int} {k : Kernel}
    (done : Kernel.shmat t id address flagWord w.kernel = .ok answer k)
    (cut : Run (Operation.UnmapsIn t) ((Operation.shmat t id address flagWord).run w) w') :
    ∃ start task s g task', start < wordSize ∧ answer = signed 64 start ∧
      w.kernel.Names t id task s g ∧ w'.kernel.tasks.get? t = some task' ∧
      (∀ x m, (Span.ofSize start g.effectiveSize).Contains x → task'.space.mapping? x = some m →
        m.object = .segment s ∧ m.offset = x - start) ∧
      (task'.space.mapping? start ≠ none →
        ∃ k' task'', Kernel.shmdt t start w'.kernel = .ok 0 k' ∧ k'.tasks.get? t = some task'' ∧
          ∀ x, (Span.ofSize start g.effectiveSize).Contains x →
            task''.space.mapping? x = none ∧ task''.space.page? x = none) ∧
      (task'.space.mapping? start = none →
        Kernel.shmdt t start w'.kernel =
          .error .einval (w'.kernel.emit (.detachCalled start))) := by
  obtain ⟨task, q, s, g, task', v, named, here', asking, answers, word, span, positive, first,
    object, only⟩ := attached_partsOnly reachable done cut
  have whole : Run anything w w' :=
    Run.trans (.tail (o := .shmat t id address flagWord) .refl trivial trivial)
      (cut.mono fun _ _ => trivial)
  have later : w'.Reachable anything := reachable.trans whole
  have maps : ∀ x m, v.span.Contains x → task'.space.mapping? x = some m →
      m.object = .segment s ∧ m.offset = x - v.span.start := by
    intro x m within mapped
    rw [only.mapping within mapped]
    refine ⟨object, ?_⟩
    simp only [Area.mappingAt, Area.offsetAt, first]
    omega
  refine ⟨v.span.start, task, s, g, task', word, answers, named, here', span ▸ maps,
    fun mapped => ?_, fun unmapped => ?_⟩
  · rw [← span]
    have nonempty : v.span.start < v.span.stop := by
      rw [span]
      exact Nat.lt_add_of_pos_right positive
    have attached := only.attachedFrom?_of_mapped nonempty first object mapped
    obtain ⟨g', present, evolves⟩ :=
      whole.evolves suits_anything (reachable.laid suits_anything) named.present
    have detaching := shmdt_of_attached here' asking attached present
    have ends : (Kernel.shmdt t v.span.start).Ends w'.kernel (fun answer k' => answer = 0 ∧
        ∃ task s g task', DetachedAt w'.kernel t v.span.start task s g task' k') (fun _ _ => True) :=
      shmdt_detaches (later.laid suits_anything) t v.span.start
    obtain ⟨_, _, _, _, task'', detached⟩ := ends.ok detaching
    cases here'.symm.trans detached.before
    cases attached.symm.trans detached.attached
    cases present.symm.trans detached.present
    have detaches := detached.detaches
    rw [evolves.effectiveSize, ← span] at detaches
    have covered := later.covered suits_anything _ _ (space?_ofTask here')
    exact ⟨_, task'', detaching, detached.after, fun x within =>
      only.cleared covered object detaches within⟩
  · exact shmdt_of_unattached here' asking (only.attachedFrom?_eq_none unmapped)

/-- In a task with a clock, a segment of three pages. -/
def providing : List Operation :=
  [.makePool 0x80000000 16, .makeRegistry .initial ⟨0⟩ {} (.ipc true), .makeClock ⟨0⟩,
    .makeTask 1 (.superuser .initial) ⟨0⟩ ⟨0⟩ ⟨0x10000000, 0x11000000⟩,
    .shmget ⟨0⟩ privateKey 0x3000 ⟨0o600⟩]

/-- An attachment without its middle page is detached as a whole. -/
theorem fragments_detached_holed :
    let w := ({} : World).follow providing
    let w' := ((Operation.shmat ⟨0⟩ 1 0 ⟨0⟩).run w).follow
      [.munmap (.ofTask ⟨0⟩) ⟨.superuser .initial, none, none⟩ 0x10001000 0x1000]
    w.Reachable anything ∧ ∃ k task, Kernel.shmdt ⟨0⟩ 0x10000000 w'.kernel = .ok 0 k ∧
      k.tasks.get? ⟨0⟩ = some task ∧ ∀ x, (Span.ofSize 0x10000000 0x3000).Contains x →
        task.space.mapping? x = none ∧ task.space.page? x = none := by
  intro w w'
  have reachable : w.Reachable anything :=
    reachable_follow (by decide +kernel) fun _ _ => trivial
  obtain ⟨k, done⟩ : ∃ k, Kernel.shmat ⟨0⟩ 1 0 ⟨0⟩ w.kernel = .ok 0x10000000 k := by
    decide +kernel
  have cut : Run (Operation.UnmapsIn ⟨0⟩) ((Operation.shmat ⟨0⟩ 1 0 ⟨0⟩).run w) w' := by
    refine Run.refl.follow (by decide +kernel) fun o member => ?_
    cases List.mem_singleton.mp member
    rfl
  have sizes : ∀ g ∈ w.kernel.segments.values, g.effectiveSize = 0x3000 := by decide +kernel
  have mapped : ∀ task ∈ w'.kernel.tasks.get? ⟨0⟩, task.space.mapping? 0x10000000 ≠ none := by
    decide +kernel
  obtain ⟨start, task, s, g, task', word, answer, named, here, _, detached, _⟩ :=
    fragments_detached reachable done cut
  obtain rfl : 0x10000000 = start := signed_inj (by decide) word answer
  rw [sizes g (Slots.mem_values.mpr ⟨s, named.present⟩)] at detached
  exact ⟨reachable, detached (mapped task' here)⟩

/-- An attachment without its first page is there but cannot be detached. -/
theorem headless_not_detached :
    let w := ((Operation.shmat ⟨0⟩ 1 0 ⟨0⟩).run (({} : World).follow providing)).follow
      [.munmap (.ofTask ⟨0⟩) ⟨.superuser .initial, none, none⟩ 0x10000000 0x1000]
    w.Reachable anything ∧
    (∃ k, Kernel.shmat ⟨0⟩ 1 0 ⟨0⟩ (({} : World).follow providing).kernel =
      .ok 0x10000000 k) ∧
    (∃ task ∈ w.kernel.tasks.get? ⟨0⟩,
      task.space.InAttachment ⟨0⟩ (.ofSize 0x10000000 0x3000) 0x10001000) ∧
    ¬ ∃ k, Kernel.shmdt ⟨0⟩ 0x10000000 w.kernel = .ok 0 k := by
  refine ⟨Run.follow (.tail (reachable_follow (by decide +kernel) fun _ _ => trivial) trivial
    trivial) (by decide +kernel) fun _ _ => trivial, ?_⟩
  decide +kernel

end World

end SharedMemory
