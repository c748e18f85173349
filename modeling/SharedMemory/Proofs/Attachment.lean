import SharedMemory.Proofs.Faultless
import SharedMemory.Proofs.Pieces

/-!
# Attaching a segment

A segment that is attached is mapped as a whole, at the address that was asked for or where there is
room, and nothing else changes at any address. Unless the call says so, nothing is mapped over.

A call that is refused leaves the kernel as it was, with one exception. The segment notes who
attaches it and when before room is looked for; if there is none, the reference is given back, but
the notes stay.
-/

namespace SharedMemory

/-- A segment to which whoever attaches it takes one more reference. -/
def Segment.attaching (g : Segment) (q : Requester) : Segment :=
  { g.noteAttach q with attachCount := g.attachCount + 1 }

private theorem Segment.noteAttach_attaching (g : Segment) (q : Requester) :
    (g.attaching q).noteAttach q = g.attaching q := by
  cases now : q.now <;> cases pid : q.pid <;> simp [attaching, noteAttach, now, pid]

private theorem Segment.noteAttach_eq_self_iff {g : Segment} {q : Requester} {now : Instant}
    {pid : Pid} (timed : q.now = some now) (known : q.pid = some pid) : g.noteAttach q = g ↔ q.now =
    some g.attachTime ∧ q.pid = some g.lastPid := by
  rw [timed, known, Option.some.injEq, Option.some.injEq]
  constructor
  · intro same
    have time := congrArg Segment.attachTime same
    have last := congrArg Segment.lastPid same
    simp only [noteAttach, timed, known, Option.getD_some] at time last
    exact ⟨time, last⟩
  · rintro ⟨rfl, rfl⟩
    simp only [noteAttach, timed, known, Option.getD_some]

/-! ## Room -/

namespace AddressSpace

variable {a : AddressSpace} {s : Span} {v : Area} {address : Nat}

/-- Nothing is to be unmapped where there is room. -/
theorem Covered.unmap_of_room (covered : a.Covered) (room : a.HasRoom s) : a.unmap s = a := by
  have areas : a.areas.flatMap (·.without s) = a.areas := by
    have whole : ∀ v ∈ a.areas, v.without s = [v] := fun v member => if_neg (room v member)
    rw [List.flatMap_congr whole, List.flatMap_singleton']
  have pages : a.pages.filter (fun entry => ¬ s.Contains entry.1) = a.pages := by
    rw [List.filter_eq_self]
    intro entry member
    obtain ⟨v, inside, holds, _⟩ := covered.mapped entry member
    rw [decide_eq_true_eq]
    intro within
    exact room v inside ⟨Nat.lt_of_le_of_lt holds.1 within.2, Nat.lt_of_le_of_lt within.1 holds.2⟩
  rw [AddressSpace.unmap, areas, pages]

private theorem Ordered.place?_from {hint length start : Nat} (ordered : a.Ordered)
    (placed : a.place? hint length = some start) : a.range.start ≤ start := by
  unfold place? at placed
  split at placed
  case isTrue taken =>
    cases placed
    exact taken.2.2.2.1
  case isFalse => exact (lowestGap?_room ordered.ascending ordered.nonempty placed).1

/-- Where there is room, an area changes what its addresses show, and nothing else. -/
theorem Ordered.sight_map (ordered : a.Ordered) (covered : a.Covered) (room : a.HasRoom v.span)
    (nonempty : v.span.start < v.span.stop) (address : Nat) :
    (a.map v).sight address =
      if v.span.Contains address then (some (v.mappingAt address), some v.maxPerms, none)
      else a.sight address := by
  have page : (a.map v).page? address = a.page? address := rfl
  simp only [sight, ordered.mapping?_map room nonempty, maxPerms?,
    ordered.areaAt?_map room nonempty, page]
  split
  case isTrue holds =>
    have unmapped : a.mapping? address = none := by
      rw [ordered.mapping?_eq_none_iff]
      intro w member within
      exact room w member ⟨Nat.lt_of_le_of_lt within.1 holds.2, Nat.lt_of_le_of_lt holds.1 within.2⟩
    rw [covered.page?_eq_none ordered unmapped]
    rfl
  case isFalse => rfl

end AddressSpace

namespace Kernel

open KernelM

variable {k k' : Kernel} {ref : SpaceRef} {a : AddressSpace} {q : Requester} {m : MapRequest}
  {s : Handle .segment} {g : Segment} {length : Nat}

private theorem unmapSpan_of_room {span : Span} (found : k.space? ref = some a)
    (covered : a.Covered) (upright : span.start ≤ span.stop) (room : a.HasRoom span) (q : Requester)
    : k.unmapSpan ref q span = k := by
  have untouched : a.areas.filter (·.span.Meets span) = [] := by
    rw [List.filter_eq_nil_iff]
    intro v member
    simpa using room v member
  rw [unmapSpan_eq found upright, untouched, covered.unmap_of_room room]
  exact setSpace_self found

/-- A request is placed where it says, after what is mapped there was unmapped, or where there is
room. -/
inductive Sited (k : Kernel) (ref : SpaceRef) (q : Requester) (m : MapRequest) (length : Nat)
    (a : AddressSpace) : Nat → Kernel → Prop
  | fixed (asked : m.fixed = true)
      (inside : a.range.start ≤ m.address ∧ m.address + length ≤ a.range.stop) :
      Sited k ref q m length a m.address (k.unmapSpan ref q (.ofSize m.address length))
  | anywhere {start : Nat} (loose : m.fixed = false)
      (placed : a.place? m.address length = some start) : Sited k ref q m length a start k

/-- There is room for a request, or room can be made for it. -/
def Roomy (a : AddressSpace) (m : MapRequest) (length : Nat) : Prop :=
  if m.fixed then a.range.start ≤ m.address ∧ m.address + length ≤ a.range.stop
  else (a.place? m.address length).isSome

/-- A request is refused for want of room, and nothing changes. -/
structure Unhoused (k : Kernel) (m : MapRequest) (length : Nat) (a : AddressSpace) (cause : Errno)
    (k' : Kernel) : Prop where
  cause : cause = .enomem
  same : k' = k
  full : ¬ Roomy a m length

/-- A request is placed where it says or where there is room, and otherwise refused without a
change. -/
theorem placeRequest_sited (found : k.space? ref = some a) (bounded : a.range.stop < wordSize)
    (aligned : PageAligned m.address) (q : Requester) :
    (placeRequest ref q m length).Ends k (Sited k ref q m length a) (Unhoused k m length a) := by
  refine ends_ite.mpr ⟨fun asked => ?_, fun loose => ?_⟩
  · have outside (reason : ¬ (a.range.start ≤ m.address ∧ m.address + length ≤ a.range.stop)) :
        Unhoused k m length a .enomem k :=
      ⟨rfl, rfl, by rwa [Roomy, if_pos asked]⟩
    unfold placeFixed
    refine .get_bind (.found_bind found (.passed_bind aligned ?_))
    refine ends_bind.mpr (ends_orRefuse.mpr ⟨fun stop sum => ?_, fun overflow => ?_⟩)
    · obtain ⟨rfl, _⟩ := addWord?_eq_some_iff.mp sum
      refine ends_bind.mpr (ends_check.mpr ⟨fun inside => ?_, outside⟩)
      exact .modify_bind (ends_pure.mpr (.fixed asked inside))
    · refine outside fun inside => ?_
      have word : m.address + length < wordSize := Nat.lt_of_le_of_lt inside.2 bounded
      rw [addWord?, if_pos word] at overflow
      cases overflow
  · unfold placeAnywhere
    refine .get_bind (.found_bind found (ends_orRefuse.mpr ?_))
    refine ⟨fun start placed => .anywhere (Bool.eq_false_of_not_eq_true loose) placed,
      fun nowhere => ⟨rfl, rfl, ?_⟩⟩
    rw [Roomy, if_neg loose, nowhere]
    exact Bool.false_ne_true

private theorem Sited.space? {start : Nat} (sited : Sited k ref q m length a start k')
    (found : k.space? ref = some a) : ∃ b, k'.space? ref = some b := by
  cases sited with
  | fixed => exact ⟨_, space?_unmapSpan found q _⟩
  | anywhere => exact ⟨a, found⟩

private theorem Sited.inside {start : Nat} (sited : Sited k ref q m length a start k')
    (laid : a.Laid)
    (positive : 0 < length) : a.range.start ≤ start ∧ start + length ≤ a.range.stop := by
  cases sited with
  | fixed _ inside => exact inside
  | anywhere _ placed =>
      exact ⟨laid.toOrdered.place?_from placed, laid.place?_below laid.below positive placed⟩

/-- A segment that is to be mapped outlives what is unmapped for it. -/
theorem Sited.present {start : Nat} (sited : Sited k ref q m length a start k')
    (found : k.space? ref = some a) (aligned : PageAligned m.address) (whole : PageAligned length)
    (present : k.segments.get? s = some g) : ∃ g', k'.segments.get? s = some g' := by
  cases sited with
  | fixed =>
      have cut : a.CleanCut (.ofSize m.address length) :=
        AddressSpace.cleanCut_of_aligned (Nat.le_add_right _ _) aligned (aligned.add whole)
      have passage : Passage idle k 0 _ 0 := (unmapSpan_spec found cut q).1
      obtain ⟨g', there, _⟩ := Chain.evolves passage present
      exact ⟨g', there⟩
  | anywhere => exact ⟨g, present⟩

private theorem Sited.start_eq {start : Nat} (sited : Sited k ref q m length a start k')
    (asked : m.fixed = true) : start = m.address := by
  cases sited with
  | fixed => rfl
  | anywhere loose =>
      rw [asked] at loose
      cases loose

/-- Where a request is placed there is room afterwards, and no other address shows anything else. -/
theorem Sited.cleared {start : Nat} (sited : Sited k ref q m length a start k')
    (found : k.space? ref = some a) (ordered : a.Ordered) (covered : a.Covered) :
    ∃ b, k'.space? ref = some b ∧ b.Ordered ∧ b.Covered ∧ b.HasRoom (.ofSize start length) ∧
      ∀ x, ¬ (Span.ofSize start length).Contains x → b.sight x = a.sight x := by
  cases sited with
  | fixed =>
      have upright : (Span.ofSize m.address length).start ≤ (Span.ofSize m.address length).stop :=
        Nat.le_add_right _ _
      exact ⟨_, space?_unmapSpan found q _, ordered.unmap upright, covered.unmap ordered,
        fun w => AddressSpace.not_meets_of_mem_unmap,
        fun x outside => (ordered.loses_unmap upright).kept outside⟩
  | anywhere _ placed =>
      exact ⟨a, found, ordered, covered, ordered.hasRoom_of_place? placed, fun _ _ => rfl⟩

/-- A request is placed without a trace if nothing is mapped where it says. -/
theorem Sited.eq_of_room {start : Nat} (sited : Sited k ref q m length a start k')
    (found : k.space? ref = some a) (covered : a.Covered)
    (room : m.fixed = true → a.HasRoom (.ofSize m.address length)) : k' = k := by
  cases sited with
  | fixed asked => exact unmapSpan_of_room found covered (Nat.le_add_right _ _) (room asked) q
  | anywhere => rfl

/-! ## Mapping a segment -/

/-- What a kernel is after a segment was mapped, but for the reference that the area takes. -/
def joined (k : Kernel) (ref : SpaceRef) (q : Requester) (a : AddressSpace) (v : Area)
    (s : Handle .segment) (g : Segment) : Kernel :=
  ((k.setSegment s (g.noteAttach q)).emit (.mapped v.span g.identity.name v.perms)).setSpace
    (a.map v) ref

/-- A segment is mapped where the request is sited, and otherwise refused without a change. -/
theorem install_segment {pid : Pid} (found : k.space? ref = some a) (laid : a.Laid)
    (object : m.object = .segment s) (present : k.segments.get? s = some g)
    (nonzero : m.length ≠ 0) (allowed : m.maxPerms.allows m.perms = true)
    (rounded : pageUp? m.length = some length) (aligned : PageAligned m.address)
    (known : q.pid = some pid) :
    (install ref q m).Ends k
      (fun start k' => ∃ k₁ b g', Sited k ref q m length a start k₁ ∧ k₁.space? ref = some b ∧
        k₁.segments.get? s = some g' ∧
        k' = (k₁.joined ref q b (m.areaAt (.ofSize start length)) s g').acquire (.segment s))
      (Unhoused k m length a) := by
  unfold install
  refine .passed_bind nonzero (.passed_bind allowed ?_)
  simp only [rounded, orRefuse, pure_bind, ends_bind]
  obtain ⟨_, whole, enough, _⟩ := pageUp?_eq_some_iff.mp rounded
  refine (placeRequest_sited found laid.bounded aligned q).mono (fun start k₁ sited => ?_)
    fun _ _ full => full
  obtain ⟨b, space⟩ := sited.space? found
  obtain ⟨g', there⟩ := sited.present found aligned whole present
  have inside := sited.inside laid (by omega)
  have fits : (Span.ofSize start length).stop < wordSize :=
    Nat.lt_of_le_of_lt inside.2 laid.bounded
  have noted : (k₁.setSegment s (g'.noteAttach q)).segments.get? s = some (g'.noteAttach q) :=
    Slots.get?_set_self there _
  have still : (k₁.setSegment s (g'.noteAttach q)).space? ref = some b :=
    (space?_congr (holderPart_setSegment _ _) ref).trans space
  simp only [ends_modify, require, if_pos fits, object, notifyAdded, ends_bind, ends_get, there,
    orStuck, ends_pure, ends_set, known, Option.isNone_some, Bool.false_eq_true, if_false,
    identity?, noted, Option.map_some, still]
  refine ⟨k₁, b, g', sited, space, there, ?_⟩
  rw [joined, MapRequest.areaAt, object]
  rfl

/-- A reference that is taken and given back again leaves no trace, unless it is the last one to a
segment that is to be destroyed. -/
theorem release_raised (present : k.segments.get? s = some g) {g' : Segment}
    (kept : ¬ (g'.lifetime = .pending ∧ g'.attachCount = 0)) :
    (k.setSegment s { g' with attachCount := g'.attachCount + 1 }).release (.segment s) =
      k.setSegment s g' := by
  have there : (k.setSegment s { g' with attachCount := g'.attachCount + 1 }).segments.get? s =
      some { g' with attachCount := g'.attachCount + 1 } := Slots.get?_set_self present _
  have last : ¬ (g'.attachCount + 1 = 1 ∧ g'.lifetime = .pending) := by
    rintro ⟨one, pending⟩
    exact kept ⟨pending, Nat.succ.inj one⟩
  simp only [release, releaseSegment, there, require, if_pos (Nat.succ_pos _), if_neg last,
    Nat.add_sub_cancel]
  simp only [setSegment, Slots.set_set present]

private theorem release_acquire (present : k.segments.get? s = some g) (counted : g.attachCount ≠ 0)
    : (k.acquire (.segment s)).release (.segment s) = k := by
  simp only [acquire, present]
  rw [release_raised present fun last => counted last.2, setSegment, Slots.set_self present]

/-- Whoever maps a segment gives the reference that the request carries back, and leaves no trace
but the notes if there is no room. -/
theorem mmap_segment {pid : Pid} (found : k.space? ref = some a) (laid : a.Laid)
    (object : m.object = .segment s) (present : k.segments.get? s = some g)
    (nonzero : m.length ≠ 0) (allowed : m.maxPerms.allows m.perms = true)
    (rounded : pageUp? m.length = some length) (aligned : PageAligned m.address)
    (known : q.pid = some pid) :
    (mmap ref q m).Ends k
      (fun start k' => ∃ k₁ b g', Sited k ref q m length a start k₁ ∧ k₁.space? ref = some b ∧
        k₁.segments.get? s = some g' ∧
        k' = ((k₁.joined ref q b (m.areaAt (.ofSize start length)) s g').acquire
          (.segment s)).release (.segment s))
      (fun cause k' => cause = .enomem ∧ ¬ Roomy a m length ∧ k' = k.release (.segment s)) := by
  have installing := install_segment found laid object present nonzero allowed rounded aligned known
  cases result : install ref q m k with
  | ok start k' =>
      have same : mmap ref q m k = .ok start (k'.release m.object) := by simp only [mmap, result]
      obtain ⟨k₁, b, g', sited, space, there, rfl⟩ := installing.ok result
      rw [ends_iff_of_ok same, object]
      exact ⟨k₁, b, g', sited, space, there, rfl⟩
  | error cause k' =>
      have same : mmap ref q m k = .error cause (k'.release m.object) := by simp only [mmap, result]
      obtain ⟨refusal, rfl, full⟩ := installing.error result
      rw [ends_iff_of_error same, object]
      exact ⟨refusal, full, rfl⟩

/-! ## The system call -/

variable {t : Handle .task} {task : Task} {registry : Registry} {id : Int} {address : Nat}
  {flagWord : FlagWord}

/-- What attaching a segment at an address, or anywhere if it is zero, asks to be mapped. -/
def attachRequest (s : Handle .segment) (g : Segment) (start : Nat) (flagWord : FlagWord) :
    MapRequest :=
  ⟨.segment s, g.size, 0, start, decide (start ≠ 0), (attachMode flagWord start).access, .all⟩

/-- A segment was attached to a task, and mapped where there was or was made room. -/
structure Joins (k : Kernel) (t : Handle .task) (id : Int) (address : Nat) (flagWord : FlagWord)
    (task : Task) (q : Requester) (s : Handle .segment) (g : Segment) (start : Nat) (k' : Kernel) :
    Prop where
  present : k.segments.get? s = some g
  unoccupied : pageDown address ≠ 0 → (AttachFlags.ofWord flagWord).remap = false →
    task.space.overlaps (pageDown address) g.effectiveSize = false
  mapped : ∃ k₁ b g', Sited ((k.emit (.attachCalled id address flagWord)).setSegment s
      (g.attaching q)) (.ofTask t) q (attachRequest s g (pageDown address) flagWord) g.effectiveSize
        task.space start k₁ ∧
    k₁.space? (.ofTask t) = some b ∧ k₁.segments.get? s = some g' ∧
    k' = (((k₁.joined (.ofTask t) q b ((attachRequest s g (pageDown address) flagWord).areaAt
      (.ofSize start g.effectiveSize)) s g').acquire (.segment s)).release (.segment s)).emit
        (.attached id start)

/-- How a call to attach a segment is refused: outright, or for want of room, when the segment has
already noted it. -/
inductive Rejected (k : Kernel) (id : Int) (address : Nat) (flagWord : FlagWord) (task : Task)
    (q : Requester) (registry : Registry) : Errno → Kernel → Prop
  | outright {cause : Errno} (other : cause ≠ .enomem) :
      Rejected k id address flagWord task q registry cause
        (k.emit (.attachCalled id address flagWord))
  | roomless {s : Handle .segment} {g : Segment} (listed : registry.find? id = some s)
      (present : k.segments.get? s = some g)
      (full : ¬ Roomy task.space (attachRequest s g (pageDown address) flagWord) g.effectiveSize) :
      Rejected k id address flagWord task q registry .enomem
        ((k.emit (.attachCalled id address flagWord)).setSegment s (g.noteAttach q))

private theorem attachAddress_eq_ok {flags : AttachFlags} {start : Nat}
    (granted : attachAddress address flags = .ok start) : start = pageDown address := by
  unfold attachAddress at granted
  split at granted
  · cases granted
  · split at granted
    · cases granted
    · cases granted
      rfl

/-- All that a call to attach a segment can come to. -/
theorem shmat_spec (calling : k.Calling t task q registry) (laid : task.space.Laid)
    (listed : ∀ s, registry.find? id = some s →
      ∃ g, k.segments.get? s = some g ∧ g.size ≠ 0 ∧ pageUp? g.size = some g.effectiveSize) :
    (shmat t id address flagWord).Ends k
      (fun answer k' => ∃ s g start, registry.find? id = some s ∧ answer = signed 64 start ∧
        k.Joins t id address flagWord task q s g start k')
      (k.Rejected id address flagWord task q registry) := by
  have still := calling.emit (.attachCalled id address flagWord)
  obtain ⟨clock, _, asking⟩ := Option.map_eq_some_iff.mp calling.asking
  have known : q.pid = some task.pid := asking ▸ rfl
  simp only [shmat, ends_bind, ends_modify, ends_ofExcept, still.ends_caller, findSegment, ends_get,
    still.registered, orStuck, ends_pure, ends_orRefuse]
  refine ⟨fun start granted => ?_, fun cause refused => ?_⟩
  · refine ⟨fun s found => ?_, fun unlisted => .outright (by decide)⟩
    obtain rfl := attachAddress_eq_ok granted
    obtain ⟨g, present, nonzero, rounded⟩ := listed s found
    have there : (k.emit (.attachCalled id address flagWord)).segments.get? s = some g := present
    simp only [there, ends_pure, ends_check]
    refine ⟨fun free => ?_, fun occupied => .outright (by decide)⟩
    simp only [attach, ends_bind, ends_get, there, orStuck, ends_pure, ends_check, ends_set]
    refine ⟨fun kept => ?_, fun removed => .outright (by decide)⟩
    refine ⟨fun permitted => ?_, fun forbidden => .outright (by decide)⟩
    have taken : ((k.emit (.attachCalled id address flagWord)).setSegment s
        (g.attaching q)).segments.get? s = some (g.attaching q) := Slots.get?_set_self there _
    have space : ((k.emit (.attachCalled id address flagWord)).setSegment s
        (g.attaching q)).space? (.ofTask t) = some task.space := space?_ofTask still.here
    have allowed : Access.all.allows
        (attachRequest s g (pageDown address) flagWord).perms = true := rfl
    have mapping := mmap_segment (m := attachRequest s g (pageDown address) flagWord) space laid rfl
      taken nonzero allowed rounded (pageAligned_pageDown address) known
    refine mapping.mono (fun start k' mapped => ?_) fun cause k' refused => ?_
    · obtain ⟨k₁, b, g', sited, space, there, rfl⟩ := mapped
      refine ⟨s, g, start, found, rfl, present, fun asked spare => ?_,
        k₁, b, g', sited, space, there, rfl⟩
      exact Bool.eq_false_of_not_eq_true fun occupied => free ⟨asked, spare, occupied⟩
    · obtain ⟨rfl, full, rfl⟩ := refused
      have given : ((k.emit (.attachCalled id address flagWord)).setSegment s
          (g.attaching q)).release (.segment s) =
            (k.emit (.attachCalled id address flagWord)).setSegment s (g.noteAttach q) :=
        release_raised there kept
      rw [given]
      exact .roomless found present full
  · rw [attachAddress_refusals refused]
    exact .outright (by decide)

private theorem space?_joined {v : Area} (found : k.space? ref = some a) (q : Requester)
    (s : Handle .segment) (g : Segment) : (k.joined ref q a v s g).space? ref = some (a.map v) :=
  (space?_setSpace (k := (k.setSegment s (g.noteAttach q)).emit _)
    ((space?_congr rfl ref).trans found) _ ref).trans (if_pos rfl)

/-- A segment is attached to a task as it should be, at an address and with some flags. -/
structure AttachedAt (k : Kernel) (t : Handle .task) (address : Nat) (flagWord : FlagWord)
    (task : Task) (q : Requester) (s : Handle .segment) (g : Segment) (start : Nat) (task' : Task)
    (k' : Kernel) : Prop where
  after : k'.tasks.get? t = some task'
  inside : task.space.range.start ≤ start ∧ start + g.effectiveSize ≤ task.space.range.stop
  exactly : pageDown address ≠ 0 → start = pageDown address
  /-- Every address maps the byte of the segment that is as far from its start, and has no page. -/
  mapped : ∀ x, (Span.ofSize start g.effectiveSize).Contains x →
    task'.space.mapping? x = some ⟨.segment s, x - start,
      ⟨true, !(AttachFlags.ofWord flagWord).readOnly, (AttachFlags.ofWord flagWord).execute⟩⟩ ∧
    task'.space.page? x = none
  kept : ∀ x, ¬ (Span.ofSize start g.effectiveSize).Contains x →
    task'.space.sight x = task.space.sight x
  /-- Unless it is to replace what is mapped, nothing was mapped there. Then the segment notes the
  call and counts one more reference, the task has one more area, and that is all. -/
  spared : (AttachFlags.ofWord flagWord).remap = false →
    (∀ x, (Span.ofSize start g.effectiveSize).Contains x → task.space.mapping? x = none) ∧
    ∃ v, task'.space.areas.Perm (v :: task.space.areas) ∧
      k'.unlogged = ((k.setSegment s (g.attaching q)).setSpace (task.space.map v)
        (.ofTask t)).unlogged

/-- A segment that has noted the call notes nothing new when it is mapped, and counts the reference
of the area in place of the one that the request carried. -/
theorem joined_acquire_release {v : Area} (present : k.segments.get? s = some (g.attaching q))
    (ref : SpaceRef) (a : AddressSpace) :
    ((k.joined ref q a v s (g.attaching q)).acquire (.segment s)).release (.segment s) =
      (k.emit (.mapped v.span (g.attaching q).identity.name v.perms)).setSpace (a.map v) ref := by
  have noted : k.setSegment s ((g.attaching q).noteAttach q) = k := by
    rw [g.noteAttach_attaching q, setSegment, Slots.set_self present]
  rw [joined, noted, release_acquire (g := g.attaching q) _ (Nat.succ_ne_zero _)]
  rw [segments_setSpace]
  exact present

private theorem unlogged_setSpace (b : AddressSpace) (ref : SpaceRef) :
    (k.setSpace b ref).unlogged = k.unlogged.setSpace b ref := by
  have same : k.unlogged.tasks = k.tasks := rfl
  cases ref with
  | alone id => rfl
  | ofTask t =>
      simp only [setSpace, same]
      split <;> rfl

/-- Unless it is to replace what is mapped, an attachment goes where there is room. -/
theorem Joins.room {start : Nat} (joins : k.Joins t id address flagWord task q s g start k')
    (laid : task.space.Laid) (spare : (AttachFlags.ofWord flagWord).remap = false)
    (inside : (attachRequest s g (pageDown address) flagWord).fixed = true →
      pageDown address + g.effectiveSize ≤ task.space.range.stop) :
    (attachRequest s g (pageDown address) flagWord).fixed = true →
      task.space.HasRoom (.ofSize (pageDown address) g.effectiveSize) := by
  intro asked
  have free := joins.unoccupied (of_decide_eq_true asked) spare
  have word : addSaturating (pageDown address) g.effectiveSize =
      pageDown address + g.effectiveSize := by
    have := inside asked
    have := laid.bounded
    simp only [addSaturating, maxWord]
    omega
  rw [AddressSpace.overlaps, word, Bool.not_eq_false'] at free
  exact laid.hasRoom_of_isFree free

/-- A segment that joins a task is attached to it as it should be. -/
theorem Joins.attachedAt {start : Nat} (joins : k.Joins t id address flagWord task q s g start k')
    (here : k.tasks.get? t = some task) (laid : task.space.Laid) (covered : task.space.Covered)
    (positive : 0 < g.effectiveSize) :
    ∃ task', k.AttachedAt t address flagWord task q s g start task' k' := by
  obtain ⟨k₁, b, g', sited, space, there, final⟩ := joins.mapped
  have before : ((k.emit (.attachCalled id address flagWord)).setSegment s
      (g.attaching q)).space? (.ofTask t) = some task.space := space?_ofTask here
  obtain ⟨_, space', ordered, covered', room, same⟩ :=
    sited.cleared before laid.toOrdered covered
  cases space.symm.trans space'
  let v := (attachRequest s g (pageDown address) flagWord).areaAt (.ofSize start g.effectiveSize)
  have nonempty : v.span.start < v.span.stop := Nat.lt_add_of_pos_right positive
  have seen := ordered.sight_map (v := v) covered' room nonempty
  have left : k'.space? (.ofTask t) = some (b.map v) := by
    rw [final]
    refine (space?_congr ?_ _).trans (space?_joined space q s g')
    rw [holderPart_emit, holderPart_release, holderPart_acquire]
  obtain ⟨task', here', holds⟩ := Option.map_eq_some_iff.mp left
  have inside := sited.inside laid positive
  have exactly (asked : pageDown address ≠ 0) : start = pageDown address :=
    sited.start_eq (decide_eq_true asked)
  refine ⟨task', here', inside, exactly, fun x within => ?_, fun x outside => ?_, fun spare => ?_⟩
  · have shown := (seen x).trans (if_pos within)
    rw [holds]
    refine ⟨(congrArg (·.1) shown).trans ?_, congrArg (·.2.2) shown⟩
    have offset : v.offsetAt x = x - start := Nat.zero_add _
    rw [Area.mappingAt, offset]
    rfl
  · rw [holds]
    exact ((seen x).trans (if_neg outside)).trans (same x outside)
  · have unmoved := sited.eq_of_room before covered (joins.room laid spare fun asked => ?_)
    · -- So the areas and the segment are those that the call found.
      subst unmoved
      cases before.symm.trans space
      cases (Slots.get?_set_self joins.present (g.attaching q)).symm.trans there
      refine ⟨fun x within => ?_, v, ?_, ?_⟩
      · rw [ordered.mapping?_eq_none_iff]
        intro w member among
        exact room w member ⟨Nat.lt_of_le_of_lt among.1 within.2,
          Nat.lt_of_le_of_lt within.1 among.2⟩
      · rw [holds]
        exact AddressSpace.perm_insertArea (ordered.start_ne room nonempty)
      · have quiet (k : Kernel) (e : Event) : (k.emit e).unlogged = k.unlogged := rfl
        rw [final, joined_acquire_release there, quiet, unlogged_setSpace, unlogged_setSpace]
        rfl
    · rw [← exactly (of_decide_eq_true asked)]
      exact inside.2

private theorem unlogged_setSegment_iff (present : k.segments.get? s = some g) {g' : Segment} :
    (k.setSegment s g').unlogged = k.unlogged ↔ g' = g := by
  constructor
  · intro same
    have found := congrArg (·.segments.get? s) same
    simp only [unlogged, setSegment, Slots.get?_set_self present, present] at found
    exact Option.some.inj found
  · rintro rfl
    rw [setSegment, Slots.set_self present]

/-! ## Sizes -/

/-- The memory behind each segment is its size, rounded up to pages. -/
def Rounded (k : Kernel) : Prop :=
  ∀ s g, k.segments.get? s = some g → pageUp? g.size = some g.effectiveSize

/-- One turn leaves the memory behind segments rounded up to pages. -/
theorem Turn.rounded {may : Deed → Prop} {refs refs' : Multiset Object}
    (turn : Turn may k refs k' refs') (rounded : k.Rounded) : k'.Rounded := by
  intro s g found
  rcases turn.change_or_same with change | ⟨same, _⟩
  · refine change.forall_segments (fun g => pageUp? g.size = some g.effectiveSize) ?_ ?_
      (fun {s g} => rounded s g) found
    · intro g g' evolves up
      rwa [evolves.size, evolves.effectiveSize]
    · intro c
      rw [c.effectiveSize]
      exact c.rounded
  · rw [segments_congr same] at found
    exact rounded s g found

end Kernel

namespace World

open Kernel

variable {w : World} {t : Handle .task} {task : Task} {q : Requester} {registry : Registry}
  {id : Int} {address : Nat} {flagWord : FlagWord} {k : Kernel}

/-- In every world that is reached the memory behind segments is rounded up to pages. -/
theorem Reachable.rounded (reachable : w.Reachable anything) : w.kernel.Rounded := by
  have both := reachable.invariant suits_anything
    (fun w => w.kernel.Laid ∧ w.kernel.Rounded) (fun step ⟨laid, rounded⟩ => ⟨step.laid laid, ?_⟩)
    ⟨laid_start, fun s g found => ?_⟩
  · exact both.2
  · refine step.kernel Rounded (fun turn _ => turn.rounded) ?_ laid rounded
    intro k k' _ segments rounded s g found
    rw [segments] at found
    exact rounded s g found
  · cases found

/-- What a registry lists is there, is not empty, and has as many pages as its size takes. -/
theorem Reachable.listed (reachable : w.Reachable anything) {r : Handle .registry}
    (registered : w.kernel.registries.get? r = some registry) {s : Handle .segment}
    (found : registry.find? id = some s) :
    ∃ g, w.kernel.segments.get? s = some g ∧ g.size ≠ 0 ∧
      pageUp? g.size = some g.effectiveSize := by
  have member := (Registry.find?_eq_some_iff
    ((reachable.registered suits_anything).ascending registered)).mp found
  have accounted := reachable.accounted suits_anything
  obtain ⟨g, present⟩ := Option.isSome_iff_exists.mp
    ((accounted.registries registered).present _ member)
  have rounded := reachable.rounded s g present
  refine ⟨g, present, fun zero => ?_, rounded⟩
  have positive := (accounted.sized present).positive
  rw [zero] at rounded
  obtain ⟨_, whole, _, tight⟩ := pageUp?_eq_some_iff.mp rounded
  simp only [PageAligned, pageSize] at whole tight
  omega

/-- Whatever was done before, a segment that is attached is mapped as a whole within the range of
the task, at the address that was asked for, and no other address changes. Unless the call is to
replace what is mapped, nothing was mapped there, and nothing is unmapped, cut or told. -/
theorem attaches_exactly {answer : Int} (reachable : w.Reachable anything)
    (done : Kernel.shmat t id address flagWord w.kernel = .ok answer k) :
    ∃ task q s g start task', w.kernel.Names t id task s g ∧ w.kernel.requester? task = some q ∧
      start < wordSize ∧ answer = signed 64 start ∧
      w.kernel.AttachedAt t address flagWord task q s g start task' k := by
  obtain ⟨task, q, _, _, _, _, _, _, named, asking, _⟩ :=
    (shmat_extent t id address flagWord).ok done
  obtain ⟨registry, registered, _⟩ := named.registered
  have calling : w.kernel.Calling t task q registry := ⟨named.caller, asking, registered⟩
  have here := space?_ofTask named.caller
  have laid := (reachable.laid suits_anything).spaces here
  have covered := reachable.covered suits_anything _ _ here
  obtain ⟨s, g, start, found, answer, joins⟩ :=
    (shmat_spec calling laid fun s => reachable.listed registered).ok done
  have positive := ((reachable.accounted suits_anything).sized joins.present).positive
  obtain ⟨task', attached⟩ := joins.attachedAt named.caller laid covered positive
  have word : start < wordSize := by
    have := attached.inside.2
    have := laid.bounded
    omega
  exact ⟨task, q, s, g, start, task', ⟨named.caller, ⟨registry, registered, found⟩, joins.present⟩,
    asking, word, answer, attached⟩

/-- A segment is attached twice, with a gap between the attachments. -/
def spacing : List Operation :=
  [.makePool 0 16, .makeRegistry .initial ⟨0⟩ {} (.ipc true), .makeClock ⟨0⟩,
    .makeTask 1 (.superuser .initial) ⟨0⟩ ⟨0⟩ ⟨0x10000, 0x40000⟩,
    .shmget ⟨0⟩ privateKey 0x1800 ⟨0o600⟩, .shmat ⟨0⟩ 1 0x10000 ⟨0⟩, .shmat ⟨0⟩ 1 0x14000 ⟨0⟩,
    .faultTask ⟨0⟩ 0x11000 .readOnly]

/-- A third attachment, read-only and at an address that is rounded down, fits the gap exactly. -/
theorem attaches_exactly_spacing :
    let w := ({} : World).follow spacing
    w.Reachable anything ∧ ∃ k task q s g task',
      Kernel.shmat ⟨0⟩ 1 0x12abc ⟨0o30000⟩ w.kernel = .ok 0x12000 k ∧
      w.kernel.AttachedAt ⟨0⟩ 0x12abc ⟨0o30000⟩ task q s g 0x12000 task' k ∧
      g.effectiveSize = 0x2000 ∧
      task.space.areas.map (fun v => (v.span.start, v.span.stop)) =
        [(0x10000, 0x12000), (0x14000, 0x16000)] := by
  intro w
  have reachable : w.Reachable anything :=
    reachable_follow (by decide +kernel) fun _ _ => trivial
  have state : (∃ k, Kernel.shmat ⟨0⟩ 1 0x12abc ⟨0o30000⟩ w.kernel = .ok 0x12000 k) ∧
      (∀ g ∈ w.kernel.segments.values, g.effectiveSize = 0x2000) ∧
      ∀ task ∈ w.kernel.tasks.get? ⟨0⟩,
        task.space.areas.map (fun v => (v.span.start, v.span.stop)) =
          [(0x10000, 0x12000), (0x14000, 0x16000)] := by decide +kernel
  obtain ⟨⟨k, done⟩, sizes, areas⟩ := state
  obtain ⟨task, q, s, g, start, task', named, _, word, answer, attached⟩ :=
    attaches_exactly reachable done
  obtain rfl : 0x12000 = start := signed_inj (by decide) word answer
  exact ⟨reachable, k, task, q, s, g, task', done, attached,
    sizes g (Slots.mem_values.mpr ⟨s, named.present⟩), areas task named.caller⟩

/-! ## Calls that are refused -/

/-- A call to attach a segment that is refused leaves everything but the log as it was, unless it is
refused for want of room. Then the segment notes the call all the same: everything is as it was if
and only if the segment had noted the same process at the same time already. -/
theorem refused_attachment {cause : Errno} (reachable : w.Reachable anything)
    (calling : w.kernel.Calling t task q registry)
    (refused : Kernel.shmat t id address flagWord w.kernel = .error cause k) :
    (cause ≠ .enomem → k.unlogged = w.kernel.unlogged) ∧
    (cause = .enomem → ∃ s g, registry.find? id = some s ∧ w.kernel.segments.get? s = some g ∧
      (pageDown address = 0 → task.space.place? 0 g.effectiveSize = none) ∧
      (pageDown address ≠ 0 → ¬ (task.space.range.start ≤ pageDown address ∧
        pageDown address + g.effectiveSize ≤ task.space.range.stop)) ∧
      k.unlogged = (w.kernel.setSegment s (g.noteAttach q)).unlogged ∧
      (k.unlogged = w.kernel.unlogged ↔
        q.now = some g.attachTime ∧ q.pid = some g.lastPid)) := by
  have laid := (reachable.laid suits_anything).spaces (space?_ofTask calling.here)
  have outcome : (Kernel.shmat t id address flagWord).Ends w.kernel _ _ :=
    shmat_spec calling laid fun s => reachable.listed calling.registered
  have rejected := outcome.error refused
  obtain ⟨clock, _, asking⟩ := Option.map_eq_some_iff.mp calling.asking
  have timed : q.now = some clock.now := asking ▸ rfl
  have known : q.pid = some task.pid := asking ▸ rfl
  cases rejected with
  | outright other => exact ⟨fun _ => rfl, fun same => (other same).elim⟩
  | @roomless s g listed present full =>
      refine ⟨fun other => (other rfl).elim, fun _ => ⟨s, g, listed, present, fun zero => ?_,
        fun asked => ?_, rfl, ?_⟩⟩
      · simpa [Roomy, attachRequest, zero] using full
      · simpa [Roomy, attachRequest, asked] using full
      · rw [← Segment.noteAttach_eq_self_iff timed known]
        exact unlogged_setSegment_iff present

/-- A segment is larger than the range of the task that is to attach it. -/
def cramping : List Operation :=
  [.makePool 0x80000000 16, .makeRegistry .initial ⟨0⟩ {} (.ipc true), .makeClock ⟨100000000000⟩,
    .makeTask 7 (.superuser .initial) ⟨0⟩ ⟨0⟩ ⟨0x10000000, 0x10002000⟩,
    .shmget ⟨0⟩ privateKey 0x3000 ⟨0o600⟩]

/-- A segment that is larger than the range of a task is refused to it for want of room. -/
theorem refused_attachment_cramping :
    let w := ({} : World).follow cramping
    w.Reachable anything ∧ ∃ task q registry k, w.kernel.Calling ⟨0⟩ task q registry ∧
      Kernel.shmat ⟨0⟩ 1 0 ⟨0⟩ w.kernel = .error .enomem k ∧
      ∃ s g, registry.find? 1 = some s ∧ w.kernel.segments.get? s = some g ∧
        task.space.place? 0 g.effectiveSize = none ∧
        k.unlogged = (w.kernel.setSegment s (g.noteAttach q)).unlogged := by
  intro w
  have reachable : w.Reachable anything :=
    reachable_follow (by decide +kernel) fun _ _ => trivial
  have state : (∃ k, Kernel.shmat ⟨0⟩ 1 0 ⟨0⟩ w.kernel = .error .enomem k) ∧
      ∃ task ∈ w.kernel.tasks.get? ⟨0⟩, (w.kernel.requester? task).isSome ∧
        (w.kernel.registries.get? task.ipc).isSome := by decide +kernel
  obtain ⟨⟨k, refused⟩, task, here, asks, registers⟩ := state
  obtain ⟨q, asking⟩ := Option.isSome_iff_exists.mp asks
  obtain ⟨registry, registered⟩ := Option.isSome_iff_exists.mp registers
  have calling : w.kernel.Calling ⟨0⟩ task q registry := ⟨here, asking, registered⟩
  obtain ⟨s, g, listed, present, full, _, left, _⟩ :=
    (refused_attachment reachable calling refused).2 rfl
  exact ⟨reachable, task, q, registry, k, calling, refused, s, g, listed, present,
    full (by decide), left⟩

/-- A segment notes who found no room for it, and when. -/
theorem roomless_attachment_noted :
    let w := ({} : World).follow cramping
    let k := (Kernel.shmat ⟨0⟩ 1 0 ⟨0⟩).after w.kernel
    w.Reachable anything ∧ (∃ k', Kernel.shmat ⟨0⟩ 1 0 ⟨0⟩ w.kernel = .error .enomem k') ∧
      (∃ g ∈ w.kernel.segments.get? ⟨0⟩, g.attachTime.seconds = 0 ∧ g.lastPid = 0) ∧
      ∃ g ∈ k.segments.get? ⟨0⟩, g.attachTime.seconds = 100 ∧ g.lastPid = 7 := by
  refine ⟨reachable_follow (by decide +kernel) fun _ _ => trivial, ?_⟩
  decide +kernel

end World

end SharedMemory
