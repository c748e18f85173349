import SharedMemory.Proofs.Exit
import SharedMemory.Proofs.Immunity
import SharedMemory.Proofs.Keys
import SharedMemory.Proofs.Translation

/-!
# Operations that go without a fault

In a kernel that is in order (`World.Ready`) references are counted, registries and pools account
for the segments, and address spaces are laid out and map segments only. Then the operations on
tasks go without a fault, provided that the handles which they are given name something: what is
unmapped or mapped lies within the word, whatever is listed or mapped is there, and references are
given back that exist.
-/

namespace SharedMemory

namespace KernelM

variable {α β : Type} {x : KernelM α} {k : Kernel}

/-- An operation goes without a fault, whether it is carried out or refused. -/
def Faultless (x : KernelM α) (k : Kernel) : Prop :=
  x.Ends k (fun _ k' => k'.faults = k.faults) (fun _ k' => k'.faults = k.faults)

/-- Two steps go without a fault if the first does and leaves the second one fit to. -/
theorem faultless_bind {f : α → KernelM β}
    (ends : x.Ends k (fun a k' => k'.faults = k.faults ∧ (f a).Faultless k')
      (fun _ k' => k'.faults = k.faults)) : (x >>= f).Faultless k := by
  rw [Faultless, ends_bind]
  apply ends.mono
  · intro a k' reached
    obtain ⟨same, rest⟩ := reached
    apply rest.mono
    · exact fun _ _ still => still.trans same
    · exact fun _ _ still => still.trans same
  · exact fun _ _ refused => refused

end KernelM

namespace Kernel

open KernelM

variable {k : Kernel} {s : Handle .segment} {g : Segment} {q : Requester}

private theorem faults_setSpace (a : AddressSpace) (ref : SpaceRef) :
    (k.setSpace a ref).faults = k.faults :=
  congrArg (·.faults) (objectPart_setSpace a ref)

/-! ## Steps on a segment that is there -/

private theorem faults_acquire (present : k.segments.get? s = some g) :
    (k.acquire (.segment s)).faults = k.faults := by
  simp only [acquire, present]
  rfl

/-- A segment that is there accepts every area, and no fault is noted. -/
theorem notifyAdded_of_present (present : k.segments.get? s = some g) (q : Requester) (span : Span)
    (offset : Nat) :
    (notifyAdded q (.segment s) span offset).Ends k
      (fun _ k' => k'.faults = k.faults ∧ k'.holderPart = k.holderPart ∧
        k'.segments.get? s = some (g.noteAttach q))
      (fun _ _ => False) := by
  have noted : (k.segments.set s (g.noteAttach q)).get? s = some (g.noteAttach q) :=
    Slots.get?_set_self present _
  simp only [notifyAdded, ends_bind, ends_get, present, orStuck, ends_pure, ends_set, ends_ite,
    ends_modify]
  exact ⟨fun _ => ⟨rfl, rfl, noted⟩, fun _ => ⟨rfl, rfl, noted⟩⟩

private theorem attach_faultless (present : k.segments.get? s = some g) (q : Requester)
    (address : Nat) (mode : AttachMode) : (attach s q address mode).Faultless k := by
  unfold Faultless attach
  refine .get_bind (.found_bind present ?_)
  refine .check_bind rfl fun usable => .check_bind rfl fun permitted => ?_
  exact .set_bind (ends_pure.mpr rfl)

private theorem segmentStatus_faultless (present : k.segments.get? s = some g) (q : Requester) :
    (segmentStatus s q).Faultless k := by
  simp only [Faultless, segmentStatus, ends_bind, ends_get, present, orStuck, ends_pure,
    ends_ofExcept]
  exact ⟨fun _ _ => trivial, fun _ _ => trivial⟩

private theorem setSegmentOwner_faultless (present : k.segments.get? s = some g) (q : Requester)
    (uid gid : UInt32) (mode : Nat) : (setSegmentOwner s q uid gid mode).Faultless k := by
  simp only [Faultless, setSegmentOwner, ends_bind, ends_get, present, orStuck, ends_pure,
    ends_ofExcept, ends_modify]
  exact ⟨fun _ _ => rfl, fun _ _ => trivial⟩

/-- Segments that are there may all be copied, and take the references of the copies. -/
theorem faults_copyAreas {areas : List Area}
    (present : ∀ v ∈ areas, ∃ s, v.object = .segment s ∧ (k.segments.get? s).isSome) :
    (copyAreas areas k).2.faults = k.faults ∧ (copyAreas areas k).1.2 = none := by
  induction areas generalizing k with
  | nil => exact ⟨rfl, rfl⟩
  | cons v rest ih =>
      obtain ⟨s, object, there⟩ := present v (List.mem_cons_self ..)
      obtain ⟨g, found⟩ := Option.isSome_iff_exists.mp there
      have told : notifyCopied v.object v.span v.offset k = .ok () k := by
        rw [object]
        rfl
      have still : ∀ w ∈ rest, ∃ s', w.object = .segment s' ∧
          ((k.acquire v.object).segments.get? s').isSome := by
        intro w member
        obtain ⟨s', object', there'⟩ := present w (List.mem_cons_of_mem _ member)
        refine ⟨s', object', ?_⟩
        rw [object]
        simpa only [acquire, found, setSegment, Slots.isSome_get?_set] using there'
      obtain ⟨same, complete⟩ := ih still
      simp only [copyAreas, told]
      refine ⟨same.trans ?_, complete⟩
      rw [object]
      exact faults_acquire found

/-- What a segment located of an area has its place within the backing and within the area. -/
theorem locationFits {v : Area} {required : Span} {l : Location}
    (member : l ∈ (g.locate required v.mappedBytes).locations) (below : v.span.stop < wordSize)
    (backed : g.backing.stop < wordSize) :
    LocationFits v l ∧ l.source.start ≤ l.source.stop := by
  simp only [Segment.locate] at member
  split at member
  case isTrue => cases member
  case isFalse nonempty =>
    obtain rfl := List.mem_singleton.mp member
    simp only [LocationFits, Area.addressOf, Span.isEmpty, Span.inter, Span.size, Area.mappedBytes,
      Span.ofSize, Segment.effectiveSize, beq_iff_eq] at *
    omega

private theorem faults_countFault {t : Handle .task} (here : (k.tasks.get? t).isSome) :
    (k.countFault t).faults = k.faults := by
  obtain ⟨task, found⟩ := Option.isSome_iff_exists.mp here
  simp only [countFault, found]
  rfl

/-- To send a signal to a task that is there notes no fault. -/
theorem faults_raiseSignal {t : Handle .task} (here : (k.tasks.get? t).isSome) (signal : UInt32) :
    (k.raiseSignal t signal).faults = k.faults := by
  obtain ⟨task, found⟩ := Option.isSome_iff_exists.mp here
  simp only [raiseSignal, found]
  rfl

/-! ## Segments that are asked for -/

/-- To take frames from a pool that is there notes no fault, also if there are not enough. -/
theorem allocateFrames_faultless {p : Handle .pool} (pooled : (k.pools.get? p).isSome)
    (length : Nat) : (allocateFrames p length).Faultless k := by
  obtain ⟨pool, found⟩ := Option.isSome_iff_exists.mp pooled
  simp only [Faultless, allocateFrames, ends_bind, ends_get, found, orStuck, ends_pure,
    ends_ofExcept, ends_set]
  exact ⟨fun _ _ => rfl, fun _ _ => trivial⟩

private theorem createSegment_faultless {r : Handle .registry} {registry : Registry}
    (pooled : (k.pools.get? registry.pool).isSome) (q : Requester) (asked : SegmentRequest) :
    (createSegment r registry q asked).Faultless k := by
  unfold Faultless createSegment
  refine .orRefuse_bind rfl fun length rounded => .check_bind rfl fun affordable => ?_
  cases registry.nextFreeId? with
  | none =>
      simp only [ends_bind, ends_modify, ends_throw]
      rfl
  | some id =>
      simp only [ends_bind, ends_get, ends_modify, ends_pure]
      exact allocateFrames_faultless pooled length

/-- To find or make a segment notes no fault if the registry and its pool are there. -/
theorem findOrCreate_faultless {r : Handle .registry} {registry : Registry}
    (registered : k.registries.get? r = some registry)
    (pooled : (k.pools.get? registry.pool).isSome) (q : Requester) (asked : SegmentRequest) :
    (findOrCreate r q asked).Faultless k := by
  apply ends_findOrCreate
  case missing =>
    intro missing
    cases registered.symm.trans missing
  case refused => exact fun _ => rfl
  case existing => exact fun _ _ _ _ _ _ _ _ => rfl
  case made =>
    intro registry' registered' sized room wanted
    cases registered.symm.trans registered'
    exact createSegment_faultless pooled q asked

private theorem Obtained.present {r : Handle .registry} {asked : SegmentRequest} {k' : Kernel}
    (obtained : Obtained k r q asked s k') : ∃ g, k'.segments.get? s = some g := by
  cases obtained with
  | existing _ _ _ found => exact ⟨_, found⟩
  | created c => exact ⟨c.segment, Slots.get?_insert_fresh _ _⟩

/-- A task calls the kernel, and all that it calls with is there: its clock, by which it asks, and
the registry of its namespace. -/
structure Calling (k : Kernel) (t : Handle .task) (task : Task) (q : Requester)
    (registry : Registry) : Prop where
  here : k.tasks.get? t = some task
  asking : k.requester? task = some q
  registered : k.registries.get? task.ipc = some registry

/-- An entry in the log leaves who calls. -/
theorem Calling.emit {t : Handle .task} {task : Task} {registry : Registry}
    (calling : k.Calling t task q registry) (e : Event) : (k.emit e).Calling t task q registry :=
  ⟨calling.here, calling.asking, calling.registered⟩

/-- A task that can call is found, and so is the requester that it calls as. -/
theorem Calling.ends_caller {t : Handle .task} {task : Task} {registry : Registry}
    {good : Task × Requester → Kernel → Prop} {bad : Errno → Kernel → Prop}
    (calling : k.Calling t task q registry) : (caller t).Ends k good bad ↔ good (task, q) k :=
  ends_iff_of_ok (caller_eq_ok calling.here calling.asking)

private theorem findSegment_of_registered {task : Task} {registry : Registry}
    (registered : k.registries.get? task.ipc = some registry) (id : Int) :
    (findSegment task id).Ends k (fun s k' => k' = k ∧ registry.find? id = some s)
      (fun _ k' => k' = k) := by
  simp only [findSegment, ends_bind, ends_get, registered, orStuck, ends_pure, ends_orRefuse]
  exact ⟨fun _ found => ⟨trivial, found⟩, fun _ => trivial⟩

/-- The call for a segment notes no fault. -/
theorem shmget_faultless {t : Handle .task} {task : Task} {registry : Registry}
    (calling : k.Calling t task q registry) (pooled : (k.pools.get? registry.pool).isSome)
    (key : Int) (size : Nat) (flagWord : FlagWord) : (shmget t key size flagWord).Faultless k := by
  simp only [Faultless, shmget, ends_bind]
  apply (@noteGet_ends k 0 idle key size flagWord).mono
  · intro _ k₁ noted
    obtain ⟨⟨log, rfl⟩, _⟩ := noted
    have still : { k with log }.Calling t task q registry :=
      ⟨calling.here, calling.asking, calling.registered⟩
    rw [still.ends_caller]
    apply ((findOrCreate_ends task.ipc q _).and
      (findOrCreate_faultless still.registered pooled q _)).mono
    · intro s k₂ found
      obtain ⟨obtained, same⟩ := found
      obtain ⟨g, present⟩ := obtained.present
      simp only [ends_get, present, orStuck, ends_pure]
      exact same
    · exact fun _ _ refused => refused.2
  · exact fun _ _ => False.elim

end Kernel

namespace World

open Kernel KernelM

/-- References are counted, those in flight included, registries and pools account for the segments,
and address spaces are laid out and map segments only. -/
structure Ready (w : World) (k : Kernel) (extra : Multiset Object) : Prop where
  sound : w.Sound k (k.held + extra)
  laid : k.Laid
  raised : k.Raised

variable {w : World} {k k' : Kernel} {extra extra' : Multiset Object} {ref : SpaceRef}
  {a : AddressSpace} {s : Handle .segment} {v : Area}

/-- A world that was reached without kept requests is ready for calls. -/
theorem Reachable.ready (reachable : w.Reachable withoutKept) : w.Ready w.kernel 0 where
  sound := by
    rw [add_zero]
    exact Reachable.sound (reachable.mono fun _ _ => trivial)
  laid := reachable.laid suits_raised
  raised := reachable.raised

/-- What is ready stays so along a passage. -/
theorem Ready.passage (ready : w.Ready k extra) (passage : Passage Deed.Raised k extra k' extra') :
    w.Ready k' extra' where
  sound := ready.sound.course (passage.mono fun _ _ => trivial)
  laid := passage.laid ready.laid
  raised :=
    (Chain.preserves (fun k _ => k.Laid ∧ k.Raised)
      (fun turn both => ⟨turn.laid both.1, turn.raised both.1 both.2⟩) passage
      ⟨ready.laid, ready.raised⟩).2

private theorem Ready.emit (ready : w.Ready k extra) (e : Event) (quiet : e.released? = none) :
    w.Ready (k.emit e) extra :=
  ready.passage (passage_emit e quiet)

/-- In a kernel that is ready, every area maps a segment. -/
theorem Ready.maps (ready : w.Ready k extra) (found : k.space? ref = some a) :
    ∀ v ∈ a.areas, v.MapsSegment :=
  fun _ member => ready.raised.mapsSegment ready.laid found member

/-- What is mapped is there. -/
theorem Ready.segment (ready : w.Ready k extra) (found : k.space? ref = some a)
    (member : v ∈ a.areas) (object : v.object = .segment s) : ∃ g, k.segments.get? s = some g := by
  have mapped : .segment s ∈ a.mapped := Multiset.mem_coe.mpr (List.mem_map.mpr ⟨v, member, object⟩)
  obtain ⟨g, present, _⟩ := ready.sound.counted.segment (mapped_subset_held found mapped)
  exact ⟨g, present⟩

/-! ## Unmapping -/

/-- To unmap a range with clean ends notes no fault. -/
theorem Ready.faults_unmapSpan {span : Span} (ready : w.Ready k extra)
    (found : k.space? ref = some a) (cut : a.CleanCut span) (q : Requester) :
    (k.unmapSpan ref q span).faults = k.faults :=
  ready.sound.faults_unmapSpan ready.laid found cut (ready.maps found) q

private theorem Ready.faults_unmapEach {spans : List Span} (ready : w.Ready k extra)
    (found : k.space? ref = some a) (cuts : ∀ span ∈ spans, a.CleanCut span) (q : Requester) :
    (k.unmapEach ref q spans).faults = k.faults := by
  induction spans generalizing k a with
  | nil => rfl
  | cons span rest ih =>
      have cut := cuts span (List.mem_cons_self ..)
      have ordered := (ready.laid.spaces found).toOrdered
      obtain ⟨passage, left⟩ := unmapSpan_spec found cut q
      have others := ih (ready.passage passage) left fun later member =>
        (cuts later (List.mem_cons_of_mem _ member)).unmap ordered span
      exact others.trans (ready.faults_unmapSpan found cut q)

/-- The call to unmap a range notes no fault. -/
theorem Ready.munmap_faultless (ready : w.Ready k extra) (found : k.space? ref = some a)
    (q : Requester) (address length : Nat) : (munmap ref q address length).Faultless k := by
  unfold Faultless munmap
  refine .check_bind rfl fun asked => .orRefuse_bind rfl fun stop within => ends_modify.mpr ?_
  exact ready.faults_unmapSpan found (AddressSpace.cleanCut_of_sum asked.2 within) q

/-- To unmap an attachment notes no fault. -/
theorem Ready.detach_faultless (ready : w.Ready k extra) (found : k.space? ref = some a)
    (q : Requester) (address : Nat) : (detach ref q address).Faultless k := by
  simp only [Faultless, detach, ends_bind, ends_get, found, orStuck, ends_pure, ends_orRefuse]
  refine ⟨fun s attached => ?_, fun _ => trivial⟩
  obtain ⟨v, member, rfl, object, _⟩ := attachedFrom?_eq_some attached
  obtain ⟨g, present⟩ := ready.segment found member object
  simp only [present, ends_pure, ends_modify]
  exact ready.faults_unmapEach found (fun span piece =>
    (ready.laid.spaces found).cleanCut_piece member (ready.laid.sizes present) piece) q

/-! ## Mapping -/

/-- To make room for a request notes no fault. -/
theorem Ready.placeRequest_faultless {length : Nat} (ready : w.Ready k extra)
    (found : k.space? ref = some a) (q : Requester) (m : MapRequest) (whole : PageAligned length) :
    (placeRequest ref q m length).Faultless k := by
  refine ends_ite.mpr ⟨fun fixed => ?_, fun loose => ?_⟩
  · unfold placeFixed
    refine .get_bind (.found_bind found (.check_bind rfl fun aligned => ?_))
    refine .orRefuse_bind rfl fun stop sum => .check_bind rfl fun inside => ?_
    refine .modify_bind (ends_pure.mpr ?_)
    obtain ⟨rfl, _⟩ := addWord?_eq_some_iff.mp sum
    exact ready.faults_unmapSpan found (AddressSpace.cleanCut_of_aligned (Nat.le_add_right _ _)
      aligned (aligned.add whole)) q
  · unfold placeAnywhere
    refine .get_bind (.found_bind found ?_)
    exact ends_orRefuse.mpr ⟨fun start placed => rfl, fun cramped => rfl⟩

/-- A segment to which a reference is in flight is mapped. -/
theorem Ready.install_faultless {m : MapRequest} (ready : w.Ready k extra)
    (found : k.space? ref = some a) (object : m.object = .segment s) (carried : m.object ∈ extra)
    (q : Requester) : (install ref q m).Faultless k := by
  unfold Faultless install
  refine .check_bind rfl fun nonzero => .check_bind rfl fun allowed => ?_
  refine .orRefuse_bind rfl fun length rounded => ?_
  simp only [ends_bind]
  obtain ⟨_, whole, enough, _⟩ := pageUp?_eq_some_iff.mp rounded
  have positive : 0 < length := by omega
  have placing : (placeRequest ref q m length).Ends k
      (fun start k' => Passage idle k extra k' extra ∧
        ∃ a cleared, Placed k ref start length a cleared k')
      (fun _ k' => Passage idle k extra k' extra ∧ Pared k ref k') :=
    placeRequest_ends ready.laid ref q m whole positive
  apply (placing.and (ready.placeRequest_faultless found q m whole)).mono
  · intro start k₁ reached
    obtain ⟨⟨passage, _, cleared, placed⟩, same⟩ := reached
    have prepared : w.Ready k₁ extra := ready.passage passage.of_idle
    -- The mapping ends before the range does, and the segment is there.
    have fits : (Span.ofSize start length).stop < wordSize :=
      Nat.lt_of_le_of_lt placed.below (prepared.laid.spaces placed.after).bounded
    obtain ⟨g, present, _⟩ := prepared.sound.counted.segment
      (Multiset.mem_add.mpr (.inr (object ▸ carried)))
    simp only [ends_modify, require, if_pos fits, object]
    apply (notifyAdded_of_present present q _ m.offset).mono
    · intro _ k₂ told
      obtain ⟨still, holders, there⟩ := told
      have space : k₂.space? ref = some cleared := (space?_congr holders ref).trans placed.after
      simp only [ends_get, identity?, there, Option.map_some, space, orStuck, ends_pure, ends_set]
      refine Eq.trans (faults_acquire (g := g.noteAttach q) ?_) ?_
      · rw [segments_congr (objectPart_setSpace _ _)]
        exact there
      · exact (faults_setSpace _ ref).trans (still.trans same)
    · exact fun _ _ => False.elim
  · exact fun _ _ refused => refused.2

/-- The reference that a request carries is given back, and exists. -/
theorem Ready.mmap_faultless {m : MapRequest} (ready : w.Ready k (m.object ::ₘ extra))
    (found : k.space? ref = some a) (object : m.object = .segment s) (q : Requester) :
    (mmap ref q m).Faultless k := by
  have carried := Multiset.mem_cons_self m.object extra
  have installed : (install ref q m).Ends k
      (fun start k' => Carried k ref m (m.object ::ₘ extra) start k' (m.object ::ₘ extra))
      (fun _ k' => Passage idle k (m.object ::ₘ extra) k' (m.object ::ₘ extra) ∧ Pared k ref k') :=
    install_ends ready.laid ref q carried
  have faultless := ready.install_faultless found object carried q
  have given {k' : Kernel} (sound : w.Sound k' (k'.held + m.object ::ₘ extra)) :
      (k'.release m.object).faults = k'.faults := by
    rw [object, Multiset.add_cons] at sound
    rw [object]
    exact sound.faults_release
  cases result : install ref q m k with
  | ok start k' =>
      have same : mmap ref q m k = .ok start (k'.release m.object) := by simp only [mmap, result]
      obtain ⟨_, _, _, passage⟩ := installed.ok result
      have sound := ready.sound.course (Passage.mono (fun _ _ => trivial) passage)
      exact (ends_iff_of_ok same).mpr ((given sound).trans (faultless.ok result))
  | error cause k' =>
      have same : mmap ref q m k = .error cause (k'.release m.object) := by simp only [mmap, result]
      have sound := ready.sound.course (Passage.of_idle (installed.error result).1)
      exact (ends_iff_of_error same).mpr ((given sound).trans (faultless.error result))

/-! ## Copying -/

private theorem Ready.forkSpaceValue_faultless (ready : w.Ready k extra)
    (found : k.space? ref = some a) : (forkSpaceValue a).Faultless k := by
  have present : ∀ v ∈ a.areas, ∃ s, v.object = .segment s ∧ (k.segments.get? s).isSome := by
    intro v member
    obtain ⟨s, object⟩ := (ready.maps found v member).segment
    obtain ⟨g, there⟩ := ready.segment found member object
    exact ⟨s, object, Option.isSome_of_eq_some there⟩
  obtain ⟨same, complete⟩ := faults_copyAreas present
  have copied : forkSpaceValue a k = .ok ⟨a.range, (copyAreas a.areas k).1.1, []⟩
      (copyAreas a.areas k).2 := by
    unfold forkSpaceValue
    split
    case h_1 result => rw [result]
    case h_2 result =>
      rw [result] at complete
      cases complete
  exact (ends_iff_of_ok copied).mpr same

/-- To fork a task notes no fault. -/
theorem Ready.forkTask_faultless {t : Handle .task} {task : Task} (ready : w.Ready k extra)
    (here : k.tasks.get? t = some task) (childPid : Pid) : (forkTask t childPid).Faultless k := by
  simp only [Faultless, forkTask, ends_bind, ends_get, here, orStuck, ends_pure, ends_modify,
    ends_set]
  exact ready.forkSpaceValue_faultless (space?_ofTask here)

/-! ## Page faults -/

/-- What is worked out for an access that hits an area stays within the word. -/
theorem Ready.faultFits {address : Nat} (ready : w.Ready k extra) (found : k.space? ref = some a)
    (origin : PageAligned a.range.start) (member : v ∈ a.areas) (holds : v.span.Contains address) :
    FaultFits v address := by
  obtain ⟨start, stop⟩ := ((ready.laid.spaces found).tidy origin).aligned v member
  have fits := (ready.maps found v member).fits
  have lower := holds.1
  have upper := holds.2
  simp only [FaultFits, Area.requiredAt, Area.mappedBytes, Span.ofSize, Span.size, PageAligned,
    pageDown, pageSize] at *
  omega

private theorem Ready.faults_faultSpace (ready : w.Ready k extra) (found : k.space? ref = some a)
    (origin : PageAligned a.range.start)
    (backed : ∀ v ∈ a.areas, ∀ s g, v.object = .segment s → k.segments.get? s = some g →
      g.backing.stop < wordSize)
    (address : Nat) (access : Access) : (k.faultSpace ref address access).2.faults = k.faults := by
  simp only [faultSpace, found]
  split
  case h_1 => rfl
  case h_2 v faulting =>
    obtain ⟨member, holds⟩ := AddressSpace.areaAt?_eq_some (Option.filter_eq_some_iff.mp faulting).1
    obtain ⟨s, object⟩ := (ready.maps found v member).segment
    obtain ⟨g, present⟩ := ready.segment found member object
    have laid := ready.laid.spaces found
    have below := Nat.lt_of_le_of_lt (laid.below v member) laid.bounded
    have fits : k.require (FaultFits v address) .arithmetic = k :=
      if_pos (ready.faultFits found origin member holds)
    have located : k.require (∀ l ∈ (g.locate (v.requiredAt address) v.mappedBytes).locations,
        LocationFits v l) .arithmetic = k :=
      if_pos fun l inside => (locationFits inside below (backed v member s g object present)).1
    simp only [fits, object, locate, present, located]
    split
    · exact faults_setSpace _ ref
    · exact faults_setSpace _ ref

/-- An access of a task notes no fault, whether it hits or misses. -/
theorem Ready.faults_faultTask {t : Handle .task} {task : Task} (ready : w.Ready k extra)
    (here : k.tasks.get? t = some task) (origin : PageAligned task.space.range.start)
    (backed : ∀ v ∈ task.space.areas, ∀ s g, v.object = .segment s →
      k.segments.get? s = some g → g.backing.stop < wordSize)
    (address : Nat) (access : Access) :
    (k.faultTask t address access).2.faults = k.faults := by
  have noted := ready.emit (.faulted address access) rfl
  have faults := noted.faults_faultSpace (space?_ofTask here) origin backed address access
  have same := (immune_backdrop ⟨0⟩ k.backdrop).faultSpace (k := k.emit (.faulted address access))
    (.ofTask t) address access rfl
  simp only [faultTask, here]
  generalize (k.emit (.faulted address access)).faultSpace (.ofTask t) address access = result
    at faults same ⊢
  obtain ⟨task', there, _⟩ := task_of_backdrop same here
  have still : (result.2.tasks.get? t).isSome := Option.isSome_of_eq_some there
  split
  · exact (faults_countFault still).trans faults
  · exact (faults_raiseSignal (k := result.2.emit _) still _).trans faults

/-! ## System calls -/

/-- What a registry lists is there. -/
theorem Ready.listed {r : Handle .registry} {registry : Registry} {id : Int}
    (ready : w.Ready k extra) (registered : k.registries.get? r = some registry)
    (found : registry.find? id = some s) : ∃ g, k.segments.get? s = some g := by
  have member := (Registry.find?_eq_some_iff (ready.sound.registered.ascending registered)).mp found
  exact Option.isSome_iff_exists.mp
    ((ready.sound.accounted.registries registered).present _ member)

variable {t : Handle .task} {task : Task} {q : Requester} {registry : Registry}

/-- To map an attachment right after it is made notes no fault. -/
theorem Ready.attach_mmap_faultless {g : Segment} (ready : w.Ready k extra)
    (found : k.space? ref = some a) (present : k.segments.get? s = some g) (q : Requester)
    (address : Nat) (mode : AttachMode) :
    (attach s q address mode >>= mmap ref q).Faultless k := by
  apply faultless_bind
  have attaching := @attach_ends k (k.held + extra) idle s q address mode
  apply (attaching.and (attach_faultless present q address mode)).mono
  · intro m k₁ attached
    obtain ⟨⟨changes, _, _, _, rfl⟩, same⟩ := attached
    have passed : Passage idle k extra k₁ (.segment s ::ₘ extra) :=
      (changes.recount rfl (Multiset.add_cons _ _ _).symm).passage
    have space := (space?_congr changes.holderPart ref).trans found
    exact ⟨same, (ready.passage passed.of_idle).mmap_faultless space rfl q⟩
  · exact fun _ _ refused => refused.2

/-- The call to attach notes no fault. -/
theorem Ready.shmat_faultless (ready : w.Ready k extra) (calling : k.Calling t task q registry)
    (id : Int) (address : Nat) (flagWord : FlagWord) :
    (shmat t id address flagWord).Faultless k := by
  generalize noting : k.emit (.attachCalled id address flagWord) = k₁
  have noted : w.Ready k₁ extra := noting ▸ ready.emit (.attachCalled id address flagWord) rfl
  have still : k₁.Calling t task q registry := noting ▸ calling.emit _
  have same : k₁.faults = k.faults := by rw [← noting]; rfl
  simp only [Faultless, shmat, ends_bind, ends_modify, noting, ends_ofExcept, still.ends_caller]
  refine ⟨fun start _ => ?_, fun _ _ => same⟩
  apply (findSegment_of_registered still.registered id).mono
  · intro s k₂ found
    obtain ⟨rfl, listed⟩ := found
    obtain ⟨g, present⟩ := noted.listed still.registered listed
    simp only [ends_get, present, orStuck, ends_pure, ends_check]
    refine ⟨fun _ => ?_, fun _ => same⟩
    rw [← same]
    exact ends_bind.mp (noted.attach_mmap_faultless (space?_ofTask still.here) present q start
      (attachMode flagWord start))
  · intro _ k₂ refused
    rw [refused]
    exact same

/-- The call to detach notes no fault. -/
theorem Ready.shmdt_faultless (ready : w.Ready k extra) (calling : k.Calling t task q registry)
    (address : Nat) : (shmdt t address).Faultless k := by
  have noted := ready.emit (.detachCalled address) rfl
  have still := calling.emit (.detachCalled address)
  simp only [Faultless, shmdt, ends_bind, ends_modify, still.ends_caller, ends_pure]
  exact noted.detach_faultless (space?_ofTask still.here) q address

private theorem Ready.controlSegment_faultless {g : Segment} (ready : w.Ready k extra)
    (present : k.segments.get? s = some g) (command : ControlCommand) (q : Requester)
    (buffer : ControlBuffer) : (controlSegment command s q buffer).Faultless k := by
  cases command with
  | stat =>
      simp only [Faultless, controlSegment, ends_bind]
      apply (segmentStatus_faultless present q).mono
      · intro status k' same
        cases buffer <;> simp only [ends_pure, ends_throw] <;> exact same
      · exact fun _ _ refused => refused
  | set =>
      cases buffer with
      | status wanted =>
          simp only [Faultless, controlSegment, ends_bind, ends_pure]
          exact setSegmentOwner_faultless present q _ _ _
      | null | limits _ | usage _ => simp only [Faultless, controlSegment, ends_throw]
  | remove =>
      simp only [Faultless, controlSegment, ends_bind, ends_get, present, orStuck, ends_pure,
        ends_check, ends_modify]
      refine ⟨fun _ => ?_, fun _ => trivial⟩
      rw [markDestroyed_eq_settle present]
      exact ready.sound.faults_settle present .remove
  | lock | unlock | limits | usage => simp only [Faultless, controlSegment, ends_pure]
  | unsupported code =>
      simp only [Faultless, controlSegment, ends_bind, ends_modify, ends_throw]
      rfl

/-- The call to control a segment notes no fault. -/
theorem Ready.shmctl_faultless (ready : w.Ready k extra) (calling : k.Calling t task q registry)
    (id code : Int) (buffer : ControlBuffer) : (shmctl t id code buffer).Faultless k := by
  generalize noting : k.emit (.controlCalled id code) = k₁
  have noted : w.Ready k₁ extra := noting ▸ ready.emit (.controlCalled id code) rfl
  have still : k₁.Calling t task q registry := noting ▸ calling.emit _
  have same : k₁.faults = k.faults := by rw [← noting]; rfl
  simp only [Faultless, shmctl, ends_bind, ends_modify, noting, still.ends_caller, ends_get,
    still.registered, orStuck, ends_pure]
  split <;> simp only [ends_pure, ends_throw, ends_bind] <;> try exact same
  apply (findSegment_of_registered still.registered id).mono
  · intro s k₂ found
    obtain ⟨rfl, listed⟩ := found
    obtain ⟨g, present⟩ := noted.listed still.registered listed
    rw [← same]
    exact noted.controlSegment_faultless present _ q _
  · intro _ k₂ refused
    rw [refused]
    exact same

end World

end SharedMemory
