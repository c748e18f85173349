import SharedMemory.Proofs.Determination

/-!
# What operations leave alone

An operation works on the objects that it is given or finds mapped, on the registry in which it
looks for segments, and on address spaces. A property that none of the few steps on these can
break is immune to the operation as a whole (`Kernel.Immune`). The walk through the operations is
done here, once for all such properties.

One of them is the backdrop of a kernel (`Kernel.backdrop`): which tasks, clocks, pools and
registries there are, but for what tasks map, pools hand out and registries list.
-/

namespace SharedMemory

/-- A task without what changes while it runs: its mappings, its count of faults and its signal. -/
def Task.bare (task : Task) : Task :=
  { task with space := .empty task.space.range, minorFaults := 0, signal := none }

/-- A registry without what changes while segments come and go, and without what keeps it. -/
def Registry.terms (registry : Registry) : Registry :=
  { registry with table := [], totalPages := 0, lastId := 0, holder := .handle }

/-- An effect of unmapping that has to do with no other objects than those given. -/
def Effect.Concerns (good : Object → Prop) : Effect → Prop
  | .removed object _ _ | .kept object _ | .dropped object => good object
  | .unmapped _ => True

namespace Area

variable {v w : Area} {s : Span} {good : Object → Prop}

private theorem object_of_mem_without (member : w ∈ v.without s) : w.object = v.object := by
  rcases mem_without.mp member with ⟨_, rfl⟩ | ⟨_, _, rfl⟩ | ⟨_, _, rfl⟩ <;> rfl

/-- The effects of cutting an area have to do with the object of the area only. -/
theorem concerns_of_mem_effects {e : Effect} (own : good v.object) (member : e ∈ v.effects s) :
    e.Concerns good := by
  unfold effects at member
  split at member
  case isTrue =>
    simp only [List.cons_append, List.mem_cons, List.mem_append, List.mem_map, List.not_mem_nil,
      or_false] at member
    rcases member with rfl | ⟨piece, _, rfl⟩ | rfl | rfl
    · exact own
    · exact own
    · trivial
    · exact own
  case isFalse => cases member

end Area

namespace Kernel

open KernelM

/-- A property of kernels that no step breaks on certain objects, on the registries of certain
segments, on address spaces and tasks, and no new segment of one registry. -/
structure Immune (r : Handle .registry) (good : Object → Prop) (P : Kernel → Prop) : Prop where
  emit : ∀ {k e}, P k → P (k.emit e)
  halt : ∀ {k cause}, P k → P (k.halt cause)
  segment : ∀ {k s g g'}, good (.segment s) → k.segments.get? s = some g →
    g'.registry = g.registry → P k → P (k.setSegment s g')
  registry : ∀ {k s g registry registry'}, good (.segment s) → k.segments.get? s = some g →
    k.registries.get? g.registry = some registry → registry'.terms = registry.terms → P k →
      P (k.setRegistry g.registry registry')
  pool : ∀ {k p pool pool'}, k.pools.get? p = some pool → pool'.region = pool.region → P k →
    P (k.setPool p pool')
  window : ∀ {k w window}, P k → P (k.setWindow w window)
  added : ∀ {k registry g pages}, k.registries.get? r = some registry → g.registry = r → P k →
    P (k.addSegment r registry g pages)
  space : ∀ {k ref a a'}, k.space? ref = some a → a'.range = a.range → P k → P (k.setSpace a' ref)
  task : ∀ {k t task task'}, k.tasks.get? t = some task → task'.bare = task.bare → P k →
    P (k.setTask t task')

/-- The objects that the address space under a reference maps are among those given. -/
def MapsOnly (k : Kernel) (ref : SpaceRef) (good : Object → Prop) : Prop :=
  ∀ a, k.space? ref = some a → ∀ v ∈ a.areas, good v.object

variable {k k' : Kernel} {r : Handle .registry} {good : Object → Prop} {P : Kernel → Prop}
  {ref : SpaceRef} {a : AddressSpace} {s : Handle .segment} {object : Object}

/-- What a space maps depends on the holders alone. -/
theorem MapsOnly.congr (maps : k.MapsOnly ref good) (same : k'.holderPart = k.holderPart) :
    k'.MapsOnly ref good := by
  intro a found
  rw [space?_congr same] at found
  exact maps a found

private theorem mapsOnly_unmapSpan (maps : k.MapsOnly ref good) (q : Requester) (span : Span) :
    (k.unmapSpan ref q span).MapsOnly ref good := by
  cases found : k.space? ref with
  | none =>
      simp only [unmapSpan, found]
      exact maps.congr rfl
  | some a =>
      intro b found' w member
      cases (space?_unmapSpan found q span).symm.trans found'
      obtain ⟨v, inside, remains⟩ := AddressSpace.mem_areas_unmap.mp member
      rw [Area.object_of_mem_without remains]
      exact maps a found v inside

private theorem lists_of_find? {registry : Registry} {id : Int}
    (here : k.registries.get? r = some registry) (found : registry.find? id = some s) :
    k.Lists r s := by
  obtain ⟨entry, first, rfl⟩ := Option.map_eq_some_iff.mp found
  exact ⟨registry, here, entry.1, List.mem_of_find?_eq_some first⟩

namespace Immune

variable (immune : Immune r good P)

include immune

/-! ## Objects -/

private theorem require (condition : Prop) [Decidable condition] (cause : Fault) (holds : P k) :
    P (k.require condition cause) := by
  unfold Kernel.require
  split
  · exact holds
  · exact immune.halt holds

/-- A reference may be taken to an object in question. -/
theorem acquire (own : good object) (holds : P k) : P (k.acquire object) := by
  cases object with
  | segment s =>
      simp only [Kernel.acquire]
      split
      case h_1 found => exact immune.segment own found rfl holds
      case h_2 => exact immune.halt holds
  | window w =>
      simp only [Kernel.acquire]
      split
      · exact immune.window holds
      · exact immune.halt holds

/-- Frames go back to their pool without a trace in an immune property. -/
theorem releaseFrames (p : Handle .pool) (span : Span) (holds : P k) : P (k.releaseFrames p span) := by
  unfold Kernel.releaseFrames
  split
  case h_1 pool pooled =>
    exact immune.pool pooled (FramePool.region_release pool span) (immune.emit holds)
  case h_2 => exact immune.halt holds

private theorem forgetSegment {g g' : Segment} (own : good (.segment s))
    (found : k.segments.get? s = some g') (same : g'.registry = g.registry) (holds : P k) :
    P (k.forgetSegment g) := by
  unfold Kernel.forgetSegment
  split
  case h_1 registry here =>
    split
    · have objects := objects_require (k := k) (g.pages ≤ registry.totalPages) .uncounted
      rw [← objects.2.1] at found
      rw [← objects.2.2.1, ← same] at here
      rw [← same]
      exact immune.registry own found here rfl (immune.require _ _ holds)
    · exact holds
  case h_2 => exact holds

/-- A segment in question may be destroyed, with all that this does to its registry and pool. -/
theorem destroy (own : good (.segment s)) (holds : P k) : P (k.destroy s) := by
  unfold Kernel.destroy
  split
  case h_1 g found =>
    split
    · exact holds
    · have marked : P (k.setSegment s { g with destroyed := true }) :=
        immune.segment own found rfl holds
      have there : ((k.setSegment s { g with destroyed := true }).emit
          (.segmentDestroyed g.id g.backing)).segments.get? s = some { g with destroyed := true } :=
        Slots.get?_set_self found _
      exact immune.releaseFrames _ _ (immune.forgetSegment own there rfl (immune.emit marked))
  case h_2 => exact immune.halt holds

/-- A reference may be given up to an object in question. -/
theorem release (own : good object) (holds : P k) : P (k.release object) := by
  cases object with
  | segment s =>
      simp only [Kernel.release, releaseSegment]
      split
      case h_1 g found =>
        have released : P ((k.require (0 < g.attachCount) .overdrawn).setSegment s
            { g with attachCount := g.attachCount - 1 }) := by
          refine immune.segment (g := g) own ?_ rfl (immune.require _ _ holds)
          rw [(objects_require _ _).2.1]
          exact found
        split
        · exact immune.destroy own released
        · exact released
      case h_2 => exact immune.halt holds
  | window w =>
      simp only [Kernel.release]
      split
      · exact immune.window (immune.require _ _ holds)
      · exact immune.halt holds

private theorem releaseEach {objects : List Object} (own : ∀ object ∈ objects, good object)
    (holds : P k) : P (k.releaseEach objects) := by
  induction objects generalizing k with
  | nil => exact holds
  | cons object rest ih =>
      exact ih (fun other member => own other (List.mem_cons_of_mem _ member))
        (immune.release (own object (List.mem_cons_self ..)) holds)

/-- A segment in question may be marked. -/
theorem markDestroyed (own : good (.segment s)) (holds : P k) : P (k.markDestroyed s) := by
  unfold Kernel.markDestroyed
  split
  case h_1 g found =>
    have marked : P (k.setSegment s { g with key := privateKey, lifetime := .pending }) :=
      immune.segment own found rfl holds
    dsimp only
    split
    · exact immune.destroy own marked
    · exact marked
  case h_2 => exact immune.halt holds

/-- Segments in question may be marked, one after the other. -/
theorem markEach {handles : List (Handle .segment)} (own : ∀ s ∈ handles, good (.segment s))
    (holds : P k) : P (handles.foldl Kernel.markDestroyed k) := by
  induction handles generalizing k with
  | nil => exact holds
  | cons s rest ih =>
      exact ih (fun other member => own other (List.mem_cons_of_mem _ member))
        (immune.markDestroyed (own s (List.mem_cons_self ..)) holds)

/-- An object in question may be told of an area, whether or not it accepts. -/
theorem notifyAdded (q : Requester) (span : Span) (offset : Nat) (own : good object) (holds : P k) :
    (notifyAdded q object span offset).Ends k (fun _ => P) (fun _ => P) := by
  cases object with
  | segment s =>
      unfold Kernel.notifyAdded
      refine .get_bind (.orStuck_bind (immune.halt holds) fun g found => .set_bind ?_)
      have noted : P (k.setSegment s (g.noteAttach q)) := immune.segment own found rfl holds
      simp only [ends_ite, ends_modify, ends_pure]
      exact ⟨fun anonymous => immune.emit noted, fun known => noted⟩
  | window w =>
      unfold Kernel.notifyAdded
      refine .get_bind (.orStuck_bind (immune.halt holds) fun window found => .set_bind ?_)
      have told : P (k.setWindow w (window.record (.added span offset))) := immune.window holds
      exact ends_check.mpr ⟨fun accepts => told, fun refuses => told⟩

/-- An object in question may be told that an area is gone. -/
theorem notifyRemoved (q : Requester) (span : Span) (offset : Nat) (own : good object)
    (holds : P k) : P (k.notifyRemoved q object span offset) := by
  cases object with
  | segment s =>
      simp only [Kernel.notifyRemoved]
      split
      case h_1 g found =>
        have noted : P (k.setSegment s (g.noteDetach q)) := immune.segment own found rfl holds
        split
        · exact immune.emit noted
        · exact noted
      case h_2 => exact immune.halt holds
  | window w =>
      simp only [Kernel.notifyRemoved]
      split
      · exact immune.window holds
      · exact immune.halt holds

/-- An object may be told that an area of it was copied, whether or not it accepts. -/
theorem notifyCopied (object : Object) (span : Span) (offset : Nat) (holds : P k) :
    (notifyCopied object span offset).Ends k (fun _ => P) (fun _ => P) := by
  cases object with
  | segment s =>
      simp only [Kernel.notifyCopied, ends_bind, ends_get, ends_pure]
      exact holds
  | window w =>
      simp only [Kernel.notifyCopied, ends_bind, ends_get, ends_orStuck]
      refine ⟨fun window _ => ?_, fun _ => immune.halt holds⟩
      rcases window.copies with _ | _ | left
      · simp only [ends_set]
        exact immune.window holds
      · simp only [ends_bind, ends_set, ends_throw]
        exact immune.window holds
      · simp only [ends_set]
        exact immune.window holds

/-- To look for the frames behind a range leaves an immune property. -/
theorem locate (object : Object) (required optional : Span) (access : Access) (holds : P k) :
    P (k.locate object required optional access).2 := by
  cases object with
  | segment s =>
      simp only [Kernel.locate]
      split
      · exact holds
      · exact immune.halt holds
  | window w =>
      simp only [Kernel.locate]
      split
      · exact immune.window holds
      · exact immune.halt holds

/-- A request that results from a segment in question is for that segment, and no holder changes. -/
theorem attach (s : Handle .segment) (q : Requester) (address : Nat) (mode : AttachMode)
    (own : good (.segment s)) (holds : P k) :
    (attach s q address mode).Ends k (fun m k' => m.object = .segment s ∧
      k'.holderPart = k.holderPart ∧ P k') (fun _ => P) := by
  unfold Kernel.attach
  refine .get_bind (.orStuck_bind (immune.halt holds) fun g found => ?_)
  refine .check_bind holds fun usable => .check_bind holds fun permitted => .set_bind ?_
  exact ends_pure.mpr ⟨rfl, rfl, immune.segment own found rfl holds⟩

/-- A segment in question may get another owner. -/
theorem setSegmentOwner (s : Handle .segment) (q : Requester) (uid gid : UInt32) (mode : Nat)
    (own : good (.segment s)) (holds : P k) :
    (setSegmentOwner s q uid gid mode).Ends k (fun _ => P) (fun _ => P) := by
  unfold Kernel.setSegmentOwner
  refine .get_bind (.orStuck_bind (immune.halt holds) fun g found => ?_)
  refine .ofExcept_bind (fun _ _ => holds) fun g' granted => ends_modify.mpr ?_
  have same : g'.registry = g.registry := congrArg (·.registry) (setOwner_eq_ok granted).2
  exact immune.segment own found same holds

/-! ## Address spaces -/

private theorem perform (q : Requester) {e : Effect} (own : e.Concerns good) (holds : P k) :
    P (perform q k e) := by
  cases e with
  | removed object span offset => exact immune.notifyRemoved q _ _ own (immune.require _ _ holds)
  | kept object offset => exact immune.acquire own (immune.require _ _ holds)
  | unmapped span => exact immune.emit holds
  | dropped object => exact immune.release own holds

/-- Effects on objects in question may be carried out, one after the other. -/
theorem performEach (q : Requester) {effects : List Effect}
    (own : ∀ e ∈ effects, e.Concerns good) (holds : P k) : P (effects.foldl (Kernel.perform q) k) := by
  induction effects generalizing k with
  | nil => exact holds
  | cons e rest ih =>
      exact ih (fun e' member => own e' (List.mem_cons_of_mem _ member))
        (immune.perform q (own e (List.mem_cons_self ..)) holds)

/-- A range may be unmapped in a space that maps only objects in question. -/
theorem unmapSpan (q : Requester) (span : Span) (maps : k.MapsOnly ref good) (holds : P k) :
    P (k.unmapSpan ref q span) := by
  unfold Kernel.unmapSpan
  split
  case h_1 a found =>
    have still : (k.require (span.start ≤ span.stop) .arithmetic).space? ref = some a := by
      rw [space?_congr (holderPart_require _ _)]
      exact found
    refine immune.performEach q (fun e member => ?_)
      (immune.space still rfl (immune.require _ _ holds))
    obtain ⟨v, inside, effect⟩ := List.mem_flatMap.mp member
    exact Area.concerns_of_mem_effects (maps a found v inside) effect
  case h_2 => exact immune.halt holds

private theorem unmapEach (q : Requester) (spans : List Span) (maps : k.MapsOnly ref good)
    (holds : P k) : P (k.unmapEach ref q spans) := by
  induction spans generalizing k with
  | nil => exact holds
  | cons span rest ih =>
      exact ih (mapsOnly_unmapSpan maps q span) (immune.unmapSpan q span maps holds)

/-- Everything may be unmapped in a space that maps only objects in question. -/
theorem unmapAll (q : Requester) (maps : k.MapsOnly ref good) (holds : P k) : P (k.unmapAll ref q) := by
  unfold Kernel.unmapAll
  split
  · exact immune.unmapSpan q _ maps holds
  · exact immune.halt holds

/-- The call to unmap a range keeps an immune property if the space maps only objects in
question. -/
theorem munmap (q : Requester) (address length : Nat) (maps : k.MapsOnly ref good) (holds : P k) :
    (munmap ref q address length).Ends k (fun _ => P) (fun _ => P) := by
  unfold Kernel.munmap
  refine .check_bind holds fun asked => .orRefuse_bind holds fun stop within => ?_
  exact ends_modify.mpr (immune.unmapSpan q _ maps holds)

/-- The call to unmap an attachment keeps an immune property if the space maps only objects in
question. -/
theorem detach (q : Requester) (address : Nat) (maps : k.MapsOnly ref good) (holds : P k) :
    (detach ref q address).Ends k (fun _ => P) (fun _ => P) := by
  unfold Kernel.detach
  refine .get_bind (.orStuck_bind (immune.halt holds) fun a found => ?_)
  refine .orRefuse_bind holds fun s attached => ?_
  refine .orStuck_bind (immune.halt holds) fun g present => ?_
  exact ends_modify.mpr (immune.unmapEach q _ maps holds)

private theorem placeRequest (q : Requester) (m : MapRequest) (length : Nat)
    (maps : k.MapsOnly ref good)
    (holds : P k) : (placeRequest ref q m length).Ends k (fun _ => P) (fun _ => P) := by
  unfold Kernel.placeRequest
  refine ends_ite.mpr ⟨fun fixed => ?_, fun loose => ?_⟩
  · unfold placeFixed
    refine .get_bind (.orStuck_bind (immune.halt holds) fun a found => ?_)
    refine .check_bind holds fun aligned => .orRefuse_bind holds fun stop within => ?_
    refine .check_bind holds fun inside => .modify_bind ?_
    exact ends_pure.mpr (immune.unmapSpan q _ maps holds)
  · unfold placeAnywhere
    refine .get_bind (.orStuck_bind (immune.halt holds) fun a found => ?_)
    exact ends_orRefuse.mpr ⟨fun start placed => holds, fun cramped => holds⟩

private theorem install (q : Requester) {m : MapRequest} (maps : k.MapsOnly ref good)
    (own : good m.object) (holds : P k) : (install ref q m).Ends k (fun _ => P) (fun _ => P) := by
  unfold Kernel.install
  refine .check_bind holds fun nonzero => .check_bind holds fun allowed => ?_
  refine .orRefuse_bind holds fun length rounded => ?_
  refine (immune.placeRequest q m length maps holds).bind fun start k₁ placed => .modify_bind ?_
  refine (immune.notifyAdded q _ _ own (immune.require _ _ placed)).bind fun _ k₂ told => ?_
  refine .get_bind (.orStuck_bind (immune.halt told) fun identity named => ?_)
  refine .orStuck_bind (immune.halt told) fun a found => .set_bind (ends_pure.mpr ?_)
  have still : (k₂.emit (.mapped (.ofSize start length) identity.name m.perms)).space? ref =
      some a := by
    rw [space?_congr rfl]
    exact found
  exact immune.acquire own (immune.space still rfl (immune.emit told))

/-- A request for an object in question may be mapped in a space that maps only such objects. -/
theorem mmap (q : Requester) {m : MapRequest} (maps : k.MapsOnly ref good) (own : good m.object)
    (holds : P k) : (mmap ref q m).Ends k (fun _ => P) (fun _ => P) := by
  have installed := immune.install q maps own holds
  cases result : Kernel.install ref q m k with
  | ok start k' =>
      have same : Kernel.mmap ref q m k = .ok start (k'.release m.object) := by
        simp only [Kernel.mmap, result]
      exact (ends_iff_of_ok same).mpr (immune.release own (installed.ok result))
  | error cause k' =>
      have same : Kernel.mmap ref q m k = .error cause (k'.release m.object) := by
        simp only [Kernel.mmap, result]
      exact (ends_iff_of_error same).mpr (immune.release own (installed.error result))

private theorem copyAreas {areas : List Area} (own : ∀ v ∈ areas, good v.object) (holds : P k) :
    P (copyAreas areas k).2 ∧ ∀ v ∈ (Kernel.copyAreas areas k).1.1, good v.object := by
  induction areas generalizing k with
  | nil => exact ⟨holds, List.forall_mem_nil _⟩
  | cons v rest ih =>
      have told := immune.notifyCopied v.object v.span v.offset holds
      cases result : Kernel.notifyCopied v.object v.span v.offset k with
      | error cause k' =>
          simp only [Kernel.copyAreas, result]
          exact ⟨told.error result, List.forall_mem_nil _⟩
      | ok _ k' =>
          simp only [Kernel.copyAreas, result]
          have first := own v (List.mem_cons_self ..)
          obtain ⟨others, copied⟩ := ih (fun w member => own w (List.mem_cons_of_mem _ member))
            (immune.acquire first (told.ok result))
          exact ⟨others, List.forall_mem_cons.mpr ⟨first, copied⟩⟩

/-- A space that maps only objects in question may be dropped. -/
theorem dropSpaceValue (own : ∀ v ∈ a.areas, good v.object) (holds : P k) :
    P (k.dropSpaceValue a) := by
  have objects : ∀ object ∈ a.areas.map (·.object), good object := by
    intro object member
    obtain ⟨v, inside, rfl⟩ := List.mem_map.mp member
    exact own v inside
  unfold Kernel.dropSpaceValue
  split
  · exact immune.releaseEach objects holds
  · exact immune.releaseEach objects (immune.emit holds)

/-- A space that maps only objects in question may be copied, whether or not all is accepted. -/
theorem forkSpaceValue (own : ∀ v ∈ a.areas, good v.object) (holds : P k) :
    (forkSpaceValue a).Ends k (fun _ => P) (fun _ => P) := by
  obtain ⟨copied, owned⟩ := immune.copyAreas own holds
  rcases result : Kernel.copyAreas a.areas k with ⟨⟨areas, failure⟩, k'⟩
  rw [result] at copied owned
  cases failure with
  | none =>
      have same : Kernel.forkSpaceValue a k = .ok ⟨a.range, areas, []⟩ k' := by
        simp only [Kernel.forkSpaceValue, result]
      exact (ends_iff_of_ok same).mpr copied
  | some cause =>
      have same : Kernel.forkSpaceValue a k =
          .error cause (k'.dropSpaceValue ⟨a.range, areas, []⟩) := by
        simp only [Kernel.forkSpaceValue, result]
      exact (ends_iff_of_error same).mpr (immune.dropSpaceValue owned copied)

/-- An access that misses keeps an immune property, wherever it goes. -/
theorem faultSpace (ref : SpaceRef) (address : Nat) (access : Access) (holds : P k) :
    P (k.faultSpace ref address access).2 := by
  unfold Kernel.faultSpace
  split
  case h_1 => exact immune.halt holds
  case h_2 a found =>
    split
    case h_1 => exact holds
    case h_2 v _ =>
      split
      case h_1 resolution asked asking =>
        have asked_eq : asked = _ := (congrArg Prod.snd asking).symm
        have told : P asked := by
          rw [asked_eq]
          exact immune.locate _ _ _ _ (immune.require _ _ holds)
        have same : asked.holderPart = k.holderPart := by
          have changes : Changes idle k 0 asked 0 := by
            rw [asked_eq]
            exact (changes_require _ (.inl rfl)).trans (changes_locate _ _ _ _)
          exact changes.holderPart
        obtain ⟨pages, established⟩ := a.establishAll_eq v resolution.locations
        have placed : P ((asked.require (∀ l ∈ resolution.locations, LocationFits v l)
            .arithmetic).setSpace (a.establishAll v resolution.locations) ref) := by
          refine immune.space (a := a) ?_ ?_ (immune.require _ _ told)
          · rw [space?_congr (holderPart_require _ _), space?_congr same]
            exact found
          · rw [established]
        split
        · exact placed
        · exact immune.emit placed

/-! ## Tasks and system calls -/

/-- A signal may be sent to any task. -/
theorem raiseSignal (t : Handle .task) (signal : UInt32) (holds : P k) :
    P (k.raiseSignal t signal) := by
  unfold Kernel.raiseSignal
  split
  case h_1 found => exact immune.task found rfl holds
  case h_2 => exact immune.halt holds

/-- A task may take its signal. -/
theorem takeSignal (t : Handle .task) (holds : P k) : P (k.takeSignal t).2 := by
  unfold Kernel.takeSignal
  split
  case h_1 found => exact immune.task found rfl holds
  case h_2 => exact immune.halt holds

private theorem countFault (t : Handle .task) (holds : P k) : P (k.countFault t) := by
  unfold Kernel.countFault
  split
  case h_1 found => exact immune.task found rfl holds
  case h_2 => exact immune.halt holds

/-- An access of a task that misses keeps an immune property, also if it ends in a signal. -/
theorem faultTask (t : Handle .task) (address : Nat) (access : Access) (holds : P k) :
    P (k.faultTask t address access).2 := by
  unfold Kernel.faultTask
  split
  case h_1 => exact immune.halt holds
  case h_2 task _ =>
    split
    case h_1 resolved k' faulted =>
      have resolved : P k' := by
        rw [show k' = _ from (congrArg Prod.snd faulted).symm]
        exact immune.faultSpace _ _ _ (immune.emit holds)
      split
      · exact immune.countFault t resolved
      · exact immune.raiseSignal t _ (immune.emit resolved)

/-- A task that maps only objects in question may exit. -/
theorem exitTask (t : Handle .task) (maps : k.MapsOnly (.ofTask t) good) (holds : P k) :
    P (k.exitTask t) := by
  unfold Kernel.exitTask
  split
  · exact immune.unmapAll _ maps holds
  · exact immune.halt holds

/-- A task may attach what its registry lists, if that and all that it maps are objects in
question. -/
theorem shmat (t : Handle .task) (id : Int) (address : Nat) (flagWord : FlagWord)
    (maps : k.MapsOnly (.ofTask t) good)
    (listed : ∀ task, k.tasks.get? t = some task → ∀ s, k.Lists task.ipc s → good (.segment s))
    (holds : P k) : (shmat t id address flagWord).Ends k (fun _ => P) (fun _ => P) := by
  have noted : P (k.emit (.attachCalled id address flagWord)) := immune.emit holds
  unfold Kernel.shmat
  refine .modify_bind (.ofExcept_bind (fun _ _ => noted) fun start granted => ?_)
  refine ends_caller_bind (immune.halt noted) fun task q here asking => ?_
  refine ends_findSegment_bind (immune.halt noted) noted fun registry s registered lookup => ?_
  refine .get_bind (.orStuck_bind (immune.halt noted) fun g found => ?_)
  refine .check_bind noted fun free => ?_
  have own : good (.segment s) := listed task here s (lists_of_find? registered lookup)
  refine (immune.attach s q _ _ own noted).bind ?_
  rintro m k₁ ⟨object, same, attached⟩
  have own' : good m.object := object ▸ own
  refine (immune.mmap q ((maps.congr rfl).congr same) own' attached).bind fun _ k₂ installed => ?_
  exact .modify_bind (ends_pure.mpr (immune.emit installed))

/-- A task that maps only objects in question may detach. -/
theorem shmdt (t : Handle .task) (address : Nat) (maps : k.MapsOnly (.ofTask t) good) (holds : P k) :
    (shmdt t address).Ends k (fun _ => P) (fun _ => P) := by
  have noted : P (k.emit (.detachCalled address)) := immune.emit holds
  have still : (k.emit (.detachCalled address)).MapsOnly (.ofTask t) good := maps.congr rfl
  unfold Kernel.shmdt
  refine .modify_bind (ends_caller_bind (immune.halt noted) fun task q here asking => ?_)
  refine (immune.detach q address still noted).bind fun _ k₁ detached => ?_
  exact ends_pure.mpr detached

private theorem controlSegment (command : ControlCommand) (s : Handle .segment) (q : Requester)
    (buffer : ControlBuffer) (own : good (.segment s)) (holds : P k) :
    (controlSegment command s q buffer).Ends k (fun _ => P) (fun _ => P) := by
  cases command with
  | stat =>
      simp only [Kernel.controlSegment, segmentStatus, bind_assoc]
      refine .get_bind (.orStuck_bind (immune.halt holds) fun g found => ?_)
      refine .ofExcept_bind (fun _ _ => holds) fun status granted => ?_
      cases buffer <;> simp only [ends_pure, ends_throw] <;> exact holds
  | set =>
      cases buffer with
      | status wanted =>
          simp only [Kernel.controlSegment, ends_bind, ends_pure]
          exact immune.setSegmentOwner s q _ _ _ own holds
      | null | limits _ | usage _ =>
          simp only [Kernel.controlSegment, ends_throw]
          exact holds
  | remove =>
      unfold Kernel.controlSegment
      refine .get_bind (.orStuck_bind (immune.halt holds) fun g found => ?_)
      refine .check_bind holds fun owned => .modify_bind ?_
      exact ends_pure.mpr (immune.markDestroyed own holds)
  | lock | unlock | limits | usage =>
      simp only [Kernel.controlSegment, ends_pure]
      exact holds
  | unsupported code =>
      simp only [Kernel.controlSegment, ends_bind, ends_modify, ends_throw]
      exact immune.emit holds

/-- A task may control what its registry lists, if those are objects in question. -/
theorem shmctl (t : Handle .task) (id code : Int) (buffer : ControlBuffer)
    (listed : ∀ task, k.tasks.get? t = some task → ∀ s, k.Lists task.ipc s → good (.segment s))
    (holds : P k) : (shmctl t id code buffer).Ends k (fun _ => P) (fun _ => P) := by
  have noted : P (k.emit (.controlCalled id code)) := immune.emit holds
  unfold Kernel.shmctl
  refine .modify_bind (ends_caller_bind (immune.halt noted) fun task q here asking => ?_)
  refine .get_bind (.orStuck_bind (immune.halt noted) fun registry registered => ?_)
  split <;> try simpa only [ends_pure, ends_throw] using noted
  refine ends_findSegment_bind (immune.halt noted) noted fun registry' s registered' lookup => ?_
  exact immune.controlSegment _ s q _ (listed task here s (lists_of_find? registered' lookup)) noted

/-- In the registry that may get new segments, one may be found or made. -/
theorem findOrCreate (q : Requester) (asked : SegmentRequest) (holds : P k) :
    (findOrCreate r q asked).Ends k (fun _ => P) (fun _ => P) := by
  refine (findOrCreate_ends r q asked).mono (fun s k' obtained => ?_) fun _ k' declined => ?_
  · cases obtained with
    | existing => exact holds
    | created c owned =>
        have taken : P ((k.setPool c.registry.pool c.remaining).emit (.framesTaken c.backing)) :=
          immune.emit (immune.pool c.pooled (FramePool.region_of_allocate c.allocated) holds)
        subst owned
        exact immune.emit (immune.added c.registered rfl taken)
  · rcases declined with rfl | rfl | rfl
    · exact holds
    · exact immune.emit holds
    · exact immune.halt holds

private theorem noteGet (key : Int) (size : Nat) (flagWord : FlagWord) (holds : P k) :
    (noteGet key size flagWord).Ends k (fun _ k' => k'.tasks = k.tasks ∧ P k') (fun _ => P) := by
  have noted : P (k.emit (.getCalled key size flagWord)) := immune.emit holds
  unfold Kernel.noteGet
  refine .modify_bind (ends_ite.mpr ⟨fun ignored => ?_, fun heeded => ?_⟩)
  · exact ends_modify.mpr ⟨rfl, immune.emit noted⟩
  · exact ends_pure.mpr ⟨rfl, noted⟩

/-- A task of the registry that may get new segments may ask for one. -/
theorem shmget (t : Handle .task) (key : Int) (size : Nat) (flagWord : FlagWord)
    (native : ∀ task, k.tasks.get? t = some task → task.ipc = r) (holds : P k) :
    (shmget t key size flagWord).Ends k (fun _ => P) (fun _ => P) := by
  unfold Kernel.shmget
  refine (immune.noteGet key size flagWord holds).bind ?_
  rintro _ k₁ ⟨tasks, noted⟩
  refine ends_caller_bind (immune.halt noted) fun task q here asking => ?_
  obtain rfl : task.ipc = r := native task (tasks ▸ here)
  refine (immune.findOrCreate q _ noted).bind fun s k₂ obtained => .get_bind ?_
  exact .orStuck_bind (immune.halt obtained) fun g found => ends_pure.mpr obtained

end Immune

/-! ## The backdrop -/

/-- What there is to work with, without what is made of it. -/
structure Backdrop where
  tasks : Slots .task Task
  clocks : Slots .clock Clock
  /-- The memory of each pool, whoever has it. -/
  pools : Slots .pool Span
  registries : Slots .registry Registry

/-- The backdrop of whatever happens in a kernel. -/
def backdrop (k : Kernel) : Backdrop where
  tasks := k.tasks.map Task.bare
  clocks := k.clocks
  pools := k.pools.map FramePool.region
  registries := k.registries.map Registry.terms

/-- Whatever happens to objects, the backdrop stays. -/
theorem immune_backdrop (r : Handle .registry) (b : Backdrop) :
    Immune r (fun _ => True) (fun k => k.backdrop = b) where
  emit := id
  halt := id
  segment := fun _ _ _ => id
  registry := by
    intro k s g registry registry' _ _ found same holds
    rw [← holds]
    simp only [backdrop, setRegistry, Slots.map_set_of_eq found same]
  pool := by
    intro k p pool pool' found same holds
    rw [← holds]
    simp only [backdrop, setPool, Slots.map_set_of_eq found same]
  window := id
  added := by
    intro k registry g pages found _ holds
    have same : (registry.register g.id k.segments.fresh pages).terms = registry.terms := rfl
    rw [← holds]
    simp only [backdrop, addSegment, Slots.map_set_of_eq found same]
  space := by
    intro k ref a a' found same holds
    rw [← holds]
    cases ref with
    | alone id => rfl
    | ofTask t =>
        obtain ⟨task, here, rfl⟩ := Option.map_eq_some_iff.mp found
        have bare : ({ task with space := a' } : Task).bare = task.bare := by
          simp only [Task.bare, same]
        simp only [backdrop, setSpace, here, setTask, Slots.map_set_of_eq here bare]
  task := by
    intro k t task task' found same holds
    rw [← holds]
    simp only [backdrop, setTask, Slots.map_set_of_eq found same]

/-- Kernels with one backdrop have the same tasks, but for what changes while they run. -/
theorem task_of_backdrop {t : Handle .task} {task : Task} (same : k'.backdrop = k.backdrop)
    (found : k.tasks.get? t = some task) :
    ∃ task', k'.tasks.get? t = some task' ∧ task'.bare = task.bare := by
  have tasks := congrArg (fun b : Backdrop => b.tasks.get? t) same
  simp only [backdrop, Slots.get?_map, found, Option.map_some] at tasks
  exact Option.map_eq_some_iff.mp tasks

/-- Kernels with one backdrop know whoever asks as the same requester. -/
theorem requester?_of_backdrop {task task' : Task} (same : k'.backdrop = k.backdrop)
    (bare : task'.bare = task.bare) : k'.requester? task' = k.requester? task := by
  have clocks : k'.clocks = k.clocks := congrArg (·.clocks) same
  have clock : task'.clock = task.clock := congrArg (·.clock) bare
  have credentials : task'.credentials = task.credentials := congrArg (·.credentials) bare
  have pid : task'.pid = task.pid := congrArg (·.pid) bare
  simp only [requester?, clocks, clock, credentials, pid]

end Kernel

end SharedMemory
