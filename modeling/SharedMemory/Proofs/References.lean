import SharedMemory.Proofs.World

/-!
# References are counted exactly

The count of a segment is the number of references to it: one for every area that maps it in
any address space, one for every kept request and one for every kept reference. In particular
no reference is given back that was never taken.
-/

namespace SharedMemory

/-- The number of areas that map an object. -/
def AddressSpace.areasOf (a : AddressSpace) (object : Object) : Nat :=
  a.areas.countP (·.object = object)

namespace Kernel

variable {k k' : Kernel} {refs refs' : Multiset Object} {object : Object} {count : Nat}
  {s : Handle .segment} {g old : Segment} {may : Deed → Prop}

/-- The number of references to an object: one for every area that maps it, one for every kept
request and one for every kept reference. -/
def referencesTo (k : Kernel) (object : Object) : Nat :=
  k.spaces.total (·.areasOf object) + k.tasks.total (·.space.areasOf object) +
    k.requests.values.countP (·.object = object) + k.references.values.count object

/-- The references to an object are as many as its occurrences among those that are held. -/
theorem count_held (k : Kernel) (object : Object) : k.held.count object = k.referencesTo object := by
  have mapped : ∀ a : AddressSpace, a.mapped.count object = a.areasOf object := by
    intro a
    rw [AddressSpace.mapped, Multiset.coe_count, List.count, List.countP_map]
    exact List.countP_congr fun v _ => by simp
  have requested : k.requests.total (fun m => Multiset.count object {m.object}) =
      k.requests.values.countP (·.object = object) := by
    rw [← Slots.total_ite]
    refine congrArg k.requests.total (funext fun m => ?_)
    rw [Multiset.count_singleton]
    exact if_congr (by rw [decide_eq_true_eq, eq_comm]) rfl rfl
  have kept : k.references.total (fun other => Multiset.count object {other}) =
      k.references.values.count object := by
    rw [List.count, ← Slots.total_ite]
    refine congrArg k.references.total (funext fun other => ?_)
    rw [Multiset.count_singleton]
    exact if_congr (by rw [beq_iff_eq, eq_comm]) rfl rfl
  simp only [held, referencesTo, Multiset.count_add, Slots.count_total, mapped, requested, kept]

/-- The number of references that an object counts. -/
def referenceCount? (k : Kernel) : Object → Option Nat
  | .segment s => (k.segments.get? s).map (·.attachCount)
  | .window w => (k.windows.get? w).map (·.references)

/-- Every object counts the references to it, and none was given back too often. -/
structure Counted (k : Kernel) (refs : Multiset Object) : Prop where
  counts : ∀ object, (k.referenceCount? object).getD 0 = refs.count object
  sound : Fault.overdrawn ∉ k.faults

private theorem attachCount_of_segmentStatus {q : Requester} {status : SegmentStatus}
    (found : k.segments.get? s = some g) (reported : segmentStatus s q k = .ok status k') :
    status.attachCount = g.attachCount := by
  obtain ⟨_, g', found', granted⟩ := (@segmentStatus_ends k 0 idle s q).ok reported
  rw [found] at found'
  cases found'
  unfold Segment.status at granted
  split at granted
  · cases granted
    rfl
  · cases granted

/-! ## What changes the counts -/

/-- Kernels that are alike count the same references. -/
theorem Alike.referenceCount? (alike : k.Alike k') (object : Object) :
    k'.referenceCount? object = k.referenceCount? object := by
  cases object with
  | segment s =>
      have same := congrArg (Option.map Segment.attachCount) (alike.segment? s)
      simpa only [Option.map_map, Function.comp_def, Segment.core, Kernel.referenceCount?] using same
  | window w =>
      have same := congrArg (·.get? w) alike.windows
      simpa only [Slots.get?_map, Kernel.referenceCount?] using same

/-- The counts depend on the segments and the windows alone. -/
theorem referenceCount?_congr (segments : k'.segments = k.segments) (windows : k'.windows = k.windows)
    (object : Object) : k'.referenceCount? object = k.referenceCount? object := by
  cases object <;> simp only [referenceCount?, segments, windows]

private theorem referenceCount?_of_set (found : k.segments.get? s = some old)
    (placed : k'.segments = k.segments.set s g) (windows : k'.windows = k.windows) (object : Object)
    : k'.referenceCount? object = if object = .segment s then some g.attachCount else
    k.referenceCount? object := by
  cases object with
  | segment s' =>
      by_cases same : s = s'
      · subst same
        simp [referenceCount?, placed, Slots.get?_set_self found]
      · simp [referenceCount?, placed, Slots.get?_set_of_ne same, Ne.symm same]
  | window w => simp [referenceCount?, windows]

private theorem referenceCount?_setSegment (found : k.segments.get? s = some old) (g : Segment)
    (object : Object) : (k.setSegment s g).referenceCount? object = if object = .segment s then some
    g.attachCount else k.referenceCount? object := by
  have placed : (k.setSegment s g).segments = k.segments.set s g := rfl
  exact referenceCount?_of_set found placed rfl object

/-- A window that replaces another counts for it, and all else counts as before. -/
theorem referenceCount?_setWindow {w : Handle .window} {window before : Window}
    (found : k.windows.get? w = some before) (object : Object) :
    (k.setWindow w window).referenceCount? object =
      if object = .window w then some window.references else k.referenceCount? object := by
  cases object with
  | segment s => simp [referenceCount?, setWindow]
  | window w' =>
      by_cases same : w = w'
      · subst same
        simp [referenceCount?, setWindow, Slots.get?_set_self found]
      · simp [referenceCount?, setWindow, Slots.get?_set_of_ne same, Ne.symm same]

private theorem referenceCount?_settle (found : k.segments.get? s = some old) (object : Object) :
    (k.settle s g).referenceCount? object =
      if object = .segment s then some g.attachCount else k.referenceCount? object := by
  rcases settle_cases found g with ⟨same, _⟩ | ⟨same, _⟩ <;> rw [same]
  · exact referenceCount?_setSegment found g object
  · exact referenceCount?_of_set found segments_retire windows_retire object

private theorem faults_settle (found : k.segments.get? s = some old) {cause : Fault}
    (member : cause ∈ (k.settle s g).faults) :
    cause ∈ k.faults ∨ cause = .uncounted ∨ cause = .dangling := by
  rcases settle_cases found g with ⟨same, _⟩ | ⟨same, _⟩ <;> rw [same] at member
  · exact .inl member
  · exact faults_retire member

/-- Taking a reference to an object that is there counts one more. -/
theorem acquire_spec (found : k.referenceCount? object = some count) :
    (∀ other, (k.acquire object).referenceCount? other =
      if other = object then some (count + 1) else k.referenceCount? other) ∧
        (k.acquire object).faults = k.faults := by
  cases object with
  | segment s =>
      obtain ⟨g, present, rfl⟩ := Option.map_eq_some_iff.mp found
      simp only [acquire, present]
      exact ⟨referenceCount?_setSegment present _, rfl⟩
  | window w =>
      obtain ⟨window, present, rfl⟩ := Option.map_eq_some_iff.mp found
      simp only [acquire, present]
      exact ⟨referenceCount?_setWindow present, rfl⟩

/-- Giving a reference back that is counted counts one less. -/
theorem release_spec (found : k.referenceCount? object = some (count + 1)) :
    (∀ other, (k.release object).referenceCount? other =
      if other = object then some count else k.referenceCount? other) ∧
        ∀ cause ∈ (k.release object).faults,
          cause ∈ k.faults ∨ cause = .uncounted ∨ cause = .dangling := by
  cases object with
  | segment s =>
      obtain ⟨g, present, counted⟩ := Option.map_eq_some_iff.mp found
      have less : g.attachCount - 1 = count := by omega
      rw [release, releaseSegment_eq_settle present (by omega)]
      rw [← less]
      exact ⟨referenceCount?_settle present, fun _ => faults_settle present⟩
  | window w =>
      obtain ⟨window, present, counted⟩ := Option.map_eq_some_iff.mp found
      have less : window.references - 1 = count := by omega
      have positive : 0 < window.references := by omega
      simp only [release, present, require, positive, if_true]
      rw [← less]
      exact ⟨referenceCount?_setWindow present, fun _ => .inl⟩

private theorem markDestroyed_spec (s : Handle .segment) :
    (∀ object, (k.markDestroyed s).referenceCount? object = k.referenceCount? object) ∧ ∀ cause ∈
    (k.markDestroyed s).faults, cause ∈ k.faults ∨ cause = .uncounted ∨ cause = .dangling := by
  cases found : k.segments.get? s with
  | none =>
      simp only [markDestroyed, found]
      refine ⟨fun object => by cases object <;> rfl, fun cause member => ?_⟩
      exact (List.mem_cons.mp member).symm.imp_right .inr
  | some g =>
      rw [markDestroyed_eq_settle found]
      refine ⟨fun object => ?_, fun _ => faults_settle found⟩
      rw [referenceCount?_settle found]
      split
      case isTrue same => simp [same, referenceCount?, found, Segment.removed]
      case isFalse => rfl

/-! ## The invariant -/

/-- Whether references are counted depends on the objects, and on what went wrong with counts. -/
theorem Counted.congr (counted : k.Counted refs) (segments : k'.segments = k.segments)
    (windows : k'.windows = k.windows)
    (faults : ∀ cause ∈ k'.faults, cause ∈ k.faults ∨ cause = .dangling) : k'.Counted refs where
  counts := fun object => by rw [referenceCount?_congr segments windows, counted.counts]
  sound := fun member => (faults _ member).elim counted.sound nofun

private theorem Counted.sound_of_faults (counted : k.Counted refs)
    (faults : ∀ cause ∈ k'.faults, cause ∈ k.faults ∨ cause = .uncounted ∨ cause = .dangling) :
    .overdrawn ∉ k'.faults := by
  intro member
  rcases faults _ member with old | new | new
  · exact counted.sound old
  · cases new
  · cases new

/-- A reference that exists is counted. -/
theorem Counted.exists_succ (counted : k.Counted (object ::ₘ refs)) :
    k.referenceCount? object = some (refs.count object + 1) := by
  have counts := counted.counts object
  rw [Multiset.count_cons_self] at counts
  cases found : k.referenceCount? object with
  | none => simp [found] at counts
  | some count => simpa [found] using counts

private theorem Usable.referenceCount? (usable : k.Usable object) :
    ∃ count, k.referenceCount? object = some count := by
  cases object with
  | segment s =>
      obtain ⟨g, found, _⟩ := usable
      exact ⟨g.attachCount, by simp only [Kernel.referenceCount?, found, Option.map_some]⟩
  | window w =>
      obtain ⟨window, found⟩ := usable
      exact ⟨window.references, by simp only [Kernel.referenceCount?, found, Option.map_some]⟩

/-- One change keeps the references counted. -/
theorem Change.counted (change : Change may k refs k' refs') (counted : k.Counted refs) :
    k'.Counted refs' := by
  cases change with
  | note alike =>
      refine ⟨fun object => ?_, fun member => ?_⟩
      · rw [alike.referenceCount?]
        exact counted.counts object
      · rcases alike.faults _ member with old | new | new
        · exact counted.sound old
        · cases new
        · cases new
  | acquire object allowed =>
      -- A reference is copied from one that is counted, or taken to an object that is there.
      obtain ⟨count, found⟩ : ∃ count, k.referenceCount? object = some count := by
        rcases allowed with member | usable
        · obtain ⟨rest, rfl⟩ := Multiset.exists_cons_of_mem member
          exact ⟨_, counted.exists_succ⟩
        · exact usable.referenceCount?
      obtain ⟨counts, faults⟩ := acquire_spec found
      refine ⟨fun other => ?_, faults ▸ counted.sound⟩
      have before := counted.counts other
      rw [counts]
      by_cases same : other = object
      · subst same
        rw [found] at before
        simp only [Option.getD_some] at before
        simp [before]
      · simpa [same, Multiset.count_cons_of_ne] using before
  | release object =>
      -- The reference is one of those that are counted, so the count is not zero.
      obtain ⟨counts, faults⟩ := release_spec counted.exists_succ
      refine ⟨fun other => ?_, counted.sound_of_faults faults⟩
      rw [counts]
      by_cases same : other = object
      · simp [same]
      · simpa [same, Multiset.count_cons_of_ne] using counted.counts other
  | @assign _ s g g' _ _ _ _ found granted =>
      have same : g'.attachCount = g.attachCount :=
        congrArg (·.attachCount) (setOwner_eq_ok granted).2
      refine ⟨fun object => ?_, counted.sound⟩
      rw [← counted.counts object, referenceCount?_setSegment found]
      split
      case isTrue here => simp [here, Kernel.referenceCount?, found, same]
      case isFalse => rfl
  | markDestroyed s =>
      obtain ⟨counts, faults⟩ := markDestroyed_spec (k := k) s
      exact ⟨fun object => (congrArg (·.getD 0) (counts object)).trans (counted.counts object),
        counted.sound_of_faults faults⟩
  | create c =>
      refine ⟨fun object => ?_, counted.sound⟩
      rw [← counted.counts object]
      cases object with
      | segment s =>
          have inserted : c.result.segments.get? s = (k.segments.insert c.segment).get? s := rfl
          rw [Kernel.referenceCount?, inserted, Slots.get?_insert]
          split
          case isTrue new => simp [Kernel.referenceCount?, new, Creation.segment, newSegment]
          case isFalse => rfl
      | window w => rfl
  | makePool => exact counted.congr rfl rfl fun _ => .inl
  | makeRegistry => exact counted.congr rfl rfl fun _ => .inl
  | unhold => exact counted.congr rfl rfl fun _ => .inl
  | eraseRegistry => exact counted.congr rfl rfl fun _ => .inl
  | makeWindow w unused =>
      refine ⟨fun object => ?_, counted.sound⟩
      rw [← counted.counts object]
      cases object with
      | segment s => rfl
      | window w' =>
          simp only [Kernel.referenceCount?, Kernel.makeWindow, Slots.get?_insert]
          split
          case isTrue new => simp [new, unused]
          case isFalse => rfl

/-- One turn keeps the references counted. -/
theorem Turn.counted (turn : Turn may k refs k' refs')
    (counted : k.Counted refs) : k'.Counted refs' := by
  rcases turn.change_or_same with change | ⟨same, rfl⟩
  · exact change.counted counted
  · exact counted.congr (congrArg (·.segments) same) (congrArg (·.windows) same)
      fun cause member => .inl ((congrArg (cause ∈ ·.faults) same).mp member)

end Kernel

namespace World

open Kernel

variable {w w' : World} {may : Deed → Prop} {allowed : Operation → Prop}
  {s : Handle .segment} {g : Segment}

/-- A step keeps the references counted. -/
theorem Step.counted (step : Step may w w') (counted : w.kernel.Counted w.kernel.held) :
    w'.kernel.Counted w'.kernel.held := by
  cases step with
  | course passage =>
      have counts := Chain.preserves Counted Turn.counted passage (by rwa [add_zero])
      rwa [add_zero] at counts
  | lend => exact counted.congr rfl rfl fun _ => .inl
  | giveBack =>
      have kept := objects_releaseFrames (k := w.kernel)
      rw [held_congr (holderPart_releaseFrames _ _)]
      exact counted.congr (kept _ _).1 (kept _ _).2.2 fun _ => faults_releaseFrames

/-- At the start the references are counted, for there are none. -/
theorem counted_start : ({} : World).kernel.Counted ({} : World).kernel.held :=
  ⟨fun object => by cases object <;> rfl, by simp⟩

/-- In every reachable world every object counts the references that are held. -/
theorem Reachable.counted (suits : Suits allowed may) (reachable : Reachable allowed w) :
    w.kernel.Counted w.kernel.held :=
  reachable.invariant suits (fun w => w.kernel.Counted w.kernel.held) Step.counted counted_start

/-- In every world that is reached a segment counts the references to it. -/
theorem Reachable.attachCount (suits : Suits allowed may) (reachable : Reachable allowed w)
    (found : w.kernel.segments.get? s = some g) :
    g.attachCount = w.kernel.referencesTo (.segment s) := by
  have counts := (reachable.counted suits).counts (.segment s)
  rw [count_held] at counts
  simpa only [referenceCount?, found, Option.map_some, Option.getD_some] using counts

/-- Reference counting is exact. In every reachable world the count of a segment, which is also
the count that is reported of it, is the number of areas that map it in any address space, of
kept requests for it and of kept references to it. No reference is ever given back that is not
counted. When nothing is kept besides tasks, the count is the number of areas of all tasks that
map the segment. -/
theorem attachCount_eq_referencesTo (reachable : w.Reachable anything) :
    (∀ s g, w.kernel.segments.get? s = some g →
      g.attachCount = w.kernel.referencesTo (.segment s) ∧
      (∀ q status k', segmentStatus s q w.kernel = .ok status k' →
        status.attachCount = w.kernel.referencesTo (.segment s)) ∧
      (w.kernel.spaces.values = [] → w.kernel.requests.values = [] →
        w.kernel.references.values = [] →
          g.attachCount = w.kernel.tasks.total (·.space.areasOf (.segment s)))) ∧
    Fault.overdrawn ∉ w.kernel.faults := by
  refine ⟨fun s g found => ?_, (reachable.counted suits_anything).sound⟩
  have counts := reachable.attachCount suits_anything found
  refine ⟨counts, fun q status k' reported => ?_, fun spaces requests references => ?_⟩
  · rw [attachCount_of_segmentStatus found reported, counts]
  · rw [counts, referencesTo, requests, references, Slots.total, spaces]
    simp

/-- Two tasks with three areas each, and one reference that is kept. -/
theorem attachCount_sharing :
    let w := ({} : World).follow (sharing ++ [.cloneReference (.segment ⟨0⟩)])
    w.Reachable anything ∧ ∃ g, w.kernel.segments.get? ⟨0⟩ = some g ∧
      w.kernel.referencesTo (.segment ⟨0⟩) = 7 ∧ g.attachCount = 7 ∧
        Fault.overdrawn ∉ w.kernel.faults := by
  intro w
  have reachable : w.Reachable anything :=
    reachable_follow (by decide +kernel) fun _ _ => trivial
  have present : (w.kernel.segments.get? ⟨0⟩).isSome := by decide +kernel
  have seven : w.kernel.referencesTo (.segment ⟨0⟩) = 7 := by decide +kernel
  obtain ⟨g, found⟩ := Option.isSome_iff_exists.mp present
  obtain ⟨counts, sound⟩ := attachCount_eq_referencesTo reachable
  exact ⟨reachable, g, found, seven, (counts _ g found).1.trans seven, sound⟩

end World

end SharedMemory
