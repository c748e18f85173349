import SharedMemory.Proofs.ObjectChanges

/-!
# What destruction does

A segment is marked for destruction, or loses a reference, and is destroyed if nothing keeps
it any more. Both operations put the segment in place and settle what becomes of it
(`Kernel.settle`). A segment that is retired (`Kernel.retire`) is forgotten by its registry,
and its frames go back to their pool.
-/

namespace SharedMemory

/-- The segment after it was removed. -/
def Segment.removed (g : Segment) : Segment := { g with key := privateKey, lifetime := .pending }

/-- A segment that was removed and that nothing refers to. -/
def Segment.Doomed (g : Segment) : Prop := g.lifetime = .pending ∧ g.attachCount = 0

instance (g : Segment) : Decidable g.Doomed := inferInstanceAs (Decidable (_ ∧ _))

namespace Kernel

variable {k : Kernel} {s : Handle .segment} {g old : Segment}

/-! ## Parts that stay -/

@[simp] theorem objects_require (condition : Prop) [Decidable condition] (cause : Fault) :
    (k.require condition cause).pools = k.pools ∧
      (k.require condition cause).segments = k.segments ∧
        (k.require condition cause).registries = k.registries ∧
          (k.require condition cause).windows = k.windows ∧
            (k.require condition cause).log = k.log := by
  unfold require
  split <;> simp [halt]

@[simp] theorem objects_forgetSegment :
    (k.forgetSegment g).pools = k.pools ∧ (k.forgetSegment g).segments = k.segments ∧
      (k.forgetSegment g).windows = k.windows ∧ (k.forgetSegment g).log = k.log := by
  unfold forgetSegment
  split
  · split
    · simp [setRegistry]
    · simp
  · simp

@[simp] theorem objects_releaseFrames (p : Handle .pool) (span : Span) :
    (k.releaseFrames p span).segments = k.segments ∧
      (k.releaseFrames p span).registries = k.registries ∧
        (k.releaseFrames p span).windows = k.windows := by
  unfold releaseFrames
  split <;> simp [emit, setPool, halt]

/-- A segment that is forgotten is taken from its own registry, if that lists the identifier. -/
theorem get?_registries_forgetSegment (r : Handle .registry) :
    (k.forgetSegment g).registries.get? r = (k.registries.get? r).map fun registry =>
      if r = g.registry ∧ (registry.find? g.id).isSome then registry.unregister g.id g.pages
      else registry := by
  unfold forgetSegment
  split
  case h_1 registry found =>
    by_cases same : g.registry = r
    · subst same
      by_cases present : (registry.find? g.id).isSome
      · simp [present, setRegistry, found, Slots.get?_set_self found]
      · simp [present, found]
    · by_cases present : (registry.find? g.id).isSome
      · simp [present, setRegistry, Slots.get?_set_of_ne same, Ne.symm same]
      · simp [present, Ne.symm same]
  case h_2 missing =>
    by_cases same : r = g.registry
    · simp [same, missing]
    · simp [same]

/-- Frames go back to the pool named, and the other pools stay. -/
theorem get?_pools_releaseFrames (p q : Handle .pool) (span : Span) :
    (k.releaseFrames p span).pools.get? q = (k.pools.get? q).map fun pool =>
      if q = p then pool.release span else pool := by
  unfold releaseFrames
  split
  case h_1 pool found =>
    by_cases same : p = q
    · subst same
      have present : (k.emit (.framesReleased span)).pools.get? p = some pool := found
      simp [setPool, found, Slots.get?_set_self present]
    · simp [setPool, emit, Slots.get?_set_of_ne same, Ne.symm same]
  case h_2 missing =>
    by_cases same : q = p
    · simp [same, halt, missing]
    · simp [same, halt]

/-- Frames that go back to a pool that is there are noted in the log. -/
theorem released_releaseFrames {p : Handle .pool} {pool : FramePool}
    (pooled : k.pools.get? p = some pool) (span : Span) :
    (k.releaseFrames p span).log.filterMap Event.released? =
      span :: k.log.filterMap Event.released? := by
  simp only [releaseFrames, pooled]
  rfl

/-- To forget a segment can fail only to count its pages. -/
theorem faults_forgetSegment {cause : Fault} (member : cause ∈ (k.forgetSegment g).faults) :
    cause ∈ k.faults ∨ cause = .uncounted := by
  unfold forgetSegment at member
  split at member
  · split at member
    · simp only [setRegistry, require] at member
      split at member
      · exact .inl member
      · exact (List.mem_cons.mp member).symm
    · exact .inl member
  · exact .inl member

/-- To give frames back can fail only for want of the pool. -/
theorem faults_releaseFrames {p : Handle .pool} {span : Span} {cause : Fault}
    (member : cause ∈ (k.releaseFrames p span).faults) : cause ∈ k.faults ∨ cause = .dangling := by
  unfold releaseFrames at member
  split at member
  · exact .inl member
  · exact (List.mem_cons.mp member).symm

/-! ## Settling -/

/-- Puts a segment in place and destroys it if it is doomed. -/
def settle (k : Kernel) (s : Handle .segment) (g : Segment) : Kernel :=
  if g.Doomed then (k.setSegment s g).destroy s else k.setSegment s g

/-- Puts a segment in place as destroyed, and lets go of all that it had. -/
def retire (k : Kernel) (s : Handle .segment) (g : Segment) : Kernel :=
  (((k.setSegment s { g with destroyed := true }).emit
    (.segmentDestroyed g.id g.backing)).forgetSegment g).releaseFrames g.pool g.backing

/-- To mark a segment is to put it in place as marked and destroy it if it is doomed. -/
theorem markDestroyed_eq_settle (found : k.segments.get? s = some g) :
    k.markDestroyed s = k.settle s g.removed := by
  simp [markDestroyed, found, settle, Segment.Doomed, Segment.removed]

/-- To give a reference up is to put the segment in place with one less and destroy it if it is
doomed. -/
theorem releaseSegment_eq_settle (found : k.segments.get? s = some g)
    (counted : 0 < g.attachCount) :
    k.releaseSegment s = k.settle s { g with attachCount := g.attachCount - 1 } := by
  have last : ({ g with attachCount := g.attachCount - 1 } : Segment).Doomed ↔
      g.attachCount = 1 ∧ g.lifetime = .pending :=
    ⟨fun doomed => ⟨by have := doomed.2; simp only at this; omega, doomed.1⟩,
      fun final => ⟨final.2, by simp [final.1]⟩⟩
  by_cases final : g.attachCount = 1 ∧ g.lifetime = .pending
  · rw [settle, if_pos (last.mpr final)]
    simp [releaseSegment, found, require, final]
  · rw [settle, if_neg (mt last.mp final)]
    simp only [releaseSegment, found, require, counted, if_true, if_neg final]

/-- A segment that is put in place is retired if it is doomed and was not destroyed before. -/
theorem settle_cases (found : k.segments.get? s = some old) (g : Segment) :
    (k.settle s g = k.setSegment s g ∧ (g.destroyed = false → ¬ g.Doomed)) ∨
      (k.settle s g = k.retire s g ∧ g.destroyed = false ∧ g.Doomed) := by
  have placed : (k.setSegment s g).segments.get? s = some g := Slots.get?_set_self found g
  by_cases doomed : g.Doomed
  · cases destroyed : g.destroyed with
    | true => simp [settle, doomed, destroy, placed, destroyed]
    | false =>
        have again : (k.setSegment s g).setSegment s { g with destroyed := true } =
            k.setSegment s { g with destroyed := true } := by
          simp only [setSegment, Slots.set_set found]
        simp [settle, doomed, destroy, placed, destroyed, again, retire]
  · simp [settle, doomed]

@[simp] theorem segments_retire :
    (k.retire s g).segments = k.segments.set s { g with destroyed := true } := by
  simp [retire, emit, setSegment]

@[simp] theorem windows_retire : (k.retire s g).windows = k.windows := by
  simp [retire, emit, setSegment]

/-- A segment that is destroyed is taken from its own registry, if that lists the identifier. -/
theorem get?_registries_retire (r : Handle .registry) :
    (k.retire s g).registries.get? r = (k.registries.get? r).map fun registry =>
      if r = g.registry ∧ (registry.find? g.id).isSome then registry.unregister g.id g.pages
      else registry := by
  simp only [retire, (objects_releaseFrames ..).2.1, get?_registries_forgetSegment]
  rfl

/-- The frames of a segment that is destroyed go back to its own pool. -/
theorem get?_pools_retire (p : Handle .pool) :
    (k.retire s g).pools.get? p = (k.pools.get? p).map fun pool =>
      if p = g.pool then pool.release g.backing else pool := by
  simp only [retire, get?_pools_releaseFrames, objects_forgetSegment.1]
  rfl

/-- Retiring a segment gives its backing back, and no other frames. -/
theorem released_retire {pool : FramePool} (pooled : k.pools.get? g.pool = some pool) :
    (k.retire s g).log.filterMap Event.released? =
      g.backing :: k.log.filterMap Event.released? := by
  have still : (((k.setSegment s { g with destroyed := true }).emit
      (.segmentDestroyed g.id g.backing)).forgetSegment g).pools.get? g.pool = some pool := by
    rw [objects_forgetSegment.1]
    exact pooled
  rw [retire, released_releaseFrames still, objects_forgetSegment.2.2.2]
  rfl

/-- Retiring a segment may uncover that its pages were not counted or that its pool is gone. -/
theorem faults_retire {cause : Fault} (member : cause ∈ (k.retire s g).faults) :
    cause ∈ k.faults ∨ cause = .uncounted ∨ cause = .dangling := by
  rcases faults_releaseFrames member with member | gone
  · exact (faults_forgetSegment member).imp id .inl
  · exact .inr (.inr gone)

end Kernel

end SharedMemory
