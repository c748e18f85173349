import SharedMemory.Proofs.Destruction

/-!
# What segments keep

What one change can do to a segment is listed in `Segment.Alters`. From this it follows that a
segment keeps its identifier, its registry, its size and its backing for good. Its lifetime only
moves from active to pending and it is destroyed once, never to come back. Segments are made by
registries and never disappear from the kernel.
-/

namespace SharedMemory

/-- What a change can do to the segment under a handle: something is noted, its references are
counted anew, or it is given a new owner or removed by whoever may. It can be destroyed after
that. -/
inductive Segment.Alters (may : Deed → Prop) (s : Handle .segment) (g : Segment) : Segment → Prop
  | note {g'} (same : g'.unnoted = g.unnoted) : Alters may s g g'
  | count (count : Nat) : Alters may s g { g with attachCount := count }
  | assign {g' q uid gid mode} (granted : g.setOwner q uid gid mode = .ok g')
      (permitted : may (.assign s)) : Alters may s g g'
  | remove (permitted : may (.remove s)) :
      Alters may s g { g with key := privateKey, lifetime := .pending }
  | retire {g'} (before : Alters may s g g') : Alters may s g { g' with destroyed := true }

/-- A segment with nothing but what it keeps for good. -/
def Segment.lasting (g : Segment) : Segment :=
  { g.core with key := privateKey, attachCount := 0, lifetime := .active, destroyed := false }

/-- How a segment may change. -/
structure Segment.Evolves (g g' : Segment) : Prop where
  lasting : g'.lasting = g.lasting
  pending : g.lifetime = .pending → g'.lifetime = .pending
  destroyed : g.destroyed = true → g'.destroyed = true

namespace Segment.Evolves

variable {g g' g'' : Segment}

/-- A segment may stay as it is. -/
theorem refl (g : Segment) : g.Evolves g := ⟨rfl, fun pending => pending, fun gone => gone⟩

/-- What became of a segment in two steps is what could have become of it in one. -/
theorem trans (first : g.Evolves g') (second : g'.Evolves g'') : g.Evolves g'' :=
  ⟨second.lasting.trans first.lasting, second.pending ∘ first.pending,
    second.destroyed ∘ first.destroyed⟩

/-- A segment of which only the bookkeeping changed has evolved. -/
theorem of_core (same : g'.core = g.core) : g.Evolves g' where
  lasting := congrArg (fun g : Segment =>
    { g with key := privateKey, attachCount := 0, lifetime := .active, destroyed := false }) same
  pending := fun pending => (congrArg (·.lifetime) same).trans pending
  destroyed := fun destroyed => (congrArg (·.destroyed) same).trans destroyed

/-- A segment may be destroyed. -/
theorem retired (g : Segment) : g.Evolves { g with destroyed := true } :=
  ⟨rfl, fun pending => pending, fun _ => rfl⟩

/-- A segment stays in its registry. -/
theorem registry (evolves : g.Evolves g') : g'.registry = g.registry :=
  congrArg (·.registry) evolves.lasting

/-- The frames of a segment stay in their pool. -/
theorem pool (evolves : g.Evolves g') : g'.pool = g.pool := congrArg (·.pool) evolves.lasting

/-- A segment stays in its user namespace. -/
theorem userNs (evolves : g.Evolves g') : g'.userNs = g.userNs :=
  congrArg (·.userNs) evolves.lasting

/-- A segment keeps its identifier. -/
theorem id (evolves : g.Evolves g') : g'.id = g.id := congrArg (·.id) evolves.lasting

/-- A segment keeps its size. -/
theorem size (evolves : g.Evolves g') : g'.size = g.size := congrArg (·.size) evolves.lasting

/-- A segment keeps its frames. -/
theorem backing (evolves : g.Evolves g') : g'.backing = g.backing :=
  congrArg (·.backing) evolves.lasting

/-- A segment keeps its size in whole pages. -/
theorem effectiveSize (evolves : g.Evolves g') : g'.effectiveSize = g.effectiveSize :=
  congrArg Span.size evolves.backing

end Segment.Evolves

/-- Whatever deeds permit, a segment evolves. -/
theorem Segment.Alters.evolves {may : Deed → Prop} {s : Handle .segment} {g g' : Segment}
    (alters : g.Alters may s g') : g.Evolves g' := by
  induction alters with
  | @note g' same =>
      have core : g'.unnoted.core = g.unnoted.core := congrArg Segment.core same
      exact .of_core core
  | count => exact ⟨rfl, fun pending => pending, fun gone => gone⟩
  | assign granted => exact .of_core (Kernel.setOwner_eq_ok granted).2
  | remove => exact ⟨rfl, fun _ => rfl, fun gone => gone⟩
  | retire _ ih => exact ih.trans (.retired _)

namespace Kernel

variable {k k' k'' : Kernel} {refs refs' : Multiset Object} {s : Handle .segment} {g g' : Segment}
  {may : Deed → Prop}

/-- Every segment is still there and has become another as a relation allows, and there is no
other. -/
def SegmentsRelate (allowed : Handle .segment → Segment → Segment → Prop) (k k' : Kernel) : Prop :=
  ∀ s, Option.Rel (allowed s) (k.segments.get? s) (k'.segments.get? s)

/-- Every segment is still there and has evolved, and there is no other. -/
abbrev SegmentsEvolve : Kernel → Kernel → Prop := SegmentsRelate fun _ => Segment.Evolves

/-- Every segment is still there and has evolved. -/
def Evolves (k k' : Kernel) : Prop :=
  ∀ {s g}, k.segments.get? s = some g → ∃ g', k'.segments.get? s = some g' ∧ g.Evolves g'

/-- A kernel evolves by doing nothing. -/
theorem Evolves.refl (k : Kernel) : k.Evolves k := fun {_ g} found => ⟨g, found, .refl g⟩

/-- A kernel evolves from step to step. -/
theorem Evolves.trans (first : k.Evolves k') (second : k'.Evolves k'') : k.Evolves k'' := by
  intro s g found
  obtain ⟨g', found', evolves⟩ := first found
  obtain ⟨g'', found'', evolves'⟩ := second found'
  exact ⟨g'', found'', evolves.trans evolves'⟩

private theorem segmentsRelate_of_eq {allowed : Handle .segment → Segment → Segment → Prop}
    (refl : ∀ s g, allowed s g g) (same : k'.segments = k.segments) :
    k.SegmentsRelate allowed k' := by
  intro s
  rw [same]
  cases k.segments.get? s with
  | none => exact .none
  | some g => exact .some (refl s g)

private theorem segmentsRelate_of_set {allowed : Handle .segment → Segment → Segment → Prop}
    (refl : ∀ s g, allowed s g g) (found : k.segments.get? s = some g) (related : allowed s g g')
    (placed : k'.segments = k.segments.set s g') : k.SegmentsRelate allowed k' := by
  intro s'
  rw [placed]
  by_cases same : s = s'
  · subst same
    rw [found, Slots.get?_set_self found]
    exact .some related
  · rw [Slots.get?_set_of_ne same]
    exact segmentsRelate_of_eq refl rfl s'

/-- Kernels that are alike have the same segments, but for the bookkeeping. -/
theorem Alike.segment? (alike : k.Alike k') (s : Handle .segment) :
    (k'.segments.get? s).map Segment.core = (k.segments.get? s).map Segment.core := by
  rw [← Slots.get?_map, ← Slots.get?_map, alike.core]

/-- Segments evolve if nothing happens to them. -/
theorem segmentsEvolve_of_eq (same : k'.segments = k.segments) : k.SegmentsEvolve k' :=
  segmentsRelate_of_eq (fun _ => .refl) same

/-- Segments evolve if the only one that is replaced does. -/
theorem segmentsEvolve_of_set (found : k.segments.get? s = some g) (evolves : g.Evolves g')
    (placed : k'.segments = k.segments.set s g') : k.SegmentsEvolve k' :=
  segmentsRelate_of_set (fun _ => .refl) found evolves placed

/-- Segments evolve if the one that is destroyed does. -/
theorem segmentsEvolve_retire (found : k.segments.get? s = some g) (evolves : g.Evolves g') :
    k.SegmentsEvolve (k.retire s g') :=
  segmentsEvolve_of_set found (evolves.trans (.retired g')) segments_retire

/-- Every segment is still there, altered at most as a change can alter it, and there is no
other. -/
abbrev SegmentsAlter (may : Deed → Prop) : Kernel → Kernel → Prop :=
  SegmentsRelate (Segment.Alters may)

private theorem segmentsAlter_of_eq (same : k'.segments = k.segments) : k.SegmentsAlter may k' :=
  segmentsRelate_of_eq (fun _ _ => .note rfl) same

private theorem segmentsAlter_of_set (found : k.segments.get? s = some g)
    (alters : g.Alters may s g')
    (placed : k'.segments = k.segments.set s g') : k.SegmentsAlter may k' :=
  segmentsRelate_of_set (fun _ _ => .note rfl) found alters placed

private theorem Alike.segmentsAlter (alike : k.Alike k') : k.SegmentsAlter may k' := by
  intro s
  have same : (k'.segments.get? s).map Segment.unnoted = (k.segments.get? s).map Segment.unnoted := by
    rw [← Slots.get?_map, ← Slots.get?_map, alike.segments]
  cases found : k.segments.get? s with
  | none =>
      rw [found, Option.map_none, Option.map_eq_none_iff] at same
      rw [same]
      exact .none
  | some g =>
      rw [found, Option.map_some, Option.map_eq_some_iff] at same
      obtain ⟨g', found', unnoted⟩ := same
      rw [found']
      exact .some (.note unnoted)

private theorem segmentsAlter_settle (found : k.segments.get? s = some g)
    (alters : g.Alters may s g') : k.SegmentsAlter may (k.settle s g') := by
  rcases settle_cases found g' with ⟨same, _⟩ | ⟨same, _⟩
  · rw [same]
    exact segmentsAlter_of_set found alters rfl
  · rw [same]
    exact segmentsAlter_of_set found (.retire alters) segments_retire

private theorem segmentsAlter_markDestroyed (s : Handle .segment) (permitted : may (.remove s)) :
    k.SegmentsAlter may (k.markDestroyed s) := by
  cases found : k.segments.get? s with
  | none =>
      simp only [markDestroyed, found]
      exact segmentsAlter_of_eq rfl
  | some g =>
      rw [markDestroyed_eq_settle found]
      exact segmentsAlter_settle found (.remove permitted)

private theorem segmentsAlter_acquire (object : Object) :
    k.SegmentsAlter may (k.acquire object) := by
  cases object with
  | segment s =>
      simp only [acquire]
      split
      case h_1 g found => exact segmentsAlter_of_set found (.count _) rfl
      case h_2 => exact segmentsAlter_of_eq rfl
  | window w =>
      simp only [acquire]
      split <;> exact segmentsAlter_of_eq rfl

private theorem segmentsAlter_release (object : Object) :
    k.SegmentsAlter may (k.release object) := by
  cases object with
  | segment s =>
      cases found : k.segments.get? s with
      | none =>
          simp only [release, releaseSegment, found]
          exact segmentsAlter_of_eq rfl
      | some g =>
          rcases Nat.eq_zero_or_pos g.attachCount with zero | counted
          · simp only [release, releaseSegment, found, zero]
            exact segmentsAlter_of_set found (.count 0) (by simp [setSegment])
          · rw [release, releaseSegment_eq_settle found counted]
            exact segmentsAlter_settle found (.count _)
  | window w =>
      simp only [release]
      split
      · exact segmentsAlter_of_eq (by simp [setWindow])
      · exact segmentsAlter_of_eq rfl

/-- A change of the objects alters segments, or makes one. -/
theorem Change.segmentsAlter (change : Change may k refs k' refs') :
    k.SegmentsAlter may k' ∨ ∃ c : Creation k, may (.make c.owner) ∧ k' = c.result := by
  cases change with
  | note alike => exact .inl alike.segmentsAlter
  | acquire object => exact .inl (segmentsAlter_acquire object)
  | release object => exact .inl (segmentsAlter_release object)
  | assign found granted permitted =>
      exact .inl (segmentsAlter_of_set found (.assign granted permitted) rfl)
  | markDestroyed s permitted => exact .inl (segmentsAlter_markDestroyed s permitted)
  | create c permitted => exact .inr ⟨c, permitted, rfl⟩
  | unhold => exact .inl (segmentsAlter_of_eq rfl)
  | makePool => exact .inl (segmentsAlter_of_eq rfl)
  | makeRegistry => exact .inl (segmentsAlter_of_eq rfl)
  | eraseRegistry => exact .inl (segmentsAlter_of_eq rfl)
  | makeWindow => exact .inl (segmentsAlter_of_eq rfl)

namespace SegmentsRelate

variable {allowed allowed' : Handle .segment → Segment → Segment → Prop}

private theorem mono (weaker : ∀ {s g g'}, allowed s g g' → allowed' s g g')
    (related : k.SegmentsRelate allowed k') : k.SegmentsRelate allowed' k' := by
  intro s
  have here := related s
  generalize k.segments.get? s = before, k'.segments.get? s = after at here ⊢
  cases here with
  | none => exact .none
  | some holds => exact .some (weaker holds)

/-- A segment is still there, as the relation allows. -/
theorem result (related : k.SegmentsRelate allowed k') (found : k.segments.get? s = some g) :
    ∃ g', k'.segments.get? s = some g' ∧ allowed s g g' := by
  have here := related s
  rw [found] at here
  cases found' : k'.segments.get? s with
  | none =>
      rw [found'] at here
      cases here
  | some g' =>
      rw [found'] at here
      cases here with
      | some holds => exact ⟨g', rfl, holds⟩

/-- A segment was there before, and became what it is as the relation allows. -/
theorem origin (related : k.SegmentsRelate allowed k') (found' : k'.segments.get? s = some g') :
    ∃ g, k.segments.get? s = some g ∧ allowed s g g' := by
  have here := related s
  rw [found'] at here
  cases found : k.segments.get? s with
  | none =>
      rw [found] at here
      cases here
  | some g =>
      rw [found] at here
      cases here with
      | some holds => exact ⟨g, rfl, holds⟩

end SegmentsRelate

/-- A change of the objects lets segments evolve, or makes one. -/
theorem Change.segmentsEvolve (change : Change may k refs k' refs') :
    k.SegmentsEvolve k' ∨ ∃ c : Creation k, k' = c.result :=
  change.segmentsAlter.imp (fun alter => alter.mono Segment.Alters.evolves) fun ⟨c, made⟩ =>
    ⟨c, made.2⟩

/-- A kernel evolves if its segments do and none is made. -/
theorem SegmentsEvolve.evolves (evolve : k.SegmentsEvolve k') : k.Evolves k' := by
  intro s g found
  exact evolve.result found

/-- A kernel in which a segment is made evolves. -/
theorem Creation.evolves (c : Creation k) : k.Evolves c.result := by
  intro s g found
  refine ⟨g, ?_, .refl g⟩
  have old : s ≠ (k.setPool c.registry.pool c.remaining).segments.fresh := Slots.ne_fresh found
  exact (Slots.get?_insert_of_ne old _).trans found

/-- A segment after a segment was made is the new one or was there before. -/
theorem Creation.segment_cases (c : Creation k) (found : c.result.segments.get? s = some g) :
    (s = k.segments.fresh ∧ g = c.segment) ∨ k.segments.get? s = some g := by
  have inserted : (k.segments.insert c.segment).get? s = some g := found
  exact Slots.get?_of_insert inserted

/-- One change lets a kernel evolve. -/
theorem Change.evolves (change : Change may k refs k' refs') : k.Evolves k' := by
  rcases change.segmentsEvolve with evolve | ⟨c, rfl⟩
  · exact evolve.evolves
  · exact c.evolves

/-- What is true of every new segment and depends on what a segment keeps is true of all
segments. -/
theorem Change.forall_segments (change : Change may k refs k' refs') (property : Segment → Prop)
    (lasting : ∀ {g g'}, g.Evolves g' → property g → property g')
    (new : ∀ c : Creation k, property c.segment)
    (holds : ∀ {s g}, k.segments.get? s = some g → property g)
    (found : k'.segments.get? s = some g) : property g := by
  rcases change.segmentsEvolve with evolve | ⟨c, rfl⟩
  · obtain ⟨old, present, evolves⟩ := evolve.origin found
    exact lasting evolves (holds present)
  · rcases c.segment_cases found with ⟨_, rfl⟩ | present
    · exact new c
    · exact holds present

/-- The segments are part of what concerns objects. -/
theorem segments_congr (same : k'.objectPart = k.objectPart) : k'.segments = k.segments :=
  congrArg (·.segments) same

private theorem Turn.evolves (turn : Turn may k refs k' refs') : k.Evolves k' := by
  rcases turn.change_or_same with change | ⟨same, _⟩
  · exact change.evolves
  · exact (segmentsEvolve_of_eq (segments_congr same)).evolves

/-- Along a course no segment is lost and none goes back in its life. -/
theorem Chain.evolves (course : Course may k refs k' refs') : k.Evolves k' := by
  induction course with
  | refl => exact Evolves.refl _
  | tail _ last ih => exact Evolves.trans ih last.evolves

end Kernel

end SharedMemory
