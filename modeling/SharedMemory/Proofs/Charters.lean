import SharedMemory.Proofs.Lifetimes

/-!
# What only owners change

Attaching, detaching, touching and forking change the references to a segment and the notes on
its use. All else is the segment's `charter`, which changes only when the segment is given a new
owner or is removed; removal leaves the `terms`, on which permissions depend. Since the namespace
of a segment is that of its registry (`Kernel.Housed`), so is the authority over it.
-/

namespace SharedMemory

namespace Segment

/-- A segment without its references, the notes on its use, and whether it was destroyed. -/
def charter (g : Segment) : Segment := { g.unnoted with attachCount := 0, destroyed := false }

/-- The charter of a segment without what its removal changes. -/
def terms (g : Segment) : Segment := { g.charter with key := privateKey, lifetime := .active }

variable {may : Deed → Prop} {s : Handle .segment} {g g' : Segment}

/-- Where nobody may assign a segment, a change leaves its terms. -/
theorem Alters.terms (alters : g.Alters may s g') (unassigned : ¬ may (.assign s)) :
    g'.terms = g.terms := by
  induction alters with
  | @note g' same =>
      have terms : g'.unnoted.terms = g.unnoted.terms := congrArg Segment.terms same
      exact terms
  | count => rfl
  | assign _ permitted => exact (unassigned permitted).elim
  | remove => rfl
  | retire _ ih => exact ih

/-- Where nobody may assign or remove a segment, a change leaves its charter. -/
theorem Alters.charter (alters : g.Alters may s g') (unassigned : ¬ may (.assign s))
    (unremoved : ¬ may (.remove s)) : g'.charter = g.charter := by
  induction alters with
  | @note g' same =>
      have charter : g'.unnoted.charter = g.unnoted.charter := congrArg Segment.charter same
      exact charter
  | count => rfl
  | assign _ permitted => exact (unassigned permitted).elim
  | remove permitted => exact (unremoved permitted).elim
  | retire _ ih => exact ih

/-- What a segment permits depends on its terms only. -/
theorem permits_of_terms (same : g'.terms = g.terms) (c : Credentials) (access : Access) :
    g'.permits c access = g.permits c access :=
  congrArg (·.permits c access) same

/-- Who may act as an owner depends on the terms only. -/
theorem ownedBy_of_terms (same : g'.terms = g.terms) (c : Credentials) :
    g'.ownedBy c = g.ownedBy c :=
  congrArg (·.ownedBy c) same

/-- Segments with one charter have the same terms. -/
theorem terms_of_charter (same : g'.charter = g.charter) : g'.terms = g.terms := by
  have terms : g'.charter.terms = g.charter.terms := congrArg Segment.terms same
  exact terms

end Segment

namespace Kernel

variable {k k' : Kernel} {refs refs' : Multiset Object} {may : Deed → Prop} {s : Handle .segment}
  {g g' : Segment}

/-- What no alteration changes of a segment, no turn changes. -/
theorem Turn.view {α : Type} (view : Segment → α)
    (same : ∀ {g g'}, g.Alters may s g' → view g' = view g) (turn : Turn may k refs k' refs')
    (found : k.segments.get? s = some g) :
    ∃ g', k'.segments.get? s = some g' ∧ view g' = view g := by
  rcases turn.change_or_same with change | ⟨objects, _⟩
  · rcases change.segmentsAlter with alter | ⟨c, _, rfl⟩
    · obtain ⟨g', found', alters⟩ := alter.result found
      exact ⟨g', found', same alters⟩
    · exact ⟨g, (Slots.get?_insert_of_ne (Slots.ne_fresh found) _).trans found, rfl⟩
  · exact ⟨g, by rwa [segments_congr objects], rfl⟩

/-! ## The namespace of a segment -/

/-- A segment belongs to a registry that was made, and has its namespace. -/
structure Housed (k : Kernel) : Prop where
  issued : ∀ {s g}, k.segments.get? s = some g → k.registries.Issued g.registry
  userNs : ∀ {s g registry}, k.segments.get? s = some g →
    k.registries.get? g.registry = some registry → g.userNs = registry.userNs

private theorem Housed.congr (housed : k.Housed)
    (origin : ∀ {s g'}, k'.segments.get? s = some g' →
      ∃ g, k.segments.get? s = some g ∧ g.Evolves g')
    (registries : ∀ {r registry'}, k'.registries.get? r = some registry' →
      ∃ registry, k.registries.get? r = some registry ∧ registry'.userNs = registry.userNs)
    (issued : ∀ {r}, k.registries.Issued r → k'.registries.Issued r) : k'.Housed where
  issued := by
    intro s g' found'
    obtain ⟨g, found, evolves⟩ := origin found'
    rw [evolves.registry]
    exact issued (housed.issued found)
  userNs := by
    intro s g' registry' found' here
    obtain ⟨g, found, evolves⟩ := origin found'
    obtain ⟨registry, there, same⟩ := registries here
    rw [evolves.registry] at there
    rw [evolves.userNs, same]
    exact housed.userNs found there

private theorem Housed.of_eq (housed : k.Housed) (segments : k'.segments = k.segments)
    (registries : k'.registries = k.registries) : k'.Housed := by
  refine housed.congr (fun found => ⟨_, segments ▸ found, .refl _⟩)
    (fun here => ⟨_, registries ▸ here, rfl⟩) fun issued => ?_
  rwa [registries]

private theorem Housed.keep (housed : k.Housed) (keeps : k.Keeps k') : k'.Housed := by
  refine housed.congr (fun found => ?_) (fun {r registry'} here => ?_) fun {r} issued => ?_
  · obtain ⟨g, present, core⟩ := keeps.segment found
    exact ⟨g, present, .of_core core⟩
  · obtain ⟨registry, there, core⟩ := keeps.registry here
    exact ⟨registry, there, congrArg (·.userNs) core⟩
  · exact keeps.issued.mpr issued

private theorem Housed.retire (housed : k.Housed) (found : k.segments.get? s = some g)
    (evolves : g.Evolves g') : (k.retire s g').Housed := by
  refine housed.congr (segmentsEvolve_retire found evolves).origin (fun {r registry'} here => ?_)
    fun issued => issued_retire.mpr issued
  rw [get?_registries_retire] at here
  obtain ⟨registry, there, rfl⟩ := Option.map_eq_some_iff.mp here
  refine ⟨registry, there, ?_⟩
  split <;> rfl

private theorem Housed.create (housed : k.Housed) (c : Creation k) : c.result.Housed := by
  have placed : c.result.registries = k.registries.set c.owner
      (c.registry.register c.id k.segments.fresh (c.length / pageSize)) := rfl
  refine ⟨fun found => ?_, fun {s g registry} found here => ?_⟩
  · rw [placed, Slots.issued_set]
    rcases c.segment_cases found with ⟨_, rfl⟩ | present
    · exact Slots.issued_of_get? c.registered
    · exact housed.issued present
  · rcases c.segment_cases found with ⟨_, rfl⟩ | present
    · have own : c.result.registries.get? c.owner = some registry := here
      rw [placed, Slots.get?_set_self c.registered] at own
      cases own
      rfl
    · by_cases owner : c.owner = g.registry
      · have there := c.registered
        rw [owner] at there
        have same : g.userNs = c.registry.userNs := housed.userNs present there
        rw [placed, ← owner, Slots.get?_set_self c.registered] at here
        cases here
        exact same
      · rw [placed, Slots.get?_set_of_ne owner] at here
        exact housed.userNs present here

private theorem Housed.makeRegistry (housed : k.Housed) (userNs : UserNamespace) (p : Handle .pool)
    (limits : Limits) (holder : Holder) : (k.makeRegistry userNs p limits holder).2.Housed where
  issued := fun found => (housed.issued found).insert _
  userNs := by
    intro s g registry found here
    have there : (k.registries.insert (.empty userNs p limits holder)).get? g.registry =
        some registry := here
    rcases Slots.get?_of_insert there with ⟨new, _⟩ | there
    · exact (k.registries.not_issued_fresh (new ▸ housed.issued found)).elim
    · exact housed.userNs found there

private theorem Housed.eraseRegistry (housed : k.Housed) (r : Handle .registry) :
    (k.eraseRegistry r).Housed := by
  refine housed.congr (fun found => ⟨_, found, .refl _⟩) (fun {r' registry'} here => ?_)
    fun issued => Slots.issued_erase.mpr issued
  have there : (k.registries.erase r).get? r' = some registry' := here
  exact ⟨registry', Slots.get?_of_erase there, rfl⟩

/-- One development leaves segments in their registries. -/
theorem Development.housed (development : k.Development k') (housed : k.Housed) : k'.Housed := by
  cases development with
  | keep keeps => exact housed.keep keeps
  | @shift s g g' found shift =>
      rcases settle_cases found g' with ⟨same, _⟩ | ⟨same, _⟩ <;> rw [same]
      · exact housed.congr (segmentsEvolve_of_set found shift.evolves rfl).origin
          (fun here => ⟨_, here, rfl⟩) fun issued => issued
      · exact housed.retire found shift.evolves
  | create c => exact housed.create c
  | makePool => exact housed.of_eq rfl rfl
  | makeRegistry userNs p limits holder => exact housed.makeRegistry userNs p limits holder
  | eraseRegistry r => exact housed.eraseRegistry r

end Kernel

namespace World

open Kernel

variable {w w' : World} {may : Deed → Prop} {allowed : Operation → Prop} {s : Handle .segment}
  {g : Segment}

private theorem Development.housed (development : Development w w') (housed : w.kernel.Housed) :
    w'.kernel.Housed := by
  cases development with
  | objects development => exact development.housed housed
  | lend => exact housed.of_eq rfl rfl
  | giveBack => exact housed.of_eq (objects_releaseFrames _ _).1 (objects_releaseFrames _ _).2.1

/-- In every world that is reached segments belong to registries that were made. -/
theorem Reachable.housed (suits : Suits allowed may) (reachable : Reachable allowed w) :
    w.kernel.Housed :=
  reachable.development suits (·.kernel.Housed) Development.housed
    ⟨fun found => by simp [Slots.get?] at found, fun found => by simp [Slots.get?] at found⟩

/-- What no alteration changes about a segment, no step changes. -/
theorem Step.view {α : Type} (view : Segment → α)
    (same : ∀ {g g'}, g.Alters may s g' → view g' = view g) (step : Step may w w')
    (laid : w.kernel.Laid) (found : w.kernel.segments.get? s = some g) :
    ∃ g', w'.kernel.segments.get? s = some g' ∧ view g' = view g := by
  refine step.kernel (fun k => ∃ g', k.segments.get? s = some g' ∧ view g' = view g) ?_ ?_ laid
    ⟨g, found, rfl⟩
  · rintro k refs k' refs' turn _ ⟨g', found', before⟩
    obtain ⟨g'', found'', after⟩ := turn.view view same found'
    exact ⟨g'', found'', after.trans before⟩
  · rintro k k' _ segments ⟨g', found', before⟩
    exact ⟨g', by rwa [segments], before⟩

/-- A segment that is given no new owner keeps its terms. -/
theorem Step.terms (step : Step may w w') (laid : w.kernel.Laid) (unassigned : ¬ may (.assign s))
    (found : w.kernel.segments.get? s = some g) :
    ∃ g', w'.kernel.segments.get? s = some g' ∧ g'.terms = g.terms :=
  step.view Segment.terms (fun alters => alters.terms unassigned) laid found

/-- A segment that is given no new owner and is not removed keeps its charter. -/
theorem Step.charter (step : Step may w w') (laid : w.kernel.Laid) (unassigned : ¬ may (.assign s))
    (unremoved : ¬ may (.remove s)) (found : w.kernel.segments.get? s = some g) :
    ∃ g', w'.kernel.segments.get? s = some g' ∧ g'.charter = g.charter :=
  step.view Segment.charter (fun alters => alters.charter unassigned unremoved) laid found

end World

end SharedMemory
