import SharedMemory.Proofs.Charters

/-!
# What registries keep

What one change can do to a registry is listed in `Registry.Alters`: it forgets a segment, makes
one under the next free identifier, or loses its handle. A registry that goes is gone for good
(`Kernel.Fated`). So a registry keeps its limits, hands out identifiers only when it makes a
segment, and keeps its holder until it is forsaken.
-/

namespace SharedMemory

/-- What a change can do to the registry under a handle. -/
inductive Registry.Alters (may : Deed → Prop) (r : Handle .registry) (registry : Registry) :
    Registry → Prop
  | same : Alters may r registry registry
  | unregister (id : Int) (pages : Nat) : Alters may r registry (registry.unregister id pages)
  | register {id} (s : Handle .segment) (pages : Nat) (free : registry.nextFreeId? = some id)
      (permitted : may (.make r)) : Alters may r registry (registry.register id s pages)
  | unhold (permitted : may (.forsake r)) :
      Alters may r registry { registry with holder := .ipc false }

/-- Where nobody may forsake a registry, a change leaves what keeps it. -/
theorem Registry.Alters.holder {may : Deed → Prop} {r : Handle .registry}
    {registry registry' : Registry} (alters : registry.Alters may r registry')
    (loyal : ¬ may (.forsake r)) : registry'.holder = registry.holder := by
  cases alters with
  | same => rfl
  | unregister => rfl
  | register => rfl
  | unhold permitted => exact absurd permitted loyal

/-- A registry keeps its pool. -/
theorem Registry.Alters.pool {may : Deed → Prop} {r : Handle .registry}
    {registry registry' : Registry} (alters : registry.Alters may r registry') :
    registry'.pool = registry.pool := by
  cases alters <;> rfl

namespace Kernel

/-- What becomes of the registry under a handle. One that is there was there and is altered, or is
new; one that was there still is, or is forsaken. A handle that was handed out stays so. -/
structure Fated (may : Deed → Prop) (r : Handle .registry) (k k' : Kernel) : Prop where
  origin : ∀ {registry'}, k'.registries.get? r = some registry' →
    (∃ registry, k.registries.get? r = some registry ∧ registry.Alters may r registry') ∨
      (¬ k.registries.Issued r ∧ may (.draw registry'.pool))
  kept : ∀ {registry}, k.registries.get? r = some registry →
    (∃ registry', k'.registries.get? r = some registry') ∨ may (.forsake r)
  issued : k.registries.Issued r → k'.registries.Issued r

variable {k k' : Kernel} {refs refs' : Multiset Object} {may : Deed → Prop} {r : Handle .registry}
  {registry registry' : Registry} {s : Handle .segment} {g : Segment}

private theorem fated_of_eq (same : k'.registries = k.registries) : Fated may r k k' := by
  constructor <;> rw [same]
  · exact fun here => .inl ⟨_, here, .same⟩
  · exact fun here => .inl ⟨_, here⟩
  · exact id

private theorem fated_of_set {r' : Handle .registry} (found : k.registries.get? r' = some registry)
    (alters : registry.Alters may r' registry')
    (placed : k'.registries = k.registries.set r' registry') : Fated may r k k' := by
  by_cases same : r' = r
  · subst same
    constructor <;> rw [placed]
    · rw [Slots.get?_set_self found]
      rintro _ ⟨rfl⟩
      exact .inl ⟨registry, found, alters⟩
    · exact fun _ => .inl ⟨registry', Slots.get?_set_self found _⟩
    · exact Slots.issued_set.mpr
  · constructor <;> rw [placed]
    · rw [Slots.get?_set_of_ne same]
      exact fun here => .inl ⟨_, here, .same⟩
    · rw [Slots.get?_set_of_ne same]
      exact fun here => .inl ⟨_, here⟩
    · exact Slots.issued_set.mpr

private theorem fated_retire : Fated may r k (k.retire s g) := by
  constructor
  · intro registry' here
    rw [get?_registries_retire] at here
    obtain ⟨registry, found, rfl⟩ := Option.map_eq_some_iff.mp here
    refine .inl ⟨registry, found, ?_⟩
    split
    · exact .unregister _ _
    · exact .same
  · intro registry here
    rw [get?_registries_retire, here]
    exact .inl ⟨_, rfl⟩
  · exact issued_retire.mpr

/-- To settle a segment leaves registries to their fate. -/
theorem fated_settle {old : Segment} (found : k.segments.get? s = some old) (g : Segment) :
    Fated may r k (k.settle s g) := by
  rcases settle_cases found g with ⟨same, _⟩ | ⟨same, _⟩ <;> rw [same]
  · exact fated_of_eq rfl
  · exact fated_retire

private theorem fated_markDestroyed (s : Handle .segment) : Fated may r k (k.markDestroyed s) := by
  cases found : k.segments.get? s with
  | none =>
      simp only [markDestroyed, found]
      exact fated_of_eq rfl
  | some g =>
      rw [markDestroyed_eq_settle found]
      exact fated_settle found _

private theorem fated_acquire (object : Object) : Fated may r k (k.acquire object) := by
  refine fated_of_eq ?_
  cases object <;> simp only [acquire] <;> split <;> rfl

private theorem fated_release (object : Object) : Fated may r k (k.release object) := by
  cases object with
  | segment s =>
      cases found : k.segments.get? s with
      | none =>
          simp only [release, releaseSegment, found]
          exact fated_of_eq rfl
      | some g =>
          rcases Nat.eq_zero_or_pos g.attachCount with zero | counted
          · simp only [release, releaseSegment, found, zero]
            exact fated_of_eq (by simp [setSegment])
          · rw [release, releaseSegment_eq_settle found counted]
            exact fated_settle found _
  | window w =>
      simp only [release]
      split
      · exact fated_of_eq (by simp [setWindow])
      · exact fated_of_eq rfl

private theorem fated_makeRegistry (userNs : UserNamespace) {p : Handle .pool} (limits : Limits)
    (holder : Holder) (permitted : may (.draw p)) :
    Fated may r k (k.makeRegistry userNs p limits holder).2 := by
  have inserted : (k.makeRegistry userNs p limits holder).2.registries =
      k.registries.insert (.empty userNs p limits holder) := rfl
  constructor <;> rw [inserted]
  · intro registry' here
    rcases Slots.get?_of_insert here with ⟨rfl, rfl⟩ | before
    · exact .inr ⟨Slots.not_issued_fresh _, permitted⟩
    · exact .inl ⟨registry', before, .same⟩
  · exact fun here => .inl ⟨_, (Slots.get?_insert_of_ne (Slots.ne_fresh here) _).trans here⟩
  · exact fun issued => issued.insert _

private theorem fated_eraseRegistry {r' : Handle .registry} (permitted : may (.forsake r')) :
    Fated may r k (k.eraseRegistry r') := by
  have erased : (k.eraseRegistry r').registries.get? r =
      if r' = r then none else k.registries.get? r := Slots.get?_erase _ _ _
  refine ⟨?_, ?_, Slots.issued_erase.mpr⟩ <;> rw [erased] <;> split
  case refine_1.isTrue => exact nofun
  case refine_1.isFalse => exact fun here => .inl ⟨_, here, .same⟩
  case refine_2.isTrue same => exact fun _ => .inr (same ▸ permitted)
  case refine_2.isFalse => exact fun here => .inl ⟨_, here⟩

/-- What a change does to the registry under a handle. -/
theorem Change.fated (change : Change may k refs k' refs') (r : Handle .registry) :
    Fated may r k k' := by
  cases change with
  | note alike => exact fated_of_eq alike.registries
  | acquire object => exact fated_acquire object
  | release object => exact fated_release object
  | assign => exact fated_of_eq rfl
  | markDestroyed s => exact fated_markDestroyed s
  | create c permitted => exact fated_of_set c.registered (.register _ _ c.free permitted) rfl
  | makePool => exact fated_of_eq rfl
  | makeRegistry userNs p limits holder permitted =>
      exact fated_makeRegistry userNs limits holder permitted
  | unhold found permitted => exact fated_of_set found (.unhold permitted) rfl
  | eraseRegistry r' permitted => exact fated_eraseRegistry permitted
  | makeWindow => exact fated_of_eq rfl

/-- One turn leaves registries to their fate. -/
theorem Turn.fated (turn : Turn may k refs k' refs') (r : Handle .registry) : Fated may r k k' := by
  rcases turn.change_or_same with change | ⟨same, _⟩
  · exact change.fated r
  · exact fated_of_eq (congrArg (·.registries) same)

/-- A registry whose handle was handed out was there before. -/
theorem Fated.before (fated : Fated may r k k') (issued : k.registries.Issued r)
    (here : k'.registries.get? r = some registry') :
    ∃ registry, k.registries.get? r = some registry ∧ registry.Alters may r registry' :=
  (fated.origin here).resolve_right fun new => new.1 issued

/-- A registry was made and is gone. -/
def Bygone (k : Kernel) (r : Handle .registry) : Prop :=
  k.registries.Issued r ∧ k.registries.get? r = none

/-- A registry that is gone stays so. -/
theorem Turn.bygone (turn : Turn may k refs k' refs') (bygone : k.Bygone r) : k'.Bygone r := by
  obtain ⟨issued, missing⟩ := bygone
  have fated := turn.fated r
  refine ⟨fated.issued issued, Option.eq_none_iff_forall_ne_some.mpr fun registry' here => ?_⟩
  obtain ⟨registry, there, _⟩ := fated.before issued here
  cases missing.symm.trans there

/-- A segment of a registry that may make none was there before. -/
theorem Turn.segment_origin {g' : Segment} (turn : Turn may k refs k' refs')
    (idle : ¬ may (.make r)) (found' : k'.segments.get? s = some g') (own : g'.registry = r) :
    ∃ g, k.segments.get? s = some g ∧ g.registry = r := by
  rcases turn.change_or_same with change | ⟨same, _⟩
  · rcases change.segmentsAlter with alter | ⟨c, permitted, rfl⟩
    · obtain ⟨g, found, alters⟩ := alter.origin found'
      exact ⟨g, found, alters.evolves.registry.symm.trans own⟩
    · rcases c.segment_cases found' with ⟨_, rfl⟩ | found
      · cases own
        exact absurd permitted idle
      · exact ⟨g', found, own⟩
  · exact ⟨g', by rwa [← segments_congr same], own⟩

end Kernel

namespace World

open Kernel

variable {w w' : World} {may : Deed → Prop} {r : Handle .registry}

/-- What turns preserve, and what depends on holders, segments and registries only, a step
preserves. -/
theorem Step.objects (property : Kernel → Prop)
    (turn : ∀ {k refs k' refs'}, Turn may k refs k' refs' → property k → property k')
    (congr : ∀ {k k'}, k'.holderPart = k.holderPart → k'.segments = k.segments →
      k'.registries = k.registries → property k → property k')
    (step : Step may w w') (start : property w.kernel) : property w'.kernel := by
  cases step with
  | course passage => exact Chain.preserves (fun k _ => property k) turn passage start
  | lend => exact congr (k := w.kernel) rfl rfl rfl start
  | giveBack =>
      exact congr (holderPart_releaseFrames _ _) (objects_releaseFrames _ _).1
        (objects_releaseFrames _ _).2.1 start

/-- Where a registry may make no segment, every segment of it was there before. -/
theorem Step.segment_origin {s : Handle .segment} {g : Segment} (step : Step may w w')
    (idle : ¬ may (.make r)) (found : w'.kernel.segments.get? s = some g) (own : g.registry = r) :
    ∃ g', w.kernel.segments.get? s = some g' := by
  refine step.objects (fun k => ∀ g, k.segments.get? s = some g → g.registry = r →
    ∃ g', w.kernel.segments.get? s = some g') ?_ ?_ (fun g present _ => ⟨g, present⟩) g found own
  · intro k refs k' refs' turn before g' present' own'
    obtain ⟨g, present, own⟩ := turn.segment_origin idle present' own'
    exact before g present own
  · intro k k' _ segments _ before
    rwa [segments]

/-- A handle that was handed out stays so. -/
theorem Step.issued (step : Step may w w') (issued : w.kernel.registries.Issued r) :
    w'.kernel.registries.Issued r := by
  refine step.objects (fun k => k.registries.Issued r) ?_ ?_ issued
  · exact fun turn => (turn.fated r).issued
  · intro k k' _ _ registries before
    rwa [registries]

/-- What no alteration changes of a registry, no step changes while the registry is there. -/
theorem Step.registryView {α : Type} {registry : Registry} (view : Registry → α)
    (same : ∀ {registry registry'}, registry.Alters may r registry' →
      view registry' = view registry)
    (step : Step may w w') (here : w.kernel.registries.get? r = some registry) :
    ∀ registry', w'.kernel.registries.get? r = some registry' → view registry' = view registry := by
  have kept := step.objects (fun k => k.registries.Issued r ∧
    ∀ registry', k.registries.get? r = some registry' → view registry' = view registry) ?_ ?_
    ⟨Slots.issued_of_get? here, fun registry' there => ?_⟩
  · exact kept.2
  · rintro k refs k' refs' turn ⟨issued, before⟩
    have fated := turn.fated r
    refine ⟨fated.issued issued, fun registry' there => ?_⟩
    obtain ⟨middle, found, alters⟩ := fated.before issued there
    exact (same alters).trans (before middle found)
  · rintro k k' _ _ registries ⟨issued, before⟩
    rw [registries]
    exact ⟨issued, before⟩
  · cases here.symm.trans there
    rfl

/-- A registry that is gone stays so in a step. -/
theorem Step.bygone (step : Step may w w') (bygone : w.kernel.Bygone r) : w'.kernel.Bygone r := by
  refine step.objects (Bygone · r) (fun turn before => turn.bygone before) ?_ bygone
  intro k k' _ _ registries before
  rwa [Bygone, registries]

/-- A registry that goes is gone for good: one that is there was there before, if it was made. -/
theorem Run.registry_before {allowed : Operation → Prop} {registry : Registry}
    (suits : Suits allowed may) (run : Run allowed w w') (laid : w.kernel.Laid)
    (issued : w.kernel.registries.Issued r) (there : w'.kernel.registries.get? r = some registry) :
    ∃ before, w.kernel.registries.get? r = some before := by
  cases here : w.kernel.registries.get? r with
  | some before => exact ⟨before, rfl⟩
  | none =>
      have bygone := run.preserves suits (·.kernel.Bygone r) Step.bygone laid ⟨issued, here⟩
      cases bygone.2.symm.trans there

end World

end SharedMemory
