import SharedMemory.Proofs.References

/-!
# How objects develop

As long as references are counted, segments, registries and pools develop in few ways
(`Kernel.Development`). A segment that is there gains a reference while it is not doomed, loses
one that it counts, or is removed, and then it is settled what becomes of it; segments, pools
and registries are made, and registries go. Whatever the life of segments, their registration
and their backing have in common rests on this list.
-/

namespace SharedMemory

/-- How a segment changes: a reference to it is taken or given back, or it is removed. -/
inductive Segment.Shift (g : Segment) : Segment → Prop
  | acquire (usable : ¬ g.Doomed) : g.Shift { g with attachCount := g.attachCount + 1 }
  | release (counted : 0 < g.attachCount) : g.Shift { g with attachCount := g.attachCount - 1 }
  | remove : g.Shift { g with key := privateKey, lifetime := .pending }

/-- A segment that shifts evolves. -/
theorem Segment.Shift.evolves {g g' : Segment} (shift : g.Shift g') : g.Evolves g' := by
  cases shift with
  | acquire => exact ⟨rfl, fun pending => pending, fun gone => gone⟩
  | release => exact ⟨rfl, fun pending => pending, fun gone => gone⟩
  | remove => exact ⟨rfl, fun _ => rfl, fun gone => gone⟩

/-- A segment that shifts is not destroyed by it. -/
theorem Segment.Shift.destroyed {g g' : Segment} (shift : g.Shift g') :
    g'.destroyed = g.destroyed := by
  cases shift <;> rfl

namespace Kernel

/-- Segments, registries and pools are as they were, up to notes on them, and no registry gave
up pages that it did not count. -/
structure Keeps (k k' : Kernel) : Prop where
  segments : k'.segments.map Segment.core = k.segments.map Segment.core
  registries : k'.registries.map Registry.core = k.registries.map Registry.core
  pools : k'.pools = k.pools
  released : k'.log.filterMap Event.released? = k.log.filterMap Event.released?
  counted : .uncounted ∈ k'.faults → .uncounted ∈ k.faults

/-- One development of segments, registries and pools. -/
inductive Development (k : Kernel) : Kernel → Prop
  | keep {k'} (keeps : k.Keeps k') : Development k k'
  | shift {s g g'} (found : k.segments.get? s = some g) (shift : g.Shift g') :
      Development k (k.settle s g')
  | create (c : Creation k) : Development k c.result
  | makePool (base frames : Nat) :
      Development k { k with pools := k.pools.insert (.free base frames) }
  | makeRegistry (userNs : UserNamespace) (p : Handle .pool) (limits : Limits) (holder : Holder) :
      Development k (k.makeRegistry userNs p limits holder).2
  | eraseRegistry (r : Handle .registry) : Development k (k.eraseRegistry r)

variable {k k' : Kernel} {refs refs' : Multiset Object} {s : Handle .segment} {g : Segment}
  {may : Deed → Prop}

/-- A segment that is kept was there, the same up to notes. -/
theorem Keeps.segment {g' : Segment} (keeps : k.Keeps k') (found : k'.segments.get? s = some g') :
    ∃ g, k.segments.get? s = some g ∧ g'.core = g.core := by
  have same := congrArg (·.get? s) keeps.segments
  simp only [Slots.get?_map, found, Option.map_some] at same
  obtain ⟨g, present, core⟩ := Option.map_eq_some_iff.mp same.symm
  exact ⟨g, present, core.symm⟩

/-- A registry that is kept was there, the same up to what keeps it. -/
theorem Keeps.registry {r : Handle .registry} {registry' : Registry} (keeps : k.Keeps k')
    (here : k'.registries.get? r = some registry') :
    ∃ registry, k.registries.get? r = some registry ∧ registry'.core = registry.core := by
  have same := congrArg (·.get? r) keeps.registries
  simp only [Slots.get?_map, here, Option.map_some] at same
  obtain ⟨registry, there, core⟩ := Option.map_eq_some_iff.mp same.symm
  exact ⟨registry, there, core.symm⟩

/-- No handle of a registry is handed out while registries are kept. -/
theorem Keeps.issued {r : Handle .registry} (keeps : k.Keeps k') :
    k'.registries.Issued r ↔ k.registries.Issued r := by
  rw [← Slots.issued_map (f := Registry.core), keeps.registries, Slots.issued_map]

/-- A segment that counts a reference is there and is not doomed. -/
theorem Counted.segment (counted : k.Counted refs) (member : .segment s ∈ refs) :
    ∃ g, k.segments.get? s = some g ∧ 0 < g.attachCount := by
  obtain ⟨rest, rfl⟩ := Multiset.exists_cons_of_mem member
  obtain ⟨g, found, counts⟩ := Option.map_eq_some_iff.mp counted.exists_succ
  exact ⟨g, found, by omega⟩

private theorem acquire_eq_settle (found : k.segments.get? s = some g) :
    k.acquire (.segment s) = k.settle s { g with attachCount := g.attachCount + 1 } := by
  simp [acquire, found, settle, Segment.Doomed]

private theorem keeps_acquire_window (w : Handle .window) : k.Keeps (k.acquire (.window w)) := by
  simp only [acquire]
  split
  · exact ⟨rfl, rfl, rfl, rfl, id⟩
  · exact ⟨rfl, rfl, rfl, rfl, by simp [Kernel.halt]⟩

private theorem keeps_release_window (w : Handle .window) : k.Keeps (k.release (.window w)) := by
  simp only [release]
  split
  case h_1 window _ =>
    constructor <;> unfold require <;> split <;> simp [setWindow, halt]
  case h_2 => exact ⟨rfl, rfl, rfl, rfl, by simp [Kernel.halt]⟩

/-- A registry is kept when only what keeps it changes. -/
theorem keeps_unhold {r : Handle .registry} {registry : Registry} {holder : Holder}
    (found : k.registries.get? r = some registry) :
    k.Keeps (k.setRegistry r { registry with holder }) :=
  ⟨rfl, Slots.map_set_of_eq found rfl, rfl, rfl, id⟩

/-- As long as references are counted, a change is a development. -/
theorem Change.development (change : Change may k refs k' refs') (counted : k.Counted refs) :
    k.Development k' := by
  cases change with
  | note alike =>
      refine .keep ⟨alike.core, congrArg (·.map Registry.core) alike.registries, alike.pools,
        alike.released, fun member => ?_⟩
      simpa using alike.faults _ member
  | acquire object allowed =>
      cases object with
      | segment s =>
          obtain ⟨g, found, usable⟩ : k.Usable (.segment s) := by
            rcases allowed with member | usable
            · obtain ⟨g, found, positive⟩ := counted.segment member
              exact ⟨g, found, fun doomed => by omega⟩
            · exact usable
          rw [acquire_eq_settle found]
          exact .shift found (.acquire usable)
      | window w => exact .keep (keeps_acquire_window w)
  | release object =>
      cases object with
      | segment s =>
          obtain ⟨g, found, positive⟩ := counted.segment (Multiset.mem_cons_self _ _)
          rw [Kernel.release, releaseSegment_eq_settle found positive]
          exact .shift found (.release positive)
      | window w => exact .keep (keeps_release_window w)
  | assign found granted =>
      exact .keep ⟨Slots.map_set_of_eq found (setOwner_eq_ok granted).2, rfl, rfl, rfl, id⟩
  | markDestroyed s =>
      cases found : k.segments.get? s with
      | none =>
          simp only [Kernel.markDestroyed, found]
          exact .keep ⟨rfl, rfl, rfl, rfl, by simp [Kernel.halt]⟩
      | some g =>
          rw [markDestroyed_eq_settle found]
          exact .shift found .remove
  | create c => exact .create c
  | unhold found => exact .keep (keeps_unhold found)
  | makePool base frames => exact .makePool base frames
  | makeRegistry userNs p limits holder => exact .makeRegistry userNs p limits holder
  | eraseRegistry r => exact .eraseRegistry r
  | makeWindow => exact .keep ⟨rfl, rfl, rfl, rfl, id⟩

/-- One turn is one development at most. -/
theorem Turn.development (turn : Turn may k refs k' refs')
    (counted : k.Counted refs) : k.Development k' := by
  rcases turn.change_or_same with change | ⟨same, _⟩
  · exact change.development counted
  · have faults : k'.faults = k.faults := congrArg (·.faults) same
    exact .keep ⟨congrArg (·.segments.map Segment.core) same,
      congrArg (·.registries.map Registry.core) same, congrArg (·.pools) same,
      congrArg (·.log.filterMap Event.released?) same, fun member => faults ▸ member⟩

end Kernel

namespace World

open Kernel

variable {w w' : World} {may : Deed → Prop} {allowed : Operation → Prop}

/-- One development of the objects of a world, or frames change hands for another purpose than
a segment. -/
inductive Development : World → World → Prop
  | objects {w k} (development : w.kernel.Development k) : Development w { w with kernel := k }
  | lend {w p pool length span taken} (pooled : w.kernel.pools.get? p = some pool)
      (allocated : pool.allocate length = .ok (span, taken)) :
      Development w { w with
        kernel := (w.kernel.setPool p taken).emit (.framesTaken span)
        loans := (p, span) :: w.loans }
  | giveBack {w p span} (member : (p, span) ∈ w.loans) :
      Development w ⟨w.kernel.releaseFrames p span, w.loans.erase (p, span), span :: w.returned⟩

/-- What every development preserves is preserved by a step that starts with references
counted. -/
theorem Step.preserves (property : World → Prop)
    (develop : ∀ {w w'}, Development w w' → property w → property w') (step : Step may w w')
    (counted : w.kernel.Counted w.kernel.held) (start : property w) : property w' := by
  cases step with
  | course passage =>
      -- A turn is a development only while references are counted, so both are carried along.
      refine (Chain.preserves (fun k refs => k.Counted refs ∧ property { w with kernel := k })
        ?_ passage ⟨by rwa [add_zero], start⟩).2
      intro k refs k' refs' turn ⟨counted, holds⟩
      have developed : Development { w with kernel := k } { w with kernel := k' } :=
        .objects (turn.development counted)
      exact ⟨turn.counted counted, develop developed holds⟩
  | lend pooled allocated => exact develop (.lend pooled allocated) start
  | giveBack member => exact develop (.giveBack member) start

/-- What every development preserves, every run preserves that starts with references counted. -/
theorem Run.development (suits : Suits allowed may) (property : World → Prop)
    (develop : ∀ {w w'}, Development w w' → property w → property w') (run : Run allowed w w')
    (laid : w.kernel.Laid) (counted : w.kernel.Counted w.kernel.held) (start : property w) :
    property w' := by
  have both := run.preserves suits (fun w => w.kernel.Counted w.kernel.held ∧ property w)
    (fun step ⟨counted, holds⟩ =>
      ⟨step.counted counted, step.preserves property develop counted holds⟩) laid
    ⟨counted, start⟩
  exact both.2

/-- What is true of nothing and what every development preserves is true of every reachable
world. -/
theorem Reachable.development (suits : Suits allowed may) (property : World → Prop)
    (develop : ∀ {w w'}, Development w w' → property w → property w') (start : property {})
    (reachable : Reachable allowed w) : property w :=
  Run.development suits property develop reachable laid_start counted_start start

end World

end SharedMemory
