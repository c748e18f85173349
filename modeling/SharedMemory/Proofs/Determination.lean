import Mathlib.Data.List.Sort
import SharedMemory.Proofs.Accounts
import SharedMemory.Proofs.Backing
import SharedMemory.Proofs.Lifetimes

/-!
# What the references decide

Much of what a kernel keeps is decided by the rest of it. The holders say how many references
there are to a segment, and so whether a removed segment is destroyed; the segments that are not
destroyed say what the registries list and count, and which frames of the pools are taken. So two
reachable worlds in which the remaining parts agree (`Kernel.Agree`) and the holders are the same
have the same objects, on whatever ways they were reached.
-/

namespace SharedMemory

/-- A segment without what the references to it decide. -/
def Segment.standing (g : Segment) : Segment := { g with attachCount := 0, destroyed := false }

/-- A registry without what the segments decide. -/
def Registry.frame (registry : Registry) : Registry :=
  { registry with table := [], totalPages := 0 }

/-- All that an address space maps are segments. -/
def AddressSpace.OfSegments (a : AddressSpace) : Prop :=
  ∀ v ∈ a.areas, ∃ s, v.object = .segment s

/-- The objects that an address space of segments maps are segments. -/
theorem AddressSpace.OfSegments.objects {a : AddressSpace} (segments : a.OfSegments) :
    ∀ object ∈ a.areas.map (·.object), ∃ s, object = .segment s := by
  intro object member
  obtain ⟨v, inside, rfl⟩ := List.mem_map.mp member
  exact segments v inside

/-- To unmap a span leaves an address space of segments one. -/
theorem AddressSpace.OfSegments.unmap {a : AddressSpace} (segments : a.OfSegments)
    (ordered : a.Ordered) (s : Span) : (a.unmap s).OfSegments := by
  intro v member
  obtain ⟨u, inside, remains⟩ := mem_areas_unmap.mp member
  rw [(Area.part_of_mem_without (ordered.nonempty u inside) remains).object]
  exact segments u inside

/-- An effect of unmapping that has to do with a segment, if with any object. -/
def Effect.OfSegment : Effect → Prop
  | .removed object _ _ | .kept object _ | .dropped object => ∃ s, object = .segment s
  | .unmapped _ => True

/-- The effects of cutting an area of a segment have to do with segments only. -/
theorem Area.ofSegment_of_mem_effects {v : Area} {s : Span} {e : Effect}
    (segment : ∃ h, v.object = .segment h) (member : e ∈ v.effects s) : e.OfSegment := by
  unfold Area.effects at member
  split at member
  case isTrue =>
    simp only [List.cons_append, List.mem_cons, List.mem_append, List.mem_map, List.not_mem_nil,
      or_false] at member
    rcases member with rfl | ⟨piece, _, rfl⟩ | rfl | rfl
    · exact segment
    · exact segment
    · trivial
    · exact segment
  case isFalse => cases member

namespace Kernel

/-- Registries, pools and windows are the same, up to what the segments decide. -/
structure Framed (k k' : Kernel) : Prop where
  registries : k'.registries.map Registry.frame = k.registries.map Registry.frame
  pools : k'.pools.map FramePool.region = k.pools.map FramePool.region
  windows : k'.windows = k.windows

/-- All objects are the same, up to what the references decide. -/
structure Agree (k k' : Kernel) : Prop extends k.Framed k' where
  segments : k'.segments.map Segment.standing = k.segments.map Segment.standing

variable {k k' k'' : Kernel} {refs : Multiset Object} {s : Handle .segment} {g g' : Segment}

/-- Every kernel is framed as itself. -/
theorem Framed.refl (k : Kernel) : k.Framed k := ⟨rfl, rfl, rfl⟩

/-- Of two kernels each is framed as the other. -/
theorem Framed.symm (framed : k.Framed k') : k'.Framed k :=
  ⟨framed.registries.symm, framed.pools.symm, framed.windows.symm⟩

/-- Kernels that are framed as a third are framed alike. -/
theorem Framed.trans (first : k.Framed k') (second : k'.Framed k'') : k.Framed k'' :=
  ⟨second.registries.trans first.registries, second.pools.trans first.pools,
    second.windows.trans first.windows⟩

/-- Every kernel agrees with itself. -/
theorem Agree.refl (k : Kernel) : k.Agree k := ⟨.refl k, rfl⟩

/-- Of two kernels that agree each agrees with the other. -/
theorem Agree.symm (agree : k.Agree k') : k'.Agree k :=
  ⟨agree.toFramed.symm, agree.segments.symm⟩

/-- Kernels that agree with a third agree. -/
theorem Agree.trans (first : k.Agree k') (second : k'.Agree k'') : k.Agree k'' :=
  ⟨first.toFramed.trans second.toFramed, second.segments.trans first.segments⟩

/-! ## Objects that are decided -/

/-- A segment counts the references to it. -/
theorem Counted.attachCount (counted : k.Counted refs)
    (found : k.segments.get? s = some g) : g.attachCount = refs.count (.segment s) := by
  have counts := counted.counts (.segment s)
  simpa only [referenceCount?, found, Option.map_some, Option.getD_some] using counts

/-- The references decide how many of them a segment counts, and whether it is destroyed. -/
theorem Agree.segments_eq (agree : k.Agree k') (counted : k.Counted refs)
    (counted' : k'.Counted refs) (proper : k.Proper) (proper' : k'.Proper) :
    k'.segments = k.segments := by
  refine Slots.eq_of_map_eq agree.segments fun {s g g'} found found' same => ?_
  have count : g'.attachCount = g.attachCount := by
    rw [counted.attachCount found, counted'.attachCount found']
  have lifetime : g'.lifetime = g.lifetime := congrArg (·.lifetime) same
  have destroyed : g'.destroyed = g.destroyed := by
    rw [Bool.eq_iff_iff, (proper s g found).destroyed, (proper' s g' found').destroyed,
      Segment.Doomed, Segment.Doomed, lifetime, count]
  calc g' = { g'.standing with attachCount := g'.attachCount, destroyed := g'.destroyed } := rfl
    _ = { g.standing with attachCount := g.attachCount, destroyed := g.destroyed } := by
      rw [same, count, destroyed]
    _ = g := rfl

/-- A table in ascending order is told by what it lists. -/
theorem table_eq_of_mem_iff {table table' : List (Int × Handle .segment)}
    (ascending : table.Pairwise (·.1 < ·.1)) (ascending' : table'.Pairwise (·.1 < ·.1))
    (same : ∀ entry, entry ∈ table' ↔ entry ∈ table) : table' = table := by
  have : Std.Irrefl fun entry entry' : Int × Handle .segment => entry.1 < entry'.1 :=
    ⟨fun entry => Int.lt_irrefl entry.1⟩
  have : Std.Antisymm fun entry entry' : Int × Handle .segment => entry.1 < entry'.1 :=
    ⟨fun _ _ before behind => absurd behind (Int.not_lt.mpr (Int.le_of_lt before))⟩
  exact ascending'.eq_of_mem_iff ascending same

/-- The segments decide what a registry lists, and how many pages it counts. -/
theorem Agree.registries_eq (agree : k.Agree k') (segments : k'.segments = k.segments)
    (registered : k.Registered) (registered' : k'.Registered) (accounted : k.Accounted)
    (accounted' : k'.Accounted) : k'.registries = k.registries := by
  refine Slots.eq_of_map_eq agree.registries fun {r registry registry'} here here' same => ?_
  have table : registry'.table = registry.table := by
    refine table_eq_of_mem_iff (registered.ascending here) (registered'.ascending here') ?_
    intro entry
    rw [registered.listed here, registered'.listed here', listing?, listing?, segments]
  have total : registry'.totalPages = registry.totalPages := by
    rw [(accounted.registries here).total, (accounted'.registries here').total, table]
    simp only [pagesIn, pagesOf, segments]
  calc registry' =
        { registry'.frame with table := registry'.table, totalPages := registry'.totalPages } := rfl
    _ = { registry.frame with table := registry.table, totalPages := registry.totalPages } := by
      rw [same, table, total]
    _ = registry := rfl

/-! ## What leaves the objects as they stand -/

/-- The log is no object. -/
theorem agree_emit (e : Event) : k.Agree (k.emit e) := ⟨⟨rfl, rfl, rfl⟩, rfl⟩

/-- To halt changes no object. -/
theorem agree_halt (cause : Fault) : k.Agree (k.halt cause) := ⟨⟨rfl, rfl, rfl⟩, rfl⟩

/-- A requirement that fails changes no object. -/
theorem agree_require (condition : Prop) [Decidable condition] (cause : Fault) :
    k.Agree (k.require condition cause) := by
  unfold require
  split
  · exact .refl k
  · exact agree_halt cause

private theorem agree_setSegment (found : k.segments.get? s = some g)
    (same : g'.standing = g.standing) : k.Agree (k.setSegment s g') :=
  ⟨⟨rfl, rfl, rfl⟩, Slots.map_set_of_eq found same⟩

private theorem agree_forgetSegment (g : Segment) : k.Agree (k.forgetSegment g) := by
  unfold forgetSegment
  split
  case h_1 registry here =>
    split
    case isTrue =>
      refine (agree_require _ _).trans ⟨⟨?_, rfl, rfl⟩, rfl⟩
      refine Slots.map_set_of_eq (a := registry) ?_ rfl
      rw [(objects_require _ _).2.2.1]
      exact here
    case isFalse => exact .refl k
  case h_2 => exact .refl k

private theorem agree_releaseFrames (p : Handle .pool) (span : Span) :
    k.Agree (k.releaseFrames p span) := by
  unfold releaseFrames
  split
  case h_1 pool found =>
    exact ⟨⟨rfl, Slots.map_set_of_eq found (FramePool.region_release pool span), rfl⟩, rfl⟩
  case h_2 => exact agree_halt _

/-- What the destruction of a segment changes is decided by references. -/
theorem agree_destroy (s : Handle .segment) : k.Agree (k.destroy s) := by
  unfold destroy
  split
  case h_1 g found =>
    split
    case isTrue => exact .refl k
    case isFalse =>
      have placed : k.Agree (k.setSegment s { g with destroyed := true }) :=
        agree_setSegment found rfl
      exact ((placed.trans (agree_emit _)).trans (agree_forgetSegment g)).trans
        (agree_releaseFrames _ _)
  case h_2 => exact agree_halt _

/-- What a reference to a segment changes is decided by references. -/
theorem agree_acquire (s : Handle .segment) : k.Agree (k.acquire (.segment s)) := by
  simp only [acquire]
  split
  case h_1 g found => exact agree_setSegment found rfl
  case h_2 => exact agree_halt _

/-- What it changes to give up a reference to a segment is decided by references. -/
theorem agree_release (s : Handle .segment) : k.Agree (k.release (.segment s)) := by
  simp only [release, releaseSegment]
  split
  case h_1 g found =>
    have still : (k.require (0 < g.attachCount) .overdrawn).segments.get? s = some g := by
      rw [(objects_require _ _).2.1, found]
    have counted : k.Agree ((k.require (0 < g.attachCount) .overdrawn).setSegment s
        { g with attachCount := g.attachCount - 1 }) :=
      (agree_require _ _).trans (agree_setSegment still rfl)
    split
    · exact counted.trans (agree_destroy s)
    · exact counted
  case h_2 => exact agree_halt _

/-- A segment that is told that it is no longer mapped, by nobody and at no time, notes nothing. -/
theorem agree_notifyRemoved {q : Requester} (nobody : q.pid = none ∧ q.now = none)
    (s : Handle .segment) (span : Span) (offset : Nat) :
    k.Agree (k.notifyRemoved q (.segment s) span offset) := by
  simp only [notifyRemoved]
  split
  case h_1 g found =>
    have same : g.noteDetach q = g := by
      rw [Segment.noteDetach, nobody.1, nobody.2, Option.getD_none, Option.getD_none]
    have noted : k.Agree (k.setSegment s (g.noteDetach q)) := agree_setSegment found (by rw [same])
    split
    · exact noted.trans (agree_emit _)
    · exact noted
  case h_2 => exact agree_halt _

private theorem agree_releaseEach {objects : List Object}
    (segments : ∀ object ∈ objects, ∃ s, object = .segment s) :
    k.Agree (k.releaseEach objects) := by
  induction objects generalizing k with
  | nil => exact .refl k
  | cons object rest ih =>
      obtain ⟨s, rfl⟩ := segments object (List.mem_cons_self ..)
      exact (agree_release s).trans (ih fun other member =>
        segments other (List.mem_cons_of_mem _ member))

private theorem agree_perform {q : Requester} (nobody : q.pid = none ∧ q.now = none) {e : Effect}
    (segment : e.OfSegment) : k.Agree (perform q k e) := by
  cases e with
  | removed object span offset =>
      obtain ⟨s, rfl⟩ := segment
      exact (agree_require _ _).trans (agree_notifyRemoved nobody s span offset)
  | kept object offset =>
      obtain ⟨s, rfl⟩ := segment
      exact (agree_require _ _).trans (agree_acquire s)
  | unmapped span => exact agree_emit _
  | dropped object =>
      obtain ⟨s, rfl⟩ := segment
      exact agree_release s

/-- What effects on segments change in nobody's name is decided by references. -/
theorem agree_performEach {q : Requester} (nobody : q.pid = none ∧ q.now = none)
    {effects : List Effect} (segments : ∀ e ∈ effects, e.OfSegment) :
    k.Agree (effects.foldl (perform q) k) := by
  induction effects generalizing k with
  | nil => exact .refl k
  | cons e rest ih =>
      exact (agree_perform nobody (segments e (List.mem_cons_self ..))).trans
        (ih fun other member => segments other (List.mem_cons_of_mem _ member))

/-- What it changes to drop an address space of segments is decided by references. -/
theorem agree_dropSpaceValue {a : AddressSpace} (segments : a.OfSegments) :
    k.Agree (k.dropSpaceValue a) := by
  unfold dropSpaceValue
  split
  · exact agree_releaseEach segments.objects
  · exact (agree_emit _).trans (agree_releaseEach segments.objects)

end Kernel

namespace World

open Kernel

variable {w w' : World}

/-- The segments and the loans decide which frames of a pool are taken. -/
theorem Backed.pools_eq (backed : w.Backed) (backed' : w'.Backed)
    (regions : w'.kernel.pools.map FramePool.region = w.kernel.pools.map FramePool.region)
    (segments : w'.kernel.segments = w.kernel.segments) (loans : w'.loans = w.loans) :
    w'.kernel.pools = w.kernel.pools := by
  refine Slots.eq_of_map_eq regions fun {p pool pool'} found found' same => ?_
  have owned' := backed'.owned found'
  rw [claims, loansOf, segments, loans] at owned'
  exact (backed.owned found).unique owned' same

/-- In reachable worlds the objects are decided by the holders, the loans and what the kernels
agree in. -/
theorem Reachable.objects_eq (reachable : w.Reachable anything) (reachable' : w'.Reachable anything)
    (agree : w.kernel.Agree w'.kernel) (holders : w'.kernel.holderPart = w.kernel.holderPart)
    (loans : w'.loans = w.loans) :
    w'.kernel.segments = w.kernel.segments ∧ w'.kernel.registries = w.kernel.registries ∧
      w'.kernel.pools = w.kernel.pools := by
  have counted' := reachable'.counted suits_anything
  rw [held_congr holders] at counted'
  have segments := agree.segments_eq (reachable.counted suits_anything) counted'
    (reachable.proper suits_anything) (reachable'.proper suits_anything)
  refine ⟨segments, ?_, ?_⟩
  · exact agree.registries_eq segments (reachable.registered suits_anything)
      (reachable'.registered suits_anything) (reachable.accounted suits_anything)
      (reachable'.accounted suits_anything)
  · exact (reachable.backed suits_anything).pools_eq (reachable'.backed suits_anything) agree.pools
      segments loans

end World

end SharedMemory
