import SharedMemory.Proofs.Revocation
import SharedMemory.Proofs.Soundness

/-!
# Removing all segments of a registry

All segments that a registry lists are removed one after the other, while those that nothing refers
to leave the table as they are destroyed. What becomes of a segment depends on nothing but the
segment (`Segment.dismissed`), so the order is of no matter and every entry is dealt with once
(`Kernel.get?_segments_markEach`). The segments then say what the registry lists and counts and
which frames are taken (`World.Reachable.dismisses`). What is still referred to goes with its last
reference (`World.Lingers`).
-/

namespace SharedMemory

/-- The segment after it was removed, and destroyed if nothing refers to it. -/
def Segment.dismissed (g : Segment) : Segment :=
  { g.removed with destroyed := g.destroyed || decide (g.attachCount = 0) }

private theorem Segment.dismissed_dismissed (g : Segment) :
    g.dismissed.dismissed = g.dismissed := by
  by_cases idle : g.attachCount = 0 <;> simp [dismissed, removed, idle]

private theorem Segment.alive_of_listing? {g : Segment} {r : Handle .registry} {id : Int}
    (own : g.listing? = some (r, id)) : g.destroyed = false := by
  unfold listing? at own
  split at own
  case isTrue => cases own
  case isFalse alive => exact Bool.eq_false_iff.mpr alive

namespace Kernel

variable {k k' : Kernel} {s : Handle .segment} {g : Segment} {r : Handle .registry}
  {registry : Registry} {handles : List (Handle .segment)}

/-! ## Segments -/

private theorem segments_markDestroyed (found : k.segments.get? s = some g) :
    (k.markDestroyed s).segments = k.segments.set s g.dismissed := by
  rw [markDestroyed_eq_settle found]
  rcases settle_cases found g.removed with ⟨same, spared⟩ | ⟨same, alive, doomed⟩ <;> rw [same]
  · have kept : g.dismissed = g.removed := by
      cases destroyed : g.destroyed with
      | true => simp [Segment.dismissed, Segment.removed, destroyed]
      | false =>
          have referred : g.attachCount ≠ 0 := fun idle => spared destroyed ⟨rfl, idle⟩
          simp [Segment.dismissed, Segment.removed, destroyed, referred]
    rw [kept]
    rfl
  · have gone : g.dismissed = { g.removed with destroyed := true } := by
      have idle : g.attachCount = 0 := doomed.2
      simp [Segment.dismissed, idle]
    rw [segments_retire, gone]

private theorem get?_segments_markDestroyed (s s' : Handle .segment) :
    (k.markDestroyed s).segments.get? s' =
      (k.segments.get? s').map fun g => if s' = s then g.dismissed else g := by
  cases found : k.segments.get? s with
  | none =>
      by_cases same : s' = s
      · simp only [markDestroyed, found, halt, same, Option.map_none]
      · simp only [markDestroyed, found, halt, if_neg same, Option.map_id']
  | some g =>
      rw [segments_markDestroyed found]
      by_cases same : s' = s
      · rw [same, Slots.get?_set_self found, found]
        simp only [Option.map_some, if_true]
      · simp only [Slots.get?_set_of_ne (Ne.symm same), if_neg same, Option.map_id']

/-- To mark segments dismisses each of them, and no other. -/
theorem get?_segments_markEach (handles : List (Handle .segment)) (s : Handle .segment) :
    (handles.foldl markDestroyed k).segments.get? s =
      (k.segments.get? s).map fun g => if s ∈ handles then g.dismissed else g := by
  induction handles generalizing k with
  | nil => simp only [List.foldl_nil, List.not_mem_nil, if_false, Option.map_id']
  | cons s' rest ih =>
      rw [List.foldl_cons, ih, get?_segments_markDestroyed, Option.map_map]
      refine congrArg (Option.map · _) (funext fun g => ?_)
      by_cases first : s = s' <;> by_cases later : s ∈ rest <;>
        simp [first, later, Segment.dismissed_dismissed]

/-- The segments that are not destroyed in the end were not destroyed in the beginning, and are not
those that were removed while nothing referred to them. -/
theorem exists_alive_markEach (property : Segment → Prop)
    (lasts : ∀ g, property (Segment.dismissed g) ↔ property g) :
    (∃ s g, (handles.foldl markDestroyed k).segments.get? s = some g ∧ g.destroyed = false ∧
      property g) ↔
    ∃ s g, k.segments.get? s = some g ∧ g.destroyed = false ∧ property g ∧
      ¬ (s ∈ handles ∧ g.attachCount = 0) := by
  refine exists_congr fun s => ?_
  rw [get?_segments_markEach]
  cases k.segments.get? s with
  | none => simp
  | some g =>
      simp only [Option.map_some, Option.some.injEq, exists_eq_left']
      by_cases removed : s ∈ handles
      · have spared : g.dismissed.destroyed = false ↔ g.destroyed = false ∧ g.attachCount ≠ 0 := by
          simp [Segment.dismissed]
        rw [if_pos removed, lasts, spared]
        tauto
      · simp [removed]

/-! ## Frames that are given back -/

/-- The backing of the segment under a handle, if nothing refers to the segment. -/
def idleBacking? (k : Kernel) (s : Handle .segment) : Option Span :=
  ((k.segments.get? s).filter (·.attachCount = 0)).map (·.backing)

private theorem released_markDestroyed (found : k.segments.get? s = some g)
    (alive : g.destroyed = false) (pooled : (k.pools.get? g.pool).isSome) :
    (k.markDestroyed s).log.filterMap Event.released? = (k.idleBacking? s).toList ++ k.log.filterMap
    Event.released? := by
  obtain ⟨pool, pooled⟩ := Option.isSome_iff_exists.mp pooled
  rw [markDestroyed_eq_settle found, idleBacking?, found]
  rcases settle_cases found g.removed with ⟨same, spared⟩ | ⟨same, _, doomed⟩ <;> rw [same]
  · have referred : g.attachCount ≠ 0 := fun idle => spared alive ⟨rfl, idle⟩
    simp [referred, setSegment]
  · have idle : g.attachCount = 0 := doomed.2
    have pooled' : k.pools.get? g.removed.pool = some pool := pooled
    rw [released_retire pooled']
    simp [Option.filter, idle, Segment.removed]

private theorem isSome_pools_markDestroyed (s : Handle .segment) (p : Handle .pool) :
    ((k.markDestroyed s).pools.get? p).isSome = (k.pools.get? p).isSome := by
  have same := congrArg (·.get? p) (framed_markDestroyed (k := k) s).pools
  simp only [Slots.get?_map] at same
  rw [← Option.isSome_map (f := FramePool.region), same, Option.isSome_map]

/-- Every segment that nothing refers to gives its backing back once, in the order in which they
are removed. -/
theorem released_markEach (distinct : handles.Nodup)
    (whole : ∀ s ∈ handles, ∃ g, k.segments.get? s = some g ∧ g.destroyed = false ∧
      (k.pools.get? g.pool).isSome) :
    (handles.foldl markDestroyed k).log.filterMap Event.released? =
      (handles.filterMap k.idleBacking?).reverse ++ k.log.filterMap Event.released? := by
  induction handles generalizing k with
  | nil => rfl
  | cons s rest ih =>
      obtain ⟨apart, distinct⟩ := List.nodup_cons.mp distinct
      obtain ⟨g, found, alive, pooled⟩ := whole s (List.mem_cons_self ..)
      -- What is still to be removed is as it was.
      have same : ∀ s' ∈ rest,
          (k.markDestroyed s).segments.get? s' = k.segments.get? s' := by
        intro s' member
        have other : s' ≠ s := fun same => apart (same ▸ member)
        simp only [get?_segments_markDestroyed, if_neg other, Option.map_id']
      have idle : rest.filterMap (k.markDestroyed s).idleBacking? =
          rest.filterMap k.idleBacking? := by
        apply List.filterMap_congr
        intro s' member
        rw [idleBacking?, same s' member, idleBacking?]
      have others : ∀ s' ∈ rest, ∃ g', (k.markDestroyed s).segments.get? s' = some g' ∧
          g'.destroyed = false ∧ ((k.markDestroyed s).pools.get? g'.pool).isSome := by
        intro s' member
        simp only [same s' member, isSome_pools_markDestroyed]
        exact whole s' (List.mem_cons_of_mem _ member)
      rw [List.foldl_cons, ih distinct others, idle, released_markDestroyed found alive pooled,
        List.filterMap_cons]
      cases k.idleBacking? s <;> simp

/-! ## Registries -/

/-- Nothing refers to the segment under a handle. -/
def isIdle (k : Kernel) (s : Handle .segment) : Bool :=
  (k.segments.get? s).any (·.attachCount = 0)

/-- Removing segments of one registry leaves all others. -/
theorem get?_registries_markEach {r' : Handle .registry} (other : r' ≠ r)
    (own : ∀ s ∈ handles, ∀ g, k.segments.get? s = some g → g.registry = r) :
    (handles.foldl markDestroyed k).registries.get? r' = k.registries.get? r' := by
  induction handles generalizing k with
  | nil => rfl
  | cons s rest ih =>
      have first : (k.markDestroyed s).registries.get? r' = k.registries.get? r' := by
        cases found : k.segments.get? s with
        | none => simp only [markDestroyed, found, halt]
        | some g =>
            have elsewhere : r' ≠ g.removed.registry := by
              have here : g.removed.registry = r := own s (List.mem_cons_self ..) g found
              rw [here]
              exact other
            rw [markDestroyed_eq_settle found]
            rcases settle_cases found g.removed with ⟨same, _⟩ | ⟨same, _⟩ <;> rw [same]
            · rfl
            · simp only [get?_registries_retire, elsewhere, false_and, if_false, Option.map_id']
      rw [List.foldl_cons, ih, first]
      intro s' member g' found'
      rw [get?_segments_markDestroyed] at found'
      obtain ⟨g, found, rfl⟩ := Option.map_eq_some_iff.mp found'
      have here := own s' (List.mem_cons_of_mem _ member) g found
      split
      · exact here
      · exact here

private theorem Registered.mem_handles (registered : k.Registered)
    (here : k.registries.get? r = some registry) :
    s ∈ registry.table.map (·.2) ↔ ∃ id, k.listing? s = some (r, id) := by
  simp only [← registered.listed here, List.mem_map, Prod.exists, exists_eq_right]

/-- The segments that a registry lists are there, belong to it and are not destroyed. -/
theorem Registered.get?_of_mem (registered : k.Registered)
    (here : k.registries.get? r = some registry) (member : s ∈ registry.table.map (·.2)) :
    ∃ g, k.segments.get? s = some g ∧ g.registry = r ∧ g.destroyed = false := by
  obtain ⟨entry, inside, rfl⟩ := List.mem_map.mp member
  obtain ⟨g, found, own, _, alive⟩ := registered.segment_of_mem here inside
  exact ⟨g, found, own, alive⟩

private theorem Registered.alive_of_mem (registered : k.Registered)
    (here : k.registries.get? r = some registry) (member : s ∈ registry.table.map (·.2))
    (found : k.segments.get? s = some g) : g.destroyed = false := by
  obtain ⟨g', found', _, alive⟩ := registered.get?_of_mem here member
  cases found.symm.trans found'
  exact alive

private theorem Registered.get?_segments_markAll (registered : k.Registered)
    (here : k.registries.get? r = some registry) (s : Handle .segment) :
    ((registry.table.map (·.2)).foldl markDestroyed k).segments.get? s =
      (k.segments.get? s).map fun g => if s ∈ registry.table.map (·.2) then
        { g with key := privateKey, lifetime := .pending, destroyed := decide (g.attachCount = 0) }
      else g := by
  rw [get?_segments_markEach]
  cases found : k.segments.get? s with
  | none => rfl
  | some g =>
      by_cases member : s ∈ registry.table.map (·.2)
      · have alive := registered.alive_of_mem here member found
        simp [member, Segment.dismissed, Segment.removed, alive]
      · simp only [Option.map_some, if_neg member]

private theorem Registered.nodup_handles (registered : k.Registered)
    (here : k.registries.get? r = some registry) : (registry.table.map (·.2)).Nodup := by
  refine List.Nodup.map_on ?_ ((registered.ascending here).imp fun less same => ?_)
  · intro entry member entry' member' same
    have listed := (registered.listed here entry.1 entry.2).mp member
    have listed' := (registered.listed here entry'.1 entry'.2).mp member'
    rw [same, listed'] at listed
    exact Prod.ext (congrArg Prod.snd (Option.some.inj listed)).symm same
  · exact Int.lt_irrefl _ (same ▸ less)

/-- A registry that removed all its segments lists those that something refers to. -/
theorem table_releaseAll {registry' : Registry} (registered : k.Registered)
    (registered' : (k.releaseAll r).Registered) (here : k.registries.get? r = some registry)
    (here' : (k.releaseAll r).registries.get? r = some registry') :
    registry'.table = registry.table.filter fun entry => !k.isIdle entry.2 := by
  refine table_eq_of_mem_iff ((registered.ascending here).filter _) (registered'.ascending here') ?_
  intro entry
  obtain ⟨id, s⟩ := entry
  rw [registered'.listed here', List.mem_filter, registered.listed here, listing?, releaseAll]
  have handles := registered.mem_handles here (s := s)
  simp only [here, get?_segments_markEach, isIdle]
  rw [listing?] at handles ⊢
  cases found : k.segments.get? s with
  | none => simp
  | some g =>
      rw [found, Option.bind_some] at handles
      simp only [Option.map_some, Option.bind_some, Option.any_some]
      by_cases listed : s ∈ registry.table.map (·.2)
      · obtain ⟨_, own⟩ := handles.mp listed
        have alive := Segment.alive_of_listing? own
        rw [if_pos listed]
        by_cases idle : g.attachCount = 0 <;>
          simp [Segment.listing?, Segment.dismissed, Segment.removed, alive, idle]
      · have unlisted : g.listing? ≠ some (r, id) := fun own => listed (handles.mpr ⟨id, own⟩)
        simp only [if_neg listed, unlisted, false_and]

private theorem pagesOf_markEach (handles : List (Handle .segment)) (s : Handle .segment) :
    (handles.foldl markDestroyed k).pagesOf s = k.pagesOf s := by
  rw [pagesOf, get?_segments_markEach, pagesOf]
  cases k.segments.get? s with
  | none => rfl
  | some g =>
      simp only [Option.map_some, Option.elim_some]
      split <;> rfl

private theorem get?_registries_releaseAll (registered : k.Registered)
    (registered' : (k.releaseAll r).Registered) (accounted' : (k.releaseAll r).Accounted)
    (here : k.registries.get? r = some registry) :
    (k.releaseAll r).registries.get? r = some { registry with
      table := registry.table.filter fun entry => !k.isIdle entry.2
      totalPages := k.pagesIn (registry.table.filter fun entry => !k.isIdle entry.2) } := by
  have same := congrArg (·.get? r) (framed_releaseAll (k := k) r).registries
  simp only [Slots.get?_map, here, Option.map_some] at same
  obtain ⟨registry', here', frame⟩ := Option.map_eq_some_iff.mp same
  have table := table_releaseAll registered registered' here here'
  have total := (accounted'.registries here').total
  simp only [pagesIn, releaseAll, here, pagesOf_markEach] at total
  rw [here', Option.some.injEq]
  calc registry' =
        { registry'.frame with table := registry'.table, totalPages := registry'.totalPages } := rfl
    _ = { registry.frame with
          table := registry.table.filter fun entry => !k.isIdle entry.2
          totalPages := k.pagesIn (registry.table.filter fun entry => !k.isIdle entry.2) } := by
      rw [frame, total, table]
      rfl
    _ = _ := rfl

/-! ## Removing all again -/

private theorem markEach_of_pending (proper : k.Proper)
    (pending : ∀ s ∈ handles, ∃ g, k.segments.get? s = some g ∧ g.lifetime = .pending) :
    handles.foldl markDestroyed k = k := by
  induction handles with
  | nil => rfl
  | cons s rest ih =>
      obtain ⟨g, found, removed⟩ := pending s (List.mem_cons_self ..)
      rw [List.foldl_cons, markDestroyed_of_pending proper found removed]
      exact ih fun s' member => pending s' (List.mem_cons_of_mem _ member)

/-! ## The last reference -/

/-- A segment goes: it is destroyed, its registry no longer lists it or counts its pages, and its
backing is given back. -/
structure GivesUp (k : Kernel) (s : Handle .segment) (g : Segment) (k' : Kernel) : Prop where
  segments : k'.segments = k.segments.set s { g with attachCount := 0, destroyed := true }
  registries : ∀ r, k'.registries.get? r = (k.registries.get? r).map fun registry =>
    if r = g.registry then registry.unregister g.id g.pages else registry
  pools : ∀ p, k'.pools.get? p = (k.pools.get? p).map fun pool =>
    if p = g.pool then pool.release g.backing else pool
  released : k'.log.filterMap Event.released? = g.backing :: k.log.filterMap Event.released?

private theorem releaseSegment_of_many (found : k.segments.get? s = some g)
    (many : 1 < g.attachCount) :
    k.releaseSegment s = k.setSegment s { g with attachCount := g.attachCount - 1 } := by
  have referred : ¬ ({ g with attachCount := g.attachCount - 1 } : Segment).Doomed := by
    intro doomed
    have none : g.attachCount - 1 = 0 := doomed.2
    omega
  rw [releaseSegment_eq_settle found (by omega), settle, if_neg referred]

/-- A segment that was removed goes with its last reference. -/
theorem Registered.givesUp (registered : k.Registered) (found : k.segments.get? s = some g)
    (pooled : (k.pools.get? g.pool).isSome) (alive : g.destroyed = false)
    (pending : g.lifetime = .pending) (last : g.attachCount = 1) :
    k.GivesUp s g (k.releaseSegment s) := by
  obtain ⟨pool, pooled⟩ := Option.isSome_iff_exists.mp pooled
  have doomed : ({ g with attachCount := 0 } : Segment).Doomed := ⟨pending, rfl⟩
  have retired : k.releaseSegment s = k.retire s { g with attachCount := 0 } := by
    rw [releaseSegment_eq_settle found (by omega), last, Nat.sub_self]
    rcases settle_cases found { g with attachCount := 0 } with ⟨_, spared⟩ | ⟨same, _⟩
    · exact absurd doomed (spared alive)
    · exact same
  rw [retired]
  refine ⟨segments_retire, fun r => ?_, fun p => get?_pools_retire p, released_retire pooled⟩
  rw [get?_registries_retire]
  cases here : k.registries.get? r with
  | none => rfl
  | some registry =>
      by_cases own : r = g.registry
      · have listed : registry.find? g.id = some s := by
          rw [Registry.find?_eq_some_iff (registered.ascending here), registered.listed here,
            listing?_of_alive found alive, own]
        simp only [Option.map_some, own, listed, Option.isSome_some, and_self, if_true]
        rfl
      · simp only [Option.map_some, own, false_and, if_false]

end Kernel

namespace World

open Kernel

variable {w w' : World} {p : Handle .pool} {pool : FramePool} {s : Handle .segment}
  {g : Segment} {r : Handle .registry} {registry : Registry}

/-! ## What is left -/

/-- An address is backing of a segment that a registry lists and that nothing refers to. -/
def Vacates (w : World) (registry : Registry) (p : Handle .pool) (address : Nat) : Prop :=
  ∃ s ∈ registry.table.map (·.2), ∃ g, w.kernel.segments.get? s = some g ∧ g.attachCount = 0 ∧
    g.pool = p ∧ g.backing.Contains address

/-- All segments that a registry lists are removed, and those that nothing refers to are destroyed:
they are listed and counted no more, and their frames, and no others, are given back. -/
structure Dismisses (w : World) (r : Handle .registry) (registry : Registry) (w' : World) :
    Prop where
  segments : ∀ s, w'.kernel.segments.get? s = (w.kernel.segments.get? s).map fun g =>
    if s ∈ registry.table.map (·.2) then
      { g with key := privateKey, lifetime := .pending, destroyed := decide (g.attachCount = 0) }
    else g
  listed : w'.kernel.registries.get? r = some { registry with
    table := registry.table.filter fun entry => !w.kernel.isIdle entry.2
    totalPages := w.kernel.pagesIn (registry.table.filter fun entry => !w.kernel.isIdle entry.2) }
  elsewhere : ∀ r', r' ≠ r → w'.kernel.registries.get? r' = w.kernel.registries.get? r'
  pools : ∀ p pool, w.kernel.pools.get? p = some pool → ∃ pool',
    w'.kernel.pools.get? p = some pool' ∧ pool'.region = pool.region ∧
      ∀ frame, pool'.IsTaken frame ↔
        pool.IsTaken frame ∧ ¬ w.Vacates registry p (pool.addressOf frame)
  released : w'.released =
    ((registry.table.map (·.2)).filterMap w.kernel.idleBacking?).reverse ++ w.released
  windows : w'.kernel.windows = w.kernel.windows
  holders : w'.kernel.holderPart = w.kernel.holderPart
  faults : w'.kernel.faults = w.kernel.faults
  loans : w'.loans = w.loans ∧ w'.returned = w.returned

private theorem kernel_releaseAll (here : w.kernel.registries.get? r = some registry) :
    ((Operation.releaseAll r).run w).kernel =
      (registry.table.map (·.2)).foldl markDestroyed w.kernel := by
  simp only [Operation.run, Operation.apply, releaseAll, here]

/-- The frames that are taken no more are those of segments that nothing refers to. -/
theorem Backed.isTaken_releaseAll {pool' : FramePool} (backed : w.Backed)
    (backed' : ((Operation.releaseAll r).run w).Backed) (registered : w.kernel.Registered)
    (here : w.kernel.registries.get? r = some registry)
    (pooled : w.kernel.pools.get? p = some pool)
    (pooled' : ((Operation.releaseAll r).run w).kernel.pools.get? p = some pool')
    (same : pool'.region = pool.region) (frame : Nat) :
    pool'.IsTaken frame ↔ pool.IsTaken frame ∧ ¬ w.Vacates registry p (pool.addressOf frame) := by
  have address : pool'.addressOf frame = pool.addressOf frame := by
    have base : pool'.base = pool.base := congrArg Span.start same
    rw [FramePool.addressOf, FramePool.addressOf, base]
  have loans : ((Operation.releaseAll r).run w).loans = w.loans := rfl
  rw [backed'.isTaken_iff pooled', backed.isTaken_iff pooled, address, kernel_releaseAll here,
    loans, exists_alive_markEach _ fun _ => .rfl]
  -- Backings of distinct segments are apart, so what one of them gives back no other has.
  constructor
  · intro taken
    rcases taken with ⟨s, g, found, alive, ⟨own, holds⟩, spared⟩ | ⟨span, lent, holds⟩
    · refine ⟨.inl ⟨s, g, found, alive, own, holds⟩, fun vacates => ?_⟩
      obtain ⟨s', member, g', found', idle, own', holds'⟩ := vacates
      have alive' := registered.alive_of_mem here member found'
      by_cases one : s' = s
      · subst one
        cases found.symm.trans found'
        exact spared ⟨member, idle⟩
      · exact backed.segments_apart found alive one found' alive' (own'.trans own.symm)
          (Span.meets_of_contains holds holds')
    · refine ⟨.inr ⟨span, lent, holds⟩, fun vacates => ?_⟩
      obtain ⟨s', member, g', found', _, own', holds'⟩ := vacates
      have alive' := registered.alive_of_mem here member found'
      exact backed.loans_apart found' alive' (own' ▸ lent) (Span.meets_of_contains holds' holds)
  · intro kept
    rcases kept with ⟨⟨s, g, found, alive, own, holds⟩ | lent, stays⟩
    · exact .inl ⟨s, g, found, alive, ⟨own, holds⟩, fun idle =>
        stays ⟨s, idle.1, g, found, idle.2, own, holds⟩⟩
    · exact .inr lent

/-- To release all segments of a registry dismisses them. -/
theorem Reachable.dismisses (reachable : w.Reachable anything)
    (here : w.kernel.registries.get? r = some registry) :
    w.Dismisses r registry ((Operation.releaseAll r).run w) := by
  have later : ((Operation.releaseAll r).run w).Reachable anything :=
    Run.tail reachable trivial trivial
  have registered := reachable.registered suits_anything
  have backed := reachable.backed suits_anything
  have listed (s : Handle .segment) (member : s ∈ registry.table.map (·.2)) :=
    registered.get?_of_mem here member
  have changes : Changes (fun _ => True) w.kernel 0 (w.kernel.releaseAll r) 0 :=
    changes_releaseAll r fun _ _ => trivial
  constructor
  case segments =>
    rw [kernel_releaseAll here]
    exact registered.get?_segments_markAll here
  case listed =>
    exact get?_registries_releaseAll registered (later.registered suits_anything)
      (later.accounted suits_anything) here
  case elsewhere =>
    intro r' other
    rw [kernel_releaseAll here]
    apply get?_registries_markEach other
    intro s member g found
    obtain ⟨g', found', own, _⟩ := listed s member
    cases found.symm.trans found'
    exact own
  case pools =>
    intro p pool pooled
    have regions := congrArg (·.get? p) (framed_releaseAll (k := w.kernel) r).pools
    simp only [Slots.get?_map, pooled, Option.map_some] at regions
    obtain ⟨pool', pooled', same⟩ := Option.map_eq_some_iff.mp regions
    exact ⟨pool', pooled', same, backed.isTaken_releaseAll (later.backed suits_anything) registered
      here pooled pooled' same⟩
  case released =>
    rw [released, kernel_releaseAll here]
    apply released_markEach (registered.nodup_handles here)
    intro s member
    obtain ⟨g, found, _, alive⟩ := listed s member
    exact ⟨g, found, alive, backed.pooled found⟩
  case windows => exact (framed_releaseAll r).windows
  case holders => exact changes.holderPart
  case faults =>
    rw [kernel_releaseAll here]
    apply reachable.sound.faults_markEach
    intro s member
    obtain ⟨g, found, _⟩ := listed s member
    exact Option.isSome_of_mem found
  case loans => exact ⟨rfl, rfl⟩

private theorem Dismisses.pending (dismisses : w.Dismisses r registry w')
    (member : s ∈ registry.table.map (·.2)) (found : w.kernel.segments.get? s = some g) :
    ∃ g', w'.kernel.segments.get? s = some g' ∧ g'.lifetime = .pending := by
  have stands := dismisses.segments s
  simp only [found, Option.map_some, if_pos member] at stands
  exact ⟨_, stands, rfl⟩

/-- To release all segments of a registry again changes nothing. -/
theorem Reachable.releaseAll_again (reachable : w.Reachable anything)
    (here : w.kernel.registries.get? r = some registry) :
    (Operation.releaseAll r).run ((Operation.releaseAll r).run w) =
      (Operation.releaseAll r).run w := by
  have later : ((Operation.releaseAll r).run w).Reachable anything :=
    Run.tail reachable trivial trivial
  have dismisses := reachable.dismisses here
  have same : ((Operation.releaseAll r).run ((Operation.releaseAll r).run w)).kernel =
      ((Operation.releaseAll r).run w).kernel := by
    rw [kernel_releaseAll dismisses.listed]
    refine markEach_of_pending (later.proper suits_anything) fun s member => ?_
    obtain ⟨entry, inside, rfl⟩ := List.mem_map.mp member
    have listed : entry.2 ∈ registry.table.map (·.2) :=
      List.mem_map_of_mem (List.mem_filter.mp inside).1
    obtain ⟨g, found, _⟩ := (reachable.registered suits_anything).get?_of_mem here listed
    exact dismisses.pending listed found
  exact congrArg (fun k => { w with kernel := k }) same

/-! ## What is left until its last reference goes -/

/-- A segment that was removed is listed and keeps its frames as long as something refers to it.
With its last reference it goes, and gives its frames back. -/
structure Lingers (w : World) (s : Handle .segment) (g g' : Segment) : Prop where
  found : w.kernel.segments.get? s = some g'
  evolves : g.Evolves g'
  removed : g'.lifetime = .pending ∧ g'.key = privateKey
  counted : g'.attachCount = w.kernel.held.count (.segment s)
  destroyed : g'.destroyed = true ↔ g'.attachCount = 0
  final : g.attachCount = 0 → g'.attachCount = 0
  listed : ∀ r registry, w.kernel.registries.get? r = some registry → ∀ id,
    registry.find? id = some s ↔ r = g.registry ∧ id = g.id ∧ g'.attachCount ≠ 0
  taken : g'.attachCount ≠ 0 → ∃ pool, w.kernel.pools.get? g.pool = some pool ∧
    pool.IsRun g.backing ∧ ∀ frame, g.backing.Contains (pool.addressOf frame) → pool.IsTaken frame
  released : (w.released : Multiset Span) = (if g'.attachCount = 0 then {g.backing} else 0) +
    (w.kernel.segments.erase s).total (·.returned) + w.returned
  many : 1 < g'.attachCount →
    w.kernel.releaseSegment s = w.kernel.setSegment s { g' with attachCount := g'.attachCount - 1 }
  last : g'.attachCount = 1 → w.kernel.GivesUp s g' (w.kernel.releaseSegment s)

/-- A segment that was removed lingers in the course of whatever is done. -/
theorem Run.lingers (run : Run anything w w') (reachable : w.Reachable anything)
    (found : w.kernel.segments.get? s = some g) (pending : g.lifetime = .pending) :
    ∃ g', w'.Lingers s g g' := by
  obtain ⟨g', found', evolves⟩ := run.evolves suits_anything (reachable.laid suits_anything) found
  have later : w'.Reachable anything := Run.trans reachable run
  have registered := later.registered suits_anything
  have backed := later.backed suits_anything
  have pending' := evolves.pending pending
  have proper := later.proper suits_anything s g' found'
  have doomed : g'.destroyed = true ↔ g'.attachCount = 0 :=
    proper.destroyed.trans (and_iff_right pending')
  have alive (referred : g'.attachCount ≠ 0) : g'.destroyed = false :=
    Bool.eq_false_iff.mpr (mt doomed.mp referred)
  refine ⟨g', ?_⟩
  constructor
  case found => exact found'
  case evolves => exact evolves
  case removed => exact ⟨pending', proper.hidden pending'⟩
  case counted => exact (later.counted suits_anything).attachCount found'
  case destroyed => exact doomed
  case final =>
    intro idle
    have gone : g.destroyed = true :=
      (reachable.proper suits_anything s g found).destroyed.mpr ⟨pending, idle⟩
    exact doomed.mp (evolves.destroyed gone)
  case listed =>
    intro r registry here id
    rw [Registry.find?_eq_some_iff (registered.ascending here), registered.listed here, listing?,
      found', Option.bind_some, Segment.listing?, evolves.registry, evolves.id, ne_eq, ← doomed]
    cases g'.destroyed <;> simp [eq_comm]
  case taken =>
    intro referred
    rw [← evolves.pool, ← evolves.backing]
    exact backed.isTaken found' (alive referred)
  case released =>
    rw [backed.released, Slots.total_erase found', Segment.returned, evolves.backing]
    simp only [doomed]
  case many => exact releaseSegment_of_many found'
  case last =>
    intro last
    exact registered.givesUp found' (backed.pooled found') (alive (by omega)) pending' last

/-- Removing all segments of a registry is exact. In every reachable world, what the registry lists
after it are the segments that were referred to before, under the identifiers that they had, and
nothing of them changed but that they were removed and have no key. The others are destroyed, and
precisely their frames are given back. The registry counts the pages of what it lists, and hands out
the identifiers that it would have handed out. To do it again changes nothing. In every later world
a segment that was listed is found by its identifier and keeps its frames exactly as long as
something refers to it; it goes with its last reference, and then its frames are given back, once. -/
theorem removes_all (reachable : w.Reachable anything)
    (here : w.kernel.registries.get? r = some registry) :
    let w' := (Operation.releaseAll r).run w
    w.Dismisses r registry w' ∧ (Operation.releaseAll r).run w' = w' ∧
      ∀ s ∈ registry.table.map (·.2), ∀ w₁, Run anything w' w₁ →
        ∃ g₁, w₁.kernel.segments.get? s = some g₁ ∧
          ∀ w₂, Run anything w₁ w₂ → ∃ g₂, w₂.Lingers s g₁ g₂ := by
  intro w'
  have dismisses := reachable.dismisses here
  refine ⟨dismisses, reachable.releaseAll_again here, fun s member w₁ run₁ => ?_⟩
  have later : w'.Reachable anything := Run.tail reachable trivial trivial
  have later₁ : w₁.Reachable anything := Run.trans later run₁
  obtain ⟨g, found, _⟩ := (reachable.registered suits_anything).get?_of_mem here member
  obtain ⟨g', found', pending⟩ := dismisses.pending member found
  obtain ⟨g₁, found₁, evolves⟩ := run₁.evolves suits_anything (later.laid suits_anything) found'
  exact ⟨g₁, found₁, fun w₂ run₂ => run₂.lingers later₁ found₁ (evolves.pending pending)⟩

/-- A registry lists a segment that nothing refers to, one that a task attached twice, one that was
removed while a request for it is kept, and another that nothing refers to. -/
def crowding : List Operation :=
  let root : Requester := ⟨.superuser .initial, none, none⟩
  let asked (key : Int) (size : Nat) : SegmentRequest := ⟨key, size, 0o600, true, true, false⟩
  [.makePool 0 16, .makeRegistry .initial ⟨0⟩ {} (.ipc true), .makeClock ⟨0⟩,
    .makeTask 1 (.superuser .initial) ⟨0⟩ ⟨0⟩ ⟨0x10000, 0x40000⟩,
    .findOrCreate ⟨0⟩ root (asked 7 0x1000), .findOrCreate ⟨0⟩ root (asked 8 0x3000),
    .findOrCreate ⟨0⟩ root (asked 9 0x2000), .findOrCreate ⟨0⟩ root (asked privateKey 1),
    .shmat ⟨0⟩ 2 0 ⟨0⟩, .shmat ⟨0⟩ 2 0 ⟨0⟩, .attach ⟨2⟩ root 0 ⟨false, false, false⟩,
    .markDestroyed ⟨2⟩]

/-- The second and the third segment are left with five pages, the frames of the others are given
back, and the third goes when the request is dropped. -/
theorem removes_all_crowding :
    let w := ({} : World).follow crowding
    let w' := (Operation.releaseAll ⟨0⟩).run w
    let w'' := (Operation.dropRequest ⟨0⟩).run w'
    w.Reachable anything ∧
      (∃ registry, w'.kernel.registries.get? ⟨0⟩ = some registry ∧
        registry.table = [(2, ⟨1⟩), (3, ⟨2⟩)] ∧ registry.totalPages = 5 ∧ registry.lastId = 4) ∧
      w'.released = [⟨0x6000, 0x7000⟩, ⟨0, 0x1000⟩] ∧
      (Operation.releaseAll ⟨0⟩).run w' = w' ∧
      ∃ g g', w'.kernel.segments.get? ⟨2⟩ = some g ∧ g.attachCount = 1 ∧
        w'.kernel.GivesUp ⟨2⟩ g (w'.kernel.releaseSegment ⟨2⟩) ∧
        w''.Lingers ⟨2⟩ g g' ∧ g'.attachCount = 0 := by
  intro w w' w''
  have reachable : w.Reachable anything := reachable_follow (by decide +kernel) fun _ _ => trivial
  have made : (w.kernel.registries.get? ⟨0⟩).isSome := by decide +kernel
  have lists : ∀ registry ∈ w.kernel.registries.get? ⟨0⟩,
      registry.table = [(1, ⟨0⟩), (2, ⟨1⟩), (3, ⟨2⟩), (4, ⟨3⟩)] ∧ registry.lastId = 4 := by
    decide +kernel
  have kept : w.kernel.isIdle ⟨0⟩ = true ∧ w.kernel.isIdle ⟨1⟩ = false ∧
      w.kernel.isIdle ⟨2⟩ = false ∧ w.kernel.isIdle ⟨3⟩ = true := by decide +kernel
  have pages : w.kernel.pagesIn [(2, ⟨1⟩), (3, ⟨2⟩)] = 5 := by decide +kernel
  have vacant : ([⟨0⟩, ⟨1⟩, ⟨2⟩, ⟨3⟩] : List (Handle .segment)).filterMap w.kernel.idleBacking? =
      [⟨0, 0x1000⟩, ⟨0x6000, 0x7000⟩] := by decide +kernel
  have before : w.released = [] := by decide +kernel
  have count : ∀ g ∈ w'.kernel.segments.get? ⟨2⟩, g.attachCount = 1 := by decide +kernel
  have gone : ∀ g ∈ w''.kernel.segments.get? ⟨2⟩, g.attachCount = 0 := by decide +kernel
  obtain ⟨registry, here⟩ := Option.isSome_iff_exists.mp made
  obtain ⟨table, lastId⟩ := lists registry here
  obtain ⟨dismisses, again, later⟩ := removes_all reachable here
  have released := dismisses.released
  have listed := dismisses.listed
  simp only [table, List.map_cons, List.map_nil, vacant, before] at released
  simp only [table, List.filter_cons, kept, Bool.not_true, Bool.not_false, if_true, List.filter_nil,
    Bool.false_eq_true, if_false, pages] at listed
  obtain ⟨g, found, lingers⟩ := later ⟨2⟩ (by simp [table]) w' .refl
  obtain ⟨g₁, now⟩ := lingers w' .refl
  obtain ⟨g₂, after⟩ := lingers w'' (.tail .refl trivial trivial)
  cases found.symm.trans now.found
  exact ⟨reachable, ⟨_, listed, rfl, rfl, lastId⟩, released, again, g, g₂, found, count g found,
    now.last (count g found), after, gone g₂ after.found⟩

end World

end SharedMemory
