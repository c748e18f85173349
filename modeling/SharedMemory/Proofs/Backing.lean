import Mathlib.Algebra.GroupWithZero.Nat
import SharedMemory.Proofs.Developments
import SharedMemory.Proofs.Frames

/-!
# The backing of segments

Every frame of a pool that is handed out belongs to the backing of one segment that is not
destroyed or to one loan, and to nothing else. The backing of a segment is given back when the
segment is destroyed, once, and at no other time.
-/

namespace SharedMemory

/-- What a segment has of a pool: its backing, as long as it is not destroyed. -/
def Segment.claim (p : Handle .pool) (g : Segment) : Multiset Span :=
  if g.pool = p ∧ g.destroyed = false then {g.backing} else 0

/-- What a segment has given back: its backing, once it is destroyed. -/
def Segment.returned (g : Segment) : Multiset Span := if g.destroyed then {g.backing} else 0

private theorem Segment.claim_of_alive {g : Segment} {p : Handle .pool}
    (alive : g.destroyed = false) : g.claim p = if p = g.pool then {g.backing} else 0 :=
  if_congr (by rw [and_iff_left alive, eq_comm]) rfl rfl

private theorem Segment.claim_of_evolves {g g' : Segment} (evolves : g.Evolves g')
    (destroyed : g'.destroyed = g.destroyed) (p : Handle .pool) : g'.claim p = g.claim p := by
  rw [claim, claim, evolves.pool, evolves.backing, destroyed]

private theorem Segment.returned_of_evolves {g g' : Segment} (evolves : g.Evolves g')
    (destroyed : g'.destroyed = g.destroyed) : g'.returned = g.returned := by
  rw [returned, returned, evolves.backing, destroyed]

/-- Distinct pools manage distinct memory. -/
def Kernel.PoolsApart (k : Kernel) : Prop :=
  ∀ p p' pool pool', k.pools.get? p = some pool → k.pools.get? p' = some pool' → p ≠ p' →
    ¬ pool.region.Meets pool'.region

namespace World

open Kernel

/-- The frames of a pool that are out for other purposes than segments. -/
def loansOf (w : World) (p : Handle .pool) : List Span := (w.loans.filter (·.1 = p)).map (·.2)

/-- What segments and loans have of a pool. -/
def claims (w : World) (p : Handle .pool) : Multiset Span :=
  w.kernel.segments.total (·.claim p) + w.loansOf p

/-- The frames that were given back, the last first. -/
def released (w : World) : List Span := w.kernel.log.filterMap Event.released?

/-- Pools belong to segments and loans, and what was given back belonged to segments that are
destroyed or to loans that were returned. -/
structure Backed (w : World) : Prop where
  owned : ∀ {p pool}, w.kernel.pools.get? p = some pool → pool.Owned (w.claims p)
  pooled : ∀ {s g}, w.kernel.segments.get? s = some g → (w.kernel.pools.get? g.pool).isSome
  lent : ∀ loan ∈ w.loans, (w.kernel.pools.get? loan.1).isSome
  released : (w.released : Multiset Span) =
    w.kernel.segments.total (·.returned) + w.returned

variable {w w' : World} {p : Handle .pool} {pool taken : FramePool} {span : Span} {length : Nat}
  {s : Handle .segment} {g : Segment} {k : Kernel}

/-! ## Frames that change hands -/

/-- Frames that are handed out become a claim. -/
theorem Backed.owned_take (backed : w.Backed) (pooled : w.kernel.pools.get? p = some pool)
    (allocated : pool.allocate length = .ok (span, taken))
    (pools : w'.kernel.pools = w.kernel.pools.set p taken)
    (claims : ∀ q, w'.claims q = if q = p then span ::ₘ w.claims q else w.claims q)
    {q : Handle .pool} {pool' : FramePool} (found : w'.kernel.pools.get? q = some pool') :
    pool'.Owned (w'.claims q) := by
  rw [claims]
  by_cases same : p = q
  · subst same
    rw [pools, Slots.get?_set_self pooled] at found
    cases found
    rw [if_pos rfl]
    exact (backed.owned pooled).allocate allocated
  · rw [pools, Slots.get?_set_of_ne same] at found
    rw [if_neg (Ne.symm same)]
    exact backed.owned found

/-- Frames that are given back cease to be a claim. -/
theorem Backed.owned_give (backed : w.Backed)
    (pools : ∀ q, w'.kernel.pools.get? q = (w.kernel.pools.get? q).map fun pool =>
      if q = p then pool.release span else pool)
    (claims : ∀ q, w.claims q = if q = p then span ::ₘ w'.claims q else w'.claims q)
    {q : Handle .pool} {pool' : FramePool} (found : w'.kernel.pools.get? q = some pool') :
    pool'.Owned (w'.claims q) := by
  rw [pools] at found
  obtain ⟨pool, present, rfl⟩ := Option.map_eq_some_iff.mp found
  have owned := backed.owned present
  rw [claims] at owned
  split
  case isTrue same =>
    rw [if_pos same] at owned
    exact owned.release
  case isFalse other => rwa [if_neg other] at owned

/-! ## Developments -/

private theorem Backed.keep (backed : w.Backed) (keeps : w.kernel.Keeps k) :
    Backed { w with kernel := k } := by
  have claims : ∀ q, ({ w with kernel := k } : World).claims q = w.claims q := fun q =>
    congrArg (· + _) (Slots.total_congr keeps.segments (Segment.claim q) fun _ => rfl)
  have returned : k.segments.total (·.returned) = w.kernel.segments.total (·.returned) :=
    Slots.total_congr keeps.segments Segment.returned fun _ => rfl
  refine ⟨fun found => ?_, fun found => ?_, fun loan member => ?_, ?_⟩
  · rw [claims]
    exact backed.owned (keeps.pools ▸ found)
  · obtain ⟨g, present, same⟩ := keeps.segment found
    rw [keeps.pools, (Segment.Evolves.of_core same).pool]
    exact backed.pooled present
  · rw [keeps.pools]
    exact backed.lent loan member
  · rw [World.released, keeps.released, returned]
    exact backed.released

/-- A segment that is put in place with the same claims changes nothing. -/
theorem Backed.place (backed : w.Backed) (found : w.kernel.segments.get? s = some g) {g' : Segment}
    (shift : g.Shift g') : Backed { w with kernel := w.kernel.setSegment s g' } := by
  have claims : ∀ q, ({ w with kernel := w.kernel.setSegment s g' } : World).claims q = w.claims q :=
    fun q => congrArg (· + _) (Slots.total_set_of_eq found
      (Segment.claim_of_evolves shift.evolves shift.destroyed q))
  have returned : (w.kernel.setSegment s g').segments.total (·.returned) =
      w.kernel.segments.total (·.returned) :=
    Slots.total_set_of_eq found (Segment.returned_of_evolves shift.evolves shift.destroyed)
  refine ⟨fun present => ?_, fun {s' g''} present => ?_, backed.lent, ?_⟩
  · rw [claims]
    exact backed.owned present
  · obtain ⟨old, before, evolves⟩ := (segmentsEvolve_of_set found shift.evolves rfl).origin present
    rw [evolves.pool]
    exact backed.pooled before
  · rw [returned]
    exact backed.released

/-- A segment that is destroyed gives its backing back. -/
theorem Backed.retire (backed : w.Backed) (found : w.kernel.segments.get? s = some g) {g' : Segment}
    (shift : g.Shift g') (alive : g'.destroyed = false) :
    Backed { w with kernel := w.kernel.retire s g' } := by
  have undestroyed : g.destroyed = false := shift.destroyed ▸ alive
  -- The backing moves from what is claimed to what was returned, as it leaves the pool.
  have claims : ∀ q, w.claims q = if q = g'.pool
      then g'.backing ::ₘ ({ w with kernel := w.kernel.retire s g' } : World).claims q
      else ({ w with kernel := w.kernel.retire s g' } : World).claims q := by
    intro q
    have held : g.claim q = if q = g'.pool then {g'.backing} else 0 := by
      rw [Segment.claim_of_alive undestroyed, shift.evolves.pool, shift.evolves.backing]
    have left : (w.kernel.retire s g').segments.total (·.claim q) =
        (w.kernel.segments.erase s).total (·.claim q) := by
      rw [segments_retire, Slots.total_set found, Segment.claim, if_neg (by simp), zero_add]
    rw [World.claims, World.claims, Slots.total_erase found, held, left]
    split
    · rw [Multiset.singleton_add, Multiset.cons_add]
      rfl
    · rw [zero_add]
      rfl
  have returned : (w.kernel.retire s g').segments.total (·.returned) =
      {g'.backing} + w.kernel.segments.total (·.returned) := by
    have before : g.returned = 0 := by simp [Segment.returned, undestroyed]
    rw [segments_retire, Slots.total_set found, Slots.total_erase found, before, zero_add]
    rfl
  refine ⟨backed.owned_give get?_pools_retire claims, fun {s' g''} present => ?_,
    fun loan member => ?_, ?_⟩
  · obtain ⟨old, before, evolves⟩ := (segmentsEvolve_retire found shift.evolves).origin present
    rw [get?_pools_retire, Option.isSome_map, evolves.pool]
    exact backed.pooled before
  · rw [get?_pools_retire, Option.isSome_map]
    exact backed.lent loan member
  · obtain ⟨pool, pooled⟩ := Option.isSome_iff_exists.mp (backed.pooled found)
    rw [← shift.evolves.pool] at pooled
    rw [World.released, released_retire pooled, ← Multiset.cons_coe, returned, add_assoc,
      Multiset.singleton_add]
    exact congrArg _ backed.released

/-- A segment that is made claims the frames that were handed out for it. -/
theorem Backed.create (backed : w.Backed) (c : Creation w.kernel) :
    Backed { w with kernel := c.result } := by
  have pools : c.result.pools = w.kernel.pools.set c.registry.pool c.remaining := rfl
  have inserted : c.result.segments = w.kernel.segments.insert c.segment := rfl
  have claims : ∀ q, ({ w with kernel := c.result } : World).claims q =
      if q = c.registry.pool then c.backing ::ₘ w.claims q else w.claims q := by
    intro q
    have new : c.segment.claim q = if q = c.registry.pool then {c.backing} else 0 :=
      Segment.claim_of_alive rfl
    rw [World.claims, World.claims, inserted, Slots.total_insert, new]
    split
    · rw [add_right_comm, add_comm, Multiset.singleton_add]
      rfl
    · rw [add_zero]
      rfl
  have returned : c.result.segments.total (·.returned) = w.kernel.segments.total (·.returned) := by
    rw [inserted, Slots.total_insert]
    exact add_zero _
  have still {q : Handle .pool} (present : (w.kernel.pools.get? q).isSome) :
      (c.result.pools.get? q).isSome := by
    rwa [pools, Slots.isSome_get?_set]
  refine ⟨backed.owned_take c.pooled c.allocated pools claims, fun {s g} present => ?_,
    fun loan member => still (backed.lent loan member), ?_⟩
  · rcases c.segment_cases present with ⟨_, rfl⟩ | before
    · exact still (Option.isSome_iff_exists.mpr ⟨c.pool, c.pooled⟩)
    · exact still (backed.pooled before)
  · rw [returned]
    exact backed.released

private theorem Backed.makePool (backed : w.Backed) (base frames : Nat) :
    Backed { w with
      kernel := { w.kernel with pools := w.kernel.pools.insert (.free base frames) } } := by
  have still {q : Handle .pool} (present : (w.kernel.pools.get? q).isSome) :
      ((w.kernel.pools.insert (.free base frames)).get? q).isSome :=
    Slots.isSome_get?_insert present _
  refine ⟨fun {q pool} found => ?_, fun present => still (backed.pooled present),
    fun loan member => still (backed.lent loan member), backed.released⟩
  have made : (w.kernel.pools.insert (.free base frames)).get? q = some pool := found
  rw [Slots.get?_insert] at made
  split at made
  case isTrue new =>
    cases made
    -- Nothing claims frames of a pool that did not exist.
    have unmade : w.kernel.segments.total (·.claim q) = 0 := by
      refine Slots.total_eq_zero fun {s g} present => if_neg fun ⟨same, _⟩ => ?_
      have pooled := backed.pooled present
      rw [same, new, Slots.get?_fresh] at pooled
      cases pooled
    have unlent : w.loansOf q = [] := by
      rw [loansOf, List.map_eq_nil_iff, List.filter_eq_nil_iff]
      intro loan member same
      have lent := backed.lent loan member
      rw [of_decide_eq_true same, new, Slots.get?_fresh] at lent
      cases lent
    have none : w.claims q = 0 := by
      rw [World.claims, unmade, unlent]
      rfl
    exact none ▸ FramePool.owned_free base frames
  case isFalse => exact backed.owned made

private theorem coe_loansOf {loans : List (Handle .pool × Span)}
    (perm : w.loans.Perm ((p, span) :: loans)) (q : Handle .pool) : (w.loansOf q : Multiset Span) =
    if q = p then span ::ₘ (({ w with loans } : World).loansOf q : Multiset Span) else
    ({ w with loans } : World).loansOf q := by
  have same : (w.loansOf q : Multiset Span) =
      (((p, span) :: loans).filter (·.1 = q)).map (·.2) :=
    Multiset.coe_eq_coe.mpr ((perm.filter _).map _)
  rw [same, List.filter_cons]
  by_cases here : q = p
  · simp [here, loansOf]
  · simp [here, Ne.symm here, loansOf]

private theorem Backed.lend (backed : w.Backed) (pooled : w.kernel.pools.get? p = some pool)
    (allocated : pool.allocate length = .ok (span, taken)) :
    Backed { w with
      kernel := (w.kernel.setPool p taken).emit (.framesTaken span)
      loans := (p, span) :: w.loans } := by
  have claims : ∀ q, ({ w with
        kernel := (w.kernel.setPool p taken).emit (.framesTaken span)
        loans := (p, span) :: w.loans } : World).claims q =
      if q = p then span ::ₘ w.claims q else w.claims q := by
    intro q
    rw [World.claims, coe_loansOf (.refl _)]
    split
    · rw [Multiset.add_cons]
      rfl
    · rfl
  have still {q : Handle .pool} (present : (w.kernel.pools.get? q).isSome) :
      ((w.kernel.pools.set p taken).get? q).isSome := by
    rwa [Slots.isSome_get?_set]
  refine ⟨backed.owned_take pooled allocated rfl claims, fun present => still (backed.pooled present),
    fun loan member => still ?_, backed.released⟩
  rcases List.mem_cons.mp member with rfl | member
  · exact Option.isSome_iff_exists.mpr ⟨pool, pooled⟩
  · exact backed.lent loan member

private theorem Backed.giveBack (backed : w.Backed) (member : (p, span) ∈ w.loans) :
    Backed ⟨w.kernel.releaseFrames p span, w.loans.erase (p, span), span :: w.returned⟩ := by
  have segments : (w.kernel.releaseFrames p span).segments = w.kernel.segments :=
    (objects_releaseFrames _ _).1
  have pools (q : Handle .pool) : (w.kernel.releaseFrames p span).pools.get? q =
      (w.kernel.pools.get? q).map fun pool => if q = p then pool.release span else pool :=
    get?_pools_releaseFrames p q span
  have claims : ∀ q, w.claims q = if q = p
      then span ::ₘ World.claims
        ⟨w.kernel.releaseFrames p span, w.loans.erase (p, span), span :: w.returned⟩ q
      else World.claims
        ⟨w.kernel.releaseFrames p span, w.loans.erase (p, span), span :: w.returned⟩ q := by
    intro q
    rw [World.claims, World.claims, coe_loansOf (List.perm_cons_erase member), segments]
    split
    · rw [Multiset.add_cons]
      rfl
    · rfl
  refine ⟨backed.owned_give pools claims, fun {s g} present => ?_, fun loan inside => ?_, ?_⟩
  · rw [pools, Option.isSome_map]
    exact backed.pooled (segments ▸ present)
  · rw [pools, Option.isSome_map]
    exact backed.lent loan (List.mem_of_mem_erase inside)
  · obtain ⟨pool, pooled⟩ := Option.isSome_iff_exists.mp (backed.lent _ member)
    rw [World.released, released_releaseFrames pooled, segments, ← Multiset.cons_coe,
      ← Multiset.cons_coe, Multiset.add_cons]
    exact congrArg _ backed.released

/-- One development leaves pools to segments and loans. -/
theorem Development.backed (development : Development w w') (backed : w.Backed) : w'.Backed := by
  cases development with
  | objects development =>
      cases development with
      | keep keeps => exact backed.keep keeps
      | @shift s g g' found shift =>
          rcases settle_cases found g' with ⟨same, _⟩ | ⟨same, alive, _⟩ <;> rw [same]
          · exact backed.place found shift
          · exact backed.retire found shift alive
      | create c => exact backed.create c
      | makePool base frames => exact backed.makePool base frames
      | makeRegistry => exact ⟨backed.owned, backed.pooled, backed.lent, backed.released⟩
      | eraseRegistry => exact ⟨backed.owned, backed.pooled, backed.lent, backed.released⟩
  | lend pooled allocated => exact backed.lend pooled allocated
  | giveBack member => exact backed.giveBack member

variable {may : Deed → Prop} {allowed : Operation → Prop}

/-- In every reachable world frames belong to segments and loans. -/
theorem Reachable.backed (suits : Suits allowed may) (reachable : Reachable allowed w) :
    w.Backed :=
  reachable.development suits Backed Development.backed ⟨nofun, nofun, nofun, rfl⟩

/-! ## What pools keep -/

/-- A pool is there and manages some memory. -/
def Manages (p : Handle .pool) (region : Span) (w : World) : Prop :=
  ∃ pool, w.kernel.pools.get? p = some pool ∧ pool.region = region

private theorem Manages.set {region : Span} {p' : Handle .pool} (manages : w.Manages p region)
    (pooled : w.kernel.pools.get? p' = some pool) (same : taken.region = pool.region)
    (placed : w'.kernel.pools = w.kernel.pools.set p' taken) : w'.Manages p region := by
  obtain ⟨before, found, rfl⟩ := manages
  by_cases here : p' = p
  · subst here
    cases pooled.symm.trans found
    exact ⟨taken, by rw [placed, Slots.get?_set_self found], same⟩
  · exact ⟨before, by rwa [placed, Slots.get?_set_of_ne here], rfl⟩

private theorem Manages.give {region : Span} {p' : Handle .pool} (manages : w.Manages p region)
    (pools : w'.kernel.pools.get? p = (w.kernel.pools.get? p).map fun pool =>
      if p = p' then pool.release span else pool) : w'.Manages p region := by
  obtain ⟨before, found, rfl⟩ := manages
  rw [found, Option.map_some] at pools
  refine ⟨_, pools, ?_⟩
  split
  · exact FramePool.region_release _ _
  · rfl

/-- A pool that is there stays and manages the same memory. -/
theorem Development.manages {region : Span} (development : Development w w')
    (manages : w.Manages p region) : w'.Manages p region := by
  cases development with
  | objects development =>
      cases development with
      | keep keeps =>
          obtain ⟨before, found, same⟩ := manages
          exact ⟨before, by rwa [keeps.pools], same⟩
      | @shift s g g' found shift =>
          rcases settle_cases found g' with ⟨same, _⟩ | ⟨same, _⟩ <;> rw [same]
          · exact manages
          · exact manages.give (get?_pools_retire p)
      | create c => exact manages.set c.pooled (FramePool.region_of_allocate c.allocated) rfl
      | makePool base frames =>
          obtain ⟨before, found, same⟩ := manages
          exact ⟨before, (Slots.get?_insert_of_ne (Slots.ne_fresh found) _).trans found, same⟩
      | makeRegistry => exact manages
      | eraseRegistry => exact manages
  | lend pooled allocated => exact manages.set pooled (FramePool.region_of_allocate allocated) rfl
  | giveBack => exact manages.give (get?_pools_releaseFrames _ _ _)

/-- A pool that is claimed in the end as it was in the beginning is what it was. -/
theorem Run.pool_eq (run : Run anything w w') (reachable : w.Reachable anything)
    (pooled : w.kernel.pools.get? p = some pool) (same : w'.claims p = w.claims p) :
    w'.kernel.pools.get? p = some pool := by
  have later : w'.Reachable anything := reachable.trans run
  obtain ⟨pool', found, region⟩ := run.development suits_anything (Manages p pool.region)
    Development.manages (reachable.laid suits_anything) (reachable.counted suits_anything)
    ⟨pool, pooled, rfl⟩
  have owned' := (later.backed suits_anything).owned found
  rw [same] at owned'
  rw [found, ((reachable.backed suits_anything).owned pooled).unique owned' region]

/-! ## What follows for a segment -/

/-- The backing of a segment is one claim beside those of other segments and of loans. -/
theorem claims_eq_cons (found : w.kernel.segments.get? s = some g) (alive : g.destroyed = false) :
    w.claims g.pool = g.backing ::ₘ
      ((w.kernel.segments.erase s).total (·.claim g.pool) + w.loansOf g.pool) := by
  rw [claims, Slots.total_erase found, Segment.claim_of_alive alive, if_pos rfl, add_assoc,
    Multiset.singleton_add]

/-- The backing of a segment is made of frames of its pool that are all taken. -/
theorem Backed.isTaken (backed : w.Backed) (found : w.kernel.segments.get? s = some g)
    (alive : g.destroyed = false) :
    ∃ pool, w.kernel.pools.get? g.pool = some pool ∧ pool.IsRun g.backing ∧
      ∀ frame, g.backing.Contains (pool.addressOf frame) → pool.IsTaken frame := by
  obtain ⟨pool, pooled⟩ := Option.isSome_iff_exists.mp (backed.pooled found)
  have owned := backed.owned pooled
  have member : g.backing ∈ w.claims g.pool := by
    rw [claims_eq_cons found alive]
    exact Multiset.mem_cons_self _ _
  exact ⟨pool, pooled, owned.runs _ member, fun frame holds => owned.isTaken member holds⟩

/-- What is claimed of a pool is the backing of a segment that is not destroyed, or a loan. -/
theorem mem_claims : span ∈ w.claims p ↔ (∃ s g, w.kernel.segments.get? s = some g ∧
    g.destroyed = false ∧ g.pool = p ∧ g.backing = span) ∨ (p, span) ∈ w.loans := by
  have share (g : Segment) :
      span ∈ g.claim p ↔ g.destroyed = false ∧ g.pool = p ∧ g.backing = span := by
    unfold Segment.claim
    split
    case isTrue claimed => simp [claimed, eq_comm]
    case isFalse free =>
      exact iff_of_false (Multiset.notMem_zero _) fun own => free ⟨own.2.1, own.1⟩
  simp [claims, loansOf, Slots.mem_total, share]

/-- A frame is taken if it belongs to a segment that is not destroyed or to a loan. -/
theorem Backed.isTaken_iff (backed : w.Backed) (pooled : w.kernel.pools.get? p = some pool)
    {frame : Nat} : pool.IsTaken frame ↔
      (∃ s g, w.kernel.segments.get? s = some g ∧ g.destroyed = false ∧ g.pool = p ∧
        g.backing.Contains (pool.addressOf frame)) ∨
      ∃ span, (p, span) ∈ w.loans ∧ span.Contains (pool.addressOf frame) := by
  rw [(backed.owned pooled).isTaken_iff]
  constructor
  · intro taken
    obtain ⟨span, claimed, holds⟩ := taken
    rcases mem_claims.mp claimed with ⟨s, g, found, alive, own, rfl⟩ | lent
    · exact .inl ⟨s, g, found, alive, own, holds⟩
    · exact .inr ⟨span, lent, holds⟩
  · intro held
    rcases held with ⟨s, g, found, alive, own, holds⟩ | ⟨span, lent, holds⟩
    · exact ⟨g.backing, mem_claims.mpr (.inl ⟨s, g, found, alive, own, rfl⟩), holds⟩
    · exact ⟨span, mem_claims.mpr (.inr lent), holds⟩

/-- The backing of a segment does not meet what else is claimed of the pool. -/
theorem Backed.not_meets (backed : w.Backed) (found : w.kernel.segments.get? s = some g)
    (alive : g.destroyed = false)
    (member : span ∈ (w.kernel.segments.erase s).total (·.claim g.pool) + w.loansOf g.pool) :
    ¬ g.backing.Meets span := by
  obtain ⟨pool, pooled⟩ := Option.isSome_iff_exists.mp (backed.pooled found)
  have owned := backed.owned pooled
  rw [claims_eq_cons found alive] at owned
  exact owned.not_meets member

/-- Segments of one pool that are not destroyed have nothing in common. -/
theorem Backed.segments_apart (backed : w.Backed) {s' : Handle .segment} {g' : Segment}
    (found : w.kernel.segments.get? s = some g) (alive : g.destroyed = false)
    (other : s' ≠ s) (found' : w.kernel.segments.get? s' = some g') (alive' : g'.destroyed = false)
    (same : g'.pool = g.pool) : ¬ g.backing.Meets g'.backing := by
  refine backed.not_meets found alive (Multiset.mem_add.mpr (.inl ?_))
  have still : (w.kernel.segments.erase s).get? s' = some g' := by
    rwa [Slots.get?_erase_of_ne (Ne.symm other)]
  rw [Slots.total_erase still, Segment.claim_of_alive alive', if_pos same.symm]
  exact Multiset.mem_add.mpr (.inl (Multiset.mem_singleton_self _))

/-- Segments that are not destroyed have nothing in common, of whichever pools. -/
theorem Backed.apart (backed : w.Backed) (apart : w.kernel.PoolsApart) {s' : Handle .segment}
    {g' : Segment} (found : w.kernel.segments.get? s = some g) (alive : g.destroyed = false)
    (other : s' ≠ s) (found' : w.kernel.segments.get? s' = some g') (alive' : g'.destroyed = false) :
    ¬ g.backing.Meets g'.backing := by
  by_cases same : g'.pool = g.pool
  · exact backed.segments_apart found alive other found' alive' same
  · obtain ⟨pool, pooled, run, _⟩ := backed.isTaken found alive
    obtain ⟨pool', pooled', run', _⟩ := backed.isTaken found' alive'
    intro meets
    refine apart _ _ _ _ pooled pooled' (Ne.symm same) ⟨?_, ?_⟩
    · exact Nat.lt_of_le_of_lt run.inside.1 (Nat.lt_of_lt_of_le meets.1 run'.inside.2)
    · exact Nat.lt_of_le_of_lt run'.inside.1 (Nat.lt_of_lt_of_le meets.2 run.inside.2)

/-- The backing of a segment does not meet a loan. -/
theorem Backed.loans_apart (backed : w.Backed) (found : w.kernel.segments.get? s = some g)
    (alive : g.destroyed = false) (lent : (g.pool, span) ∈ w.loans) : ¬ g.backing.Meets span := by
  refine backed.not_meets found alive (Multiset.mem_add.mpr (.inr (Multiset.mem_coe.mpr ?_)))
  exact List.mem_map.mpr ⟨_, List.mem_filter.mpr ⟨lent, decide_eq_true rfl⟩, rfl⟩

/-- The bytes in use are those of the segments and the loans. -/
theorem Backed.usedBytes (backed : w.Backed) (pooled : w.kernel.pools.get? p = some pool) :
    pool.usedBytes = (w.kernel.segments.total fun g =>
        if g.pool = p ∧ g.destroyed = false then g.effectiveSize else 0) +
      ((w.loansOf p).map Span.size).sum := by
  have segments := Slots.map_total (Multiset.sumAddMonoidHom.comp (Multiset.mapAddMonoidHom Span.size))
    w.kernel.segments (·.claim p)
  have share (g : Segment) : ((g.claim p).map Span.size).sum =
      if g.pool = p ∧ g.destroyed = false then g.effectiveSize else 0 := by
    unfold Segment.claim
    split
    · rw [Multiset.map_singleton, Multiset.sum_singleton, Segment.effectiveSize]
    · rfl
  rw [(backed.owned pooled).used, claims, Multiset.map_add, Multiset.sum_add, Multiset.map_coe,
    Multiset.sum_coe]
  simp only [AddMonoidHom.comp_apply, Multiset.coe_mapAddMonoidHom, Multiset.coe_sumAddMonoidHom,
    share] at segments
  rw [segments]

/-- Frames were given back as often as segments with them were destroyed and loans of them
returned. -/
theorem Backed.count_released (backed : w.Backed) (span : Span) :
    w.released.count span =
      w.kernel.segments.values.countP (fun g => g.destroyed ∧ g.backing = span) +
        w.returned.count span := by
  have counted := congrArg (Multiset.count span) backed.released
  have share (g : Segment) : g.returned.count span =
      if decide (g.destroyed ∧ g.backing = span) then 1 else 0 := by
    unfold Segment.returned
    cases g.destroyed with
    | true => simp [Multiset.count_singleton, eq_comm]
    | false => simp
  simp only [Multiset.count_add, Multiset.coe_count, Slots.count_total, share,
    Slots.total_ite] at counted
  exact counted

/-- Backing memory is owned exclusively and released exactly once. In every reachable world the
backing of a segment that is not destroyed is made of frames that are all taken, has nothing in
common with the backing of another such segment of the pool, and nothing with a loan. Frames
were given back as often as segments with that backing were destroyed and such loans were
returned. The bytes of a pool in use are those of segments that are not destroyed and those of
loans. -/
theorem backing_exclusive (reachable : w.Reachable anything) :
    (∀ s g, w.kernel.segments.get? s = some g → g.destroyed = false →
      (∃ pool, w.kernel.pools.get? g.pool = some pool ∧ pool.IsRun g.backing ∧
        ∀ frame, g.backing.Contains (pool.addressOf frame) → pool.IsTaken frame) ∧
      (∀ s' g', s' ≠ s → w.kernel.segments.get? s' = some g' → g'.destroyed = false →
        g'.pool = g.pool → ¬ g.backing.Meets g'.backing) ∧
      ∀ span, (g.pool, span) ∈ w.loans → ¬ g.backing.Meets span) ∧
    (∀ span, w.released.count span =
      w.kernel.segments.values.countP (fun g => g.destroyed ∧ g.backing = span) +
        w.returned.count span) ∧
    ∀ p pool, w.kernel.pools.get? p = some pool →
      pool.usedBytes = (w.kernel.segments.total fun g =>
          if g.pool = p ∧ g.destroyed = false then g.effectiveSize else 0) +
        ((w.loansOf p).map Span.size).sum := by
  have backed := reachable.backed suits_anything
  refine ⟨fun s g found alive => ⟨backed.isTaken found alive, fun s' g' other found' alive' same =>
    backed.segments_apart found alive other found' alive' same, fun span lent =>
      backed.loans_apart found alive lent⟩, backed.count_released, fun p pool pooled =>
        backed.usedBytes pooled⟩

/-- Two registries make a segment each, with two loans in between; then the first segment is
removed and the first loan is returned. -/
def lending : List Operation :=
  let root : Requester := ⟨.superuser .initial, none, none⟩
  [.makePool 0 16, .makeRegistry .initial ⟨0⟩ {} .handle, .makeRegistry .initial ⟨0⟩ {} .handle,
    .findOrCreate ⟨0⟩ root ⟨privateKey, 0x3000, 0o600, true, true, false⟩, .lend ⟨0⟩ 0x1000,
    .lend ⟨0⟩ 0x2000, .findOrCreate ⟨1⟩ root ⟨privateKey, 1, 0o600, true, true, false⟩,
    .markDestroyed ⟨0⟩, .giveBack ⟨0⟩ ⟨0x3000, 0x4000⟩]

/-- What is left is the second segment behind the second loan. -/
theorem backing_exclusive_lending :
    let w := ({} : World).follow lending
    w.Reachable anything ∧
      (∃ g, w.kernel.segments.get? ⟨1⟩ = some g ∧ g.backing = ⟨0x6000, 0x7000⟩ ∧
        ¬ g.backing.Meets ⟨0x4000, 0x6000⟩) ∧
      w.released.count ⟨0, 0x3000⟩ = 1 ∧
      ∃ pool, w.kernel.pools.get? ⟨0⟩ = some pool ∧ pool.usedBytes = 0x3000 := by
  intro w
  have reachable : w.Reachable anything :=
    reachable_follow (by decide +kernel) fun _ _ => trivial
  have present : (w.kernel.segments.get? ⟨1⟩).isSome := by decide +kernel
  have state : ∀ g ∈ w.kernel.segments.get? ⟨1⟩,
      g.destroyed = false ∧ g.backing = ⟨0x6000, 0x7000⟩ ∧ (g.pool, ⟨0x4000, 0x6000⟩) ∈ w.loans := by
    decide +kernel
  have made : (w.kernel.pools.get? ⟨0⟩).isSome := by decide +kernel
  obtain ⟨g, found⟩ := Option.isSome_iff_exists.mp present
  obtain ⟨alive, backing, lent⟩ := state g found
  obtain ⟨pool, pooled⟩ := Option.isSome_iff_exists.mp made
  obtain ⟨exclusive, once, used⟩ := backing_exclusive reachable
  refine ⟨reachable, ⟨g, found, backing, (exclusive _ g found alive).2.2 _ lent⟩,
    (once _).trans (by decide +kernel), pool, pooled, (used _ pool pooled).trans (by decide +kernel)⟩

end World

end SharedMemory
