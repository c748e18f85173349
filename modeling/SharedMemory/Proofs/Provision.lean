import SharedMemory.Proofs.Faultless
import SharedMemory.Proofs.Rotation

/-!
# When a segment is found, made or refused

A request to a registry either gives a segment that is listed, or makes one, or is refused. The
module says when each happens and what it leaves: a refusal and a segment that is found leave the
kernel as it was, and a segment is made exactly if all that it takes is there
(`Kernel.Makeable`).

That nothing more is needed rests on two searches that miss nothing: the one for an identifier
(`Registry.exists_nextFreeId?`) and the one for frames (`FramePool.exists_firstFit?`).
-/

namespace SharedMemory

/-- The rights in either of two sets. -/
def Access.union (a b : Access) : Access :=
  ⟨a.read || b.read, a.write || b.write, a.execute || b.execute⟩

/-- A request for a segment asks for the rights in any of the three sets of its mode. -/
theorem Permissions.requested_eq_union (mode : Nat) :
    requested mode =
      ((ofMode mode).user.union (ofMode mode).group).union (ofMode mode).other := by
  simp [requested, ofMode, Access.ofBits, Access.union, Nat.testBit_or]

/-- The number of pages that hold the size that is asked for. -/
def SegmentRequest.pages (asked : SegmentRequest) : Nat :=
  (asked.size + (pageSize - 1)) / pageSize

private theorem SegmentRequest.pages_eq {asked : SegmentRequest} {length : Nat}
    (rounded : pageUp? asked.size = some length) : length / pageSize = asked.pages := by
  obtain ⟨_, whole, enough, tight⟩ := pageUp?_eq_some_iff.mp rounded
  simp only [PageAligned, pages, pageSize] at *
  omega

/-- So many frames from one on are free. -/
def FramePool.FreeFrom (p : FramePool) (first count : Nat) : Prop :=
  ∀ frame, first ≤ frame → frame < first + count → p.taken[frame]? = some false

/-- A pool hands out whole pages if it has a run of free frames that holds them. -/
theorem FramePool.FreeFrom.exists_allocate {p : FramePool} {first length : Nat}
    (free : p.FreeFrom first (length / pageSize)) (positive : 0 < length)
    (whole : PageAligned length) : ∃ span taken, p.allocate length = .ok (span, taken) := by
  have some : 0 < length / pageSize := by
    simp only [PageAligned, pageSize] at *
    omega
  obtain ⟨lowest, fits⟩ := exists_firstFit? some free
  have proper : ¬ (length = 0 ∨ ¬ PageAligned length) :=
    not_or.mpr ⟨Nat.ne_of_gt positive, not_not.mpr whole⟩
  exact ⟨_, _, by rw [allocate, if_neg proper, fits]⟩

namespace Kernel

open KernelM

/-- All that it takes to make a segment: the size is within the limits and is a word when it is
rounded up to pages, the registry has room for a segment and for its pages, the segment is private
or is to be made and nothing is listed with its key, an identifier is free, and the pool has a run
of free frames. -/
structure Makeable (k : Kernel) (registry : Registry) (pool : FramePool)
    (asked : SegmentRequest) : Prop where
  sized : registry.limits.minSize ≤ asked.size ∧ asked.size ≤ registry.limits.maxSize
  room : registry.table.length < registry.limits.maxSegments
  wanted : asked.isPrivate = true ∨ asked.create = true ∧
    (asked.key = privateKey ∨ ∀ entry ∈ registry.table, k.keyOf? entry.2 ≠ some asked.key)
  positive : 0 < asked.size
  word : asked.size + (pageSize - 1) < wordSize
  affordable : registry.totalPages + asked.pages ≤ registry.limits.maxTotalPages
  identifier : ∃ id, 0 ≤ id ∧ id ≤ registry.limits.maxId ∧ registry.find? id = none
  frames : ∃ first, pool.FreeFrom first asked.pages

/-- A segment may be handed to whoever asks for it by its key: it has the key, which is not the
private one, and is large enough, and the request does not insist on a new segment. -/
structure Opens (k : Kernel) (q : Requester) (asked : SegmentRequest) (s : Handle .segment)
    (g : Segment) : Prop where
  present : k.segments.get? s = some g
  shared : asked.isPrivate = false
  keyed : asked.key ≠ privateKey ∧ g.key = asked.key
  large : asked.size ≤ g.size
  permitted : g.permits q.credentials (((Permissions.ofMode asked.mode).user.union
    (Permissions.ofMode asked.mode).group).union (Permissions.ofMode asked.mode).other) = true
  lenient : ¬ (asked.create = true ∧ asked.exclusive = true)

/-- One segment was made and nothing else happened. Its identifier was free and is the last one
handed out, the registry lists it besides what it listed, and counts its pages, and its frames were
free and are the only ones that were taken. -/
structure Provided (k : Kernel) (r : Handle .registry) (registry : Registry) (pool : FramePool)
    (q : Requester) (asked : SegmentRequest) (id : Int) (first : Nat) (k' : Kernel) : Prop where
  issued : 0 ≤ id ∧ id ≤ registry.limits.maxId
  unused : registry.find? id = none
  listed : ∃ table, table.Perm ((id, k.segments.fresh) :: registry.table) ∧
    k'.registries = k.registries.set r { registry with
      table, totalPages := registry.totalPages + asked.pages, lastId := id }
  free : pool.FreeFrom first asked.pages
  taken : k'.pools = k.pools.set registry.pool (pool.mark first asked.pages true)
  segments : k'.segments =
    k.segments.insert (newSegment r registry q asked id (pool.run first asked.pages))
  holders : k'.holderPart = k.holderPart
  windows : k'.windows = k.windows
  faults : k'.faults = k.faults

variable {k k' : Kernel} {r : Handle .registry} {registry : Registry} {pool : FramePool}
  {q : Requester} {asked : SegmentRequest} {s : Handle .segment} {g : Segment}

/-! ## Segments that are found -/

/-- No segment is found by a key that is private or that nothing listed has. -/
theorem findByKey?_eq_none_iff {key : Int} : k.findByKey? registry key = none ↔
    key = privateKey ∨ ∀ entry ∈ registry.table, k.keyOf? entry.2 ≠ some key := by
  by_cases hidden : key = privateKey
  · simp [findByKey?, hidden]
  · simp [findByKey?, hidden]

private theorem mayOpen_eq_ok (allowed : mayOpen g q asked = .ok ()) :
    g.permits q.credentials (Permissions.requested asked.mode) = true ∧ asked.size ≤ g.size ∧
      ¬ (asked.create = true ∧ asked.exclusive = true) := by
  simp only [mayOpen] at allowed
  split at allowed
  case isTrue => cases allowed
  case isFalse permitted =>
    split at allowed
    case isTrue => cases allowed
    case isFalse large =>
      split at allowed
      case isTrue => cases allowed
      case isFalse lenient =>
        exact ⟨by simpa using permitted, Nat.le_of_not_lt large, by simpa using lenient⟩

private theorem opens_of_findByKey? (shared : asked.isPrivate = false)
    (keyed : k.findByKey? registry asked.key = some s) (present : k.segments.get? s = some g)
    (allowed : mayOpen g q asked = .ok ()) : k.Opens q asked s g := by
  obtain ⟨key, visible⟩ := keyOf?_of_findByKey? keyed
  rw [keyOf?, present, Option.map_some] at key
  obtain ⟨permitted, large, lenient⟩ := mayOpen_eq_ok allowed
  rw [Permissions.requested_eq_union] at permitted
  exact ⟨present, shared, ⟨visible, Option.some.inj key⟩, large, permitted, lenient⟩

/-- A segment is given out that is listed, or because a new one is asked for. -/
theorem lists_or_asked (r : Handle .registry) (q : Requester) (asked : SegmentRequest) :
    (findOrCreate r q asked).Ends k
      (fun s _ => k.Lists r s ∨ asked.isPrivate = true ∨ asked.create = true)
      (fun _ _ => True) := by
  apply ends_findOrCreate
  case missing => exact fun _ => trivial
  case refused => exact fun _ => trivial
  case existing =>
    intro registry s g here shared keyed found allowed
    exact .inl ⟨registry, here, exists_mem_of_findByKey? keyed⟩
  case made =>
    intro registry here sized room wanted
    refine (ends_trivial _ _).mono (fun _ _ _ => .inr ?_) fun _ _ _ => trivial
    exact wanted.imp_right And.left

/-! ## Segments that are made -/

private theorem Makeable.exists_creation (makeable : k.Makeable registry pool asked)
    (accounts : k.Accounts registry) (numbered : 0 ≤ registry.limits.maxId)
    (bounded : registry.limits.maxTotalPages < wordSize) :
    ∃ length id span taken, pageUp? asked.size = some length ∧
      (registry.totalPages + length / pageSize < wordSize ∧
        registry.totalPages + length / pageSize ≤ registry.limits.maxTotalPages) ∧
      registry.nextFreeId? = some id ∧ pool.allocate length = .ok (span, taken) := by
  have rounded : pageUp? asked.size = some (pageDown (asked.size + (pageSize - 1))) := by
    rw [pageUp?, addWord?, if_pos makeable.word, Option.map_some]
  have pages := SegmentRequest.pages_eq rounded
  obtain ⟨_, whole, enough, _⟩ := pageUp?_eq_some_iff.mp rounded
  obtain ⟨j, lower, upper, unused⟩ := makeable.identifier
  obtain ⟨id, free⟩ :=
    Registry.exists_nextFreeId? numbered (accounts.last numbered) lower upper unused
  obtain ⟨first, frames⟩ := makeable.frames
  rw [← pages] at frames
  obtain ⟨span, taken, allocated⟩ :=
    frames.exists_allocate (makeable.positive.trans_le enough) whole
  have affordable := makeable.affordable
  exact ⟨_, id, span, taken, rounded, by omega, free, allocated⟩

/-- Where there is all that it takes, a segment is made. -/
theorem Makeable.findOrCreate (makeable : k.Makeable registry pool asked)
    (accounts : k.Accounts registry) (here : k.registries.get? r = some registry)
    (pooled : k.pools.get? registry.pool = some pool) (numbered : 0 ≤ registry.limits.maxId)
    (bounded : registry.limits.maxTotalPages < wordSize) (q : Requester) :
    (findOrCreate r q asked).Ends k (fun s _ => s = k.segments.fresh) (fun _ _ => False) := by
  obtain ⟨length, id, span, taken, rounded, affordable, free, allocated⟩ :=
    makeable.exists_creation accounts numbered bounded
  have created : (createSegment r registry q asked).Ends k
      (fun s _ => s = k.segments.fresh) (fun _ _ => False) := by
    simp only [createSegment, rounded, orRefuse, ends_bind, ends_pure, check, if_pos affordable,
      free, allocateFrames, ends_get, orStuck, pooled, allocated, KernelM.ofExcept, ends_set,
      ends_modify]
    rfl
  have sized : ¬ ((asked.create ∨ asked.isPrivate) ∧
      (asked.size < registry.limits.minSize ∨ registry.limits.maxSize < asked.size)) := by
    have := makeable.sized
    omega
  unfold Kernel.findOrCreate
  refine .get_bind (.found_bind here (.passed_bind sized (.passed_bind makeable.room ?_)))
  refine ends_ite.mpr ⟨fun isPrivate => created, fun shared => ?_⟩
  obtain ⟨create, unclaimed⟩ := makeable.wanted.resolve_left shared
  rw [findByKey?_eq_none_iff.mpr unclaimed]
  exact .passed_bind create created

private theorem Creation.makeable (c : Creation k) (accounts : k.Accounts c.registry)
    (numbered : 0 ≤ c.registry.limits.maxId)
    (wanted : c.asked.isPrivate = true ∨ c.asked.create = true) :
    k.Makeable c.registry c.pool c.asked := by
  have pages := SegmentRequest.pages_eq c.rounded
  obtain ⟨word, whole, enough, tight⟩ := pageUp?_eq_some_iff.mp c.rounded
  obtain ⟨positive, _, first, fits, _⟩ := FramePool.allocate_eq_ok c.allocated
  have issued := accounts.issued numbered c.free
  constructor
  case sized => exact c.sized
  case room => exact c.room
  case wanted =>
    rcases c.unclaimed with isPrivate | unclaimed
    · exact .inl isPrivate
    · exact wanted.imp_right fun create => ⟨create, findByKey?_eq_none_iff.mp unclaimed⟩
  case positive =>
    simp only [PageAligned, pageSize] at *
    omega
  case word => exact word
  case affordable =>
    rw [← pages]
    exact c.affordable.2
  case identifier => exact ⟨c.id, issued.1, issued.2, Registry.find?_of_searchId c.free⟩
  case frames =>
    rw [← pages]
    exact ⟨first, FramePool.free_of_firstFit? fits⟩

/-- A segment that is made is provided, and nothing else happens. -/
theorem Creation.provided (c : Creation k) (accounts : k.Accounts c.registry)
    (numbered : 0 ≤ c.registry.limits.maxId) (e : Event) :
    ∃ first, k.Provided c.owner c.registry c.pool c.requester c.asked c.id first
      (c.result.emit e) := by
  have pages := SegmentRequest.pages_eq c.rounded
  obtain ⟨_, _, first, fits, backing, remaining⟩ := FramePool.allocate_eq_ok c.allocated
  rw [pages] at fits backing remaining
  have unused := Registry.find?_of_searchId c.free
  refine ⟨first, ?_⟩
  constructor
  case issued => exact accounts.issued numbered c.free
  case unused => exact unused
  case listed =>
    refine ⟨_, Registry.perm_insertEntry (Registry.find?_eq_none_iff.mp unused), ?_⟩
    rw [← pages]
    rfl
  case free => exact FramePool.free_of_firstFit? fits
  case taken =>
    rw [← remaining]
    rfl
  case segments =>
    rw [← backing]
    rfl
  all_goals rfl

end Kernel

namespace World

open Kernel

variable {w : World} {r : Handle .registry} {registry : Registry} {pool : FramePool}

private theorem Reachable.not_lists_fresh (reachable : w.Reachable anything) :
    ¬ w.kernel.Lists r w.kernel.segments.fresh := by
  intro listed
  obtain ⟨registry, here, id, member⟩ := listed
  have accounts := (reachable.accounted suits_anything).registries here
  simpa using accounts.present _ member

/-- A request for a segment is carried out as a whole or not at all, and a segment is made exactly
if it may be. In every reachable world a request that is refused changes nothing but the log. A
request that gives a listed segment changes nothing, and was for its key, within its size and its
permissions. A segment that is not listed is given exactly if there is all that it takes to make
one, and then the new segment with its identifier and its frames is all that is added. -/
theorem provided_exactly (reachable : w.Reachable anything)
    (here : w.kernel.registries.get? r = some registry)
    (pooled : w.kernel.pools.get? registry.pool = some pool)
    (numbered : 0 ≤ registry.limits.maxId) (bounded : registry.limits.maxTotalPages < wordSize)
    (q : Requester) (asked : SegmentRequest) :
    (∀ cause k', findOrCreate r q asked w.kernel = .error cause k' →
      k'.unlogged = w.kernel.unlogged) ∧
    (∀ s k', findOrCreate r q asked w.kernel = .ok s k' → w.kernel.Lists r s →
      k' = w.kernel ∧ ∃ g, w.kernel.Opens q asked s g) ∧
    ((∃ s k', findOrCreate r q asked w.kernel = .ok s k' ∧ ¬ w.kernel.Lists r s) ↔
      w.kernel.Makeable registry pool asked) ∧
    (∀ s k', findOrCreate r q asked w.kernel = .ok s k' → ¬ w.kernel.Lists r s →
      s = w.kernel.segments.fresh ∧
        ∃ id first, w.kernel.Provided r registry pool q asked id first k') := by
  have accounts := (reachable.accounted suits_anything).registries here
  have ends := @findOrCreate_ends w.kernel r q asked
  have faultless :=
    findOrCreate_faultless here (Option.isSome_iff_exists.mpr ⟨pool, pooled⟩) q asked
  have unlisted := reachable.not_lists_fresh (r := r)
  refine ⟨fun cause k' refused => ?_, fun s k' given listed => ?_, ⟨?_, ?_⟩,
    fun s k' given new => ?_⟩
  · rcases ends.error refused with rfl | rfl | rfl
    · rfl
    · rfl
    · -- A refusal for want of a handle would be a fault.
      exact absurd (faultless.error refused) (List.cons_ne_self _ _)
  · cases ends.ok given with
    | existing _ shared keyed found allowed =>
        exact ⟨rfl, _, opens_of_findByKey? shared keyed found allowed⟩
    | created => exact absurd listed unlisted
  · intro made
    obtain ⟨s, k', given, new⟩ := made
    have wanted := ((lists_or_asked r q asked).ok given).resolve_left new
    cases ends.ok given with
    | existing here' _ keyed => exact absurd ⟨_, here', exists_mem_of_findByKey? keyed⟩ new
    | created c owned _ same =>
        subst owned same
        cases c.registered.symm.trans here
        cases c.pooled.symm.trans pooled
        exact c.makeable accounts numbered wanted
  · intro makeable
    have made := makeable.findOrCreate accounts here pooled numbered bounded q
    cases given : findOrCreate r q asked w.kernel with
    | ok s k' =>
        obtain rfl := made.ok given
        exact ⟨_, k', rfl, unlisted⟩
    | error => exact (made.error given).elim
  · cases ends.ok given with
    | existing here' _ keyed => exact absurd ⟨_, here', exists_mem_of_findByKey? keyed⟩ new
    | created c owned requested same =>
        subst owned requested same
        cases c.registered.symm.trans here
        cases c.pooled.symm.trans pooled
        obtain ⟨first, provided⟩ := c.provided accounts numbered _
        exact ⟨rfl, c.id, first, provided⟩

/-- Of a registry that lists one segment of one page and has room for three more, four pages are
refused, the listed segment is found, and three pages are made into a segment. -/
theorem provided_exactly_rotating :
    let w := ({} : World).follow rotating.dropLast
    let root : Requester := ⟨.superuser .initial, none, none⟩
    let asked (key : Int) (size : Nat) : SegmentRequest := ⟨key, size, 0o600, false, true, false⟩
    w.Reachable anything ∧ ∃ registry pool, w.kernel.registries.get? ⟨0⟩ = some registry ∧
      w.kernel.pools.get? registry.pool = some pool ∧ 0 ≤ registry.limits.maxId ∧
      registry.limits.maxTotalPages < wordSize ∧
      (∃ k', findOrCreate ⟨0⟩ root (asked 7 0x3001) w.kernel = .error .enospc k' ∧
        k'.unlogged = w.kernel.unlogged) ∧
      (findOrCreate ⟨0⟩ root (asked 8 1) w.kernel = .ok ⟨1⟩ w.kernel ∧
        ∃ g, w.kernel.Opens root (asked 8 1) ⟨1⟩ g) ∧
      ∃ k', findOrCreate ⟨0⟩ root (asked 7 0x2001) w.kernel = .ok ⟨2⟩ k' ∧
        ∃ id first, w.kernel.Provided ⟨0⟩ registry pool root (asked 7 0x2001) id first k' := by
  intro w root asked
  have reachable : w.Reachable anything :=
    reachable_follow (by decide +kernel) fun _ _ => trivial
  have present : (w.kernel.registries.get? ⟨0⟩).isSome := by decide +kernel
  have state : ∀ registry ∈ w.kernel.registries.get? ⟨0⟩, registry.pool = ⟨0⟩ ∧
      (registry.limits.minSize = 1 ∧ 0x2001 ≤ registry.limits.maxSize) ∧
      (registry.limits.maxSegments = 2 ∧ registry.limits.maxTotalPages = 4) ∧
      registry.limits.maxId = 1 ∧ registry.table = [(0, ⟨1⟩)] ∧ registry.totalPages = 1 := by
    decide +kernel
  have pooled : w.kernel.pools.get? ⟨0⟩ =
      some ⟨0, [false, false, true] ++ List.replicate 13 false⟩ := by decide +kernel
  have other : w.kernel.keyOf? ⟨1⟩ = some 8 := by decide +kernel
  have fresh : w.kernel.segments.fresh = ⟨2⟩ := by decide +kernel
  have refused : ∃ k', findOrCreate ⟨0⟩ root (asked 7 0x3001) w.kernel = .error .enospc k' := by
    decide +kernel
  have found : ∃ k', findOrCreate ⟨0⟩ root (asked 8 1) w.kernel = .ok ⟨1⟩ k' := by decide +kernel
  obtain ⟨registry, here⟩ := Option.isSome_iff_exists.mp present
  obtain ⟨pool, sizes, ⟨most, total⟩, maxId, table, count⟩ := state registry here
  rw [← pool] at pooled
  have numbered : 0 ≤ registry.limits.maxId := by omega
  have bounded : registry.limits.maxTotalPages < wordSize := by
    rw [total]
    decide
  have exactly := provided_exactly reachable here pooled numbered bounded root
  have makeable : w.kernel.Makeable registry ⟨0, [false, false, true] ++ List.replicate 13 false⟩
      (asked 7 0x2001) := by
    constructor
    case sized => exact ⟨by rw [sizes.1]; decide, sizes.2⟩
    case room => simp [table, most]
    case wanted =>
      refine .inr ⟨rfl, .inr ?_⟩
      simp [table, other, asked]
    case positive => decide
    case word => decide
    case affordable =>
      rw [count, total]
      decide
    case identifier => exact ⟨1, by decide, by rw [maxId], by simp [Registry.find?, table]⟩
    case frames =>
      refine ⟨3, fun frame lower upper => ?_⟩
      have pages : (asked 7 0x2001).pages = 3 := by decide
      rw [pages] at upper
      obtain rfl | rfl | rfl : frame = 3 ∨ frame = 4 ∨ frame = 5 := by omega
      all_goals rfl
  obtain ⟨k₁, refused⟩ := refused
  obtain ⟨k₂, found⟩ := found
  obtain ⟨same, opens⟩ := (exactly (asked 8 1)).2.1 ⟨1⟩ k₂ found
    ⟨registry, here, 0, by simp [table]⟩
  obtain ⟨s, k₃, made, new⟩ := (exactly (asked 7 0x2001)).2.2.1.mpr makeable
  obtain ⟨rfl, provided⟩ := (exactly (asked 7 0x2001)).2.2.2 s k₃ made new
  rw [fresh] at made
  subst same
  exact ⟨reachable, registry, _, here, pooled, numbered, bounded,
    ⟨k₁, refused, (exactly (asked 7 0x3001)).1 _ k₁ refused⟩, ⟨found, opens⟩, k₃, made, provided⟩

end World

end SharedMemory
