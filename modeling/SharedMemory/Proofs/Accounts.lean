import Mathlib.Algebra.GroupWithZero.Nat
import Mathlib.Order.Bounds.Defs
import SharedMemory.Proofs.Registration

/-!
# What registries account for

A registry counts the pages of the segments that it lists. The count goes up when a segment is
made and down when one is destroyed, which may be much later and at the hands of whoever gives
the last reference back. In between the registry stays within its limits, hands out identifiers
from zero to the largest, and lists no key twice.
-/

namespace SharedMemory

/-- The backing is the least whole number of pages that holds the size, and is not empty. -/
structure Segment.Sized (g : Segment) : Prop where
  least : IsLeast {n | PageAligned n ∧ g.size ≤ n} g.effectiveSize
  positive : 0 < g.effectiveSize

private theorem Segment.Sized.evolves {g g' : Segment} (sized : g.Sized) (evolves : g.Evolves g') :
    g'.Sized := by
  constructor
  · rw [evolves.size, evolves.effectiveSize]
    exact sized.least
  · rw [evolves.effectiveSize]
    exact sized.positive

private theorem Segment.Shift.key {g g' : Segment} (shift : g.Shift g') :
    g'.key = g.key ∨ g'.key = privateKey := by
  cases shift with
  | acquire => exact .inl rfl
  | release => exact .inl rfl
  | remove => exact .inr rfl

/-- Rounding up to pages gives the least whole number of pages. -/
theorem isLeast_of_pageUp? {size rounded : Nat} (up : pageUp? size = some rounded) :
    IsLeast {n | PageAligned n ∧ size ≤ n} rounded := by
  obtain ⟨_, aligned, enough, tight⟩ := pageUp?_eq_some_iff.mp up
  refine ⟨⟨aligned, enough⟩, ?_⟩
  rintro n ⟨whole, holds⟩
  simp only [PageAligned, pageSize] at aligned whole tight
  omega

namespace Registry

variable {registry : Registry} {id : Int}

/-- The identifier that comes next is within the limits. -/
theorem succId_mem {maxId : Int} (lower : 0 ≤ id) :
    0 ≤ succId maxId id ∧ succId maxId id ≤ max 0 maxId := by
  unfold succId
  split <;> omega

/-- A search that starts at an identifier ends at one within the limit, or at zero. -/
theorem searchId_mem {steps : Nat} {start : Int} (lower : 0 ≤ start)
    (found : registry.searchId steps start = some id) :
    0 ≤ id ∧ id ≤ max 0 registry.limits.maxId := by
  induction steps generalizing start with
  | zero => cases found
  | succ steps ih =>
      have next : 0 ≤ succId registry.limits.maxId start ∧ _ := succId_mem lower
      simp only [searchId] at found
      split at found
      · cases found
        exact next
      · split at found
        · cases found
        · exact ih next.1 found

end Registry

namespace Kernel

/-- The number of pages of the segment under a handle. -/
def pagesOf (k : Kernel) (s : Handle .segment) : Nat := (k.segments.get? s).elim 0 Segment.pages

/-- The number of pages of the segments that a table lists. -/
def pagesIn (k : Kernel) (table : List (Int × Handle .segment)) : Nat :=
  (table.map fun entry => k.pagesOf entry.2).sum

/-- A registry is right about what it lists, and keeps to its limits. -/
structure Accounts (k : Kernel) (registry : Registry) : Prop where
  present : ∀ entry ∈ registry.table, (k.segments.get? entry.2).isSome
  total : registry.totalPages = k.pagesIn registry.table
  word : registry.totalPages < wordSize
  affordable : registry.totalPages ≤ registry.limits.maxTotalPages
  room : registry.table.length ≤ registry.limits.maxSegments
  last : 0 ≤ registry.limits.maxId →
    0 ≤ registry.lastId ∧ registry.lastId ≤ registry.limits.maxId
  numbered : 0 ≤ registry.limits.maxId →
    ∀ entry ∈ registry.table, 0 ≤ entry.1 ∧ entry.1 ≤ registry.limits.maxId
  keys : ∀ entry ∈ registry.table, ∀ entry' ∈ registry.table,
    k.keyOf? entry.2 = k.keyOf? entry'.2 → k.keyOf? entry.2 = some privateKey ∨ entry = entry'

/-- What every registry accounts for, and how large segments are. No registry ever gave up pages
that it did not count. -/
structure Accounted (k : Kernel) : Prop where
  registries : ∀ {r registry}, k.registries.get? r = some registry → k.Accounts registry
  sized : ∀ {s g}, k.segments.get? s = some g → g.Sized
  counted : .uncounted ∉ k.faults

/-- Every segment is still there with the pages and the key that it had, or has lost its key. -/
def Retains (k k' : Kernel) : Prop :=
  ∀ {s g}, k.segments.get? s = some g → ∃ g', k'.segments.get? s = some g' ∧ g.Evolves g' ∧
    (g'.key = g.key ∨ g'.key = privateKey)

variable {k k' : Kernel} {registry registry' : Registry} {s : Handle .segment} {g g' : Segment}
  {id : Int} {table : List (Int × Handle .segment)}

/-! ## Pages and keys -/

private theorem retains_of_eq (same : k'.segments = k.segments) : k.Retains k' :=
  fun {_ g} found => ⟨g, same ▸ found, .refl g, .inl rfl⟩

private theorem retains_of_set (found : k.segments.get? s = some g) (evolves : g.Evolves g')
    (key : g'.key = g.key ∨ g'.key = privateKey) (placed : k'.segments = k.segments.set s g') :
    k.Retains k' := by
  intro s' g₀ found'
  rw [placed]
  by_cases same : s = s'
  · subst same
    cases found.symm.trans found'
    exact ⟨g', Slots.get?_set_self found g', evolves, key⟩
  · exact ⟨g₀, by rwa [Slots.get?_set_of_ne same], .refl g₀, .inl rfl⟩

private theorem Keeps.retains (keeps : k.Keeps k') : k.Retains k' := by
  intro s g found
  have same := congrArg (·.get? s) keeps.segments
  simp only [Slots.get?_map, found, Option.map_some] at same
  obtain ⟨g', found', core⟩ := Option.map_eq_some_iff.mp same
  exact ⟨g', found', .of_core core, .inl (congrArg (·.key) core)⟩

private theorem Creation.retains (c : Creation k) : k.Retains c.result := by
  intro s g found
  refine ⟨g, ?_, .refl g, .inl rfl⟩
  have old : s ≠ (k.setPool c.registry.pool c.remaining).segments.fresh := Slots.ne_fresh found
  exact (Slots.get?_insert_of_ne old _).trans found

private theorem Retains.pagesOf (retains : k.Retains k') (present : (k.segments.get? s).isSome) :
    k'.pagesOf s = k.pagesOf s := by
  obtain ⟨g, found⟩ := Option.isSome_iff_exists.mp present
  obtain ⟨g', found', evolves, _⟩ := retains found
  simp only [Kernel.pagesOf, found, found', Option.elim_some, Segment.pages, evolves.effectiveSize]

private theorem Retains.keyOf? (retains : k.Retains k') (present : (k.segments.get? s).isSome) :
    k'.keyOf? s = k.keyOf? s ∨ k'.keyOf? s = some privateKey := by
  obtain ⟨g, found⟩ := Option.isSome_iff_exists.mp present
  obtain ⟨g', found', _, key⟩ := retains found
  simpa only [Kernel.keyOf?, found, found', Option.map_some, Option.some.injEq] using key

private theorem pagesIn_perm {table' : List (Int × Handle .segment)} (perm : table.Perm table') :
    k.pagesIn table = k.pagesIn table' :=
  (perm.map _).sum_eq

private theorem pagesIn_cons (entry : Int × Handle .segment) :
    k.pagesIn (entry :: table) = k.pagesOf entry.2 + k.pagesIn table := by
  rw [pagesIn, List.map_cons, List.sum_cons, pagesIn]

/-- The entry of an identifier stands apart from all others. -/
theorem perm_filter_entry (ascending : table.Pairwise (·.1 < ·.1)) (member : (id, s) ∈ table) :
    table.Perm ((id, s) :: table.filter (·.1 ≠ id)) := by
  induction table with
  | nil => cases member
  | cons entry rest ih =>
      obtain ⟨first, others⟩ := List.pairwise_cons.mp ascending
      rcases List.mem_cons.mp member with rfl | later
      · -- No later entry has the identifier, so the filter takes the first entry only.
        have untouched : rest.filter (·.1 ≠ id) = rest :=
          List.filter_eq_self.mpr fun other inside => by
            have := first other inside
            simp only [decide_eq_true_eq]
            omega
        rw [List.filter_cons_of_neg (by simp), untouched]
      · have differs : entry.1 ≠ id := Int.ne_of_lt (first _ later)
        rw [List.filter_cons_of_pos (by simpa using differs)]
        exact ((ih others later).cons entry).trans (.swap _ _ _)

/-! ## What a registry goes through -/

/-- A registry is right about segments that retain what it accounts for. -/
theorem Accounts.congr (accounts : k.Accounts registry) (retains : k.Retains k')
    (same : registry'.core = registry.core) : k'.Accounts registry' := by
  have table : registry'.table = registry.table := congrArg (·.table) same
  have total : registry'.totalPages = registry.totalPages := congrArg (·.totalPages) same
  have limits : registry'.limits = registry.limits := congrArg (·.limits) same
  have last : registry'.lastId = registry.lastId := congrArg (·.lastId) same
  constructor <;> simp only [table, total, limits, last]
  case present =>
    intro entry member
    obtain ⟨g, found⟩ := Option.isSome_iff_exists.mp (accounts.present entry member)
    obtain ⟨g', found', _⟩ := retains found
    rw [found']
    rfl
  case total =>
    rw [accounts.total, pagesIn, pagesIn]
    congr 1
    refine List.map_congr_left fun entry member => ?_
    rw [retains.pagesOf (accounts.present entry member)]
  case word => exact accounts.word
  case affordable => exact accounts.affordable
  case room => exact accounts.room
  case last => exact accounts.last
  case numbered => exact accounts.numbered
  case keys =>
    intro entry member entry' member' equal
    rcases retains.keyOf? (accounts.present entry member) with before | lost
    · rcases retains.keyOf? (accounts.present entry' member') with before' | lost'
      · rw [before] at equal ⊢
        rw [before'] at equal
        exact accounts.keys entry member entry' member' equal
      · exact .inl (equal.trans lost')
    · exact .inl lost

/-- The pages of one segment are a part of the total. -/
theorem Accounts.totalPages_eq (accounts : k.Accounts registry)
    (ascending : registry.table.Pairwise (·.1 < ·.1)) (member : (id, s) ∈ registry.table) :
    registry.totalPages = k.pagesOf s + k.pagesIn (registry.table.filter (·.1 ≠ id)) := by
  rw [accounts.total, pagesIn_perm (perm_filter_entry ascending member), pagesIn_cons]

/-- A segment that is listed is found by its key. -/
theorem Accounts.findByKey? {key : Int} (accounts : k.Accounts registry)
    (member : (id, s) ∈ registry.table) (keyed : k.keyOf? s = some key)
    (shared : key ≠ privateKey) : k.findByKey? registry key = some s := by
  obtain ⟨entry, found⟩ :
      ∃ entry, registry.table.find? (fun entry => k.keyOf? entry.2 = some key) = some entry :=
    Option.isSome_iff_exists.mp
      (List.find?_isSome.mpr ⟨_, member, decide_eq_true keyed⟩)
  have keyed' : k.keyOf? entry.2 = some key := by simpa using List.find?_some found
  have same : entry = (id, s) := by
    rcases accounts.keys entry (List.mem_of_find?_eq_some found) _ member
      (keyed'.trans keyed.symm) with hidden | same
    · exact absurd (Option.some.inj (keyed'.symm.trans hidden)) shared
    · exact same
  rw [Kernel.findByKey?, if_neg shared, found, same]
  rfl

/-- A registry that loses a segment counts its pages no longer. -/
theorem Accounts.unregister (accounts : k.Accounts registry)
    (ascending : registry.table.Pairwise (·.1 < ·.1)) (member : (id, s) ∈ registry.table) :
    k.Accounts (registry.unregister id (k.pagesOf s)) := by
  have less : registry.totalPages - k.pagesOf s ≤ registry.totalPages := Nat.sub_le _ _
  have older {entry} : entry ∈ registry.table.filter (·.1 ≠ id) → entry ∈ registry.table :=
    List.mem_of_mem_filter
  constructor
  case present => exact fun entry inside => accounts.present entry (older inside)
  case total =>
    change registry.totalPages - k.pagesOf s = _
    rw [accounts.totalPages_eq ascending member, Nat.add_sub_cancel_left]
    rfl
  case word => exact less.trans_lt accounts.word
  case affordable => exact less.trans accounts.affordable
  case room => exact (List.length_filter_le _ _).trans accounts.room
  case last => exact accounts.last
  case numbered => exact fun numbered entry inside => accounts.numbered numbered entry (older inside)
  case keys =>
    exact fun entry inside entry' inside' => accounts.keys entry (older inside) entry' (older inside')

/-- The identifier that a registry hands out next is within its limit. -/
theorem Accounts.issued (accounts : k.Accounts registry) (numbered : 0 ≤ registry.limits.maxId)
    (free : registry.nextFreeId? = some id) : 0 ≤ id ∧ id ≤ registry.limits.maxId := by
  have found := Registry.searchId_mem (accounts.last numbered).1 free
  rwa [max_eq_right numbered] at found

/-- A registry that takes a segment in counts its pages, too. -/
theorem Accounts.register (accounts : k.Accounts registry) (present : (k.segments.get? s).isSome)
    (free : registry.nextFreeId? = some id)
    (affordable : registry.totalPages + k.pagesOf s < wordSize ∧
      registry.totalPages + k.pagesOf s ≤ registry.limits.maxTotalPages)
    (room : registry.table.length < registry.limits.maxSegments)
    (unkeyed : ∀ entry ∈ registry.table, k.keyOf? entry.2 = k.keyOf? s →
      k.keyOf? s = some privateKey) :
    k.Accounts (registry.register id s (k.pagesOf s)) := by
  have perm : (Registry.insertEntry id s registry.table).Perm ((id, s) :: registry.table) :=
    Registry.perm_insertEntry (Registry.find?_eq_none_iff.mp (Registry.find?_of_searchId free))
  have entries {entry} : entry ∈ (registry.register id s (k.pagesOf s)).table ↔
      entry = (id, s) ∨ entry ∈ registry.table := by
    rw [Registry.register, perm.mem_iff, List.mem_cons]
  have issued (numbered : 0 ≤ registry.limits.maxId) := accounts.issued numbered free
  constructor
  case present =>
    intro entry inside
    rcases entries.mp inside with rfl | older
    · exact present
    · exact accounts.present entry older
  case total =>
    change registry.totalPages + k.pagesOf s = k.pagesIn (Registry.insertEntry id s registry.table)
    rw [pagesIn_perm perm, pagesIn_cons, accounts.total, Nat.add_comm]
  case word => exact affordable.1
  case affordable => exact affordable.2
  case room =>
    change (Registry.insertEntry id s registry.table).length ≤ _
    rw [perm.length_eq]
    exact room
  case last => exact issued
  case numbered =>
    intro numbered entry inside
    rcases entries.mp inside with rfl | older
    · exact issued numbered
    · exact accounts.numbered numbered entry older
  case keys =>
    intro entry inside entry' inside' equal
    rcases entries.mp inside with rfl | older <;> rcases entries.mp inside' with rfl | older'
    · exact .inr rfl
    · exact .inl (unkeyed entry' older' equal.symm)
    · exact .inl (equal.trans (unkeyed entry older equal))
    · exact accounts.keys entry older entry' older' equal

/-- A new segment has no key, or one that no listed segment has. -/
theorem Creation.unkeyed (c : Creation k) : c.segment.key = privateKey ∨
    ∀ entry ∈ c.registry.table, k.keyOf? entry.2 ≠ some c.segment.key := by
  cases hidden : c.asked.isPrivate with
  | true => exact .inl (if_pos hidden)
  | false =>
      have key : c.segment.key = c.asked.key := if_neg (by simp [hidden])
      have unclaimed := c.unclaimed.resolve_left (by simp [hidden])
      unfold findByKey? at unclaimed
      split at unclaimed
      case isTrue without => exact .inl (key.trans without)
      case isFalse =>
        rw [key]
        exact .inr (by simpa using unclaimed)

/-- A registry is right about a segment that is made in it. -/
theorem Creation.accounts (c : Creation k) (accounts : k.Accounts c.registry) :
    c.result.Accounts (c.registry.register c.id k.segments.fresh (c.length / pageSize)) := by
  have new : c.result.segments.get? k.segments.fresh = some c.segment :=
    Slots.get?_insert_fresh k.segments c.segment
  have pages : c.result.pagesOf k.segments.fresh = c.length / pageSize := by
    rw [pagesOf, new, Option.elim_some, Segment.pages, c.effectiveSize]
  have key : c.result.keyOf? k.segments.fresh = some c.segment.key := by
    rw [keyOf?, new, Option.map_some]
  have retains : k.Retains c.result := c.retains
  rw [← pages]
  refine (accounts.congr retains rfl).register (by rw [new]; rfl) c.free ?_ c.room ?_
  · rw [pages]
    exact c.affordable
  · intro entry member equal
    rw [key] at equal ⊢
    rcases retains.keyOf? (accounts.present entry member) with before | lost
    · rw [before] at equal
      exact congrArg some (c.unkeyed.resolve_right fun none => none entry member equal)
    · exact equal.symm.trans lost

/-! ## The invariant -/

/-- Accounts stay right where segments retain what is accounted for and registries list the same. -/
theorem Accounted.congr (accounted : k.Accounted) (retains : k.Retains k')
    (registries : ∀ {r registry'}, k'.registries.get? r = some registry' →
      ∃ registry, k.registries.get? r = some registry ∧ registry'.core = registry.core)
    (origin : ∀ {s g'}, k'.segments.get? s = some g' →
      ∃ g, k.segments.get? s = some g ∧ g.Evolves g')
    (counted : .uncounted ∈ k'.faults → .uncounted ∈ k.faults) : k'.Accounted where
  registries := by
    intro r registry' here
    obtain ⟨registry, there, same⟩ := registries here
    exact (accounted.registries there).congr retains same
  sized := by
    intro s g' here
    obtain ⟨g, there, evolves⟩ := origin here
    exact (accounted.sized there).evolves evolves
  counted := mt counted accounted.counted

private theorem Accounted.of_eq (accounted : k.Accounted) (segments : k'.segments = k.segments)
    (registries : k'.registries = k.registries)
    (counted : .uncounted ∈ k'.faults → .uncounted ∈ k.faults) : k'.Accounted :=
  accounted.congr (retains_of_eq segments) (fun here => ⟨_, registries ▸ here, rfl⟩)
    (fun here => ⟨_, segments ▸ here, .refl _⟩) counted

private theorem Accounted.keep (accounted : k.Accounted) (keeps : k.Keeps k') : k'.Accounted := by
  refine accounted.congr keeps.retains keeps.registry (fun here => ?_) keeps.counted
  obtain ⟨g, there, core⟩ := keeps.segment here
  exact ⟨g, there, .of_core core⟩

/-- A fault about pages that were not counted comes from a registry that counts fewer pages than
the segment has. -/
theorem uncounted_retire (member : .uncounted ∈ (k.retire s g).faults) :
    .uncounted ∈ k.faults ∨ ∃ registry, k.registries.get? g.registry = some registry ∧
      registry.totalPages < g.pages := by
  have forgotten := (faults_releaseFrames member).resolve_right nofun
  unfold forgetSegment at forgotten
  split at forgotten
  case h_1 registry there =>
    split at forgotten
    case isTrue =>
      simp only [setRegistry, require] at forgotten
      split at forgotten
      · exact .inl forgotten
      · exact .inr ⟨registry, there, by omega⟩
    case isFalse => exact .inl forgotten
  case h_2 => exact .inl forgotten

/-- A registry counts the pages of every segment of it that is not destroyed. -/
theorem Accounted.pages_le (accounted : k.Accounted) (registered : k.Registered)
    (found : k.segments.get? s = some g) (alive : g.destroyed = false)
    (here : k.registries.get? g.registry = some registry) : g.pages ≤ registry.totalPages := by
  have listed := (registered.listed here g.id s).mpr (listing?_of_alive found alive)
  have total := (accounted.registries here).totalPages_eq (registered.ascending here) listed
  rw [pagesOf, found, Option.elim_some] at total
  omega

/-- A segment that is destroyed takes its pages out of the count, which holds them. -/
theorem Accounted.retire (accounted : k.Accounted) (registered : k.Registered)
    (found : k.segments.get? s = some g) (shift : g.Shift g') (alive : g.destroyed = false) :
    (k.retire s g').Accounted := by
  have listing : k.listing? s = some (g'.registry, g'.id) := by
    rw [listing?_of_alive found alive, shift.evolves.registry, shift.evolves.id]
  have listed {registry} (there : k.registries.get? g'.registry = some registry) :
      (g'.id, s) ∈ registry.table := (registered.listed there _ _).mpr listing
  have pages : k.pagesOf s = g'.pages := by
    rw [pagesOf, found, Option.elim_some, Segment.pages, Segment.pages, shift.evolves.effectiveSize]
  have evolves : g.Evolves { g' with destroyed := true } := shift.evolves.trans (.retired g')
  have retains : k.Retains (k.retire s g') := retains_of_set found evolves shift.key segments_retire
  refine ⟨fun {r registry'} here => ?_, fun {s' g''} here => ?_, fun member => ?_⟩
  · rw [get?_registries_retire] at here
    obtain ⟨registry, there, rfl⟩ := Option.map_eq_some_iff.mp here
    split
    case isTrue own =>
      obtain ⟨rfl, _⟩ := own
      rw [← pages]
      exact ((accounted.registries there).unregister (registered.ascending there)
        (listed there)).congr retains rfl
    case isFalse => exact (accounted.registries there).congr retains rfl
  · obtain ⟨g₀, there, evolved⟩ := (segmentsEvolve_retire found shift.evolves).origin here
    exact (accounted.sized there).evolves evolved
  · rcases uncounted_retire member with before | ⟨registry, there, short⟩
    · exact accounted.counted before
    · rw [shift.evolves.registry] at there
      have counted := accounted.pages_le registered found alive there
      rw [Segment.pages, ← shift.evolves.effectiveSize] at counted
      exact absurd short (Nat.not_lt.mpr counted)

/-- Accounts stay right when a segment is made. -/
theorem Accounted.create (accounted : k.Accounted) (c : Creation k) : c.result.Accounted := by
  have placed : c.result.registries = k.registries.set c.owner
      (c.registry.register c.id k.segments.fresh (c.length / pageSize)) := rfl
  refine ⟨fun {r registry'} here => ?_, fun {s g} here => ?_, accounted.counted⟩
  · by_cases owner : c.owner = r
    · subst owner
      rw [placed, Slots.get?_set_self c.registered] at here
      cases here
      exact c.accounts (accounted.registries c.registered)
    · rw [placed, Slots.get?_set_of_ne owner] at here
      exact (accounted.registries here).congr c.retains rfl
  · rcases c.segment_cases here with ⟨_, rfl⟩ | there
    · constructor <;> rw [c.effectiveSize]
      · exact isLeast_of_pageUp? c.rounded
      · exact (FramePool.allocate_eq_ok c.allocated).1
    · exact accounted.sized there

private theorem Accounted.makeRegistry (accounted : k.Accounted) (userNs : UserNamespace)
    (p : Handle .pool) (limits : Limits) (holder : Holder) :
    (k.makeRegistry userNs p limits holder).2.Accounted := by
  have made : ∀ r, (k.makeRegistry userNs p limits holder).2.registries.get? r =
      if r = k.registries.fresh then some (.empty userNs p limits holder)
      else k.registries.get? r := fun r => Slots.get?_insert _ _ _
  refine ⟨fun {r registry} here => ?_, accounted.sized, accounted.counted⟩
  rw [made] at here
  split at here
  · cases here
    have word : 0 < wordSize := by decide
    exact ⟨nofun, rfl, word, Nat.zero_le _, Nat.zero_le _, fun numbered => ⟨Int.le_refl 0, numbered⟩,
      nofun, nofun⟩
  · exact (accounted.registries here).congr (retains_of_eq rfl) rfl

private theorem Accounted.eraseRegistry (accounted : k.Accounted) (r : Handle .registry) :
    (k.eraseRegistry r).Accounted := by
  refine accounted.congr (retains_of_eq rfl) (fun {r' registry'} here => ?_)
    (fun here => ⟨_, here, .refl _⟩) id
  have there : (k.registries.erase r).get? r' = some registry' := here
  exact ⟨registry', Slots.get?_of_erase there, rfl⟩

/-- One development keeps the accounts right. -/
theorem Development.accounted (development : k.Development k') (registered : k.Registered)
    (accounted : k.Accounted) : k'.Accounted := by
  cases development with
  | keep keeps => exact accounted.keep keeps
  | @shift s g g' found shift =>
      rcases settle_cases found g' with ⟨same, _⟩ | ⟨same, alive, _⟩ <;> rw [same]
      · exact accounted.congr (retains_of_set found shift.evolves shift.key rfl)
          (fun here => ⟨_, here, rfl⟩) (segmentsEvolve_of_set found shift.evolves rfl).origin id
      · exact accounted.retire registered found shift (shift.destroyed ▸ alive)
  | create c => exact accounted.create c
  | makePool => exact accounted.of_eq rfl rfl id
  | makeRegistry userNs p limits holder => exact accounted.makeRegistry userNs p limits holder
  | eraseRegistry r => exact accounted.eraseRegistry r

end Kernel

namespace World

open Kernel

variable {w w' : World} {may : Deed → Prop} {allowed : Operation → Prop}

private theorem Development.accounted (development : Development w w')
    (registered : w.kernel.Registered) (accounted : w.kernel.Accounted) : w'.kernel.Accounted := by
  cases development with
  | objects development => exact development.accounted registered accounted
  | lend => exact accounted.of_eq rfl rfl id
  | giveBack =>
      refine accounted.of_eq (objects_releaseFrames _ _).1 (objects_releaseFrames _ _).2.1 ?_
      exact fun member => (faults_releaseFrames member).resolve_right nofun

/-- In every world that is reached the accounts are right. -/
theorem Reachable.accounted (suits : Suits allowed may) (reachable : Reachable allowed w) :
    w.kernel.Accounted := by
  have both := reachable.development suits (fun w => w.kernel.Registered ∧ w.kernel.Accounted)
    (fun development holds =>
      ⟨development.registered holds.1, development.accounted holds.1 holds.2⟩)
    ⟨⟨nofun, nofun, nofun⟩, ⟨nofun, nofun, nofun⟩⟩
  exact both.2

/-- What a registry accounts for. In every reachable world a registry counts exactly the pages of
the segments that it lists, the count is a word, and no registry ever gave up pages that it did
not count. The registry keeps to its limits, and the identifiers that it lists and the one that
it handed out last lie between zero and the largest. A segment is listed under its own
identifier, and has the least whole number of pages that holds its size, at least one. No two
segments are listed with the same key, unless it is the private one. -/
theorem registry_accounts {r : Handle .registry} {registry : Registry}
    (reachable : w.Reachable anything) (found : w.kernel.registries.get? r = some registry)
    (numbered : 0 ≤ registry.limits.maxId) :
    registry.totalPages = (registry.table.map fun entry => w.kernel.pagesOf entry.2).sum ∧
    registry.totalPages < wordSize ∧
    registry.totalPages ≤ registry.limits.maxTotalPages ∧
    registry.table.length ≤ registry.limits.maxSegments ∧
    (0 ≤ registry.lastId ∧ registry.lastId ≤ registry.limits.maxId) ∧
    (∀ id s, (id, s) ∈ registry.table → (0 ≤ id ∧ id ≤ registry.limits.maxId) ∧
      ∃ g, w.kernel.segments.get? s = some g ∧ g.registry = r ∧ g.id = id ∧
        g.pages ≤ registry.totalPages ∧
        IsLeast {n | PageAligned n ∧ g.size ≤ n} g.effectiveSize ∧ 0 < g.effectiveSize) ∧
    (∀ entry ∈ registry.table, ∀ entry' ∈ registry.table, ∀ key, key ≠ privateKey →
      w.kernel.keyOf? entry.2 = some key → w.kernel.keyOf? entry'.2 = some key →
        entry = entry') ∧
    Fault.uncounted ∉ w.kernel.faults := by
  have registered := reachable.registered suits_anything
  have accounted := reachable.accounted suits_anything
  have accounts := accounted.registries found
  refine ⟨accounts.total, accounts.word, accounts.affordable, accounts.room, accounts.last numbered,
    fun id s member => ⟨accounts.numbered numbered _ member, ?_⟩,
    fun entry member entry' member' key shared keyed keyed' => ?_, accounted.counted⟩
  · obtain ⟨g, present, rfl, rfl, _⟩ := registered.segment_of_mem found member
    have pages : w.kernel.pagesOf s = g.pages := by rw [pagesOf, present, Option.elim_some]
    have total := accounts.totalPages_eq (registered.ascending found) member
    exact ⟨g, present, rfl, rfl, by omega, (accounted.sized present).least,
      (accounted.sized present).positive⟩
  · rcases accounts.keys entry member entry' member' (keyed.trans keyed'.symm) with hidden | same
    · exact absurd (Option.some.inj (keyed.symm.trans hidden)) shared
    · exact same

/-- A registry with room for two segments and four pages makes two, and makes another when the
first is removed. -/
def rotating : List Operation :=
  let asked (key : Int) (size : Nat) : SegmentRequest := ⟨key, size, 0o600, false, true, false⟩
  let root : Requester := ⟨.superuser .initial, none, none⟩
  [.makePool 0 16,
    .makeRegistry .initial ⟨0⟩ { maxId := 1, maxSegments := 2, maxTotalPages := 4 } .handle,
    .findOrCreate ⟨0⟩ root (asked 7 0x1001), .findOrCreate ⟨0⟩ root (asked 8 1),
    .markDestroyed ⟨0⟩, .findOrCreate ⟨0⟩ root (asked 7 0x2001)]

/-- The third segment has the identifier and the key of the first. -/
theorem registry_accounts_rotating :
    let w := ({} : World).follow rotating
    w.Reachable anything ∧ ∃ registry, w.kernel.registries.get? ⟨0⟩ = some registry ∧
      0 ≤ registry.limits.maxId ∧ registry.table = [(0, ⟨1⟩), (1, ⟨2⟩)] ∧
      registry.totalPages = 4 ∧ (0 ≤ registry.lastId ∧ registry.lastId ≤ 1) ∧
      (∃ g, w.kernel.segments.get? ⟨2⟩ = some g ∧ g.id = 1 ∧ g.key = 7 ∧ g.pages ≤ 4) ∧
      Fault.uncounted ∉ w.kernel.faults := by
  intro w
  have reachable : w.Reachable anything :=
    reachable_follow (by decide +kernel) fun _ _ => trivial
  have present : (w.kernel.registries.get? ⟨0⟩).isSome := by decide +kernel
  have state : ∀ registry ∈ w.kernel.registries.get? ⟨0⟩, registry.limits.maxId = 1 ∧
      registry.table = [(0, ⟨1⟩), (1, ⟨2⟩)] := by decide +kernel
  have keyed : ∀ g ∈ w.kernel.segments.get? ⟨2⟩, g.key = 7 := by decide +kernel
  have pages : ([(0, ⟨1⟩), (1, ⟨2⟩)].map fun entry : Int × Handle .segment =>
      w.kernel.pagesOf entry.2).sum = 4 := by decide +kernel
  obtain ⟨registry, found⟩ := Option.isSome_iff_exists.mp present
  obtain ⟨maxId, table⟩ := state registry found
  have numbered : 0 ≤ registry.limits.maxId := by omega
  obtain ⟨total, _, _, _, last, segments, _, counted⟩ := registry_accounts reachable found numbered
  rw [table, pages] at total
  rw [maxId] at last
  obtain ⟨_, g, there, _, id, fewer, _⟩ := segments 1 ⟨2⟩ (by simp [table])
  exact ⟨reachable, registry, found, numbered, table, total, last,
    ⟨g, there, id, keyed g there, by omega⟩, counted⟩

end World

end SharedMemory
