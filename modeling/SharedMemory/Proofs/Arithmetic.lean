import SharedMemory.Proofs.Faultless
import SharedMemory.Proofs.Isolation
import SharedMemory.Proofs.Mappings
import SharedMemory.Proofs.Teardown

/-!
# Arithmetic stays within the word

Tasks live in registries and by clocks that are there, registries draw on pools that are there, and
pools end before the word does (`Backdrop.Equipped`). As long as operations on tasks are the only
ones on address spaces, every kernel on the way is in order, and no operation on a task faults,
whatever its arguments are. What else is computed, when an address space is asked or an identifier
is searched for, stays within the word as well (`Kernel.Fits`, `Registry.Fits`).
-/

namespace SharedMemory

/-- Whether an operation is one of a task, or makes, keeps or drops what tasks need, and whatever it
is given is there: memory within the word, limits with identifiers of 32 bits, a range that starts
a page. -/
def Operation.isOrdinary (w : World) : Operation → Bool
  | makeUserNamespace _ _ _ _ => true
  | makePool base frames => decide (PageAligned base ∧ base + frames * pageSize < wordSize)
  | lend p _ => (w.kernel.pools.get? p).isSome
  | giveBack _ _ => true
  | makeRegistry _ p limits _ =>
      decide ((w.kernel.pools.get? p).isSome ∧ limits.maxId < 0x80000000)
  | dropNamespace _ => true
  | makeClock _ => true
  | setClock _ _ => true
  | makeTask _ _ ipc clock range =>
      decide ((w.kernel.registries.get? ipc).isSome ∧ (w.kernel.clocks.get? clock).isSome ∧
        PageAligned range.start)
  | raiseSignal t _ => (w.kernel.tasks.get? t).isSome
  | takeSignal t => (w.kernel.tasks.get? t).isSome
  | o => o.actor?.any fun t => (w.kernel.tasks.get? t).isSome

/-- An operation of a task, or one that provides for tasks. -/
def Operation.Ordinary (w : World) (o : Operation) : Prop := o.isOrdinary w = true

instance (w : World) (o : Operation) : Decidable (o.Ordinary w) :=
  inferInstanceAs (Decidable (o.isOrdinary w = true))

private theorem Operation.Ordinary.present {w : World} {o : Operation} {t : Handle .task}
    (ordinary : o.Ordinary w) (acts : o.actor? = some t) : (w.kernel.tasks.get? t).isSome := by
  cases o with
  | munmap ref =>
      cases ref with
      | alone => cases acts
      | ofTask =>
          cases acts
          exact ordinary
  | _ => cases acts <;> exact ordinary

namespace Area

/-- An area can be cut at a span: the part that goes and the parts that remain are not turned around
and start no earlier than the area, and their offsets are words. -/
structure CutFits (v : Area) (s : Span) : Prop where
  lower : v.span.start ≤ (v.overlap s).start
  upright : (v.overlap s).start ≤ (v.overlap s).stop
  offset : v.overlapOffset s < wordSize
  remains : ∀ w ∈ v.remains s, v.span.start ≤ w.span.start ∧ w.span.start < w.span.stop ∧
    w.mappedBytes.stop < wordSize

private theorem MapsSegment.cutFits {v : Area} {s : Span} (maps : v.MapsSegment)
    (nonempty : v.span.start < v.span.stop) (upright : s.start ≤ s.stop)
    (meets : v.span.Meets s) : v.CutFits s where
  lower := Nat.le_max_left _ _
  upright := by
    have := meets.1
    have := meets.2
    simp only [overlap]
    omega
  offset := Nat.lt_of_le_of_lt (overlapOffset_le meets nonempty) maps.fits
  remains := by
    intro w member
    have inside : w ∈ v.without s := by rwa [without, if_pos meets]
    have part := part_of_mem_without nonempty inside
    refine ⟨part.start, part.nonempty, Nat.lt_of_le_of_lt ?_ maps.fits⟩
    have := part.start
    have := part.stop
    have := part.nonempty
    simp only [mappedBytes, Span.ofSize, Span.size, part.offset]
    omega

end Area

namespace Registry

variable {maxId id : Int}

/-- A registry counts pages in words, and every identifier that its search comes to, one after the
other from the last one on, is a signed number of 32 bits. -/
structure Fits (registry : Registry) : Prop where
  pages : registry.totalPages < wordSize
  ids : ∀ steps, 0 ≤ Nat.iterate (succId registry.limits.maxId) steps registry.lastId ∧
    Nat.iterate (succId registry.limits.maxId) steps registry.lastId < 0x80000000

private theorem iterate_succId_mem (lower : 0 ≤ id) (upper : id ≤ max 0 maxId) (steps : Nat) : 0 ≤
    Nat.iterate (succId maxId) steps id ∧ Nat.iterate (succId maxId) steps id ≤ max 0 maxId := by
  induction steps generalizing id with
  | zero => exact ⟨lower, upper⟩
  | succ steps ih =>
      have next : 0 ≤ succId maxId id ∧ succId maxId id ≤ max 0 maxId := succId_mem lower
      exact ih next.1 next.2

end Registry

namespace Kernel

open KernelM

variable {k k' : Kernel} {t : Handle .task} {task : Task} {b : Backdrop}

/-- What is computed on an address space stays within the word and does not fall below zero, and no
span is turned around: where areas lie and what they map, where they are cut, what is detached and
asked about, where room is found, what a page fault asks for and is told, and where an address
is. -/
structure Fits (k : Kernel) (a : AddressSpace) : Prop where
  range : a.range.start ≤ a.range.stop ∧ a.range.stop < wordSize
  areas : ∀ v ∈ a.areas, a.range.start ≤ v.span.start ∧ v.span.start < v.span.stop ∧
    v.span.stop ≤ a.range.stop ∧ v.mappedBytes.stop < wordSize
  cuts : ∀ v ∈ a.areas, ∀ s : Span, s.start ≤ s.stop → v.span.Meets s → v.CutFits s
  pieces : ∀ object extent, ∀ s ∈ a.piecesWithin object extent, s.start ≤ s.stop
  queries : ∀ address length, address < wordSize →
    address ≤ addSaturating address length ∧ addSaturating address length < wordSize
  room : ∀ hint length start, 0 < length → a.place? hint length = some start →
    start + length < wordSize
  faults : ∀ address access v, a.faultingArea? address access = some v → FaultFits v address ∧
    ∀ l ∈ (k.locate v.object (v.requiredAt address) v.mappedBytes access).1.locations,
      LocationFits v l ∧ l.source.start ≤ l.source.stop
  resolved : ∀ address place, a.resolve? address = some place → place < wordSize

/-! ## What tasks need -/

/-- Whatever tasks and registries need is there, and pools end before the word does. -/
structure Backdrop.Equipped (b : Backdrop) : Prop where
  tasks : ∀ {t task}, b.tasks.get? t = some task → (b.registries.get? task.ipc).isSome ∧
    (b.clocks.get? task.clock).isSome ∧ PageAligned task.space.range.start
  registries : ∀ {r registry}, b.registries.get? r = some registry →
    (b.pools.get? registry.pool).isSome ∧ registry.limits.maxId < 0x80000000
  pools : ∀ {p region}, b.pools.get? p = some region → region.stop < wordSize

namespace Backdrop.Equipped

private theorem insertPool {region : Span} (equipped : b.Equipped) (below : region.stop < wordSize)
    :
    { b with pools := b.pools.insert region }.Equipped where
  tasks := equipped.tasks
  registries := by
    intro r registry here
    obtain ⟨pooled, numbered⟩ := equipped.registries here
    exact ⟨Slots.isSome_get?_insert pooled region, numbered⟩
  pools := by
    intro p region' found
    rcases Slots.get?_of_insert found with ⟨_, rfl⟩ | before
    · exact below
    · exact equipped.pools before

private theorem insertRegistry {registry : Registry} (equipped : b.Equipped)
    (pooled : (b.pools.get? registry.pool).isSome) (numbered : registry.limits.maxId < 0x80000000) :
    { b with registries := b.registries.insert registry }.Equipped where
  tasks := by
    intro t task here
    obtain ⟨registered, rest⟩ := equipped.tasks here
    exact ⟨Slots.isSome_get?_insert registered registry, rest⟩
  registries := by
    intro r registry' found
    rcases Slots.get?_of_insert found with ⟨_, rfl⟩ | before
    · exact ⟨pooled, numbered⟩
    · exact equipped.registries before
  pools := equipped.pools

private theorem moreClocks {clocks : Slots .clock Clock} (equipped : b.Equipped)
    (still : ∀ {h}, (b.clocks.get? h).isSome → (clocks.get? h).isSome) :
    { b with clocks }.Equipped where
  tasks := by
    intro t task here
    obtain ⟨registered, clock, origin⟩ := equipped.tasks here
    exact ⟨registered, still clock, origin⟩
  registries := equipped.registries
  pools := equipped.pools

private theorem insertTask {task : Task} (equipped : b.Equipped)
    (registered : (b.registries.get? task.ipc).isSome) (clock : (b.clocks.get? task.clock).isSome)
    (origin : PageAligned task.space.range.start) :
    { b with tasks := b.tasks.insert task }.Equipped where
  tasks := by
    intro t task' found
    rcases Slots.get?_of_insert found with ⟨_, rfl⟩ | before
    · exact ⟨registered, clock, origin⟩
    · exact equipped.tasks before
  registries := equipped.registries
  pools := equipped.pools

private theorem eraseTask (equipped : b.Equipped) (t : Handle .task) :
    { b with tasks := b.tasks.erase t }.Equipped where
  tasks := fun found => equipped.tasks (Slots.get?_of_erase found)
  registries := equipped.registries
  pools := equipped.pools

/-- A registry goes in whose namespace no task lives. -/
theorem eraseRegistry {r : Handle .registry} (equipped : b.Equipped)
    (empty : ∀ {t task}, b.tasks.get? t = some task → task.ipc ≠ r) :
    { b with registries := b.registries.erase r }.Equipped where
  tasks := by
    intro t task here
    obtain ⟨registered, rest⟩ := equipped.tasks here
    refine ⟨?_, rest⟩
    rwa [Slots.get?_erase_of_ne (empty here).symm]
  registries := fun found => equipped.registries (Slots.get?_of_erase found)
  pools := equipped.pools

end Backdrop.Equipped

private theorem equipped_start : ({} : Kernel).backdrop.Equipped := by
  constructor <;> simp [backdrop, Slots.map, Slots.get?]

private theorem backdrop_releaseAll (r : Handle .registry) :
    (k.releaseAll r).backdrop = k.backdrop := by
  unfold releaseAll
  split
  · exact (immune_backdrop r k.backdrop).markEach (fun _ _ => trivial) rfl
  · rfl

private theorem equipped_collectNamespace (equipped : k.backdrop.Equipped) (r : Handle .registry) :
    (k.collectNamespace r).backdrop.Equipped := by
  unfold collectNamespace
  split
  case h_1 registry here =>
    split
    case isTrue unkept =>
      have erased : ((k.releaseAll r).eraseRegistry r).backdrop =
          { k.backdrop with registries := k.backdrop.registries.erase r } := by
        rw [← backdrop_releaseAll (k := k) r]
        simp only [backdrop, eraseRegistry, Slots.map_erase]
      rw [erased]
      apply equipped.eraseRegistry
      intro t task found own
      simp only [backdrop, Slots.get?_map] at found
      obtain ⟨task', there, rfl⟩ := Option.map_eq_some_iff.mp found
      have peopled : k.hasTaskIn r = true := hasTaskIn_eq_true.mpr ⟨t, task', there, own⟩
      rw [unkept.2] at peopled
      cases peopled
    case isFalse => exact equipped
  case h_2 => exact equipped

private theorem equipped_dropNamespace (equipped : k.backdrop.Equipped) (r : Handle .registry) :
    (k.dropNamespace r).backdrop.Equipped := by
  unfold dropNamespace
  split
  case h_1 registry here =>
    split
    · have same : ({ registry with holder := .ipc false } : Registry).terms = registry.terms := rfl
      have unheld : (k.setRegistry r { registry with holder := .ipc false }).backdrop =
          k.backdrop := by
        simp only [backdrop, setRegistry, Slots.map_set_of_eq here same]
      rw [← unheld] at equipped
      exact equipped_collectNamespace equipped r
    · exact equipped
  case h_2 => exact equipped

private theorem equipped_dropTask (equipped : k.backdrop.Equipped)
    (here : k.tasks.get? t = some task) : (k.dropTask t).backdrop.Equipped := by
  have erased : ({ k with tasks := k.tasks.erase t } : Kernel).backdrop =
      { k.backdrop with tasks := k.backdrop.tasks.erase t } := by
    simp only [backdrop, Slots.map_erase]
  have left := equipped.eraseTask t
  rw [← erased] at left
  have collected := equipped_collectNamespace left task.ipc
  rw [dropTask_eq here]
  rwa [(immune_backdrop task.ipc _).dropSpaceValue (fun _ _ => trivial) rfl]

private theorem get?_backdrop (here : k.tasks.get? t = some task) :
    k.backdrop.tasks.get? t = some task.bare := by
  simp only [backdrop, Slots.get?_map, here, Option.map_some]

/-- The child of a task lives where the task does. -/
theorem equipped_forkTask (equipped : k.backdrop.Equipped) (here : k.tasks.get? t = some task)
    (childPid : Pid) : ((forkTask t childPid).after k).backdrop.Equipped := by
  obtain ⟨registered, clock, origin⟩ := equipped.tasks (get?_backdrop here)
  have copying := (@forkSpaceValue_ends k (k.held + 0) idle task.space
    (mapped_subset_held (space?_ofTask here))).and
      ((immune_backdrop ⟨0⟩ k.backdrop).forkSpaceValue (fun _ _ => trivial) rfl)
  have ends : (forkTask t childPid).Ends k (fun _ k' => k'.backdrop.Equipped)
      (fun _ k' => k'.backdrop.Equipped) := by
    simp only [forkTask, ends_bind, ends_get, here, orStuck, ends_pure, ends_modify, ends_set]
    apply copying.mono
    · intro child k₁ copied
      obtain ⟨⟨rfl, _⟩, same⟩ := copied
      simp only [backdrop, Slots.map_insert]
      rw [← same] at equipped registered clock
      exact equipped.insertTask registered clock origin
    · intro _ k₁ refused
      rw [refused.2]
      exact equipped
  exact ends.after

/-- An ordinary operation leaves whatever tasks need. -/
theorem equipped_apply {w : World} {o : Operation} (ordinary : o.Ordinary w)
    (enabled : o.Enabled w) (equipped : w.kernel.backdrop.Equipped) :
    (o.apply w.kernel).backdrop.Equipped := by
  have immune (r : Handle .registry) := immune_backdrop r w.kernel.backdrop
  have maps (ref : SpaceRef) : w.kernel.MapsOnly ref fun _ => True := fun _ _ _ _ => trivial
  have still {k' : Kernel} (same : k'.backdrop = w.kernel.backdrop) : k'.backdrop.Equipped := by
    rwa [same]
  cases o with
  | makeUserNamespace => exact equipped
  | makePool base frames =>
      have made : w.kernel.require (PageAligned base ∧ base + frames * pageSize < wordSize)
          .arithmetic = w.kernel := if_pos (of_decide_eq_true ordinary)
      have region : (FramePool.free base frames).region = .ofSize base (frames * pageSize) := by
        simp [FramePool.region, FramePool.free]
      simp only [Operation.apply, makePool, made, backdrop, Slots.map_insert, region]
      exact equipped.insertPool (of_decide_eq_true ordinary).2
  | lend p length =>
      have ends : (allocateFrames p length).Ends w.kernel
          (fun _ k' => k'.backdrop = w.kernel.backdrop)
          (fun _ k' => k'.backdrop = w.kernel.backdrop) := by
        apply (allocateFrames_ends p length).mono
        · intro span k' allocated
          obtain ⟨pool, taken, pooled, allocated, rfl⟩ := allocated
          exact (immune ⟨0⟩).emit
            ((immune ⟨0⟩).pool pooled (FramePool.region_of_allocate allocated) rfl)
        · intro _ k' refused
          rcases refused with rfl | rfl
          · rfl
          · rfl
      exact still ends.after
  | giveBack p span => exact still ((immune ⟨0⟩).releaseFrames p span rfl)
  | makeRegistry userNs p limits holder =>
      obtain ⟨there, numbered⟩ := of_decide_eq_true ordinary
      have pooled : (w.kernel.backdrop.pools.get? p).isSome := by
        simpa only [backdrop, Slots.get?_map, Option.isSome_map] using there
      simp only [Operation.apply, makeRegistry, backdrop, Slots.map_insert]
      exact equipped.insertRegistry pooled numbered
  | dropNamespace r => exact equipped_dropNamespace equipped r
  | makeClock c => exact equipped.moreClocks fun clock => Slots.isSome_get?_insert clock c
  | setClock h c => exact equipped.moreClocks fun clock => Slots.isSome_get?_set.trans clock
  | makeTask pid credentials ipc clock range =>
      have bounded : w.kernel.require (range.stop < wordSize) .arithmetic = w.kernel :=
        if_pos enabled.2
      obtain ⟨there, ticking, origin⟩ := of_decide_eq_true ordinary
      have registered : (w.kernel.backdrop.registries.get? ipc).isSome := by
        simpa only [backdrop, Slots.get?_map, Option.isSome_map] using there
      simp only [Operation.apply, makeTask, bounded, backdrop, Slots.map_insert]
      exact equipped.insertTask registered ticking origin
  | raiseSignal t signal => exact still ((immune ⟨0⟩).raiseSignal t signal rfl)
  | takeSignal t => exact still ((immune ⟨0⟩).takeSignal t rfl)
  | forkTask t childPid =>
      obtain ⟨task, here⟩ := Option.isSome_iff_exists.mp ordinary
      exact equipped_forkTask equipped here childPid
  | dropTask t =>
      obtain ⟨task, here⟩ := Option.isSome_iff_exists.mp ordinary
      exact equipped_dropTask equipped here
  | exitTask t => exact still ((immune ⟨0⟩).exitTask t (maps _) rfl)
  | faultTask t address access => exact still ((immune ⟨0⟩).faultTask t address access rfl)
  | munmap ref q address length =>
      exact still ((immune ⟨0⟩).munmap q address length (maps ref) rfl).after
  | shmget t key size flags =>
      obtain ⟨task, here⟩ := Option.isSome_iff_exists.mp ordinary
      have native : ∀ task', w.kernel.tasks.get? t = some task' → task'.ipc = task.ipc := by
        intro task' there
        cases here.symm.trans there
        rfl
      exact still ((immune task.ipc).shmget t key size flags native rfl).after
  | shmat t id address flags =>
      exact still
        ((immune ⟨0⟩).shmat t id address flags (maps _) (fun _ _ _ _ => trivial) rfl).after
  | shmdt t address => exact still ((immune ⟨0⟩).shmdt t address (maps _) rfl).after
  | shmctl t id code buffer =>
      exact still ((immune ⟨0⟩).shmctl t id code buffer (fun _ _ _ _ => trivial) rfl).after
  | _ => cases ordinary

private theorem Backdrop.Equipped.origin (equipped : k.backdrop.Equipped)
    (here : k.tasks.get? t = some task) : PageAligned task.space.range.start :=
  (equipped.tasks (get?_backdrop here)).2.2

/-- A task calls with its clock and the registry of its namespace, whose pool is there. -/
theorem Backdrop.Equipped.calling (equipped : k.backdrop.Equipped)
    (here : k.tasks.get? t = some task) :
    ∃ q registry, k.Calling t task q registry ∧ (k.pools.get? registry.pool).isSome := by
  obtain ⟨registered, clock, _⟩ := equipped.tasks (get?_backdrop here)
  obtain ⟨terms, listed⟩ := Option.isSome_iff_exists.mp registered
  obtain ⟨pooled, _⟩ := equipped.registries listed
  simp only [backdrop, Slots.get?_map, Option.isSome_map] at listed pooled
  obtain ⟨registry, registered, rfl⟩ := Option.map_eq_some_iff.mp listed
  obtain ⟨c, ticking⟩ := Option.isSome_iff_exists.mp clock
  have asking : k.requester? task = some ⟨task.credentials, some task.pid, some c.now⟩ :=
    Option.map_eq_some_iff.mpr ⟨c, ticking, rfl⟩
  exact ⟨_, registry, ⟨here, asking, registered⟩, pooled⟩

/-! ## Identifiers -/

/-- The identifier that a registry handed out last is within its limit, or is zero. -/
def Numbered (k : Kernel) : Prop :=
  ∀ r registry, k.registries.get? r = some registry →
    0 ≤ registry.lastId ∧ registry.lastId ≤ max 0 registry.limits.maxId

private theorem Numbered.congr (numbered : k.Numbered) (same : k'.registries = k.registries) :
    k'.Numbered := by
  intro r registry here
  rw [same] at here
  exact numbered r registry here

/-- One development leaves the last identifier within the limit. -/
theorem Development.numbered (development : k.Development k') (numbered : k.Numbered) :
    k'.Numbered := by
  intro r registry' here
  cases development with
  | keep keeps =>
      obtain ⟨registry, there, core⟩ := keeps.registry here
      have last : registry'.lastId = registry.lastId := congrArg (·.lastId) core
      have limits : registry'.limits = registry.limits := congrArg (·.limits) core
      rw [last, limits]
      exact numbered r registry there
  | @shift s g g' found shift =>
      -- A segment that is settled is at most taken out of its registry.
      have fated : Fated idle r k (k.settle s g') := fated_settle found g'
      rcases fated.origin here with ⟨registry, there, alters⟩ | ⟨_, drawn⟩
      · cases alters with
        | same => exact numbered r _ there
        | unregister => exact numbered r registry there
        | register _ _ _ permitted => cases permitted
        | unhold permitted => cases permitted
      · cases drawn
  | create c =>
      have placed : c.result.registries = k.registries.set c.owner
          (c.registry.register c.id k.segments.fresh (c.length / pageSize)) := rfl
      rw [placed, Slots.get?_set] at here
      split at here
      · obtain ⟨registry, there, rfl⟩ := Option.map_eq_some_iff.mp here
        have issued : 0 ≤ c.id ∧ c.id ≤ max 0 c.registry.limits.maxId :=
          Registry.searchId_mem (numbered _ _ c.registered).1 c.free
        exact issued
      · exact numbered r registry' here
  | makePool => exact numbered r registry' here
  | makeRegistry userNs p limits holder =>
      have made : ((k.registries.insert (.empty userNs p limits holder)).get? r) =
        some registry' := here
      rcases Slots.get?_of_insert made with ⟨_, rfl⟩ | before
      · exact ⟨Int.le_refl 0, le_max_left _ _⟩
      · exact numbered r registry' before
  | eraseRegistry r' =>
      have left : (k.registries.erase r').get? r = some registry' := here
      exact numbered r registry' (Slots.get?_of_erase left)

end Kernel

namespace World

open Kernel KernelM

variable {w : World} {o : Operation} {s : Handle .segment} {g : Segment}

/-- The backing of a segment ends where its pool does or before. -/
theorem Backed.within (backed : w.Backed) (equipped : w.kernel.backdrop.Equipped)
    (found : w.kernel.segments.get? s = some g) (alive : g.destroyed = false) :
    g.backing.start ≤ g.backing.stop ∧ g.backing.stop < wordSize := by
  obtain ⟨pool, pooled, run, _⟩ := backed.isTaken found alive
  have region : w.kernel.backdrop.pools.get? g.pool = some pool.region := by
    simp only [backdrop, Slots.get?_map, pooled, Option.map_some]
  have below := Nat.lt_of_le_of_lt run.inside.2 (equipped.pools region)
  obtain ⟨first, count, _, _, same⟩ := run
  refine ⟨?_, below⟩
  rw [same]
  exact Nat.le_add_right _ _

/-- The memory of what is mapped ends before the word does. -/
theorem Reachable.within_of_mapped {ref : SpaceRef} {a : AddressSpace}
    (reachable : w.Reachable withoutKept) (equipped : w.kernel.backdrop.Equipped)
    (here : w.kernel.space? ref = some a) :
    ∀ v ∈ a.areas, ∀ s g, v.object = .segment s → w.kernel.segments.get? s = some g →
      g.backing.stop < wordSize := by
  intro v member s g object found
  have alive := reachable.alive_of_mapped suits_withoutKept here member object found
  exact ((reachable.backed suits_withoutKept).within equipped found alive).2

private theorem withoutKept_of_ordinary (ordinary : o.Ordinary w) : withoutKept o := by
  cases o with
  | mmap => cases ordinary
  | _ => rfl

/-- What a task does goes without a fault. -/
theorem faults_of_actor {t : Handle .task} {task : Task} (acts : o.actor? = some t)
    (here : w.kernel.tasks.get? t = some task) (reachable : w.Reachable withoutKept)
    (equipped : w.kernel.backdrop.Equipped) : (o.apply w.kernel).faults = w.kernel.faults := by
  have ready := reachable.ready
  have sound : w.Sound w.kernel w.kernel.held :=
    Reachable.sound (reachable.mono fun _ _ => trivial)
  have space := space?_ofTask here
  obtain ⟨q, registry, calling, pooled⟩ := equipped.calling here
  cases o with
  | shmget t' key size flags =>
      cases acts
      exact (shmget_faultless calling pooled key size flags).after
  | shmat t' id address flags =>
      cases acts
      exact (ready.shmat_faultless calling id address flags).after
  | shmdt t' address =>
      cases acts
      exact (ready.shmdt_faultless calling address).after
  | shmctl t' id code buffer =>
      cases acts
      exact (ready.shmctl_faultless calling id code buffer).after
  | munmap ref q address length =>
      cases ref with
      | alone => cases acts
      | ofTask t' =>
          cases acts
          exact (ready.munmap_faultless space q address length).after
  | faultTask t' address access =>
      cases acts
      exact ready.faults_faultTask here (equipped.origin here)
        (reachable.within_of_mapped equipped space) address access
  | forkTask t' childPid =>
      cases acts
      exact (ready.forkTask_faultless here childPid).after
  | exitTask t' =>
      cases acts
      exact sound.faults_exitTask ready.laid here (ready.maps space)
  | dropTask t' =>
      cases acts
      exact sound.faults_dropTask here fun v member => (ready.maps space v member).segment
  | _ => cases acts

/-- What provides for tasks goes without a fault. -/
theorem faults_of_provision (ordinary : o.Ordinary w) (enabled : o.Enabled w)
    (unacted : o.actor? = none) (sound : w.Sound w.kernel w.kernel.held) :
    (o.apply w.kernel).faults = w.kernel.faults := by
  cases o with
  | makeUserNamespace | makeRegistry | makeClock | setClock => rfl
  | makePool base frames =>
      have fits : PageAligned base ∧ base + frames * pageSize < wordSize :=
        of_decide_eq_true ordinary
      simp only [Operation.apply, makePool, require, if_pos fits]
  | lend p length => exact (allocateFrames_faultless ordinary length).after
  | giveBack p span =>
      obtain ⟨pool, pooled⟩ := Option.isSome_iff_exists.mp (sound.backed.lent _ enabled)
      simp only [Operation.apply, releaseFrames, pooled]
      rfl
  | dropNamespace r => exact sound.faults_dropNamespace r
  | makeTask pid credentials ipc clock range =>
      simp only [Operation.apply, makeTask, require, if_pos enabled.2]
  | raiseSignal t signal => exact faults_raiseSignal ordinary signal
  | takeSignal t =>
      obtain ⟨task, here⟩ := Option.isSome_iff_exists.mp ordinary
      simp only [Operation.apply, takeSignal, here]
      rfl
  | munmap ref =>
      cases ref with
      | alone => cases ordinary
      | ofTask => cases unacted
  | forkTask | exitTask | dropTask | faultTask | shmget | shmat | shmdt | shmctl => cases unacted
  | _ => cases ordinary

/-- An ordinary operation goes without a fault. -/
theorem faults_run (ordinary : o.Ordinary w) (enabled : o.Enabled w)
    (reachable : w.Reachable withoutKept) (equipped : w.kernel.backdrop.Equipped) :
    (o.run w).kernel.faults = w.kernel.faults := by
  rw [kernel_run]
  cases acts : o.actor? with
  | some t =>
      obtain ⟨task, here⟩ := Option.isSome_iff_exists.mp (ordinary.present acts)
      exact faults_of_actor acts here reachable equipped
  | none =>
      have sound : w.Sound w.kernel w.kernel.held :=
        Reachable.sound (reachable.mono fun _ _ => trivial)
      exact faults_of_provision ordinary enabled acts sound

/-- After ordinary operations whatever tasks need is there, and nothing went wrong. -/
theorem Path.faultless (path : Path Operation.Ordinary {} w) :
    w.Reachable withoutKept ∧ w.kernel.backdrop.Equipped ∧ w.kernel.faults = [] := by
  induction path with
  | refl => exact ⟨.refl, equipped_start, rfl⟩
  | tail before ordinary enabled ih =>
      obtain ⟨reachable, equipped, none⟩ := ih
      refine ⟨reachable.tail (withoutKept_of_ordinary ordinary) enabled, ?_, ?_⟩
      · rw [kernel_run]
        exact equipped_apply ordinary enabled equipped
      · exact (faults_run ordinary enabled reachable equipped).trans none

/-- In every world that is reached the last identifier is within the limit. -/
theorem Reachable.numbered (reachable : w.Reachable anything) : w.kernel.Numbered := by
  apply reachable.development suits_anything fun w => w.kernel.Numbered
  · intro w w' development numbered
    cases development with
    | objects development => exact development.numbered numbered
    | lend => exact numbered.congr rfl
    | giveBack => exact numbered.congr (objects_releaseFrames _ _).2.1
  · intro r registry here
    simp [Slots.get?] at here

/-! ## What is computed -/

/-- In a world that was reached without kept requests, what is computed on an address space stays
within the word. -/
theorem Reachable.fits {ref : SpaceRef} {a : AddressSpace} (reachable : w.Reachable withoutKept)
    (equipped : w.kernel.backdrop.Equipped) (here : w.kernel.space? ref = some a)
    (origin : PageAligned a.range.start) : w.kernel.Fits a := by
  have ready := reachable.ready
  have laid := ready.laid.spaces here
  have tidy := laid.tidy origin
  have maps := ready.maps here
  have backed := reachable.within_of_mapped equipped here
  constructor
  case range => exact ⟨laid.range, laid.bounded⟩
  case areas =>
    intro v member
    obtain ⟨start, stop⟩ := tidy.inside v member
    exact ⟨start, laid.nonempty v member, stop, (maps v member).fits⟩
  case cuts =>
    intro v member s upright meets
    exact (maps v member).cutFits (laid.nonempty v member) upright meets
  case pieces => exact fun object extent s piece => upright_of_mem_piecesWithin laid.toOrdered piece
  case queries =>
    intro address length word
    simp only [addSaturating, maxWord]
    omega
  case room =>
    intro hint length start positive placed
    exact Nat.lt_of_le_of_lt (laid.place?_below laid.below positive placed) laid.bounded
  case faults =>
    intro address access v faulting
    obtain ⟨member, holds⟩ := AddressSpace.areaAt?_eq_some (Option.filter_eq_some_iff.mp faulting).1
    obtain ⟨s, object⟩ := (maps v member).segment
    obtain ⟨g, present⟩ := ready.segment here member object
    have below := Nat.lt_of_le_of_lt (laid.below v member) laid.bounded
    refine ⟨ready.faultFits here origin member holds, fun l located => ?_⟩
    simp only [object, locate, present] at located
    exact locationFits located below (backed v member s g object present)
  case resolved =>
    intro address place resolved
    obtain ⟨page, established, rfl⟩ := Option.map_eq_some_iff.mp resolved
    have member := AddressSpace.mem_pages_of_page? established
    obtain ⟨v, inside, shows⟩ := (reachable.faithful _ _ here origin).shown _ member
    obtain ⟨s, g, object, found, frame, within⟩ := shows.located
    have frame : page.frame = g.backing.start + v.offsetAt (pageDown address) := frame
    have within : v.offsetAt (pageDown address) + pageSize ≤ g.backing.stop - g.backing.start :=
      within
    have word := backed v inside s g object found
    have last := lt_pageDown_add address
    have positive : 0 < pageSize := by decide
    omega

/-- No argument makes arithmetic leave the word. Take any run of system calls, unmappings, page
faults, forks and exits of tasks, with any arguments, in registries with any limits, where the range
of each task starts a page and ends anywhere in the word. Then nothing goes wrong in any of these
operations: no sum or difference that they compute leaves the word or falls below zero, no span is
turned around, and no reference is given back that is not counted. And whatever is computed next on
the address space of a task and in a registry stays within the word, too. -/
theorem arithmetic_within_word (path : Path Operation.Ordinary {} w) :
    w.kernel.faults = [] ∧
    (∀ t task, w.kernel.tasks.get? t = some task → w.kernel.Fits task.space) ∧
    (∀ r registry, w.kernel.registries.get? r = some registry → registry.Fits) ∧
    ∀ s g, w.kernel.segments.get? s = some g →
      g.attachCount = w.kernel.referencesTo (.segment s) ∧
      (g.destroyed = false → g.backing.start ≤ g.backing.stop ∧ g.backing.stop < wordSize) := by
  obtain ⟨reachable, equipped, faultless⟩ := path.faultless
  refine ⟨faultless, ?_, ?_, ?_⟩
  · intro t task here
    exact reachable.fits equipped (space?_ofTask here) (equipped.origin here)
  · intro r registry here
    have any : w.Reachable anything := reachable.mono fun _ _ => trivial
    have terms : w.kernel.backdrop.registries.get? r = some registry.terms := by
      simp only [backdrop, Slots.get?_map, here, Option.map_some]
    have limited : registry.limits.maxId < 0x80000000 := (equipped.registries terms).2
    refine ⟨((any.accounted suits_anything).registries here).word, fun steps => ?_⟩
    obtain ⟨lower, upper⟩ := any.numbered r registry here
    have bounds := Registry.iterate_succId_mem lower upper steps
    omega
  · intro s g found
    refine ⟨reachable.attachCount suits_withoutKept found, fun alive => ?_⟩
    exact (reachable.backed suits_withoutKept).within equipped found alive

/-- Memory and a range that end with the word, and limits that allow anything. A task asks for as
much as a word can count, attaches a segment at the end of its range, and once more too close to the
end, touches its last page, cuts a hole into it, has a child and asks to unmap everything from an
address on. It touches an address that is not mapped, and exits. -/
def extreme : List Operation :=
  let root : Requester := ⟨.superuser .initial, none, none⟩
  [.makePool 0xffffffffffff0000 15, .makeRegistry .initial ⟨0⟩
      { minSize := 0, maxSize := maxWord, maxTotalPages := maxWord, maxId := -1 } (.ipc true),
    .makeClock ⟨0⟩, .makeTask 1 (.superuser .initial) ⟨0⟩ ⟨0⟩ ⟨0x10000, maxWord⟩,
    .shmget ⟨0⟩ privateKey maxWord ⟨0o600⟩, .shmget ⟨0⟩ privateKey 0x2fff ⟨0o600⟩,
    .shmat ⟨0⟩ 0 0xffffffffffffc000 ⟨0⟩, .shmat ⟨0⟩ 0 0xffffffffffffd000 ⟨0o40000⟩,
    .faultTask ⟨0⟩ 0xffffffffffffefff .readOnly,
    .munmap (.ofTask ⟨0⟩) root 0xffffffffffffd000 1, .forkTask ⟨0⟩ 2,
    .munmap (.ofTask ⟨0⟩) root 0xfffffffffffff000 maxWord, .faultTask ⟨1⟩ maxWord .readOnly,
    .exitTask ⟨1⟩]

/-- Nothing goes wrong. What is left of the attachment ends with the last page of the range, and its
last byte is where the segment ends. -/
theorem arithmetic_within_word_extreme :
    let w := ({} : World).follow extreme
    Path Operation.Ordinary {} w ∧ w.kernel.faults = [] ∧
      ∃ task, w.kernel.tasks.get? ⟨0⟩ = some task ∧ w.kernel.Fits task.space ∧
        task.space.areas.map (·.span) = [⟨0xffffffffffffc000, 0xffffffffffffd000⟩,
          ⟨0xffffffffffffe000, 0xfffffffffffff000⟩] ∧
        task.space.resolve? 0xffffffffffffefff = some 0xffffffffffff2fff := by
  intro w
  have path : Path Operation.Ordinary {} w := Path.refl.follow (by decide +kernel)
  obtain ⟨faultless, spaces, _⟩ := arithmetic_within_word path
  have state : (w.kernel.tasks.get? ⟨0⟩).map (fun task =>
      (task.space.areas.map (·.span), task.space.resolve? 0xffffffffffffefff)) =
      some ([⟨0xffffffffffffc000, 0xffffffffffffd000⟩, ⟨0xffffffffffffe000, 0xfffffffffffff000⟩],
        some 0xffffffffffff2fff) := by decide +kernel
  obtain ⟨task, here, seen⟩ := Option.map_eq_some_iff.mp state
  obtain ⟨areas, last⟩ := Prod.mk.inj seen
  exact ⟨path, faultless, task, here, spaces _ task here, areas, last⟩

end World

end SharedMemory
