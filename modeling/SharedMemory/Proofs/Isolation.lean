import SharedMemory.Proofs.Exit
import SharedMemory.Proofs.Immunity
import SharedMemory.Proofs.Integrity
import SharedMemory.Proofs.Lineage

/-!
# IPC namespaces are isolated

An operation of a task works on what the task maps and on the registry of its namespace. What a
task maps it has attached itself or has from its parent, so it maps segments of its own namespace
only (`Kernel.Domestic`). Whatever tasks of other namespaces do then leaves a registry and its
segments as they are (`Kernel.Confined`), and a page that a task sees is a page of a segment of its
own namespace.
-/

namespace SharedMemory

/-- A task comes into being by an operation: it is made with nothing mapped, or it is the child of a
task, with the mappings of its parent and without the pages. -/
inductive Operation.Begets (k : Kernel) : Operation → Task → Prop
  | made {pid credentials ipc clock range} :
      Begets k (.makeTask pid credentials ipc clock range)
        ⟨pid, credentials, ipc, clock, .empty range, 0, none⟩
  | forked {t childPid parent} (found : k.tasks.get? t = some parent) :
      Begets k (.forkTask t childPid)
        ⟨childPid, parent.credentials, parent.ipc, parent.clock, { parent.space with pages := [] },
          0, none⟩

namespace Kernel

open KernelM

variable {k k' : Kernel} {t : Handle .task} {task' : Task}

/-! ## Where tasks come from -/

/-- A task was there before, or came into being by the operation. -/
def Descends (k : Kernel) (o : Operation) (t : Handle .task) (task' : Task) : Prop :=
  (∃ task, k.tasks.get? t = some task ∧ task'.bare = task.bare) ∨ o.Begets k task'

private theorem descends_of_backdrop {o : Operation} (same : k'.backdrop = k.backdrop)
    (here : k'.tasks.get? t = some task') : k.Descends o t task' := by
  obtain ⟨task, found, bare⟩ := task_of_backdrop same.symm here
  exact .inl ⟨task, found, bare.symm⟩

private theorem descends_of_holderPart {o : Operation} (same : k'.holderPart = k.holderPart)
    (here : k'.tasks.get? t = some task') : k.Descends o t task' := by
  have tasks : k'.tasks = k.tasks := congrArg (·.tasks) same
  exact .inl ⟨task', tasks ▸ here, rfl⟩

private theorem descends_forkTask {t₀ : Handle .task} {childPid : Pid}
    (here : ((forkTask t₀ childPid).after k).tasks.get? t = some task') :
    k.Descends (.forkTask t₀ childPid) t task' := by
  have ends : (forkTask t₀ childPid).Ends k
      (fun _ k' => ∀ task', k'.tasks.get? t = some task' →
        k.Descends (.forkTask t₀ childPid) t task')
      (fun _ k' => ∀ task', k'.tasks.get? t = some task' →
        k.Descends (.forkTask t₀ childPid) t task') := by
    simp only [forkTask, ends_bind, ends_get, ends_orStuck, ends_modify, ends_set, ends_pure]
    refine ⟨fun task found => ?_, fun _ task' here => descends_of_holderPart rfl here⟩
    have own : task.space.mapped ⊆ k.held + 0 := mapped_subset_held (space?_ofTask found)
    have copying : (forkSpaceValue task.space).Ends k
        (fun child k' => child = { task.space with pages := [] } ∧
          Changes idle k (k.held + 0) k' (task.space.mapped + (k.held + 0)))
        (fun _ k' => Changes idle k (k.held + 0) k' (k.held + 0)) :=
      forkSpaceValue_ends task.space own
    refine copying.mono (fun child k' copied task' here => ?_) fun _ k' refused task' here =>
      descends_of_holderPart refused.holderPart here
    obtain ⟨rfl, copied⟩ := copied
    have tasks : (k'.emit (.forked task.pid childPid)).tasks = k.tasks :=
      congrArg (·.tasks) copied.holderPart
    rw [tasks] at here
    rcases Slots.get?_of_insert here with ⟨_, rfl⟩ | before
    · exact .inr (.forked found)
    · exact .inl ⟨task', before, rfl⟩
  exact ends.after task' here

private theorem descends_of_changes {o : Operation} (changes : Changes (fun _ => True) k 0 k' 0)
    (here : k'.tasks.get? t = some task') : k.Descends o t task' :=
  descends_of_holderPart changes.holderPart here

/-- A request that results is kept beside the backdrop. -/
theorem backdrop_keeping {x : KernelM MapRequest} {b : Backdrop}
    (ends : x.Ends k (fun _ k' => k'.backdrop = b) (fun _ k' => k'.backdrop = b)) :
    ((x >>= fun m => modify fun k => (k.keepRequest m).2).after k).backdrop = b := by
  have keeps : (x >>= fun m => modify fun k => (k.keepRequest m).2).Ends k
      (fun _ k' => k'.backdrop = b) (fun _ k' => k'.backdrop = b) := by
    simp only [ends_bind, ends_modify]
    exact ends
  exact keeps.after

/-- Every task comes from one that was there before the operation. -/
theorem descends_apply (o : Operation) (here : (o.apply k).tasks.get? t = some task') :
    k.Descends o t task' := by
  have immune (r : Handle .registry) := immune_backdrop r k.backdrop
  have maps (ref : SpaceRef) (k : Kernel) : k.MapsOnly ref fun _ => True := fun _ _ _ _ => trivial
  cases o with
  | makeUserNamespace | makeRegistry | makeWindow | editRequest | makeClock | setClock =>
      exact .inl ⟨task', here, rfl⟩
  | makePool base frames => exact descends_of_changes (changes_makePool base frames) here
  | lend p length =>
      have ends : (allocateFrames p length).Ends k (fun _ k' => k'.holderPart = k.holderPart)
          (fun _ k' => k'.holderPart = k.holderPart) := by
        unfold allocateFrames
        refine .get_bind (.orStuck_bind rfl fun pool pooled => ?_)
        exact .ofExcept_bind (fun _ _ => rfl) fun taken allocated => .set_bind (ends_pure.mpr rfl)
      exact descends_of_holderPart ends.after here
  | giveBack p span => exact descends_of_holderPart (holderPart_releaseFrames _ _) here
  | findOrCreate r q asked =>
      exact descends_of_backdrop ((immune r).findOrCreate q asked rfl).after here
  | releaseAll r =>
      exact descends_of_changes (changes_releaseAll r fun _ _ => trivial) here
  | dropRegistry r => exact descends_of_changes (changes_dropRegistry r trivial) here
  | dropNamespace r =>
      exact descends_of_changes (changes_dropNamespace r trivial fun _ _ _ => trivial) here
  | attach s q address mode =>
      have attached := (immune ⟨0⟩).attach s q address mode trivial rfl
      exact descends_of_backdrop (backdrop_keeping (attached.mono (fun _ _ done => done.2.2)
        fun _ _ refused => refused)) here
  | setOwner s q uid gid mode =>
      exact descends_of_backdrop ((immune ⟨0⟩).setSegmentOwner s q uid gid mode trivial rfl).after
        here
  | markDestroyed s => exact descends_of_holderPart (holderPart_markDestroyed s) here
  | notifyAdded q object span offset =>
      exact descends_of_backdrop ((immune ⟨0⟩).notifyAdded q span offset trivial rfl).after here
  | notifyRemoved q object span offset =>
      exact descends_of_backdrop ((immune ⟨0⟩).notifyRemoved q span offset trivial rfl) here
  | notifyCopied object span offset =>
      exact descends_of_backdrop ((immune ⟨0⟩).notifyCopied object span offset rfl).after here
  | locate object required optional access =>
      exact descends_of_backdrop ((immune ⟨0⟩).locate object required optional access rfl) here
  | requestWindow window =>
      have requested : (windowRequest window).Ends k (fun _ k' => k'.backdrop = k.backdrop)
          (fun _ k' => k'.backdrop = k.backdrop) := by
        simp only [windowRequest, ends_bind, ends_get, ends_orStuck, ends_modify, ends_pure]
        exact ⟨fun _ _ => (immune ⟨0⟩).acquire trivial rfl, fun _ => rfl⟩
      exact descends_of_backdrop (backdrop_keeping requested) here
  | cloneRequest m =>
      exact descends_of_backdrop ((immune ⟨0⟩).acquire trivial rfl) here
  | dropRequest h =>
      refine descends_of_backdrop ?_ here
      simp only [Operation.apply, dropRequest]
      split
      · exact (immune ⟨0⟩).release trivial rfl
      · rfl
  | cloneReference object => exact descends_of_backdrop ((immune ⟨0⟩).acquire trivial rfl) here
  | dropReference h =>
      refine descends_of_backdrop ?_ here
      simp only [Operation.apply, dropReference]
      split
      · exact (immune ⟨0⟩).release trivial rfl
      · rfl
  | emptyJournal window => exact descends_of_changes (changes_emptyJournal window) here
  | makeSpace range => exact descends_of_holderPart (holderPart_require _ _) here
  | mmap ref q h =>
      have ends : (mmapKept ref q h).Ends k (fun _ k' => k'.backdrop = k.backdrop)
          (fun _ k' => k'.backdrop = k.backdrop) := by
        simp only [mmapKept, takeRequest, ends_bind, ends_get, ends_orStuck, ends_set, ends_pure]
        exact ⟨fun m _ => (immune ⟨0⟩).mmap q (maps ref _) trivial rfl, fun _ => rfl⟩
      exact descends_of_backdrop ends.after here
  | munmap ref q address length =>
      exact descends_of_backdrop ((immune ⟨0⟩).munmap q address length (maps ref k) rfl).after here
  | detach ref q address =>
      exact descends_of_backdrop ((immune ⟨0⟩).detach q address (maps ref k) rfl).after here
  | unmapAll ref q => exact descends_of_backdrop ((immune ⟨0⟩).unmapAll q (maps ref k) rfl) here
  | forkSpace ref =>
      have ends : (forkSpace ref).Ends k (fun _ k' => k'.backdrop = k.backdrop)
          (fun _ k' => k'.backdrop = k.backdrop) := by
        simp only [forkSpace, ends_bind, ends_get, ends_orStuck, ends_set, ends_pure]
        exact ⟨fun a _ => (immune ⟨0⟩).forkSpaceValue (fun _ _ => trivial) rfl, fun _ => rfl⟩
      exact descends_of_backdrop ends.after here
  | faultSpace ref address access =>
      exact descends_of_backdrop ((immune ⟨0⟩).faultSpace ref address access rfl) here
  | dropSpace id =>
      refine descends_of_backdrop ?_ here
      simp only [Operation.apply, dropSpace]
      split
      · exact (immune ⟨0⟩).dropSpaceValue (fun _ _ => trivial) rfl
      · rfl
  | makeTask pid credentials ipc clock range =>
      simp only [Operation.apply, makeTask] at here
      rcases Slots.get?_of_insert here with ⟨_, rfl⟩ | before
      · exact .inr .made
      · exact .inl ⟨task', before, rfl⟩
  | forkTask t₀ childPid => exact descends_forkTask here
  | exitTask t₀ => exact descends_of_backdrop ((immune ⟨0⟩).exitTask t₀ (maps _ k) rfl) here
  | dropTask t₀ =>
      cases found : k.tasks.get? t₀ with
      | none =>
          simp only [Operation.apply, dropTask, found] at here
          exact .inl ⟨task', here, rfl⟩
      | some task =>
          have tasks : (k.dropTask t₀).tasks = k.tasks.erase t₀ :=
            congrArg (·.tasks) (holderPart_dropTask found)
          simp only [Operation.apply, tasks] at here
          exact .inl ⟨task', Slots.get?_of_erase here, rfl⟩
  | faultTask t₀ address access =>
      exact descends_of_backdrop ((immune ⟨0⟩).faultTask t₀ address access rfl) here
  | raiseSignal t₀ signal =>
      exact descends_of_backdrop ((immune ⟨0⟩).raiseSignal t₀ signal rfl) here
  | takeSignal t₀ => exact descends_of_backdrop ((immune ⟨0⟩).takeSignal t₀ rfl) here
  | shmget t₀ key size flags =>
      obtain ⟨r, native⟩ : ∃ r, ∀ task, k.tasks.get? t₀ = some task → task.ipc = r := by
        cases k.tasks.get? t₀ with
        | none =>
            refine ⟨⟨0⟩, fun _ missing => ?_⟩
            cases missing
        | some task => exact ⟨task.ipc, fun _ same => congrArg (·.ipc) (Option.some.inj same).symm⟩
      exact descends_of_backdrop ((immune r).shmget t₀ key size flags native rfl).after here
  | shmat t₀ id address flags =>
      exact descends_of_backdrop ((immune ⟨0⟩).shmat t₀ id address flags (maps _ k)
        (fun _ _ _ _ => trivial) rfl).after here
  | shmdt t₀ address =>
      exact descends_of_backdrop ((immune ⟨0⟩).shmdt t₀ address (maps _ k) rfl).after here
  | shmctl t₀ id code buffer =>
      exact descends_of_backdrop ((immune ⟨0⟩).shmctl t₀ id code buffer (fun _ _ _ _ => trivial)
        rfl).after here

/-! ## What pages present -/

variable {refs refs' : Multiset Object} {may : Deed → Prop} {a : AddressSpace} {v w : Area}
  {address : Nat} {page : Page} {span : Span} {ref : SpaceRef}

/-- A page in an area that maps a segment is where the segment's backing has what the area maps
there. -/
structure Presents (k : Kernel) (v : Area) (address : Nat) (page : Page) : Prop where
  holds : v.span.Contains address
  segment : ∀ s, v.object = .segment s → ∃ g, k.segments.get? s = some g ∧
    page.frame = g.backing.start + v.offsetAt address ∧ v.offsetAt address < g.effectiveSize

/-- Every page is presented by an area. -/
def Presented (k : Kernel) : Prop :=
  ∀ ref a, k.space? ref = some a → ∀ entry ∈ a.pages, ∃ v ∈ a.areas, k.Presents v entry.1 entry.2

private theorem Presents.evolves (presents : k.Presents v address page) (evolves : k.Evolves k') :
    k'.Presents v address page where
  holds := presents.holds
  segment := by
    intro s object
    obtain ⟨g, found, frame, inside⟩ := presents.segment s object
    obtain ⟨g', found', evolved⟩ := evolves found
    refine ⟨g', found', ?_, ?_⟩
    · rw [evolved.backing]
      exact frame
    · rw [evolved.effectiveSize]
      exact inside

private theorem Presents.part (presents : k.Presents v address page) (part : w.Part v)
    (holds : w.span.Contains address) : k.Presents w address page where
  holds := holds
  segment := by
    intro s object
    rw [part.offsetAt holds.1]
    exact presents.segment s (part.object.symm.trans object)

/-- The pages of what a segment located are where the segment has them. -/
theorem presents_of_mem_pagesOf {l : Location} {entry : Nat × Page} (located : k.Locates v [l])
    (nonempty : v.span.start < v.span.stop) (member : entry ∈ v.pagesOf l) :
    k.Presents v entry.1 entry.2 where
  holds := ((located.spans l (List.mem_singleton_self l)).mem_pagesOf nonempty member).1
  segment := by
    intro s object
    obtain ⟨g, found, source, place⟩ := located.segment l (List.mem_singleton_self l) s object
    obtain ⟨i, bound, rfl⟩ := List.mem_map.mp member
    have start : l.source.start = v.offset := by
      simp [source, Span.inter, Area.mappedBytes, Span.ofSize]
    have stop : l.source.stop = max v.offset (min (v.offset + v.span.size) g.effectiveSize) := by
      simp [source, Span.inter, Area.mappedBytes, Span.ofSize]
    have offset : v.offsetAt (v.addressOf l + i * pageSize) = v.offset + i * pageSize := by
      rw [Area.offsetAt, Area.addressOf, start]
      omega
    rw [List.mem_range, Location.pageCount, Span.size, start, stop] at bound
    refine ⟨g, found, ?_, ?_⟩
    · rw [offset, place, start, Nat.add_assoc]
    · rw [offset]
      simp only [pageSize] at *
      omega

private theorem presented_establishAll {ls : List Location}
    (presented : ∀ entry ∈ a.pages, ∃ v ∈ a.areas, k.Presents v entry.1 entry.2)
    (ordered : a.Ordered) (member : v ∈ a.areas) (located : k.Locates v ls) :
    ∀ entry ∈ (a.establishAll v ls).pages,
      ∃ v' ∈ (a.establishAll v ls).areas, k.Presents v' entry.1 entry.2 := by
  induction ls generalizing a with
  | nil => exact presented
  | cons l rest ih =>
      have here : k.Locates v [l] := located.mono (by simp)
      have later : k.Locates v rest := located.mono (by simp)
      refine ih (a := a.establish v l) (fun entry inside => ?_)
        ⟨ordered.range, ordered.ascending, ordered.nonempty⟩ member later
      rcases List.mem_append.mp inside with new | old
      · exact ⟨v, member, presents_of_mem_pagesOf here (ordered.nonempty v member) new⟩
      · exact presented entry (List.mem_filter.mp old).1

private theorem Presented.setSpace {a' : AddressSpace} (presented : k.Presented)
    (found : k.space? ref = some a)
    (new : ∀ entry ∈ a'.pages, ∃ v ∈ a'.areas, k.Presents v entry.1 entry.2) :
    (k.setSpace a' ref).Presented := by
  have same : (k.setSpace a' ref).segments = k.segments :=
    segments_congr (objectPart_setSpace a' ref)
  intro ref' b found' entry member
  have all : ∀ ref' b, (k.setSpace a' ref).space? ref' = some b →
      ∀ entry ∈ b.pages, ∃ v ∈ b.areas, k.Presents v entry.1 entry.2 :=
    forall_setSpace found presented new
  obtain ⟨v, inside, presents⟩ := all ref' b found' entry member
  exact ⟨v, inside, presents.evolves (segmentsEvolve_of_eq same).evolves⟩

/-- One turn leaves every page presented. -/
theorem Turn.presented (turn : Turn may k refs k' refs') (laid : k.Laid)
    (presented : k.Presented) : k'.Presented := by
  cases turn with
  | change change =>
      intro ref a found entry member
      rw [space?_congr change.holderPart] at found
      obtain ⟨v, inside, presents⟩ := presented ref a found entry member
      exact ⟨v, inside, presents.evolves change.evolves⟩
  | unmap found =>
      have ordered := (laid.spaces found).toOrdered
      apply presented.setSpace found
      intro entry member
      obtain ⟨old, kept⟩ := List.mem_filter.mp member
      obtain ⟨v, inside, presents⟩ := presented _ _ found entry old
      obtain ⟨w, remains, holds⟩ :=
        Area.exists_mem_without_of_contains presents.holds (of_decide_eq_true kept)
      have part := Area.part_of_mem_without (ordered.nonempty v inside) remains
      exact ⟨w, AddressSpace.mem_areas_unmap.mpr ⟨v, inside, remains⟩, presents.part part holds⟩
  | map found mappable =>
      have ordered := (laid.spaces found).toOrdered
      apply presented.setSpace found
      intro entry member
      obtain ⟨v, inside, presents⟩ := presented _ _ found entry member
      exact ⟨v, (ordered.mem_areas_map mappable.room mappable.nonempty).mpr (.inr inside), presents⟩
  | establish found member located =>
      exact presented.setSpace found (presented_establishAll (presented _ _ found)
        (laid.spaces found).toOrdered member located)
  | rehold same _ origin =>
      intro ref a found entry member
      cases origin found with
      | same original =>
          obtain ⟨v, inside, presents⟩ := presented _ _ original entry member
          exact ⟨v, inside, presents.evolves (segmentsEvolve_of_eq (segments_congr same)).evolves⟩
      | copy => cases member
      | new => cases member

/-! ## Confinement -/

variable {k₀ : Kernel} {r : Handle .registry} {task : Task}

/-- Two kernels that differ in one registry and its segments at most, as far as registries and
segments go. -/
structure Confined (r : Handle .registry) (k k' : Kernel) : Prop where
  registries : ∀ r', r' ≠ r → k'.registries.get? r' = k.registries.get? r'
  segments : ∀ s g, g.registry ≠ r → (k'.segments.get? s = some g ↔ k.segments.get? s = some g)

/-- An object that is no segment of another registry. -/
def Native (k : Kernel) (r : Handle .registry) : Object → Prop
  | .segment s => ∀ g, k.segments.get? s = some g → g.registry = r
  | .window _ => True

private theorem Confined.refl (r : Handle .registry) (k : Kernel) : Confined r k k :=
  ⟨fun _ _ => rfl, fun _ _ _ => Iff.rfl⟩

private theorem Confined.trans {k'' : Kernel} (first : Confined r k k') (second : Confined r k' k'')
    : Confined r k k'' where
  registries := fun r' other => (second.registries r' other).trans (first.registries r' other)
  segments := fun s g foreign => (second.segments s g foreign).trans (first.segments s g foreign)

private theorem Confined.congr {k'' : Kernel} (confined : Confined r k k')
    (registries : k''.registries = k'.registries) (segments : k''.segments = k'.segments) :
    Confined r k k'' where
  registries := by
    rw [registries]
    exact confined.registries
  segments := by
    rw [segments]
    exact confined.segments

/-- A segment that was native stays so. -/
theorem Confined.native (confined : Confined r k k') {s : Handle .segment} {g : Segment}
    (native : k.Native r (.segment s)) (found : k'.segments.get? s = some g) : g.registry = r := by
  by_contra foreign
  exact foreign (native g ((confined.segments s g foreign).mp found))

/-- What happens to native objects is confined to their registry. -/
theorem immune_confined (r : Handle .registry) (k₀ : Kernel) :
    Immune r (k₀.Native r) (Confined r k₀) where
  emit := fun confined => confined.congr rfl rfl
  halt := fun confined => confined.congr rfl rfl
  segment := by
    intro k s g g' native found same confined
    refine ⟨confined.registries, fun s' x foreign => ?_⟩
    rw [← confined.segments s' x foreign]
    have own := same.trans (confined.native native found)
    by_cases here : s = s'
    · subst here
      simp only [setSegment, Slots.get?_set_self found, found, Option.some.injEq]
      constructor
      · rintro rfl
        exact absurd own foreign
      · rintro rfl
        exact absurd (same.symm.trans own) foreign
    · simp only [setSegment, Slots.get?_set_of_ne here]
  registry := by
    intro k s g registry registry' native found _ _ confined
    refine ⟨fun r' other => ?_, confined.segments⟩
    rw [← confined.registries r' other, confined.native native found]
    exact Slots.get?_set_of_ne (Ne.symm other) _ _
  pool := fun _ _ confined => confined.congr rfl rfl
  window := fun confined => confined.congr rfl rfl
  added := by
    intro k registry g pages _ own confined
    refine ⟨fun r' other => ?_, fun s x foreign => ?_⟩
    · rw [← confined.registries r' other]
      exact Slots.get?_set_of_ne (Ne.symm other) _ _
    · rw [← confined.segments s x foreign]
      simp only [addSegment, Slots.get?_insert]
      split
      case isTrue fresh =>
        subst fresh
        rw [Slots.get?_fresh]
        constructor
        · intro named
          cases named
          exact absurd own foreign
        · intro unnamed
          cases unnamed
      case isFalse => exact Iff.rfl
  space := by
    intro k ref a a' _ _ confined
    have same := objectPart_setSpace (k := k) a' ref
    exact confined.congr (congrArg (·.registries) same) (segments_congr same)
  task := fun _ _ confined => confined.congr rfl rfl

/-- A registry that ends takes its own segments with it and no others. -/
theorem confined_collectNamespace (confined : Confined r k₀ k)
    (listed : ∀ s, k.Lists r s → k₀.Native r (.segment s)) :
    Confined r k₀ (k.collectNamespace r) := by
  unfold collectNamespace
  split
  case h_1 registry here =>
    split
    case isTrue =>
      have marked : Confined r k₀ (k.releaseAll r) := by
        unfold releaseAll
        rw [here]
        refine (immune_confined r k₀).markEach (fun s member => ?_) confined
        obtain ⟨entry, inside, rfl⟩ := List.mem_map.mp member
        exact listed _ ⟨registry, here, entry.1, inside⟩
      refine ⟨fun r' other => ?_, marked.segments⟩
      rw [← marked.registries r' other]
      exact Slots.get?_erase_of_ne (Ne.symm other) _
    case isFalse => exact confined
  case h_2 => exact confined

/-- What a task does is confined to the registry of its namespace, if all that the task maps and all
that the registry lists belongs there. -/
theorem confined_apply {o : Operation} (acts : o.actor? = some t)
    (here : k.tasks.get? t = some task) (own : k.MapsOnly (.ofTask t) (k.Native task.ipc))
    (listed : ∀ s, k.Lists task.ipc s → k.Native task.ipc (.segment s)) :
    Confined task.ipc k (o.apply k) := by
  have immune := immune_confined task.ipc k
  have start := Confined.refl task.ipc k
  have native : ∀ task', k.tasks.get? t = some task' → task'.ipc = task.ipc := by
    intro task' here'
    cases here.symm.trans here'
    rfl
  have listed' : ∀ task', k.tasks.get? t = some task' → ∀ s, k.Lists task'.ipc s →
      k.Native task.ipc (.segment s) := by
    intro task' here' s
    rw [native task' here']
    exact listed s
  cases o with
  | shmget t' key size flags =>
      cases acts
      exact (immune.shmget t key size flags native start).after
  | shmat t' id address flags =>
      cases acts
      exact (immune.shmat t id address flags own listed' start).after
  | shmdt t' address =>
      cases acts
      exact (immune.shmdt t address own start).after
  | shmctl t' id code buffer =>
      cases acts
      exact (immune.shmctl t id code buffer listed' start).after
  | munmap ref q address length =>
      cases ref with
      | alone id => cases acts
      | ofTask t' =>
          cases acts
          exact (immune.munmap q address length own start).after
  | faultTask t' address access =>
      cases acts
      exact immune.faultTask t address access start
  | forkTask t' childPid =>
      cases acts
      have areas := own task.space (space?_ofTask here)
      have ends : (forkTask t childPid).Ends k (fun _ => Confined task.ipc k)
          (fun _ => Confined task.ipc k) := by
        simp only [forkTask, ends_bind, ends_get, ends_orStuck, ends_modify, ends_set, ends_pure]
        refine ⟨fun task' here' => ?_, fun _ => immune.halt start⟩
        cases here.symm.trans here'
        exact (immune.forkSpaceValue areas start).mono
          (fun _ _ copied => copied.congr rfl rfl) fun _ _ refused => refused
      exact ends.after
  | exitTask t' =>
      cases acts
      exact immune.exitTask t own start
  | dropTask t' =>
      cases acts
      have gone : Confined task.ipc k { k with tasks := k.tasks.erase t } := start.congr rfl rfl
      have collected := confined_collectNamespace gone listed
      simp only [Operation.apply, dropTask_eq here]
      exact immune.dropSpaceValue (own task.space (space?_ofTask here)) collected
  | _ => cases acts

/-- What the tasks of a namespace map are segments of the namespace, and if the range of a task
starts a page, from one of their pages on. -/
def Domestic (r : Handle .registry) (k : Kernel) : Prop :=
  ∀ t task, k.tasks.get? t = some task → task.ipc = r → ∀ v ∈ task.space.areas,
    (∃ s g, v.object = .segment s ∧ k.segments.get? s = some g ∧ g.registry = r) ∧
      (PageAligned task.space.range.start → PageAligned v.offset)

/-- The tasks of a namespace map native objects only. -/
theorem Domestic.native (domestic : k.Domestic r) (here : k.tasks.get? t = some task)
    (own : task.ipc = r) : k.MapsOnly (.ofTask t) (k.Native r) := by
  intro a found v member
  cases (space?_ofTask here).symm.trans found
  obtain ⟨⟨s, g, object, present, home⟩, _⟩ := domestic t task here own v member
  rw [object]
  intro g' present'
  cases present.symm.trans present'
  exact home

end Kernel

/-- The task into whose address space a kept request is mapped. -/
def Operation.mapsInto? : Operation → Option (Handle .task)
  | mmap (.ofTask t) _ _ => some t
  | _ => none

namespace World

open Kernel

variable {w w' : World} {o : Operation} {r : Handle .registry} {t : Handle .task} {task : Task}

/-- The kernel after an operation. -/
theorem kernel_run (w : World) (o : Operation) : (o.run w).kernel = o.apply w.kernel := by
  cases o with
  | lend p length =>
      cases taking : allocateFrames p length w.kernel <;>
        simp only [Operation.run, Operation.apply, KernelM.after, taking]
  | _ => rfl

/-- No kept request is mapped into a task of a namespace: the tasks of the namespace map what they
attach and what their parents had. -/
def FilledByCalls (r : Handle .registry) (w : World) (o : Operation) : Prop :=
  ∀ t ∈ o.mapsInto?, ∀ task ∈ w.kernel.tasks.get? t, task.ipc ≠ r

instance (r : Handle .registry) (w : World) (o : Operation) : Decidable (FilledByCalls r w o) :=
  inferInstanceAs (Decidable (∀ t ∈ o.mapsInto?, _))

/-- A task of a namespace makes a system call, or unmaps or touches something, or has a child or
ends. -/
def ByTaskOf (r : Handle .registry) (w : World) (o : Operation) : Prop :=
  ∃ t ∈ o.actor?, ∃ task ∈ w.kernel.tasks.get? t, task.ipc = r

instance (r : Handle .registry) (w : World) (o : Operation) : Decidable (ByTaskOf r w o) :=
  inferInstanceAs (Decidable (∃ t ∈ o.actor?, _))

private theorem ByTaskOf.filledByCalls (acts : ByTaskOf r w o) : FilledByCalls r w o := by
  obtain ⟨t, actor, _⟩ := acts
  cases o with
  | mmap => cases actor
  | _ => nofun

/-- What a task names by an identifier is a segment of its namespace. -/
theorem Reachable.registry_of_names {id : Int} {s : Handle .segment} {g : Segment}
    (reachable : w.Reachable anything) (named : w.kernel.Names t id task s g) :
    g.registry = task.ipc := by
  have registered := reachable.registered suits_anything
  obtain ⟨registry, here, found⟩ := named.registered
  have member := (Registry.find?_eq_some_iff (registered.ascending here)).mp found
  exact registered.registry_of_lists ⟨registry, here, id, member⟩ named.present

/-- An area of a task of a namespace, after an operation, comes from what the task had, or the task
attached it, so it maps a segment of the namespace. -/
theorem domestic_run (reachable : w.Reachable anything) (domestic : w.kernel.Domestic r)
    (enabled : o.Enabled w) (filled : FilledByCalls r w o) : (o.run w).kernel.Domestic r := by
  intro t task' here' own v member
  have laid := reachable.laid suits_anything
  have step := step_run laid enabled
  -- Whatever segment was of the namespace still is.
  have stays {s : Handle .segment} {g : Segment} (present : w.kernel.segments.get? s = some g)
      (home : g.registry = r) :
      ∃ g', (o.run w).kernel.segments.get? s = some g' ∧ g'.registry = r := by
    obtain ⟨g', present', evolves⟩ := step.evolves present
    exact ⟨g', present', evolves.registry.trans home⟩
  have descends := here'
  rw [kernel_run] at descends
  rcases descends_apply o descends with ⟨task, here, bare⟩ | begotten
  · have ipc : task.ipc = r := (congrArg Task.ipc bare).symm.trans own
    have range : task'.space.range = task.space.range := congrArg (·.space.range) bare
    have space' := (step.laid laid).spaces (space?_ofTask here')
    obtain ⟨u, part, before | ⟨_, does⟩⟩ :=
      (step.traced laid (space?_ofTask here)).traces _ (space?_ofTask here') v member
    · obtain ⟨⟨s, g, object, present, home⟩, aligned⟩ := domestic t task here ipc u before
      obtain ⟨g', present', home'⟩ := stays present home
      refine ⟨⟨s, g', part.object.trans object, present', home'⟩, fun origin => ?_⟩
      have first := ((laid.spaces (space?_ofTask here)).tidy (range ▸ origin)).aligned u before
      have second := (space'.tidy origin).aligned v member
      rw [part.offset]
      exact (aligned (range ▸ origin)).add (second.1.sub first.1)
    · cases does with
      | mmap => exact absurd ipc (filled t rfl task here)
      | shmctl _ controls => cases controls
      | shmat carriedOut attached =>
          obtain ⟨caller, s, g, named, object, _⟩ := attached.permitted
          cases here.symm.trans named.caller
          obtain ⟨g', present', home⟩ := stays named.present
            ((reachable.registry_of_names named).trans ipc)
          -- What was attached is there as a whole.
          obtain ⟨b, found, inside⟩ := attached.installed.mem
          rw [← KernelM.after_of_ok carriedOut] at found
          cases (space?_ofTask here').symm.trans found
          have same : v = u := space'.eq_of_inside inside member ⟨part.start, part.stop⟩
          rw [same, attached.whole]
          exact ⟨⟨s, g', object, present', home⟩, fun _ => rfl⟩
  · cases begotten with
    | made => cases member
    | forked found =>
        obtain ⟨⟨s, g, object, present, home⟩, aligned⟩ := domestic _ _ found own v member
        obtain ⟨g', present', home'⟩ := stays present home
        exact ⟨⟨s, g', object, present', home'⟩, aligned⟩

/-- Where no kept request is mapped into a task of a namespace, its tasks map segments of the
namespace. -/
theorem Path.domestic (path : Path (FilledByCalls r) {} w) : w.kernel.Domestic r := by
  induction path with
  | refl =>
      intro t task here
      simp [Slots.get?] at here
  | tail before filled enabled ih =>
      exact domestic_run (before.run fun _ _ _ => trivial) ih enabled filled

/-- In every world that is reached every page is presented. -/
theorem Reachable.presented (reachable : w.Reachable anything) : w.kernel.Presented := by
  have both := reachable.invariant suits_anything (fun w => w.kernel.Laid ∧ w.kernel.Presented)
    (fun step before => ⟨step.laid before.1, step.kernel Presented Turn.presented ?_ before.1
      before.2⟩) ⟨laid_start, fun ref a found => ?_⟩
  · exact both.2
  · intro k k' holders segments presented ref a found entry member
    rw [space?_congr holders] at found
    obtain ⟨v, inside, presents⟩ := presented ref a found entry member
    exact ⟨v, inside, presents.evolves (segmentsEvolve_of_eq segments).evolves⟩
  · rw [space?_start] at found
    cases found

/-- What a task of a namespace does is confined to the namespace. -/
theorem ByTaskOf.confined (acts : ByTaskOf r w o) (reachable : w.Reachable anything)
    (domestic : w.kernel.Domestic r) : Confined r w.kernel (o.run w).kernel := by
  obtain ⟨t, actor, task, here, rfl⟩ := acts
  rw [kernel_run]
  refine confined_apply actor here (domestic.native here rfl) fun s listed g present => ?_
  exact (reachable.registered suits_anything).registry_of_lists listed present

/-- What the tasks of a namespace do is confined to the namespace, and they map their own segments
only. -/
theorem Path.confined (history : Path (FilledByCalls r) {} w) (path : Path (ByTaskOf r) w w') :
    Confined r w.kernel w'.kernel := by
  induction path with
  | refl => exact .refl r w.kernel
  | tail before acts enabled ih =>
      have past := history.trans (before.mono fun _ _ => ByTaskOf.filledByCalls)
      exact ih.trans (acts.confined (past.run fun _ _ _ => trivial) past.domestic)

/-- A page of a task of a namespace is a page of a segment of the namespace. -/
theorem Path.page_native (history : Path (FilledByCalls r) {} w)
    (here : w.kernel.tasks.get? t = some task) (own : task.ipc = r) {address : Nat} {page : Page}
    (member : (address, page) ∈ task.space.pages) :
    ∃ v ∈ task.space.areas, v.span.Contains address ∧ ∃ s g, v.object = .segment s ∧
      w.kernel.segments.get? s = some g ∧ g.registry = r ∧ g.destroyed = false ∧
      page.frame = g.backing.start + v.offsetAt address ∧ g.backing.Contains page.frame ∧
      (PageAligned task.space.range.start → page.frame + pageSize ≤ g.backing.stop) := by
  have reachable : w.Reachable anything := history.run fun _ _ _ => trivial
  have laid := reachable.laid suits_anything
  have space := space?_ofTask here
  obtain ⟨v, inside, presents⟩ := reachable.presented _ _ space _ member
  obtain ⟨⟨s, g, object, present, home⟩, aligned⟩ := history.domestic t task here own v inside
  obtain ⟨g', present', frame, within⟩ := presents.segment s object
  cases present.symm.trans present'
  have frame : page.frame = g.backing.start + v.offsetAt address := frame
  have within : v.offsetAt address < g.effectiveSize := within
  have alive := reachable.alive_of_mapped suits_anything space inside object present
  have size : g.effectiveSize = g.backing.stop - g.backing.start := rfl
  refine ⟨v, inside, presents.holds, s, g, object, present, home, alive, frame, ?_,
    fun origin => ?_⟩
  · constructor <;> omega
  · -- Everything that the offset is made of starts a page, so the page does not end in another.
    have start := ((laid.spaces space).tidy origin).aligned v inside
    have entry := (reachable.covered suits_anything _ _ space).aligned origin _ member
    have offset : PageAligned (v.offsetAt address) := (aligned origin).add (entry.sub start.1)
    have whole := laid.sizes present
    simp only [PageAligned, pageSize] at *
    omega

/-- IPC namespaces are isolated. Take a namespace whose tasks map what they attach and what their
parents had, and any run of system calls, unmappings, page faults, forks and exits of its tasks. No
other registry changes, and no segment of another registry changes or is added. And all along, the
areas and pages of the tasks are of segments of the namespace: they are in the backing of these,
which has nothing in common with that of a segment of another registry. -/
theorem namespaces_isolated (history : Path (FilledByCalls r) {} w)
    (path : Path (ByTaskOf r) w w') :
    (∀ r', r' ≠ r → w'.kernel.registries.get? r' = w.kernel.registries.get? r') ∧
    (∀ s g, g.registry ≠ r →
      (w'.kernel.segments.get? s = some g ↔ w.kernel.segments.get? s = some g)) ∧
    ∀ t task, w'.kernel.tasks.get? t = some task → task.ipc = r →
      (∀ v ∈ task.space.areas, ∃ s g, v.object = .segment s ∧
        w'.kernel.segments.get? s = some g ∧ g.registry = r) ∧
      ∀ address page, (address, page) ∈ task.space.pages →
        ∃ v ∈ task.space.areas, v.span.Contains address ∧ ∃ s g, v.object = .segment s ∧
          w'.kernel.segments.get? s = some g ∧ g.registry = r ∧
          page.frame = g.backing.start + v.offsetAt address ∧ g.backing.Contains page.frame ∧
          (PageAligned task.space.range.start → page.frame + pageSize ≤ g.backing.stop) ∧
          ∀ s' g', w'.kernel.segments.get? s' = some g' → g'.registry ≠ r →
            g'.destroyed = false → g'.pool = g.pool ∨ w'.kernel.PoolsApart →
              ¬ g.backing.Meets g'.backing := by
  have confined := history.confined path
  have later : Path (FilledByCalls r) {} w' :=
    history.trans (path.mono fun _ _ => ByTaskOf.filledByCalls)
  have reachable : w'.Reachable anything := later.run fun _ _ _ => trivial
  have backed := reachable.backed suits_anything
  refine ⟨confined.registries, confined.segments, fun t task here own => ⟨fun v member => ?_,
    fun address page member => ?_⟩⟩
  · exact (later.domestic t task here own v member).1
  · obtain ⟨v, inside, holds, s, g, object, present, home, alive, frame, within, whole⟩ :=
      later.page_native here own member
    refine ⟨v, inside, holds, s, g, object, present, home, frame, within, whole, ?_⟩
    intro s' g' present' foreign alive' pools
    have other : s' ≠ s := by
      rintro rfl
      cases present.symm.trans present'
      exact foreign home
    rcases pools with same | apart
    · exact backed.segments_apart present alive other present' alive' same
    · exact backed.apart apart present alive other present' alive'

/-- Two namespaces on one pool, each with a task and with a segment under the same identifier and
the same key. The task of the second namespace attaches its segment and touches it, and maps it once
more from a request that was kept. -/
def neighbouring : List Operation :=
  let root : Requester := ⟨.superuser .initial, none, none⟩
  [.makePool 0 16, .makeRegistry .initial ⟨0⟩ {} (.ipc true),
    .makeRegistry .initial ⟨0⟩ {} (.ipc true), .makeClock ⟨0⟩,
    .makeTask 1 (.superuser .initial) ⟨0⟩ ⟨0⟩ ⟨0x10000, 0x40000⟩,
    .makeTask 2 (.superuser .initial) ⟨1⟩ ⟨0⟩ ⟨0x10000, 0x40000⟩,
    .shmget ⟨0⟩ 7 0x1000 ⟨0o1600⟩, .shmget ⟨1⟩ 7 0x2000 ⟨0o1600⟩, .shmat ⟨1⟩ 1 0 ⟨0⟩,
    .faultTask ⟨1⟩ 0x10000 .readWrite, .attach ⟨1⟩ root 0 ⟨false, false, false⟩,
    .mmap (.ofTask ⟨1⟩) root ⟨0⟩]

/-- The task of the first namespace attaches its segment, removes it and makes another under the
same key, and has a child that attaches this one and touches both. Then the parent goes. -/
def meddling : List Operation :=
  [.shmat ⟨0⟩ 1 0 ⟨0⟩, .shmctl ⟨0⟩ 1 0 .null, .shmget ⟨0⟩ 7 0x3000 ⟨0o1600⟩, .forkTask ⟨0⟩ 3,
    .shmat ⟨2⟩ 2 0 ⟨0⟩, .faultTask ⟨2⟩ 0x10000 .readWrite, .faultTask ⟨2⟩ 0x12000 .readWrite,
    .munmap (.ofTask ⟨2⟩) ⟨.superuser .initial, none, none⟩ 0x11000 0x1000, .exitTask ⟨0⟩,
    .dropTask ⟨0⟩]

/-- The second namespace and its segment are as they were, and what the child touched is not in the
segment's backing. -/
theorem namespaces_isolated_meddling :
    let w := ({} : World).follow neighbouring
    let w' := w.follow meddling
    Path (FilledByCalls ⟨0⟩) {} w ∧ Path (ByTaskOf ⟨0⟩) w w' ∧
    (∃ registry, w.kernel.registries.get? ⟨1⟩ = some registry ∧
      w'.kernel.registries.get? ⟨1⟩ = some registry) ∧
    ∃ g, w.kernel.segments.get? ⟨1⟩ = some g ∧ w'.kernel.segments.get? ⟨1⟩ = some g ∧
      ∃ task page, w'.kernel.tasks.get? ⟨2⟩ = some task ∧ (0x12000, page) ∈ task.space.pages ∧
        ¬ g.backing.Contains page.frame := by
  intro w w'
  have history : Path (FilledByCalls ⟨0⟩) {} w := Path.refl.follow (by decide +kernel)
  have path : Path (ByTaskOf ⟨0⟩) w w' := Path.refl.follow (by decide +kernel)
  obtain ⟨registries, segments, tasks⟩ := namespaces_isolated history path
  obtain ⟨registry, here⟩ := Option.isSome_iff_exists.mp
    (show (w.kernel.registries.get? ⟨1⟩).isSome by decide +kernel)
  obtain ⟨g, present⟩ := Option.isSome_iff_exists.mp
    (show (w.kernel.segments.get? ⟨1⟩).isSome by decide +kernel)
  have state : ∀ g ∈ w.kernel.segments.get? ⟨1⟩, g.registry ≠ ⟨0⟩ ∧ g.destroyed = false ∧
      g.pool = ⟨0⟩ := by decide +kernel
  obtain ⟨foreign, alive, pooled⟩ := state g present
  have pools : ∀ g ∈ w'.kernel.segments.values, g.pool = ⟨0⟩ := by decide +kernel
  obtain ⟨task, there, own, page, member⟩ : ∃ task, w'.kernel.tasks.get? ⟨2⟩ = some task ∧
      task.ipc = ⟨0⟩ ∧ ∃ page, (0x12000, page) ∈ task.space.pages := by
    obtain ⟨task, there⟩ := Option.isSome_iff_exists.mp
      (show (w'.kernel.tasks.get? ⟨2⟩).isSome by decide +kernel)
    have touched : ∀ task ∈ w'.kernel.tasks.get? ⟨2⟩, task.ipc = ⟨0⟩ ∧
        ∃ entry ∈ task.space.pages, entry.1 = 0x12000 := by decide +kernel
    obtain ⟨own, entry, member, first⟩ := touched task there
    exact ⟨task, there, own, entry.2, first ▸ member⟩
  have present' := (segments ⟨1⟩ g foreign).mpr present
  obtain ⟨v, _, _, s, g', _, found, _, _, within, _, apart⟩ :=
    (tasks ⟨2⟩ task there own).2 0x12000 page member
  have same : g.pool = g'.pool :=
    pooled.trans (pools g' (Slots.mem_values.mpr ⟨s, found⟩)).symm
  refine ⟨history, path, ⟨registry, here, (registries ⟨1⟩ (by decide)).trans here⟩, g, present,
    present', task, page, there, member, fun inside => ?_⟩
  exact apart ⟨1⟩ g present' foreign alive (.inl same)
    ⟨Nat.lt_of_le_of_lt within.1 inside.2, Nat.lt_of_le_of_lt inside.1 within.2⟩

end World

end SharedMemory
