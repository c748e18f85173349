import SharedMemory.Proofs.Mapping

/-!
# Tasks and system calls as passages

What is left of the operations: those on tasks, on requests and references that are kept, and
the four system calls. Each is a passage.
-/

namespace SharedMemory

namespace Kernel

open KernelM

variable {k k' : Kernel} {refs extra : Multiset Object} {may : Deed → Prop}

/-! ## Tasks -/

/-- A new task comes with the references in flight that its address space holds. -/
theorem passage_insertTask (task : Task) (origin : Origin k
      { k with tasks := k.tasks.insert task } (.ofTask k.tasks.fresh) task.space) :
    Passage may k (task.space.mapped + extra) { k with tasks := k.tasks.insert task } extra := by
  refine passage_rehold rfl (fun {ref} made => ?_) (fun {ref b} found => ?_)
    (fun {t task'} here => .inl ⟨task', ?_, rfl⟩) ?_
  · cases ref with
    | alone id => exact made
    | ofTask id => exact Slots.Issued.insert made task
  · cases ref with
    | alone id => exact .same found rfl
    | ofTask id =>
        obtain ⟨task', present, rfl⟩ := Option.map_eq_some_iff.mp found
        rcases Slots.get?_of_insert present with ⟨rfl, rfl⟩ | before
        · exact origin
        · refine .same ?_ ?_
          · simp only [space?, before, Option.map_some]
          · simp only [bearer?, present, before]
  · exact (Slots.get?_insert_of_ne (Slots.ne_fresh here) task).trans here
  · simp only [held, Slots.total_insert]
    simp only [add_assoc, add_left_comm]

/-- A task goes and leaves the references of its address space in flight. -/
theorem passage_eraseTask {t : Handle .task} {task : Task} (found : k.tasks.get? t = some task)
    (forsaken : may (.forsake task.ipc)) :
    Passage may k extra { k with tasks := k.tasks.erase t } (task.space.mapped + extra) := by
  refine passage_rehold rfl (fun {ref} made => ?_) (fun {ref b} found' => ?_)
    (fun {t' task'} here => ?_) ?_
  · cases ref with
    | alone id => exact made
    | ofTask id => exact Slots.issued_erase.mpr made
  · cases ref with
    | alone id => exact .same found' rfl
    | ofTask id =>
        obtain ⟨task', present, rfl⟩ := Option.map_eq_some_iff.mp found'
        have left := Slots.get?_of_erase present
        refine .same ?_ ?_
        · simp only [space?, left, Option.map_some]
        · simp only [bearer?, present, left]
  · by_cases this : t = t'
    · subst this
      cases found.symm.trans here
      exact .inr forsaken
    · exact .inl ⟨task', by rwa [Slots.get?_erase, if_neg this], rfl⟩
  · simp only [held, Slots.total_erase found (·.space.mapped)]
    simp only [add_assoc, add_left_comm]

private theorem passage_setTask {t : Handle .task} {task task' : Task}
    (found : k.tasks.get? t = some task)
    (same : task'.space = task.space) (bearer : task'.credentials = task.credentials)
    (settled : task'.ipc = task.ipc) : Passage may k extra (k.setTask t task') extra := by
  refine passage_rehold rfl (fun {ref} made => ?_) (fun {ref b} found' => ?_)
    (fun {t' other} here => .inl ?_) ?_
  · cases ref with
    | alone id => exact made
    | ofTask id => exact Slots.issued_set.mpr made
  · cases ref with
    | alone id => exact .same found' rfl
    | ofTask id =>
        by_cases this : t = id
        · subst this
          refine .same ?_ ?_
          · simpa [space?, setTask, Slots.get?_set_self found, found, same] using found'
          · simp only [bearer?, setTask, Slots.get?_set_self found, found, Option.map_some, bearer]
        · refine .same ?_ ?_
          · simpa only [space?, setTask, Slots.get?_set_of_ne this] using found'
          · simp only [bearer?, setTask, Slots.get?_set_of_ne this]
  · by_cases this : t = t'
    · subst this
      cases found.symm.trans here
      exact ⟨task', Slots.get?_set_self found task', settled⟩
    · exact ⟨other, (Slots.get?_set_of_ne this _ _).trans here, rfl⟩
  · have share : task'.space.mapped = task.space.mapped := by rw [same]
    simp only [held, setTask, Slots.total_set_of_eq (f := fun task : Task => task.space.mapped) found
      share]

/-- To make a task is a passage that needs no deed. -/
theorem passage_makeTask (pid : Pid) (credentials : Credentials) (ipc : Handle .registry)
    (clock : Handle .clock) {range : Span} (upright : range.start ≤ range.stop)
    (bounded : range.stop < wordSize) :
    Passage may k extra (k.makeTask pid credentials ipc clock range).2 extra := by
  have fits' : k.require (range.stop < wordSize) .arithmetic = k := if_pos bounded
  simp only [makeTask, fits']
  have inserted : Passage may k ((AddressSpace.empty range).mapped + extra) _ extra :=
    passage_insertTask ⟨pid, credentials, ipc, clock, .empty range, 0, none⟩
      (.new (Slots.not_issued_fresh _) upright bounded)
  rwa [show (AddressSpace.empty range).mapped = 0 from rfl, zero_add] at inserted

/-- The child of a task maps what the task maps. -/
def Forked (k : Kernel) (t child : Handle .task) (k' : Kernel) : Prop :=
  ∃ a, k.space? (.ofTask t) = some a ∧ k'.space? (.ofTask child) = some { a with pages := [] }

/-- A task that forks has a child that maps what it maps. -/
theorem forkTask_ends (t : Handle .task) (childPid : Pid) :
    (forkTask t childPid).Ends k
      (fun child k' => Forked k t child k' ∧ Passage may k extra k' extra)
      (fun _ k' => Passage may k extra k' extra) := by
  simp only [forkTask, ends_bind, ends_get, ends_orStuck, ends_modify, ends_set, ends_pure]
  refine ⟨fun task found => ?_, fun _ => passage_halt⟩
  have here : k.space? (.ofTask t) = some task.space := by simp only [space?, found, Option.map_some]
  refine (forkSpaceValue_ends task.space (mapped_subset_held here)).mono ?_ fun _ _ refused =>
    refused.passage
  rintro child k' ⟨rfl, copied⟩
  have noted : Changes may k (k.held + extra) (k'.emit (.forked task.pid childPid))
      (task.space.mapped + (k.held + extra)) := copied.tail (.emit _ rfl)
  have still := (space?_congr noted.holderPart (.ofTask t)).trans here
  have passed : Passage may k extra (k'.emit (.forked task.pid childPid))
      (task.space.mapped + extra) := (noted.recount rfl (add_left_comm _ _ _)).passage
  refine ⟨⟨task.space, here, ?_⟩, passed.trans (passage_insertTask
    ⟨childPid, task.credentials, task.ipc, task.clock, { task.space with pages := [] }, 0, none⟩
    (.copy (Slots.not_issued_fresh _) still (.inr ?_)))⟩
  · simp only [space?, Slots.get?_insert_fresh, Option.map_some]
  · have bearer : (k'.emit (.forked task.pid childPid)).bearer? (.ofTask t) = some task.credentials := by
      rw [bearer?_congr noted.holderPart, bearer?, found, Option.map_some]
    rw [bearer]
    simp only [bearer?, emit, Slots.get?_insert_fresh, Option.map_some]

/-- To exit is a passage that needs no deed. -/
theorem passage_exitTask (laid : k.Laid) (t : Handle .task) :
    Passage may k extra (k.exitTask t) extra := by
  unfold exitTask
  split
  · exact passage_unmapAll laid _ _
  · exact passage_halt

private theorem isSome_registries_destroy (s : Handle .segment) (r : Handle .registry) :
    ((k.destroy s).registries.get? r).isSome = (k.registries.get? r).isSome := by
  unfold destroy
  split
  · split
    · rfl
    · rw [(objects_releaseFrames _ _).2.1, get?_registries_forgetSegment, Option.isSome_map]
      rfl
  · rfl

private theorem isSome_registries_release (object : Object) (r : Handle .registry) :
    ((k.release object).registries.get? r).isSome = (k.registries.get? r).isSome := by
  cases object with
  | segment s =>
      simp only [release, releaseSegment]
      split
      · split
        · rw [isSome_registries_destroy]
          simp [setSegment]
        · simp [setSegment]
      · rfl
  | window w =>
      simp only [release]
      split
      · simp [setWindow]
      · rfl

private theorem isSome_registries_dropSpaceValue (a : AddressSpace) (r : Handle .registry) :
    ((k.dropSpaceValue a).registries.get? r).isSome = (k.registries.get? r).isSome := by
  have each (objects : List Object) {k : Kernel} :
      ((k.releaseEach objects).registries.get? r).isSome = (k.registries.get? r).isSome := by
    induction objects generalizing k with
    | nil => rfl
    | cons object rest ih => exact ih.trans (isSome_registries_release object r)
  unfold dropSpaceValue
  rw [each]
  split <;> rfl

/-- A task that goes may take its IPC namespace along, and then the segments are removed. -/
theorem passage_dropTask (t : Handle .task)
    (forsaken : ∀ {task}, k.tasks.get? t = some task → may (.forsake task.ipc))
    (permitted : ∀ {task}, k.tasks.get? t = some task →
      (k.dropTask t).registries.get? task.ipc = none →
        ∀ s, k.Lists task.ipc s → may (.remove s)) :
    Passage may k extra (k.dropTask t) extra := by
  unfold dropTask at permitted ⊢
  split
  case h_1 task found =>
    simp only [found] at permitted
    have collected {refs} : Changes may { k with tasks := k.tasks.erase t } refs
        ({ k with tasks := k.tasks.erase t }.collectNamespace task.ipc) refs := by
      refine changes_collectNamespace task.ipc (forsaken found) fun gone => permitted rfl ?_
      rw [← Option.isNone_iff_eq_none, ← Option.not_isSome, isSome_registries_dropSpaceValue, gone]
      rfl
    refine (passage_eraseTask found (forsaken found)).trans (Chain.passage ?_)
    exact (collected.trans (changes_dropSpaceValue task.space)).recount (add_left_comm _ _ _) rfl
  case h_2 => exact .refl k extra

/-- To send a signal is a passage that needs no deed. -/
theorem passage_raiseSignal (t : Handle .task) (signal : UInt32) :
    Passage may k extra (k.raiseSignal t signal) extra := by
  unfold raiseSignal
  split
  case h_1 task found => exact passage_setTask found rfl rfl rfl
  case h_2 => exact passage_halt

/-- To take a signal is a passage that needs no deed. -/
theorem passage_takeSignal (t : Handle .task) : Passage may k extra (k.takeSignal t).2 extra := by
  unfold takeSignal
  split
  case h_1 task found => exact passage_setTask found rfl rfl rfl
  case h_2 => exact passage_halt

private theorem passage_countFault (t : Handle .task) :
    Passage may k extra (k.countFault t) extra := by
  unfold countFault
  split
  case h_1 task found => exact passage_setTask found rfl rfl rfl
  case h_2 => exact passage_halt

/-- An entry in the log that gives no frames back is a passage. -/
theorem passage_emit (e : Event) (quiet : e.released? = none) :
    Passage may k extra (k.emit e) extra :=
  (Chain.single (.emit e quiet)).passage

/-- A page fault of a task is a passage that needs no deed, also if it ends in a signal. -/
theorem passage_faultTask (t : Handle .task) (address : Nat) (access : Access) :
    Passage may k extra (k.faultTask t address access).2 extra := by
  unfold faultTask
  split
  case h_1 => exact passage_halt
  case h_2 task found =>
    split
    case h_1 resolved k' faulted =>
      have resolved : Passage may k extra k' extra := by
        rw [show k' = _ from (congrArg Prod.snd faulted).symm]
        exact (passage_emit _ rfl).trans (passage_faultSpace _ _ _)
      split
      · exact resolved.trans (passage_countFault t)
      · exact resolved.trans ((passage_emit _ rfl).trans (passage_raiseSignal t _))

/-! ## Requests and references that are kept -/

/-- A request that is kept holds the reference that it carries. -/
theorem passage_keepRequest (m : MapRequest) :
    Passage may k (m.object ::ₘ extra) (k.keepRequest m).2 extra := by
  refine passage_besides rfl rfl rfl ?_
  simp only [held, keepRequest, Slots.total_insert, ← Multiset.singleton_add m.object extra]
  simp only [add_assoc, add_left_comm]

/-- A request that is taken leaves its reference in flight. -/
theorem passage_eraseRequest {h : Handle .request} {m : MapRequest}
    (found : k.requests.get? h = some m) :
    Passage may k extra { k with requests := k.requests.erase h } (m.object ::ₘ extra) := by
  refine passage_besides rfl rfl rfl ?_
  simp only [held, Slots.total_erase found (fun m : MapRequest => ({m.object} : Multiset Object)),
    ← Multiset.singleton_add m.object extra]
  simp only [add_assoc, add_left_comm]

/-- A kept request may be edited that keeps its object. -/
theorem passage_setRequest {h : Handle .request} {m' : MapRequest}
    (same : ∀ m ∈ k.requests.get? h, m'.object = m.object) :
    Passage may k extra (k.setRequest h m') extra := by
  refine passage_besides rfl rfl rfl ?_
  cases found : k.requests.get? h with
  | none => simp only [held, setRequest, Slots.set_of_none found]
  | some m =>
      have share : ({m'.object} : Multiset Object) = {m.object} := by rw [same m found]
      simp only [held, setRequest, Slots.total_set_of_eq
        (f := fun m : MapRequest => ({m.object} : Multiset Object)) found share]

/-- A kept request is mapped or used up. -/
theorem mmapKept_ends (laid : k.Laid) (ref : SpaceRef) (q : Requester) (h : Handle .request) :
    (mmapKept ref q h).Ends k
      (fun start k' => ∃ m, k.requests.get? h = some m ∧ Carried k ref m extra start k' extra)
      (fun _ k' => Passage may k extra k' extra) := by
  simp only [mmapKept, takeRequest, ends_bind, ends_get, ends_orStuck, ends_set, ends_pure]
  refine ⟨fun m found => ?_, fun _ => passage_halt⟩
  have taken : Passage idle k extra { k with requests := k.requests.erase h }
      (m.object ::ₘ extra) := passage_eraseRequest found
  have same (ref : SpaceRef) : k.space? ref =
      ({ k with requests := k.requests.erase h } : Kernel).space? ref := by cases ref <;> rfl
  have bearer : k.bearer? ref =
      ({ k with requests := k.requests.erase h } : Kernel).bearer? ref := by cases ref <;> rfl
  refine (mmap_ends (taken.laid laid) ref q m).mono ?_ fun _ _ used =>
    taken.of_idle.trans used.1
  rintro start k' ⟨span, here, installed, passage⟩
  refine ⟨m, found, span, here, installed.congr (same ref) rfl, ?_⟩
  rw [bearer]
  exact taken.of_idle.trans passage

/-- To drop a kept request is a passage that needs no deed. -/
theorem passage_dropRequest (h : Handle .request) :
    Passage may k extra (k.dropRequest h) extra := by
  unfold dropRequest
  split
  case h_1 m found => exact (passage_eraseRequest found).trans (passage_release m.object)
  case h_2 => exact .refl k extra

/-- A reference is made from another one and is kept. -/
theorem passage_keepReference {object : Object} (member : object ∈ k.held) :
    Passage may k extra (k.keepReference object).2 extra := by
  have same : k.references = (k.acquire object).references :=
    (congrArg (·.references) (holderPart_acquire object)).symm
  refine (passage_acquire member).trans (passage_besides rfl rfl rfl ?_)
  simp only [held, keepReference, same, Slots.total_insert, ← Multiset.singleton_add object extra]
  simp only [add_assoc, add_left_comm]

/-- A reference that is no longer kept is in flight. -/
theorem passage_eraseReference {h : Handle .reference} {object : Object}
    (found : k.references.get? h = some object) :
    Passage may k extra { k with references := k.references.erase h } (object ::ₘ extra) := by
  refine passage_besides rfl rfl rfl ?_
  simp only [held, Slots.total_erase found (fun object : Object => ({object} : Multiset Object)),
    ← Multiset.singleton_add object extra]
  simp only [add_assoc, add_left_comm]

/-- To drop a kept reference is a passage that needs no deed. -/
theorem passage_dropReference (h : Handle .reference) :
    Passage may k extra (k.dropReference h) extra := by
  unfold dropReference
  split
  case h_1 object found => exact (passage_eraseReference found).trans (passage_release object)
  case h_2 => exact .refl k extra

/-! ## System calls -/

/-- The task that calls is found, and whoever asks has its credentials. -/
theorem caller_ends (t : Handle .task) :
    (caller t).Ends k
      (fun asking k' => k' = k ∧ k.tasks.get? t = some asking.1 ∧
        asking.2.credentials = asking.1.credentials)
      (fun _ k' => Passage may k extra k' extra) := by
  unfold caller
  refine .get_bind (.orStuck_bind passage_halt fun task found => ?_)
  refine .orStuck_bind passage_halt fun q asking => ends_pure.mpr ⟨rfl, found, ?_⟩
  obtain ⟨clock, _, rfl⟩ := Option.map_eq_some_iff.mp asking
  rfl

/-- What follows the search for a caller has the task, and the requester that it calls as. -/
theorem ends_caller_bind {β : Type} {t : Handle .task} {f : Task × Requester → KernelM β}
    {good : β → Kernel → Prop} {bad : Errno → Kernel → Prop}
    (stuck : bad .efault (k.halt .dangling))
    (next : ∀ task q, k.tasks.get? t = some task → k.requester? task = some q →
      (f (task, q)).Ends k good bad) : (caller t >>= f).Ends k good bad := by
  simp only [caller, bind_assoc, pure_bind]
  refine .get_bind (.orStuck_bind stuck fun task here => ?_)
  exact .orStuck_bind stuck fun q asking => next task q here asking

/-- A task that is there and can ask is found. -/
theorem caller_eq_ok {t : Handle .task} {task : Task} {q : Requester}
    (here : k.tasks.get? t = some task) (asking : k.requester? task = some q) :
    caller t k = .ok (task, q) k := by
  apply Ends.eq_ok
  simp only [caller, ends_bind, ends_get, ends_orStuck, ends_pure]
  simp [here, asking]

/-- What a call for a segment notes is in the log. -/
theorem noteGet_ends (key : Int) (size : Nat) (flagWord : FlagWord) :
    (noteGet key size flagWord).Ends k
      (fun _ k' => (∃ log, k' = { k with log }) ∧ Passage may k extra k' extra)
      (fun _ _ => False) := by
  simp only [noteGet, ends_bind, ends_modify, ends_ite, ends_pure]
  exact ⟨fun _ => ⟨⟨_, rfl⟩, (passage_emit _ rfl).trans (passage_emit _ rfl)⟩,
    fun _ => ⟨⟨_, rfl⟩, passage_emit _ rfl⟩⟩

/-- The call for a segment takes no other deed than to make one in the namespace of the task. -/
theorem shmget_ends (t : Handle .task) (key : Int) (size : Nat) (flagWord : FlagWord)
    (permitted : ∀ {task}, k.tasks.get? t = some task → may (.make task.ipc)) :
    (shmget t key size flagWord).Ends k (fun _ k' => Passage may k extra k' extra)
      (fun _ k' => Passage may k extra k' extra) := by
  simp only [shmget, ends_bind]
  have noting : (noteGet key size flagWord).Ends k
      (fun _ k' => (∃ log, k' = { k with log }) ∧ Passage may k extra k' extra)
      (fun _ _ => False) := noteGet_ends key size flagWord
  refine noting.mono ?_ fun _ _ => False.elim
  rintro _ _ ⟨⟨log, rfl⟩, noted⟩
  refine (caller_ends t).mono ?_ fun _ _ refused => noted.trans refused
  rintro ⟨task, q⟩ _ ⟨rfl, here, _⟩
  refine (findOrCreate_ends task.ipc q _).mono (fun s k₃ obtained => ?_) fun _ k₃ declined =>
    noted.trans declined.changes.passage
  simp only [ends_get, ends_orStuck, ends_pure]
  have found := noted.trans (obtained.changes (permitted here)).passage
  exact ⟨fun _ _ => found, fun _ => found.trans passage_halt⟩

/-- What follows the search for a segment has one that the registry of the task lists. -/
theorem ends_findSegment_bind {β : Type} {task : Task} {id : Int} {f : Handle .segment → KernelM β}
    {good : β → Kernel → Prop} {bad : Errno → Kernel → Prop}
    (stuck : bad .efault (k.halt .dangling)) (unlisted : bad .einval k)
    (next : ∀ registry s, k.registries.get? task.ipc = some registry → registry.find? id = some s →
      (f s).Ends k good bad) : (findSegment task id >>= f).Ends k good bad := by
  simp only [findSegment, bind_assoc]
  refine .get_bind (.orStuck_bind stuck fun registry here => ?_)
  exact .orRefuse_bind unlisted fun s lookup => next registry s here lookup

/-- A segment that a task names is one that the registry of its namespace lists, and otherwise there
is one of two errors. -/
theorem findSegment_ends (task : Task) (id : Int) :
    (findSegment task id).Ends k
      (fun s k' => k' = k ∧ ∃ registry, k.registries.get? task.ipc = some registry ∧
        registry.find? id = some s)
      (fun cause k' => Passage may k extra k' extra ∧ (cause = .einval ∨ cause = .efault)) := by
  unfold findSegment
  refine .get_bind (.orStuck_bind ⟨passage_halt, .inr rfl⟩ fun registry registered => ?_)
  refine ends_orRefuse.mpr ⟨fun s found => ?_, fun unlisted => ?_⟩
  · exact ⟨rfl, registry, registered, found⟩
  · exact ⟨.refl k extra, .inl rfl⟩

/-- A segment that a task names by its identifier, and what the segment is. -/
structure Names (k : Kernel) (t : Handle .task) (id : Int) (task : Task) (s : Handle .segment)
    (g : Segment) : Prop where
  caller : k.tasks.get? t = some task
  registered : ∃ registry, k.registries.get? task.ipc = some registry ∧ registry.find? id = some s
  present : k.segments.get? s = some g

/-- A segment that is attached and mapped is mapped from its start on, by someone who may access
it so. -/
theorem attach_mmap_ends (laid : k.Laid) (ref : SpaceRef) (s : Handle .segment) (q : Requester)
    (address : Nat) (mode : AttachMode) :
    (attach s q address mode).Ends k
      (fun m k₁ => (mmap ref q m).Ends k₁
        (fun start k' => ∃ g span, k.segments.get? s = some g ∧
          g.permits q.credentials mode.access = true ∧ span.start = start ∧
          Installed k ref ⟨span, 0, mode.access, .all, .segment s⟩ k' ∧
          Passage (· = .map ref (k.bearer? ref) ⟨span, 0, mode.access, .all, .segment s⟩)
            k extra k' extra)
        (fun _ k' => Passage may k extra k' extra))
      (fun _ k' => Passage may k extra k' extra) := by
  have attaching : (attach s q address mode).Ends k
      (fun m k' => Changes idle k (k.held + extra) k' (m.object ::ₘ (k.held + extra)) ∧
        ∃ g, k.segments.get? s = some g ∧ g.permits q.credentials mode.access = true ∧
          m = ⟨.segment s, g.size, 0, address, mode.fixed, mode.access, .all⟩)
      (fun _ k' => Changes idle k (k.held + extra) k' (k.held + extra)) :=
    (attach_ends s q address mode).mono (fun _ _ attached => attached) fun _ _ refused => refused.1
  refine attaching.mono ?_ fun _ _ refused => refused.passage.of_idle
  rintro _ k₁ ⟨attached, g, found, granted, rfl⟩
  have same := attached.holderPart
  have passed : Passage idle k extra k₁ (.segment s ::ₘ extra) :=
    (attached.recount rfl (Multiset.add_cons _ _ _).symm).passage
  refine (mmap_ends (passed.laid laid) ref q _).mono ?_ fun _ _ used =>
    passed.of_idle.trans used.1
  rintro start k' ⟨span, here, installed, mapped⟩
  refine ⟨g, span, found, granted, here,
    installed.congr (space?_congr same ref).symm rfl, passed.of_idle.trans ?_⟩
  rw [← bearer?_congr same]
  exact mapped

/-- How a segment is attached with some flags at an address or anywhere. -/
def attachMode (flagWord : FlagWord) (start : Nat) : AttachMode :=
  ⟨(AttachFlags.ofWord flagWord).readOnly, (AttachFlags.ofWord flagWord).execute,
    decide (start ≠ 0)⟩

/-- A segment is attached to a task: the task may access it so, and an area of the task maps it
from its start on at the address in the answer. -/
structure Attached (k : Kernel) (t : Handle .task) (id : Int) (flagWord : FlagWord) (answer : Int)
    (v : Area) (k' : Kernel) : Prop where
  answer : answer = signed 64 v.span.start
  access : v.perms = (attachMode flagWord 0).access
  whole : v.offset = 0
  permitted : ∃ task s g, k.Names t id task s g ∧ v.object = .segment s ∧
    g.permits task.credentials v.perms = true
  installed : Installed k (.ofTask t) v k'

/-- The call to attach takes the deed of mapping one area, and none if it is refused. -/
theorem shmat_ends (laid : k.Laid) (t : Handle .task) (id : Int) (address : Nat)
    (flagWord : FlagWord) :
    (shmat t id address flagWord).Ends k
      (fun answer k' => ∃ v, Attached k t id flagWord answer v k' ∧
        Passage (· = .map (.ofTask t) (k.bearer? (.ofTask t)) v) k extra k' extra)
      (fun _ k' => Passage may k extra k' extra) := by
  have noted : Passage idle k extra (k.emit (.attachCalled id address flagWord)) extra :=
    passage_emit _ rfl
  have stuck : Passage may k extra ((k.emit (.attachCalled id address flagWord)).halt .dangling)
      extra := (noted.trans passage_halt).of_idle
  unfold shmat
  refine .modify_bind (.ofExcept_bind (fun _ _ => noted.of_idle) fun start aligned => ?_)
  refine ends_caller_bind stuck fun task q caller asking => ?_
  obtain ⟨clock, _, rfl⟩ := Option.map_eq_some_iff.mp asking
  refine ends_findSegment_bind stuck noted.of_idle fun registry s registered lookup => ?_
  refine .get_bind (.orStuck_bind stuck fun g present => .check_bind noted.of_idle fun free => ?_)
  simp only [ends_bind]
  refine (attach_mmap_ends (noted.laid laid) (.ofTask t) s _ start (attachMode flagWord start)).mono
    (fun m k₁ mapping => mapping.mono ?_ fun _ _ used => noted.of_idle.trans used) fun _ _ refused =>
      noted.of_idle.trans refused
  rintro mapped k' ⟨g', span, found, granted, rfl, installed, passage⟩
  simp only [ends_modify, ends_pure]
  have attached : Attached k t id flagWord (signed 64 span.start)
      ⟨span, 0, (attachMode flagWord start).access, .all, .segment s⟩
      (k'.emit (.attached id span.start)) :=
    ⟨rfl, rfl, rfl, ⟨task, s, g', ⟨caller, ⟨registry, registered, lookup⟩, found⟩, rfl, granted⟩,
      installed⟩
  exact ⟨_, attached, (noted.of_idle.trans passage).trans (passage_emit _ rfl)⟩

/-- The call to detach is a passage that needs no deed, whether or not it is refused. -/
theorem shmdt_ends (laid : k.Laid) (t : Handle .task) (address : Nat) :
    (shmdt t address).Ends k (fun _ k' => Passage may k extra k' extra)
      (fun _ k' => Passage may k extra k' extra) := by
  simp only [shmdt, ends_bind, ends_modify]
  have noted : Passage may k extra (k.emit (.detachCalled address)) extra := passage_emit _ rfl
  refine (caller_ends t).mono ?_ fun _ _ refused => noted.trans refused
  rintro ⟨task, q⟩ _ ⟨rfl, _⟩
  simp only [ends_pure]
  exact (detach_ends (noted.laid laid) _ q address).mono (fun _ _ detached => noted.trans detached)
    fun _ _ refused => noted.trans refused

/-- What a control call may do to the segment that it names: whoever may act as an owner may
remove it or give it a new owner, as the command says. -/
inductive Controls (k : Kernel) (t : Handle .task) (id code : Int) : Deed → Prop
  | remove {task s g} (command : ControlCommand.ofCode code = .remove)
      (named : k.Names t id task s g) (owned : g.ownedBy task.credentials = true) :
      Controls k t id code (.remove s)
  | assign {task s g} (command : ControlCommand.ofCode code = .set)
      (named : k.Names t id task s g) (owned : g.ownedBy task.credentials = true) :
      Controls k t id code (.assign s)

/-- What the command of a control call does to a segment, if an owner asks for it. -/
def deedOf? (command : ControlCommand) (s : Handle .segment) : Option Deed :=
  match command with
  | .remove => some (.remove s)
  | .set => some (.assign s)
  | _ => none

private theorem controlSegment_ends (command : ControlCommand) (s : Handle .segment) (q : Requester)
    (buffer : ControlBuffer) :
    (controlSegment command s q buffer).Ends k
      (fun _ k' => Passage (fun d => deedOf? command s = some d ∧
        ∃ g, k.segments.get? s = some g ∧ g.ownedBy q.credentials = true) k extra k' extra)
      (fun _ k' => Passage may k extra k' extra) := by
  cases command with
  | stat =>
      simp only [controlSegment, ends_bind]
      refine (segmentStatus_ends s q).mono ?_ fun _ _ refused => refused.passage
      rintro status _ ⟨rfl, _⟩
      cases buffer <;> simp only [ends_pure, ends_throw] <;> exact .refl _ extra
  | set =>
      cases buffer with
      | status wanted =>
          simp only [controlSegment, ends_bind, ends_pure]
          refine (setSegmentOwner_ends s q _ _ _).mono ?_ fun _ _ refused => refused.passage
          rintro _ k' ⟨done, owned⟩
          exact done.passage.mono fun _ same => ⟨congrArg some same.symm, owned⟩
      | null | limits _ | usage _ =>
          simp only [controlSegment, ends_throw]
          exact .refl k extra
  | remove =>
      unfold controlSegment
      refine .get_bind (.orStuck_bind passage_halt fun g present => ?_)
      refine .check_bind (.refl k extra) fun owned => .modify_bind (ends_pure.mpr ?_)
      exact (Chain.single (.markDestroyed s ⟨rfl, g, present, owned⟩)).passage
  | lock | unlock | limits | usage =>
      simp only [controlSegment, ends_pure]
      exact .refl k extra
  | unsupported code =>
      simp only [controlSegment, ends_bind, ends_modify, ends_throw]
      exact passage_emit _ rfl

/-- The call to control a segment takes the deed that its command says, and none if it is
refused. -/
theorem shmctl_ends (t : Handle .task) (id code : Int) (buffer : ControlBuffer) :
    (shmctl t id code buffer).Ends k
      (fun _ k' => Passage (k.Controls t id code) k extra k' extra)
      (fun _ k' => Passage may k extra k' extra) := by
  simp only [shmctl, ends_bind, ends_modify]
  have noted : Passage idle k extra (k.emit (.controlCalled id code)) extra := passage_emit _ rfl
  refine (caller_ends t).mono ?_ fun _ _ refused => noted.of_idle.trans refused
  rintro ⟨task, q⟩ _ ⟨rfl, caller, credentials⟩
  simp only [ends_get, ends_orStuck]
  refine ⟨fun registry _ => ?_, fun _ => (noted.trans passage_halt).of_idle⟩
  split <;> simp only [ends_pure, ends_throw, ends_bind] <;> try exact noted.of_idle
  refine (findSegment_ends task id).mono ?_ fun _ _ refused => noted.of_idle.trans refused.1
  rintro s _ ⟨rfl, registered⟩
  refine (controlSegment_ends _ s q _).mono (fun _ k' done => ?_) fun _ _ refused =>
    noted.of_idle.trans refused
  refine noted.of_idle.trans (done.mono ?_)
  rintro d ⟨does, g, present, owned⟩
  rw [credentials] at owned
  have named : k.Names t id task s g := ⟨caller, registered, present⟩
  cases command : ControlCommand.ofCode code with
  | remove =>
      rw [command] at does
      cases does
      exact .remove command named owned
  | set =>
      rw [command] at does
      cases does
      exact .assign command named owned
  | _ =>
      rw [command] at does
      cases does

end Kernel

end SharedMemory
