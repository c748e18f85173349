import SharedMemory.Proofs.Calls

/-!
# Worlds and runs

A `World` is a kernel together with the frames that were taken from its pools for other
purposes than segments. It is driven by operations, in any order: those of the registries, of
segments, of requests and references, of address spaces and of tasks, and the system calls. An
operation may be refused; what it changed before stays changed.

What one operation can do is said once (`World.step_run`), and what it takes for an operation to
map an area, to give a segment a new owner, to remove or make one, to make a registry or to take
from one what keeps it is said by `Operation.Does`. So an invariant of every step is an invariant of
every run (`World.Run.preserves`).
-/

namespace SharedMemory

/-- One thing that can be done. -/
inductive Operation where
  | makeUserNamespace (parent : UserNamespace) (owner : Uid) (uidMap gidMap : IdMap)
  | makePool (base frames : Nat)
  /-- Frames are taken for another purpose than a segment. -/
  | lend (p : Handle .pool) (length : Nat)
  /-- Frames that were taken so are given back. -/
  | giveBack (p : Handle .pool) (span : Span)
  | makeRegistry (userNs : UserNamespace) (p : Handle .pool) (limits : Limits) (holder : Holder)
  | findOrCreate (r : Handle .registry) (q : Requester) (asked : SegmentRequest)
  | releaseAll (r : Handle .registry)
  | dropRegistry (r : Handle .registry)
  | dropNamespace (r : Handle .registry)
  /-- A segment is attached and the request that results is kept. -/
  | attach (s : Handle .segment) (q : Requester) (address : Nat) (mode : AttachMode)
  | setOwner (s : Handle .segment) (q : Requester) (uid gid : UInt32) (mode : Nat)
  | markDestroyed (s : Handle .segment)
  | notifyAdded (q : Requester) (object : Object) (span : Span) (offset : Nat)
  | notifyRemoved (q : Requester) (object : Object) (span : Span) (offset : Nat)
  | notifyCopied (object : Object) (span : Span) (offset : Nat)
  | locate (object : Object) (required optional : Span) (access : Access)
  | makeWindow (w : Window)
  | emptyJournal (w : Handle .window)
  /-- A request for a window is made and kept. -/
  | requestWindow (w : Handle .window)
  /-- A kept request is edited. -/
  | editRequest (h : Handle .request) (m : MapRequest)
  /-- A request is put together from a copy of a reference, and is kept. -/
  | cloneRequest (m : MapRequest)
  | dropRequest (h : Handle .request)
  /-- A reference is copied and kept. -/
  | cloneReference (object : Object)
  | dropReference (h : Handle .reference)
  | makeSpace (range : Span)
  /-- A kept request is used up to map its object. -/
  | mmap (ref : SpaceRef) (q : Requester) (h : Handle .request)
  | munmap (ref : SpaceRef) (q : Requester) (address length : Nat)
  | detach (ref : SpaceRef) (q : Requester) (address : Nat)
  | unmapAll (ref : SpaceRef) (q : Requester)
  | forkSpace (ref : SpaceRef)
  | faultSpace (ref : SpaceRef) (address : Nat) (access : Access)
  | dropSpace (id : Handle .space)
  | makeClock (c : Clock)
  | setClock (h : Handle .clock) (c : Clock)
  | makeTask (pid : Pid) (credentials : Credentials) (ipc : Handle .registry)
      (clock : Handle .clock) (range : Span)
  | forkTask (t : Handle .task) (childPid : Pid)
  | exitTask (t : Handle .task)
  | dropTask (t : Handle .task)
  | faultTask (t : Handle .task) (address : Nat) (access : Access)
  | raiseSignal (t : Handle .task) (signal : UInt32)
  | takeSignal (t : Handle .task)
  | shmget (t : Handle .task) (key : Int) (size : Nat) (flags : FlagWord)
  | shmat (t : Handle .task) (id : Int) (address : Nat) (flags : FlagWord)
  | shmdt (t : Handle .task) (address : Nat)
  | shmctl (t : Handle .task) (id code : Int) (buffer : ControlBuffer)

/-- A kernel, and the frames that were taken for other purposes than segments. -/
structure World where
  kernel : Kernel := {}
  /-- The frames that are out, with the pools that they belong to. -/
  loans : List (Handle .pool × Span) := []
  /-- The frames that were out and were given back. -/
  returned : List Span := []

namespace Operation

open Kernel

/-- What an operation does to the kernel. -/
def apply (k : Kernel) : Operation → Kernel
  | makeUserNamespace parent owner uidMap gidMap =>
      (k.makeUserNamespace parent owner uidMap gidMap).2
  | makePool base frames => (k.makePool base frames).2
  | lend p length => (allocateFrames p length).after k
  | giveBack p span => k.releaseFrames p span
  | makeRegistry userNs p limits holder => (k.makeRegistry userNs p limits holder).2
  | findOrCreate r q asked => (Kernel.findOrCreate r q asked).after k
  | releaseAll r => k.releaseAll r
  | dropRegistry r => k.dropRegistry r
  | dropNamespace r => k.dropNamespace r
  | attach s q address mode =>
      (Kernel.attach s q address mode >>= fun m => modify fun k => (k.keepRequest m).2).after k
  | setOwner s q uid gid mode => (setSegmentOwner s q uid gid mode).after k
  | markDestroyed s => k.markDestroyed s
  | notifyAdded q object span offset => (Kernel.notifyAdded q object span offset).after k
  | notifyRemoved q object span offset => k.notifyRemoved q object span offset
  | notifyCopied object span offset => (Kernel.notifyCopied object span offset).after k
  | locate object required optional access => (k.locate object required optional access).2
  | makeWindow w => (k.makeWindow w).2
  | emptyJournal w => k.emptyJournal w
  | requestWindow w =>
      (windowRequest w >>= fun m => modify fun k => (k.keepRequest m).2).after k
  | editRequest h m => k.setRequest h m
  | cloneRequest m => ((k.acquire m.object).keepRequest m).2
  | dropRequest h => k.dropRequest h
  | cloneReference object => (k.keepReference object).2
  | dropReference h => k.dropReference h
  | makeSpace range => (k.makeSpace range).2
  | mmap ref q h => (mmapKept ref q h).after k
  | munmap ref q address length => (Kernel.munmap ref q address length).after k
  | detach ref q address => (Kernel.detach ref q address).after k
  | unmapAll ref q => k.unmapAll ref q
  | forkSpace ref => (Kernel.forkSpace ref).after k
  | faultSpace ref address access => (k.faultSpace ref address access).2
  | dropSpace id => k.dropSpace id
  | makeClock c => (k.makeClock c).2
  | setClock h c => k.setClock h c
  | makeTask pid credentials ipc clock range => (k.makeTask pid credentials ipc clock range).2
  | forkTask t childPid => (Kernel.forkTask t childPid).after k
  | exitTask t => k.exitTask t
  | dropTask t => k.dropTask t
  | faultTask t address access => (k.faultTask t address access).2
  | raiseSignal t signal => k.raiseSignal t signal
  | takeSignal t => (k.takeSignal t).2
  | shmget t key size flags => (Kernel.shmget t key size flags).after k
  | shmat t id address flags => (Kernel.shmat t id address flags).after k
  | shmdt t address => (Kernel.shmdt t address).after k
  | shmctl t id code buffer => (Kernel.shmctl t id code buffer).after k

/-- The world after an operation. Frames that are taken are remembered until they are given
back. -/
def run (w : World) (o : Operation) : World :=
  match o with
  | lend p length =>
      match allocateFrames p length w.kernel with
      | .ok span k => { w with kernel := k, loans := (p, span) :: w.loans }
      | .error _ k => { w with kernel := k }
  | giveBack p span =>
      ⟨o.apply w.kernel, w.loans.erase (p, span), span :: w.returned⟩
  | _ => { w with kernel := o.apply w.kernel }

/-- What whoever asks for an operation has to see to: frames are given back that are out, an
edit leaves the object of a request, copies are made of references that exist, a new window is
mapped nowhere, and a range is not turned around. -/
def Enabled (w : World) : Operation → Prop
  | giveBack p span => (p, span) ∈ w.loans
  | editRequest h m => ∀ m' ∈ w.kernel.requests.get? h, m.object = m'.object
  | cloneRequest m => m.object ∈ w.kernel.held
  | cloneReference object => object ∈ w.kernel.held
  | makeWindow window => window.references = 0
  | makeSpace range => range.start ≤ range.stop ∧ range.stop < wordSize
  | makeTask _ _ _ _ range => range.start ≤ range.stop ∧ range.stop < wordSize
  | _ => True

instance (w : World) (o : Operation) : Decidable (o.Enabled w) := by
  cases o <;> dsimp only [Enabled] <;> infer_instance

/-- The operation gives a segment a new owner and new permissions. -/
def Assigns (w : World) (s : Handle .segment) : Operation → Prop
  | setOwner s' q uid gid mode =>
      s' = s ∧ ∃ k, setSegmentOwner s q uid gid mode w.kernel = .ok () k
  | shmctl t id code buffer =>
      ControlCommand.ofCode code = .set ∧ (∃ task g, w.kernel.Names t id task s g) ∧
        ∃ answer k, Kernel.shmctl t id code buffer w.kernel = .ok answer k
  | _ => False

/-- The deeds of an operation, and what it takes to do them. -/
inductive Does (w : World) : Operation → Deed → Prop
  | mmap {ref q h m start span k} (kept : w.kernel.requests.get? h = some m)
      (carriedOut : mmapKept ref q h w.kernel = .ok start k) (here : span.start = start)
      (installed : Installed w.kernel ref (m.areaAt span) k) :
      Does w (.mmap ref q h) (.map ref (w.kernel.bearer? ref) (m.areaAt span))
  | shmat {t id address flagWord answer v k}
      (carriedOut : Kernel.shmat t id address flagWord w.kernel = .ok answer k)
      (attached : w.kernel.Attached t id flagWord answer v k) :
      Does w (.shmat t id address flagWord) (.map (.ofTask t) (w.kernel.bearer? (.ofTask t)) v)
  | setOwner {s q uid gid mode} (assigns : (Operation.setOwner s q uid gid mode).Assigns w s) :
      Does w (.setOwner s q uid gid mode) (.assign s)
  | shmctl {t id code buffer answer k d}
      (carriedOut : Kernel.shmctl t id code buffer w.kernel = .ok answer k)
      (controls : w.kernel.Controls t id code d) : Does w (.shmctl t id code buffer) d
  | markDestroyed {s} : Does w (.markDestroyed s) (.remove s)
  | releaseAll {r s} (listed : w.kernel.Lists r s) : Does w (.releaseAll r) (.remove s)
  | dropNamespace {r s} (listed : w.kernel.Lists r s)
      (gone : (w.kernel.dropNamespace r).registries.get? r = none) :
      Does w (.dropNamespace r) (.remove s)
  | dropTask {t task s} (found : w.kernel.tasks.get? t = some task)
      (listed : w.kernel.Lists task.ipc s)
      (gone : (w.kernel.dropTask t).registries.get? task.ipc = none) :
      Does w (.dropTask t) (.remove s)
  | makeRegistry {userNs p limits holder} :
      Does w (.makeRegistry userNs p limits holder) (.draw p)
  | findOrCreate {r q asked} : Does w (.findOrCreate r q asked) (.make r)
  | shmget {t key size flagWord task} (found : w.kernel.tasks.get? t = some task) :
      Does w (.shmget t key size flagWord) (.make task.ipc)
  | dropRegistry {r} : Does w (.dropRegistry r) (.forsake r)
  | unhold {r} : Does w (.dropNamespace r) (.forsake r)
  | leave {t task} (found : w.kernel.tasks.get? t = some task) :
      Does w (.dropTask t) (.forsake task.ipc)

/-- The task that makes a system call, or in whose address space something is unmapped or touched,
or that has a child or ends. -/
def actor? : Operation → Option (Handle .task)
  | shmget t _ _ _ => some t
  | shmat t _ _ _ => some t
  | shmdt t _ => some t
  | shmctl t _ _ _ => some t
  | munmap (.ofTask t) _ _ _ => some t
  | faultTask t _ _ => some t
  | forkTask t _ => some t
  | exitTask t => some t
  | dropTask t => some t
  | _ => none

/-- Whether an operation uses a kept request to map its object. -/
def mapsKept : Operation → Bool
  | mmap _ _ _ => true
  | _ => false

end Operation

namespace World

open Kernel

/-- What one operation can do to a world: the kernel takes a course that accounts for every
reference, or frames change hands for another purpose than a segment. -/
inductive Step (may : Deed → Prop) : World → World → Prop
  | course {w k} (passage : Passage may w.kernel 0 k 0) : Step may w { w with kernel := k }
  | lend {w p pool length span taken} (pooled : w.kernel.pools.get? p = some pool)
      (allocated : pool.allocate length = .ok (span, taken)) :
      Step may w { w with
        kernel := (w.kernel.setPool p taken).emit (.framesTaken span)
        loans := (p, span) :: w.loans }
  | giveBack {w p span} (member : (p, span) ∈ w.loans) :
      Step may w ⟨w.kernel.releaseFrames p span, w.loans.erase (p, span), span :: w.returned⟩

variable {w w' w'' : World} {o : Operation} {may : Deed → Prop} {k k' : Kernel}

private theorem passage_after {α : Type} {x : KernelM α} {extra : Multiset Object}
    (ends : x.Ends k (fun _ k' => Passage may k extra k' extra)
      (fun _ k' => Passage may k extra k' extra)) : Passage may k extra (x.after k) extra :=
  ends.after

/-- A request that results from an operation holds its reference when it is kept. -/
theorem passage_keeping {x : KernelM MapRequest}
    (ends : x.Ends k (fun m k' => Changes may k (k.held + 0) k' (m.object ::ₘ (k.held + 0)))
      (fun _ k' => Changes may k (k.held + 0) k' (k.held + 0))) :
    Passage may k 0 ((x >>= fun m => modify fun k => (k.keepRequest m).2).after k) 0 := by
  refine passage_after ?_
  simp only [KernelM.ends_bind, KernelM.ends_modify]
  refine ends.mono (fun m k' changes => ?_) fun _ k' changes => changes.passage
  have made : Passage may k 0 k' (m.object ::ₘ 0) :=
    (changes.recount rfl (Multiset.add_cons _ _ _).symm).passage
  exact made.trans (passage_keepRequest m)

/-- An operation other than on loans is a course. -/
theorem passage_apply (laid : w.kernel.Laid) (enabled : o.Enabled w)
    (unlent : ∀ p, (∀ length, o ≠ .lend p length) ∧ ∀ span, o ≠ .giveBack p span) :
    Passage (o.Does w) w.kernel 0 (o.apply w.kernel) 0 := by
  cases o with
  | lend p length => exact ((unlent p).1 length rfl).elim
  | giveBack p span => exact ((unlent p).2 span rfl).elim
  | makeUserNamespace => exact passage_besides rfl rfl rfl rfl
  | makePool base frames => exact (changes_makePool base frames).passage
  | makeRegistry userNs p limits holder =>
      exact (Chain.single (.makeRegistry userNs p limits holder .makeRegistry)).passage
  | findOrCreate r q asked =>
      exact passage_after ((findOrCreate_ends r q asked).mono
        (fun _ _ obtained => (obtained.changes .findOrCreate).passage) fun _ _ declined =>
          declined.changes.passage)
  | releaseAll r => exact (changes_releaseAll r fun _ listed => .releaseAll listed).passage
  | dropRegistry r => exact (changes_dropRegistry r .dropRegistry).passage
  | dropNamespace r =>
      exact (changes_dropNamespace r .unhold fun gone _ listed =>
        .dropNamespace listed gone).passage
  | attach s q address mode =>
      exact passage_keeping ((attach_ends s q address mode).mono (fun _ _ attached => attached.1)
        fun _ _ refused => refused.1)
  | setOwner s q uid gid mode =>
      refine passage_after ((setSegmentOwner_ends s q uid gid mode).recall.mono ?_
        fun _ _ refused => refused.passage)
      rintro _ k ⟨carriedOut, changes, _⟩
      refine changes.passage.mono ?_
      rintro _ rfl
      exact .setOwner ⟨rfl, k, carriedOut⟩
  | markDestroyed s => exact (Chain.single (.markDestroyed s .markDestroyed)).passage
  | notifyAdded q object span offset =>
      exact passage_after ((notifyAdded_ends q object span offset).mono
        (fun _ _ told => told.passage) fun _ _ refused => refused.passage)
  | notifyRemoved q object span offset => exact (changes_notifyRemoved q object span offset).passage
  | notifyCopied object span offset =>
      exact passage_after ((notifyCopied_ends object span offset).mono
        (fun _ _ told => told.passage) fun _ _ refused => refused.passage)
  | locate object required optional access =>
      exact (changes_locate object required optional access).passage
  | makeWindow window => exact (Chain.single (.makeWindow window enabled)).passage
  | emptyJournal window => exact (changes_emptyJournal window).passage
  | requestWindow window => exact passage_keeping (windowRequest_ends window)
  | editRequest h m => exact passage_setRequest enabled
  | cloneRequest m => exact (passage_acquire enabled).trans (passage_keepRequest m)
  | dropRequest h => exact passage_dropRequest h
  | cloneReference object => exact passage_keepReference enabled
  | dropReference h => exact passage_dropReference h
  | makeSpace range => exact passage_makeSpace enabled.1 enabled.2
  | mmap ref q h =>
      refine passage_after ((mmapKept_ends laid ref q h).recall.mono ?_ fun _ _ refused => refused)
      rintro start k ⟨carriedOut, m, kept, span, here, installed, passage⟩
      refine passage.mono ?_
      rintro _ rfl
      exact .mmap kept carriedOut here installed
  | munmap ref q address length => exact passage_after (munmap_ends ref q address length)
  | detach ref q address => exact passage_after (detach_ends laid ref q address)
  | unmapAll ref q => exact passage_unmapAll laid ref q
  | forkSpace ref => exact passage_after (forkSpace_ends ref)
  | faultSpace ref address access => exact passage_faultSpace ref address access
  | dropSpace id => exact passage_dropSpace id
  | makeClock => exact passage_besides rfl rfl rfl rfl
  | setClock => exact passage_besides rfl rfl rfl rfl
  | makeTask pid credentials ipc clock range =>
      exact passage_makeTask pid credentials ipc clock enabled.1 enabled.2
  | forkTask t childPid =>
      exact passage_after ((forkTask_ends t childPid).mono (fun _ _ forked => forked.2)
        fun _ _ refused => refused)
  | exitTask t => exact passage_exitTask laid t
  | dropTask t =>
      exact passage_dropTask t .leave fun found gone _ listed => .dropTask found listed gone
  | faultTask t address access => exact passage_faultTask t address access
  | raiseSignal t signal => exact passage_raiseSignal t signal
  | takeSignal t => exact passage_takeSignal t
  | shmget t key size flags => exact passage_after (shmget_ends t key size flags .shmget)
  | shmat t id address flags =>
      refine passage_after ((shmat_ends laid t id address flags).recall.mono ?_
        fun _ _ refused => refused)
      rintro answer k ⟨carriedOut, v, attached, passage⟩
      refine passage.mono ?_
      rintro _ rfl
      exact .shmat carriedOut attached
  | shmdt t address => exact passage_after (shmdt_ends laid t address)
  | shmctl t id code buffer =>
      refine passage_after ((shmctl_ends t id code buffer).recall.mono ?_ fun _ _ refused => refused)
      rintro answer k ⟨carriedOut, passage⟩
      exact passage.mono fun _ controls => .shmctl carriedOut controls

/-- What one operation can do, with the deeds that it does. -/
theorem step_run (laid : w.kernel.Laid) (enabled : o.Enabled w) : Step (o.Does w) w (o.run w) := by
  have other : (∀ p, (∀ length, o ≠ .lend p length) ∧ ∀ span, o ≠ .giveBack p span) →
      Passage (o.Does w) w.kernel 0 (o.apply w.kernel) 0 := passage_apply laid enabled
  cases o with
  | lend p length =>
      have taking := allocateFrames_ends (k := w.kernel) p length
      simp only [Operation.run]
      split
      case h_1 span k taken =>
        obtain ⟨pool, left, pooled, allocated, rfl⟩ := taking.ok taken
        exact .lend pooled allocated
      case h_2 cause k refused =>
        rcases taking.error refused with rfl | rfl
        · exact .course (.refl _ 0)
        · exact .course passage_halt
  | giveBack p span => exact .giveBack enabled
  | _ => exact .course (other fun _ => ⟨nofun, nofun⟩)

/-! ## Runs -/

/-- A world becomes another by allowed operations. -/
inductive Run (allowed : Operation → Prop) (w : World) : World → Prop
  | refl : Run allowed w w
  | tail {w' : World} {o : Operation} (before : Run allowed w w') (permitted : allowed o)
      (enabled : o.Enabled w') : Run allowed w (o.run w')

/-- Runs may be joined. -/
theorem Run.trans {allowed : Operation → Prop} (first : Run allowed w w')
    (second : Run allowed w' w'') : Run allowed w w'' := by
  induction second with
  | refl => exact first
  | tail _ permitted enabled ih => exact .tail ih permitted enabled

/-- What a run of few operations reaches, one of more does. -/
theorem Run.mono {allowed allowed' : Operation → Prop} (weaker : ∀ o, allowed o → allowed' o)
    (run : Run allowed w w') : Run allowed' w w' := by
  induction run with
  | refl => exact .refl
  | tail _ permitted enabled ih => exact .tail ih (weaker _ permitted) enabled

/-- Any operation. -/
def anything (_ : Operation) : Prop := True

/-- Any operation but the use of a kept request: segments are mapped by system calls only. -/
def withoutKept (o : Operation) : Prop := o.mapsKept = false

instance : DecidablePred withoutKept := fun o => inferInstanceAs (Decidable (o.mapsKept = false))

/-- A world that comes from nothing by allowed operations. -/
def Reachable (allowed : Operation → Prop) (w : World) : Prop := Run allowed {} w

/-- Allowed operations do only what may be done. -/
structure Suits (allowed : Operation → Prop) (may : Deed → Prop) : Prop where
  covers : ∀ {w : World} {o : Operation} {d : Deed}, allowed o → o.Does w d → may d

/-- Every deed is permitted where every operation is allowed. -/
theorem suits_anything : Suits anything fun _ => True := ⟨fun _ _ => trivial⟩

variable {allowed : Operation → Prop}

/-- What suits few deeds suits more. -/
theorem Suits.mono {may' : Deed → Prop} (suits : Suits allowed may)
    (weaker : ∀ d, may d → may' d) : Suits allowed may' :=
  ⟨fun permitted does => weaker _ (suits.covers permitted does)⟩

/-- An area that is mapped maps a segment from its start on. -/
def MapsWhole : Deed → Prop
  | .map _ _ v => (∃ s, v.object = .segment s) ∧ v.offset = 0
  | _ => True

/-- System calls map segments from their start on, and nothing else. -/
theorem suits_mapsWhole : Suits withoutKept MapsWhole where
  covers := by
    intro w o d permitted does
    cases does with
    | mmap => cases permitted
    | shmat _ attached =>
        obtain ⟨_, s, _, _, object, _⟩ := attached.permitted
        exact ⟨⟨s, object⟩, attached.whole⟩
    | shmctl _ controls => cases controls <;> trivial
    | _ => trivial

private theorem Step.mono {may' : Deed → Prop} (weaker : ∀ d, may d → may' d) (step : Step may w w')
    : Step may' w w' := by
  cases step with
  | course passage => exact .course (passage.mono weaker)
  | lend pooled allocated => exact .lend pooled allocated
  | giveBack member => exact .giveBack member

/-- A step keeps the layout. -/
theorem Step.laid (step : Step may w w') (laid : w.kernel.Laid) : w'.kernel.Laid := by
  cases step with
  | course passage => exact passage.laid laid
  | lend => exact laid.congr rfl rfl
  | giveBack =>
      exact laid.congr (holderPart_releaseFrames _ _) (objects_releaseFrames _ _).1

/-- What turns between laid out kernels preserve, and what depends on holders and segments only, a
step preserves. -/
theorem Step.kernel (property : Kernel → Prop)
    (turn : ∀ {k refs k' refs'}, Turn may k refs k' refs' → k.Laid → property k → property k')
    (congr : ∀ {k k'}, k'.holderPart = k.holderPart → k'.segments = k.segments → property k →
      property k')
    (step : Step may w w') (laid : w.kernel.Laid) (start : property w.kernel) :
    property w'.kernel := by
  cases step with
  | course passage =>
      exact (Chain.preserves (fun k _ => k.Laid ∧ property k)
        (fun last ⟨laid, holds⟩ => ⟨last.laid laid, turn last laid holds⟩) passage ⟨laid, start⟩).2
  | lend => exact congr (k := w.kernel) rfl rfl start
  | giveBack =>
      exact congr (holderPart_releaseFrames _ _) (objects_releaseFrames _ _).1 start

/-- At the start there is no address space. -/
theorem space?_start (ref : SpaceRef) : ({} : World).kernel.space? ref = none := by
  cases ref <;> simp [space?, Slots.get?]

/-- At the start the layout is as it is to be. -/
theorem laid_start : ({} : World).kernel.Laid where
  spaces := by
    intro ref a found
    rw [space?_start] at found
    cases found
  sizes := by
    intro s g found
    simp [Slots.get?] at found

/-- What every step preserves, every run preserves. -/
theorem Run.preserves (suits : Suits allowed may) (property : World → Prop)
    (step : ∀ {w w'}, Step may w w' → property w → property w') (run : Run allowed w w')
    (laid : w.kernel.Laid) (start : property w) : property w' := by
  have both : w'.kernel.Laid ∧ property w' := by
    induction run with
    | refl => exact ⟨laid, start⟩
    | tail _ permitted enabled ih =>
        have moved : Step may _ _ := (step_run ih.1 enabled).mono fun _ => suits.covers permitted
        exact ⟨moved.laid ih.1, step moved ih.2⟩
  exact both.2

/-- In every world that is reached the layout is as it is to be. -/
theorem Reachable.laid (suits : Suits allowed may) (reachable : Reachable allowed w) :
    w.kernel.Laid :=
  Run.preserves suits (·.kernel.Laid) Step.laid reachable laid_start laid_start

/-- What is true of nothing and what every step preserves is true of every reachable world. -/
theorem Reachable.invariant (suits : Suits allowed may) (property : World → Prop)
    (step : ∀ {w w'}, Step may w w' → property w → property w') (start : property {})
    (reachable : Reachable allowed w) : property w :=
  Run.preserves suits property step reachable laid_start start

/-- A world becomes another by operations each of which is allowed in the world in which it is
done. -/
inductive Path (permits : World → Operation → Prop) (w : World) : World → Prop
  | refl : Path permits w w
  | tail {w' : World} {o : Operation} (before : Path permits w w') (permitted : permits w' o)
      (enabled : o.Enabled w') : Path permits w (o.run w')

/-- A path of operations that are allowed is a run. -/
theorem Path.run {permits : World → Operation → Prop}
    (weaker : ∀ w o, permits w o → allowed o) (path : Path permits w w') : Run allowed w w' := by
  induction path with
  | refl => exact .refl
  | tail _ permitted enabled ih => exact .tail ih (weaker _ _ permitted) enabled

/-- Paths may be joined. -/
theorem Path.trans {permits : World → Operation → Prop} (first : Path permits w w')
    (second : Path permits w' w'') : Path permits w w'' := by
  induction second with
  | refl => exact first
  | tail _ permitted enabled ih => exact .tail ih permitted enabled

/-- What a path of few operations leads to, one of more does. -/
theorem Path.mono {permits permits' : World → Operation → Prop}
    (weaker : ∀ w o, permits w o → permits' w o) (path : Path permits w w') : Path permits' w w' := by
  induction path with
  | refl => exact .refl
  | tail _ permitted enabled ih => exact .tail ih (weaker _ _ permitted) enabled

/-! ## Runs of given operations -/

/-- The world after operations one after the other. -/
def follow (w : World) (operations : List Operation) : World :=
  operations.foldl (fun w o => o.run w) w

/-- Operations of which each is enabled when its turn comes. -/
def Admits (w : World) : List Operation → Prop
  | [] => True
  | o :: rest => o.Enabled w ∧ (o.run w).Admits rest

instance Admits.decide (w : World) : (operations : List Operation) → Decidable (w.Admits operations)
  | [] => isTrue trivial
  | o :: rest =>
      have := Admits.decide (o.run w) rest
      inferInstanceAs (Decidable (o.Enabled w ∧ (o.run w).Admits rest))

/-- Operations are admitted one after the other. -/
theorem admits_append {operations later : List Operation} :
    w.Admits (operations ++ later) ↔ w.Admits operations ∧ (w.follow operations).Admits later := by
  induction operations generalizing w with
  | nil => exact (and_iff_right trivial).symm
  | cons o rest ih => exact (and_congr_right fun _ => ih).trans and_assoc.symm

/-- Operations that are admitted and allowed prolong a run. -/
theorem Run.follow {operations : List Operation} (before : Run allowed w w')
    (admitted : w'.Admits operations) (permitted : ∀ o ∈ operations, allowed o) :
    Run allowed w (w'.follow operations) := by
  induction operations generalizing w' with
  | nil => exact before
  | cons o rest ih =>
      exact ih (before.tail (permitted o (List.mem_cons_self ..)) admitted.1) admitted.2
        fun o' member => permitted o' (List.mem_cons_of_mem _ member)

/-- Operations that are admitted and allowed lead to a world that is reached. -/
theorem reachable_follow {operations : List Operation} (admitted : ({} : World).Admits operations)
    (permitted : ∀ o ∈ operations, allowed o) : Reachable allowed (({} : World).follow operations) :=
  Run.refl.follow admitted permitted

/-- Operations of which each is enabled and allowed when its turn comes. -/
def Permits (permits : World → Operation → Prop) (w : World) : List Operation → Prop
  | [] => True
  | o :: rest => permits w o ∧ o.Enabled w ∧ (o.run w).Permits permits rest

instance Permits.decide (permits : World → Operation → Prop) [∀ w o, Decidable (permits w o)]
    (w : World) : (operations : List Operation) → Decidable (w.Permits permits operations)
  | [] => isTrue trivial
  | o :: rest =>
      have := Permits.decide permits (o.run w) rest
      inferInstanceAs (Decidable (permits w o ∧ o.Enabled w ∧ (o.run w).Permits permits rest))

/-- What is permitted to few is permitted to more. -/
theorem Permits.mono {permits permits' : World → Operation → Prop} {operations : List Operation}
    (weaker : ∀ w o, permits w o → permits' w o) (permitted : w.Permits permits operations) :
    w.Permits permits' operations := by
  induction operations generalizing w with
  | nil => trivial
  | cons o rest ih => exact ⟨weaker w o permitted.1, permitted.2.1, ih permitted.2.2⟩

/-- Operations that are permitted prolong a path. -/
theorem Path.follow {permits : World → Operation → Prop} {operations : List Operation}
    (before : Path permits w w') (permitted : w'.Permits permits operations) :
    Path permits w (w'.follow operations) := by
  induction operations generalizing w' with
  | nil => exact before
  | cons o rest ih => exact ih (before.tail permitted.1 permitted.2.1) permitted.2.2

/-- A task attaches a segment of three pages twice, touches its last page, unmaps the middle of
the first attachment and has a child. -/
def sharing : List Operation :=
  [.makePool 0 16, .makeRegistry .initial ⟨0⟩ {} (.ipc true), .makeClock ⟨0⟩,
    .makeTask 1 (.superuser .initial) ⟨0⟩ ⟨0⟩ ⟨0x10000, 0x40000⟩,
    .shmget ⟨0⟩ privateKey 0x3000 ⟨0o600⟩, .shmat ⟨0⟩ 1 0 ⟨0⟩, .shmat ⟨0⟩ 1 0 ⟨0⟩,
    .faultTask ⟨0⟩ 0x12345 .readOnly,
    .munmap (.ofTask ⟨0⟩) ⟨.superuser .initial, none, none⟩ 0x11000 0x1000, .forkTask ⟨0⟩ 2]

end World

end SharedMemory
