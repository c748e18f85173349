import Mathlib.Algebra.Order.Group.Multiset
import SharedMemory.Kernel.Holdings
import SharedMemory.Kernel.SystemCalls
import SharedMemory.Proofs.Slots

/-!
# Who holds references

A kernel has two parts that change apart from each other. The objects are the pools,
segments, registries and windows, with the log and the faults. The holders are the address
spaces, tasks, kept requests and kept references: each of them holds references to objects.
The references that are held are the multiset `Kernel.held`, with an object in it as often
as some holder has a reference to it.
-/

namespace SharedMemory

/-- The objects that an address space maps, each once for every area that maps it. -/
def AddressSpace.mapped (a : AddressSpace) : Multiset Object := a.areas.map (·.object)

namespace Kernel

/-- The references that are held: one by every area of an address space, one by every kept
request, and those that are kept on their own. -/
def held (k : Kernel) : Multiset Object :=
  k.spaces.total (·.mapped) + k.tasks.total (·.space.mapped) +
    k.requests.total (fun m => {m.object}) + k.references.total (fun object => {object})

/-- The kernel with nothing but its objects. -/
def objectPart (k : Kernel) : Kernel :=
  { k with
    spaces := {}, requests := {}, references := {}, clocks := {}, tasks := {}, userNamespaces := 0 }

/-- The kernel with nothing but its holders. -/
def holderPart (k : Kernel) : Kernel :=
  { k with pools := {}, segments := {}, registries := {}, windows := {}, log := [], faults := [] }

variable {k k' : Kernel}

/-- The references that are held depend on the holders only. -/
theorem held_congr (same : k'.holderPart = k.holderPart) : k'.held = k.held := by
  change k'.holderPart.held = k.holderPart.held
  rw [same]

/-- The space under a reference depends on the holders alone. -/
theorem space?_congr (same : k'.holderPart = k.holderPart) (ref : SpaceRef) :
    k'.space? ref = k.space? ref := by
  have spaces : k'.spaces = k.spaces := congrArg (·.spaces) same
  have tasks : k'.tasks = k.tasks := congrArg (·.tasks) same
  cases ref <;> simp only [space?, spaces, tasks]

/-- Who an address space belongs to, if it is a task's. -/
def bearer? (k : Kernel) : SpaceRef → Option Credentials
  | .alone _ => none
  | .ofTask t => (k.tasks.get? t).map (·.credentials)

/-- The space of a task that is there. -/
theorem space?_ofTask {t : Handle .task} {task : Task} (here : k.tasks.get? t = some task) :
    k.space? (.ofTask t) = some task.space := by
  rw [space?, here, Option.map_some]

/-- The credentials under which a task that is there maps. -/
theorem bearer?_ofTask {t : Handle .task} {task : Task} (here : k.tasks.get? t = some task) :
    k.bearer? (.ofTask t) = some task.credentials := by
  rw [bearer?, here, Option.map_some]

/-- The credentials that go with a space depend on the holders alone. -/
theorem bearer?_congr (same : k'.holderPart = k.holderPart) (ref : SpaceRef) :
    k'.bearer? ref = k.bearer? ref := by
  have tasks : k'.tasks = k.tasks := congrArg (·.tasks) same
  cases ref <;> simp only [bearer?, tasks]

/-- An address space was made under a reference, whether or not it is still there. -/
def Made (k : Kernel) : SpaceRef → Prop
  | .alone id => k.spaces.Issued id
  | .ofTask t => k.tasks.Issued t

/-- Which spaces were made depends on the holders alone. -/
theorem made_congr (same : k'.holderPart = k.holderPart) (ref : SpaceRef) :
    k'.Made ref ↔ k.Made ref := by
  have spaces : k'.spaces = k.spaces := congrArg (·.spaces) same
  have tasks : k'.tasks = k.tasks := congrArg (·.tasks) same
  cases ref <;> simp only [Made, spaces, tasks]

/-- A space that is there was made. -/
theorem made_of_space? {ref : SpaceRef} {a : AddressSpace} (found : k.space? ref = some a) :
    k.Made ref := by
  cases ref with
  | alone id => exact Slots.issued_of_get? found
  | ofTask t =>
      obtain ⟨task, present, _⟩ := Option.map_eq_some_iff.mp found
      exact Slots.issued_of_get? present

/-! ## Changes of the objects -/

@[simp] theorem holderPart_emit (e : Event) : (k.emit e).holderPart = k.holderPart := rfl

@[simp] theorem holderPart_halt (cause : Fault) : (k.halt cause).holderPart = k.holderPart := rfl

@[simp] theorem holderPart_setSegment (s : Handle .segment) (g : Segment) :
    (k.setSegment s g).holderPart = k.holderPart := rfl

@[simp] theorem holderPart_setRegistry (r : Handle .registry) (registry : Registry) :
    (k.setRegistry r registry).holderPart = k.holderPart := rfl

@[simp] theorem holderPart_setWindow (w : Handle .window) (window : Window) :
    (k.setWindow w window).holderPart = k.holderPart := rfl

@[simp] theorem holderPart_setPool (p : Handle .pool) (pool : FramePool) :
    (k.setPool p pool).holderPart = k.holderPart := rfl

@[simp] theorem holderPart_require (condition : Prop) [Decidable condition] (cause : Fault) :
    (k.require condition cause).holderPart = k.holderPart := by
  unfold require
  split <;> rfl

@[simp] theorem holderPart_releaseFrames (p : Handle .pool) (s : Span) :
    (k.releaseFrames p s).holderPart = k.holderPart := by
  unfold releaseFrames
  split <;> rfl

@[simp] theorem holderPart_forgetSegment (g : Segment) :
    (k.forgetSegment g).holderPart = k.holderPart := by
  unfold forgetSegment
  split
  · split <;> simp
  · rfl

@[simp] theorem holderPart_destroy (s : Handle .segment) :
    (k.destroy s).holderPart = k.holderPart := by
  unfold destroy
  split
  · split <;> simp
  · rfl

@[simp] theorem holderPart_markDestroyed (s : Handle .segment) :
    (k.markDestroyed s).holderPart = k.holderPart := by
  unfold markDestroyed
  split
  · dsimp only
    split <;> simp
  · rfl

@[simp] theorem holderPart_acquire (object : Object) :
    (k.acquire object).holderPart = k.holderPart := by
  cases object <;> simp only [acquire] <;> split <;> rfl

@[simp] theorem holderPart_release (object : Object) :
    (k.release object).holderPart = k.holderPart := by
  cases object with
  | segment s =>
      simp only [release, releaseSegment]
      split
      · split <;> simp
      · rfl
  | window w =>
      simp only [release]
      split <;> simp

@[simp] theorem holderPart_addSegment (r : Handle .registry) (registry : Registry) (g : Segment)
    (pages : Nat) : (k.addSegment r registry g pages).holderPart = k.holderPart := rfl

@[simp] theorem holderPart_eraseRegistry (r : Handle .registry) :
    (k.eraseRegistry r).holderPart = k.holderPart := rfl

/-! ## Changes of the holders -/

@[simp] theorem objectPart_setSpace (a : AddressSpace) (ref : SpaceRef) :
    (k.setSpace a ref).objectPart = k.objectPart := by
  cases ref with
  | alone id => rfl
  | ofTask id =>
      simp only [setSpace]
      split <;> rfl

/-- Replacing an address space replaces the references that it holds. -/
theorem held_setSpace {ref : SpaceRef} {a : AddressSpace} (found : k.space? ref = some a) :
    ∃ rest, k.held = a.mapped + rest ∧ ∀ a', (k.setSpace a' ref).held = a'.mapped + rest := by
  cases ref with
  | alone id =>
      refine ⟨(k.spaces.erase id).total (·.mapped) + k.tasks.total (·.space.mapped) +
        k.requests.total (fun m => {m.object}) + k.references.total (fun o => {o}), ?_, ?_⟩
      · unfold held
        rw [Slots.total_erase found (·.mapped)]
        simp only [add_assoc]
      · intro a'
        simp only [held, setSpace]
        rw [Slots.total_set found a' (·.mapped)]
        simp only [add_assoc]
  | ofTask id =>
      obtain ⟨task, present, rfl⟩ := Option.map_eq_some_iff.mp found
      refine ⟨k.spaces.total (·.mapped) + (k.tasks.erase id).total (·.space.mapped) +
        k.requests.total (fun m => {m.object}) + k.references.total (fun o => {o}), ?_, ?_⟩
      · unfold held
        rw [Slots.total_erase present (·.space.mapped)]
        simp only [add_assoc, add_left_comm]
      · intro a'
        simp only [held, setSpace, present, setTask]
        rw [Slots.total_set present { task with space := a' } (·.space.mapped)]
        simp only [add_assoc, add_left_comm]

/-- An address space that is put in place is there, and no other address space changes. -/
theorem space?_setSpace {ref : SpaceRef} {a : AddressSpace} (found : k.space? ref = some a)
    (a' : AddressSpace) (ref' : SpaceRef) :
    (k.setSpace a' ref).space? ref' = if ref' = ref then some a' else k.space? ref' := by
  cases ref with
  | alone id =>
      cases ref' with
      | alone id' =>
          have found : k.spaces.get? id = some a := found
          by_cases same : id' = id
          · subst same
            simp [setSpace, space?, Slots.get?_set_self found]
          · simp [setSpace, space?, Slots.get?_set_of_ne (Ne.symm same), same]
      | ofTask id' => simp [setSpace, space?]
  | ofTask id =>
      obtain ⟨task, present, rfl⟩ := Option.map_eq_some_iff.mp found
      cases ref' with
      | alone id' => simp [setSpace, space?, present, setTask]
      | ofTask id' =>
          by_cases same : id' = id
          · subst same
            simp [setSpace, space?, present, setTask, Slots.get?_set_self present]
          · simp [setSpace, space?, present, setTask, Slots.get?_set_of_ne (Ne.symm same), same]

@[simp] theorem made_setSpace (a : AddressSpace) (ref ref' : SpaceRef) :
    (k.setSpace a ref).Made ref' ↔ k.Made ref' := by
  cases ref with
  | alone id => cases ref' <;> simp [setSpace, Made]
  | ofTask id =>
      simp only [setSpace]
      split
      · cases ref' <;> simp [setTask, Made]
      · rfl

/-- An address space that changes belongs to whom it belonged. -/
@[simp] theorem bearer?_setSpace (a : AddressSpace) (ref ref' : SpaceRef) :
    (k.setSpace a ref).bearer? ref' = k.bearer? ref' := by
  cases ref' with
  | alone id => rfl
  | ofTask id' =>
      cases ref with
      | alone id => rfl
      | ofTask id =>
          simp only [setSpace]
          split
          case h_1 task found =>
            by_cases same : id = id'
            · subst same
              simp only [bearer?, setTask, Slots.get?_set_self found, found, Option.map_some]
            · simp only [bearer?, setTask, Slots.get?_set_of_ne same]
          case h_2 => rfl

end Kernel

end SharedMemory
