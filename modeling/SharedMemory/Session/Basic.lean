import SharedMemory.AddressSpace.Survey
import SharedMemory.Kernel.Holdings
import SharedMemory.Session.Answer
import SharedMemory.Session.Command

/-!
# Sessions

A `Session` is a kernel together with names for its objects, one table of names for each
kind. A name that is bound again stands for the new object; the old one is dropped once
the new one is in place.
-/

namespace SharedMemory

/-- Names bound to things of one kind, at most once each. -/
structure Names (α : Type) where
  entries : List (String × α) := []

namespace Names

variable {α : Type}

/-- What a name stands for. -/
def find? (n : Names α) (name : String) : Option α := n.entries.lookup name

/-- Takes a name away. -/
def erase (n : Names α) (name : String) : Names α := ⟨n.entries.filter (·.1 ≠ name)⟩

/-- Binds a name, also if it is bound already. -/
def bind (n : Names α) (name : String) (a : α) : Names α := ⟨(n.erase name).entries ++ [(name, a)]⟩

end Names

/-- A kernel and the names of its objects. -/
structure Session where
  kernel : Kernel := {}
  userNamespaces : Names UserNamespace := ⟨[("root", .initial)]⟩
  pools : Names (Handle .pool) := {}
  /-- The ranges of frames that were taken, with the pools that they came from. -/
  ranges : Names (Handle .pool × Span) := {}
  registries : Names (Handle .registry) := {}
  namespaces : Names (Handle .registry) := {}
  clocks : Names (Handle .clock) := {}
  credentials : Names Credentials := {}
  tasks : Names (Handle .task) := {}
  segments : Names (Handle .segment) := {}
  requests : Names (Handle .request) := {}
  references : Names (Handle .reference) := {}
  spaces : Names (Handle .space) := {}
  windows : Names (Handle .window) := {}

namespace Session

/-- Commands at work on a session. A refusal keeps the changes made before it. -/
abbrev SessionM := EStateM Refusal Session

/-- Runs an operation of the kernel. -/
def run {α : Type} (operation : KernelM α) : SessionM α := fun s =>
  match operation s.kernel with
  | .ok a k => .ok a { s with kernel := k }
  | .error cause k => .error (.errno cause) { s with kernel := k }

/-- Changes the kernel. -/
def change (f : Kernel → Kernel) : SessionM Unit := modify fun s => { s with kernel := f s.kernel }

/-- Changes the kernel and gives an answer. -/
def produce {α : Type} (f : Kernel → α × Kernel) : SessionM α := run fun k =>
  let (a, k') := f k
  .ok a k'

/-! ## Names -/

/-- What a name stands for; `field` says where in the command it is. -/
def named {α : Type} (table : Session → Names α) (field name : String) : SessionM α := do
  match (table (← get)).find? name with
  | some a => return a
  | none => throw (.unbound field)

/-- The object with a handle. -/
def object {α : Type} {kind : Kind} (slots : Kernel → Slots kind α) (h : Handle kind) :
    SessionM α := do
  run (KernelM.orStuck ((slots (← get).kernel).get? h))

/-- The named task. -/
def taskNamed (name : String) : SessionM (Handle .task) := named tasks "task" name

/-- The named segment. -/
def segmentNamed (name : String) : SessionM (Handle .segment) := named segments "shm" name

/-- The named registry. -/
def registryNamed : RegistryName → SessionM (Handle .registry)
  | .registry name => named registries "reg" name
  | .ipc name => named namespaces "ipc" name

/-- The named address space. -/
def spaceNamed : SpaceName → SessionM SpaceRef
  | .space name => do return .alone (← named spaces "space" name)
  | .task name => do return .ofTask (← taskNamed name)

/-- The address space that a name stands for. -/
def spaceValue (name : SpaceName) : SessionM AddressSpace := do
  let ref ← spaceNamed name
  run (KernelM.orStuck ((← get).kernel.space? ref))

/-- The named object. -/
def objectNamed : ObjectName → SessionM Object
  | .segment name => do return .segment (← segmentNamed name)
  | .window name => do return .window (← named windows "obj" name)

/-- Whoever asks. -/
def requester : Asker → SessionM Requester
  | .context c => do return ⟨← named credentials "cred" c.credentials, c.pid, c.now⟩
  | .task name => do
      let task ← object (·.tasks) (← taskNamed name)
      run (KernelM.orStuck ((← get).kernel.requester? task))

/-! ## Binding -/

/-- Binds a name to a registry that stands alone. -/
def bindRegistry (name : String) (r : Handle .registry) : SessionM Unit := do
  let old := (← get).registries.find? name
  modify fun s => { s with registries := s.registries.bind name r }
  old.forM fun r => change (·.dropRegistry r)

/-- Binds a name to an IPC namespace. -/
def bindNamespace (name : String) (r : Handle .registry) : SessionM Unit := do
  let old := (← get).namespaces.find? name
  modify fun s => { s with namespaces := s.namespaces.bind name r }
  old.forM fun r => change (·.dropNamespace r)

/-- Binds a name to a task. -/
def bindTask (name : String) (t : Handle .task) : SessionM Unit := do
  let old := (← get).tasks.find? name
  modify fun s => { s with tasks := s.tasks.bind name t }
  old.forM fun t => change (·.dropTask t)

/-- Binds a name to a segment. -/
def bindSegment (name : String) (g : Handle .segment) : SessionM Unit :=
  modify fun s => { s with segments := s.segments.bind name g }

/-- Binds a name to a kept request. -/
def bindRequest (name : String) (m : Handle .request) : SessionM Unit := do
  let old := (← get).requests.find? name
  modify fun s => { s with requests := s.requests.bind name m }
  old.forM fun m => change (·.dropRequest m)

/-- Binds a name to a kept reference. -/
def bindReference (name : String) (r : Handle .reference) : SessionM Unit := do
  let old := (← get).references.find? name
  modify fun s => { s with references := s.references.bind name r }
  old.forM fun r => change (·.dropReference r)

/-- Binds a name to an address space that stands alone. -/
def bindSpace (name : String) (a : Handle .space) : SessionM Unit := do
  let old := (← get).spaces.find? name
  modify fun s => { s with spaces := s.spaces.bind name a }
  old.forM fun a => change (·.dropSpace a)

/-- Unbinds a name and drops what it stood for. -/
def drop (kind : Droppable) (name : String) : SessionM Unit := do
  match kind with
  | .registry =>
      let r ← named registries "name" name
      modify fun s => { s with registries := s.registries.erase name }
      change (·.dropRegistry r)
  | .ipc =>
      let r ← named namespaces "name" name
      modify fun s => { s with namespaces := s.namespaces.erase name }
      change (·.dropNamespace r)
  | .task =>
      let t ← named tasks "name" name
      modify fun s => { s with tasks := s.tasks.erase name }
      change (·.dropTask t)
  | .segment =>
      let _ ← named segments "name" name
      modify fun s => { s with segments := s.segments.erase name }
  | .request =>
      let m ← named requests "name" name
      modify fun s => { s with requests := s.requests.erase name }
      change (·.dropRequest m)
  | .reference =>
      let r ← named references "name" name
      modify fun s => { s with references := s.references.erase name }
      change (·.dropReference r)
  | .space =>
      let a ← named spaces "name" name
      modify fun s => { s with spaces := s.spaces.erase name }
      change (·.dropSpace a)

end Session

end SharedMemory
