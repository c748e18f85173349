import SharedMemory.Session.Basic

/-!
# Views of a session

What shows of the named objects between commands.
-/

namespace SharedMemory

namespace Session

/-- What shows of a registry: its segments, their pages and the identifier used last. -/
structure RegistryView where
  segments : Nat
  totalPages : Nat
  lastId : Int

/-- What shows of an address space: the number of areas and those that a survey finds. -/
structure SpaceView where
  areaCount : Nat
  areas : List Span

/-- What shows of the named objects. -/
structure View where
  usedBytes : List (String × Nat)
  registries : List (String × RegistryView)
  namespaces : List (String × RegistryView)
  segments : List (String × Segment)
  references : List (String × Nat)
  tasks : List (String × SpaceView)
  spaces : List (String × SpaceView)

/-- The view of a registry. -/
def registryView (r : Registry) : RegistryView := ⟨r.table.length, r.totalPages, r.lastId⟩

/-- The view of an address space. -/
def spaceView (a : AddressSpace) : SpaceView := ⟨a.areas.length, a.survey⟩

/-- What shows of the named objects of one kind. -/
def viewOf {α β : Type} {kind : Kind} (names : Names (Handle kind)) (slots : Slots kind α)
    (f : α → β) : List (String × β) :=
  names.entries.filterMap fun entry => (slots.get? entry.2).map fun a => (entry.1, f a)

/-- What shows of the named objects. -/
def view (s : Session) : View where
  usedBytes := viewOf s.pools s.kernel.pools (·.usedBytes)
  registries := viewOf s.registries s.kernel.registries registryView
  namespaces := viewOf s.namespaces s.kernel.registries registryView
  segments := viewOf s.segments s.kernel.segments id
  references := viewOf s.windows s.kernel.windows (·.references)
  tasks := viewOf s.tasks s.kernel.tasks fun task => spaceView task.space
  spaces := viewOf s.spaces s.kernel.spaces spaceView

end Session

end SharedMemory
