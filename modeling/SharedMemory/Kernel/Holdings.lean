import SharedMemory.Kernel.Spaces

/-!
# Requests and references that are kept

A map request may be kept and edited before it is used, and a reference may be held on
its own. Each stands for one reference to its object until it is dropped.
-/

namespace SharedMemory

namespace Kernel

/-- Keeps a request, with the reference that it carries. -/
def keepRequest (k : Kernel) (m : MapRequest) : Handle .request × Kernel :=
  (k.requests.fresh, { k with requests := k.requests.insert m })

/-- Replaces a kept request. -/
def setRequest (k : Kernel) (h : Handle .request) (m : MapRequest) : Kernel :=
  { k with requests := k.requests.set h m }

/-- Hands a kept request over to whoever uses it. -/
def takeRequest (h : Handle .request) : KernelM MapRequest := do
  let k ← get
  let m ← KernelM.orStuck (k.requests.get? h)
  set { k with requests := k.requests.erase h }
  return m

/-- Maps the object of a kept request, which is used up. -/
def mmapKept (ref : SpaceRef) (q : Requester) (h : Handle .request) : KernelM Nat := do
  let m ← takeRequest h
  mmap ref q m

/-- Drops a kept request and gives its reference back. -/
def dropRequest (k : Kernel) (h : Handle .request) : Kernel :=
  match k.requests.get? h with
  | some m => { k with requests := k.requests.erase h }.release m.object
  | none => k

/-- Takes a reference to an object and keeps it. -/
def keepReference (k : Kernel) (object : Object) : Handle .reference × Kernel :=
  (k.references.fresh, { k.acquire object with references := k.references.insert object })

/-- Drops a kept reference. -/
def dropReference (k : Kernel) (h : Handle .reference) : Kernel :=
  match k.references.get? h with
  | some object => { k with references := k.references.erase h }.release object
  | none => k

/-- Makes a window without references. -/
def makeWindow (k : Kernel) (w : Window) : Handle .window × Kernel :=
  (k.windows.fresh, { k with windows := k.windows.insert w })

/-- Empties the journal of a window. -/
def emptyJournal (k : Kernel) (w : Handle .window) : Kernel :=
  match k.windows.get? w with
  | some window => k.setWindow w { window with journal := [] }
  | none => k.halt .dangling

end Kernel

end SharedMemory
