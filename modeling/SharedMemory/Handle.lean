/-!
# Handles

Objects that live on their own are kept in slots and named by handles. A slot is
never given to a second object, so a handle names one object for good, or nothing
once that object is gone.
-/

namespace SharedMemory

/-- The kinds of objects that have handles. -/
inductive Kind where
  | pool | segment | registry | window | space | request | reference | clock | task
deriving DecidableEq

/-- The name of an object of one kind. -/
structure Handle (kind : Kind) where
  index : Nat
deriving DecidableEq

/-- The objects of one kind, each in the slot of its handle. -/
structure Slots (kind : Kind) (α : Type) where
  cells : List (Option α) := []

namespace Slots

variable {kind : Kind} {α : Type}

/-- The object that a handle names. -/
def get? (s : Slots kind α) (h : Handle kind) : Option α := (s.cells[h.index]?).join

/-- The handle of the next object. -/
def fresh (s : Slots kind α) : Handle kind := ⟨s.cells.length⟩

/-- Puts an object into the slot of the fresh handle. -/
def insert (s : Slots kind α) (a : α) : Slots kind α := ⟨s.cells ++ [some a]⟩

/-- Replaces the object that a handle names. -/
def set (s : Slots kind α) (h : Handle kind) (a : α) : Slots kind α :=
  ⟨s.cells.modify h.index fun old => old.map fun _ => a⟩

/-- Takes an object away. -/
def erase (s : Slots kind α) (h : Handle kind) : Slots kind α := ⟨s.cells.set h.index none⟩

/-- The objects in the order of their handles. -/
def values (s : Slots kind α) : List α := s.cells.filterMap id

/-! ## What handles name after a change -/

/-- The fresh handle names nothing yet. -/
@[simp] theorem get?_fresh (s : Slots kind α) : s.get? s.fresh = none := by
  simp [get?, fresh]

/-- A new object is named by the fresh handle. -/
@[simp] theorem get?_insert_fresh (s : Slots kind α) (a : α) :
    (s.insert a).get? s.fresh = some a := by
  simp [get?, insert, fresh]

/-- A new object leaves what other handles name. -/
theorem get?_insert_of_ne {s : Slots kind α} {h : Handle kind} (other : h ≠ s.fresh) (a : α) :
    (s.insert a).get? h = s.get? h := by
  have index : h.index ≠ s.cells.length := fun same => other (by cases h; simp_all [fresh])
  simp only [get?, insert]
  by_cases inside : h.index < s.cells.length
  · rw [List.getElem?_append_left inside]
  · have past : s.cells.length < h.index := by omega
    rw [List.getElem?_eq_none (Nat.le_of_lt past)]
    rw [List.getElem?_eq_none]
    rw [List.length_append]
    exact past

/-- What a handle names after the object of some handle was replaced. -/
theorem get?_set (s : Slots kind α) (h h' : Handle kind) (a : α) :
    (s.set h a).get? h' = if h = h' then (s.get? h').map fun _ => a else s.get? h' := by
  by_cases same : h = h'
  · subst same
    cases found : s.cells[h.index]? with
    | none => simp [get?, set, found]
    | some cell => cases cell <;> simp [get?, set, found]
  · have index : h.index ≠ h'.index := fun eq => same (by cases h; cases h'; simp_all)
    simp [get?, set, same, index]

/-- A handle whose object is gone names nothing. -/
@[simp] theorem get?_erase_self (s : Slots kind α) (h : Handle kind) :
    (s.erase h).get? h = none := by
  simp only [get?, erase, List.getElem?_set_self']
  cases s.cells[h.index]? <;> rfl

/-- Taking an object away leaves what other handles name. -/
theorem get?_erase_of_ne {h h' : Handle kind} (other : h ≠ h') (s : Slots kind α) :
    (s.erase h).get? h' = s.get? h' := by
  have index : h.index ≠ h'.index := fun eq => other (by cases h; cases h'; simp_all)
  simp [get?, erase, List.getElem?_set_ne index]

end Slots

end SharedMemory
