import Mathlib.Algebra.BigOperators.Group.List.Basic
import Mathlib.Algebra.Group.Nat.Defs
import Mathlib.Algebra.Order.Group.Multiset
import SharedMemory.Handle

/-!
# Sums over slots

What the objects of one kind amount to together is a sum over their slots. The sum follows
every change of the slots: a new object adds its share, and an object that is replaced or
taken away takes its share with it.
-/

namespace SharedMemory

namespace Slots

variable {kind : Kind} {α : Type}

/-! ## What handles name -/

/-- A new value is under the fresh handle, and nothing else changes. -/
theorem get?_insert (s : Slots kind α) (h : Handle kind) (a : α) :
    (s.insert a).get? h = if h = s.fresh then some a else s.get? h := by
  by_cases new : h = s.fresh
  · rw [if_pos new, new, get?_insert_fresh]
  · rw [if_neg new, get?_insert_of_ne new]

/-- An erased handle stands for nothing, and nothing else changes. -/
theorem get?_erase (s : Slots kind α) (h h' : Handle kind) :
    (s.erase h).get? h' = if h = h' then none else s.get? h' := by
  by_cases same : h = h'
  · rw [if_pos same, same, get?_erase_self]
  · rw [if_neg same, get?_erase_of_ne same]

/-- Whatever a handle names after an insertion is new, or was there before. -/
theorem get?_of_insert {s : Slots kind α} {h : Handle kind} {a b : α}
    (found : (s.insert b).get? h = some a) : (h = s.fresh ∧ a = b) ∨ s.get? h = some a := by
  rw [get?_insert] at found
  split at found
  case isTrue new => exact .inl ⟨new, (Option.some.inj found).symm⟩
  case isFalse => exact .inr found

/-- What is left after an erasure was there before. -/
theorem get?_of_erase {s : Slots kind α} {h h' : Handle kind} {a : α}
    (found : (s.erase h).get? h' = some a) : s.get? h' = some a := by
  rw [get?_erase] at found
  split at found
  · cases found
  · exact found

/-- A value that replaces another is under the same handle. -/
theorem get?_set_self {s : Slots kind α} {h : Handle kind} {a : α} (found : s.get? h = some a)
    (b : α) : (s.set h b).get? h = some b := by
  rw [get?_set, if_pos rfl, found, Option.map_some]

/-- To replace a value leaves those under other handles. -/
theorem get?_set_of_ne {h h' : Handle kind} (other : h ≠ h') (s : Slots kind α) (b : α) :
    (s.set h b).get? h' = s.get? h' := by
  rw [get?_set, if_neg other]

@[simp] theorem isSome_get?_set {s : Slots kind α} {h h' : Handle kind} {b : α} :
    ((s.set h b).get? h').isSome = (s.get? h').isSome := by
  rw [get?_set]
  split
  · rw [Option.isSome_map]
  · rfl

/-- What is there stays there when a value is added. -/
theorem isSome_get?_insert {s : Slots kind α} {h : Handle kind} (found : (s.get? h).isSome) (a : α) :
    ((s.insert a).get? h).isSome := by
  rw [get?_insert]
  split
  · rfl
  · exact found

/-- A handle that stands for something is not the fresh one. -/
theorem ne_fresh {s : Slots kind α} {h : Handle kind} {a : α} (found : s.get? h = some a) :
    h ≠ s.fresh := by
  rintro rfl
  rw [get?_fresh] at found
  cases found

/-- The cells around the object that a handle names. -/
theorem exists_cells_eq {s : Slots kind α} {h : Handle kind} {a : α} (found : s.get? h = some a) :
    ∃ before after, s.cells = before ++ some a :: after ∧ before.length = h.index := by
  simp only [get?, Option.join_eq_some_iff, List.getElem?_eq_some_iff] at found
  obtain ⟨inside, cell⟩ := found
  refine ⟨s.cells.take h.index, s.cells.drop (h.index + 1), ?_, ?_⟩
  · rw [← cell, List.getElem_cons_drop, List.take_append_drop]
  · rw [List.length_take]
    omega

/-- To replace a value by itself changes nothing. -/
theorem set_self {s : Slots kind α} {h : Handle kind} {a : α} (found : s.get? h = some a) :
    s.set h a = s := by
  obtain ⟨before, after, cells, length⟩ := exists_cells_eq found
  cases s
  simp only at cells
  subst cells
  simp [set, ← length, List.modify_eq_take_drop]

/-- To replace what is not there changes nothing. -/
theorem set_of_none {s : Slots kind α} {h : Handle kind} (missing : s.get? h = none) (a : α) :
    s.set h a = s := by
  obtain ⟨cells⟩ := s
  simp only [set, mk.injEq]
  apply List.ext_getElem?
  intro i
  rw [List.getElem?_modify]
  split
  case isTrue here =>
    subst here
    cases cell : cells[h.index]? with
    | none => rfl
    | some content =>
        have empty : content = none := by simpa [get?, cell] using missing
        rw [empty]
        rfl
  case isFalse => simp

/-- Of two replacements the later one counts. -/
theorem set_set {s : Slots kind α} {h : Handle kind} {a : α} (found : s.get? h = some a)
    (b c : α) : (s.set h b).set h c = s.set h c := by
  obtain ⟨before, after, cells, length⟩ := exists_cells_eq found
  simp [set, cells, ← length, List.modify_eq_take_drop]

/-- The values are those under some handle. -/
theorem mem_values {s : Slots kind α} {a : α} : a ∈ s.values ↔ ∃ h, s.get? h = some a := by
  simp only [values, List.mem_filterMap, id_eq, exists_eq_right]
  rw [List.mem_iff_getElem?]
  constructor
  · rintro ⟨i, cell⟩
    exact ⟨⟨i⟩, by simp [get?, cell]⟩
  · rintro ⟨h, found⟩
    exact ⟨h.index, Option.join_eq_some_iff.mp found⟩

/-! ## Handles that were handed out -/

/-- The handle was handed out, if not to an object that is still there. -/
def Issued (s : Slots kind α) (h : Handle kind) : Prop := h.index < s.cells.length

/-- A handle that stands for something was issued. -/
theorem issued_of_get? {s : Slots kind α} {h : Handle kind} {a : α} (found : s.get? h = some a) :
    s.Issued h := by
  obtain ⟨before, after, cells, length⟩ := exists_cells_eq found
  simp [Issued, cells, ← length]

/-- The fresh handle was not issued yet. -/
theorem not_issued_fresh (s : Slots kind α) : ¬ s.Issued s.fresh := Nat.lt_irrefl _

/-- A handle that was issued stays so when a value is added. -/
theorem Issued.insert {s : Slots kind α} {h : Handle kind} (issued : s.Issued h) (a : α) :
    (s.insert a).Issued h := by
  have longer : (s.insert a).cells.length = s.cells.length + 1 := List.length_append
  exact Nat.lt_of_lt_of_eq (Nat.lt_succ_of_lt issued) longer.symm

@[simp] theorem issued_set {s : Slots kind α} {h h' : Handle kind} {a : α} :
    (s.set h a).Issued h' ↔ s.Issued h' := by
  simp [Issued, set]

@[simp] theorem issued_erase {s : Slots kind α} {h h' : Handle kind} :
    (s.erase h).Issued h' ↔ s.Issued h' := by
  simp [Issued, erase]

/-- Slots are told apart by what their handles name and by which handles were handed out. -/
theorem eq_of_get? {s s' : Slots kind α} (same : ∀ h, s'.get? h = s.get? h)
    (issued : ∀ h, s'.Issued h ↔ s.Issued h) : s' = s := by
  have length : s'.cells.length = s.cells.length := by
    refine Nat.le_antisymm (Nat.le_of_not_lt fun longer => ?_) (Nat.le_of_not_lt fun longer => ?_)
    · exact Nat.lt_irrefl _ ((issued ⟨s.cells.length⟩).mp longer)
    · exact Nat.lt_irrefl _ ((issued ⟨s'.cells.length⟩).mpr longer)
  obtain ⟨cells⟩ := s
  obtain ⟨cells'⟩ := s'
  congr 1
  refine List.ext_getElem length fun i inside' inside => ?_
  have named := same ⟨i⟩
  simpa only [get?, List.getElem?_eq_getElem inside', List.getElem?_eq_getElem inside,
    Option.join_some] using named

/-- To replace a value and then erase it is to erase it. -/
theorem erase_set (s : Slots kind α) (h : Handle kind) (a : α) :
    (s.set h a).erase h = s.erase h := by
  refine eq_of_get? (fun h' => ?_) fun h' => by simp
  rw [get?_erase, get?_erase]
  split
  · rfl
  case isFalse other => rw [get?_set_of_ne other]

/-! ## Views -/

/-- What is seen of every object, under the same handles. -/
def map {β : Type} (s : Slots kind α) (f : α → β) : Slots kind β := ⟨s.cells.map (Option.map f)⟩

/-- To map the values is to map the one under each handle. -/
theorem get?_map {β : Type} (s : Slots kind α) (f : α → β) (h : Handle kind) :
    (s.map f).get? h = (s.get? h).map f := by
  simp only [get?, map, List.getElem?_map]
  cases s.cells[h.index]? <;> rfl

/-- To map the values twice is to map them once. -/
theorem map_map {β γ : Type} (s : Slots kind α) (f : α → β) (g : β → γ) :
    (s.map f).map g = s.map fun a => g (f a) := by
  simp only [map, List.map_map, Function.comp_def, Option.map_map]

@[simp] theorem issued_map {β : Type} {s : Slots kind α} {f : α → β} {h : Handle kind} :
    (s.map f).Issued h ↔ s.Issued h := by
  simp [Issued, map]

/-- A new value is mapped like the others. -/
theorem map_insert {β : Type} (s : Slots kind α) (f : α → β) (a : α) :
    (s.insert a).map f = (s.map f).insert (f a) := by
  simp [map, insert]

/-- The values that are left are mapped as they were. -/
theorem map_erase {β : Type} (s : Slots kind α) (f : α → β) (h : Handle kind) :
    (s.erase h).map f = (s.map f).erase h := by
  refine eq_of_get? (fun h' => ?_) fun h' => by simp
  rw [get?_map, get?_erase, get?_erase, get?_map]
  split <;> rfl

/-- Objects that look the same are the same, if what is seen tells them apart. -/
theorem eq_of_map_eq {β : Type} {s s' : Slots kind α} {f : α → β} (same : s'.map f = s.map f)
    (distinct : ∀ {h a a'}, s.get? h = some a → s'.get? h = some a' → f a' = f a → a' = a) :
    s' = s := by
  refine eq_of_get? (fun h => ?_) fun h => ?_
  · have seen := congrArg (·.get? h) same
    simp only [get?_map] at seen
    cases found : s.get? h with
    | none => simpa [found] using seen
    | some a =>
        rw [found, Option.map_some] at seen
        obtain ⟨a', found', looks⟩ := Option.map_eq_some_iff.mp seen
        rw [found', distinct found found' looks]
  · rw [← issued_map (f := f), same, issued_map]

/-- An object that replaces another and looks the same leaves what is seen. -/
theorem map_set_of_eq {β : Type} {s : Slots kind α} {h : Handle kind} {a b : α}
    (found : s.get? h = some a) {f : α → β} (same : f b = f a) : (s.set h b).map f = s.map f := by
  obtain ⟨before, after, cells, length⟩ := exists_cells_eq found
  simp [map, set, cells, ← length, List.modify_eq_take_drop, same]

/-! ## Sums -/

variable {M : Type} [AddCommMonoid M]

/-- The sum of a quantity over all objects. -/
def total (s : Slots kind α) (f : α → M) : M := (s.values.map f).sum

/-- A new value adds its share. -/
theorem total_insert (s : Slots kind α) (f : α → M) (a : α) :
    (s.insert a).total f = s.total f + f a := by
  simp [total, insert, values]

/-- A total is the share of one value and the total of the others. -/
theorem total_erase {s : Slots kind α} {h : Handle kind} {a : α} (found : s.get? h = some a)
    (f : α → M) : s.total f = f a + (s.erase h).total f := by
  obtain ⟨before, after, cells, length⟩ := exists_cells_eq found
  simp [total, values, erase, cells, ← length, add_left_comm]

/-- A value that replaces another adds its own share to that of the others. -/
theorem total_set {s : Slots kind α} {h : Handle kind} {a : α} (found : s.get? h = some a)
    (b : α) (f : α → M) : (s.set h b).total f = f b + (s.erase h).total f := by
  obtain ⟨before, after, cells, length⟩ := exists_cells_eq found
  simp [total, values, erase, set, cells, ← length, List.modify_eq_take_drop, add_left_comm]

/-- A value with the same share as the one that it replaces leaves the total. -/
theorem total_set_of_eq {s : Slots kind α} {h : Handle kind} {a : α} (found : s.get? h = some a)
    {b : α} {f : α → M} (same : f b = f a) : (s.set h b).total f = s.total f := by
  rw [total_set found, total_erase found f, same]

private theorem total_map {β : Type} (s : Slots kind α) (f : α → β) (g : β → M) :
    (s.map f).total g = s.total fun a => g (f a) := by
  obtain ⟨cells⟩ := s
  simp only [total, values, map]
  congr 1
  induction cells with
  | nil => rfl
  | cons cell rest ih => cases cell <;> simp_all

/-- Objects that look the same amount to the same, as far as the sum depends on the looks. -/
theorem total_congr {β : Type} {s s' : Slots kind α} {f : α → β} (same : s'.map f = s.map f)
    {g : α → M} (g' : β → M) (depends : ∀ a, g a = g' (f a)) : s'.total g = s.total g := by
  calc s'.total g = (s'.map f).total g' := by rw [total_map, funext depends]
    _ = (s.map f).total g' := by rw [same]
    _ = s.total g := by rw [total_map, funext depends]

/-- What is additive may be applied to a sum part by part. -/
theorem map_total {N : Type} [AddCommMonoid N] (φ : M →+ N) (s : Slots kind α) (f : α → M) :
    φ (s.total f) = s.total fun a => φ (f a) := by
  rw [total, map_list_sum, List.map_map]
  rfl

/-- A sum of multisets holds an element as often as its parts do together. -/
theorem count_total {β : Type} [DecidableEq β] (s : Slots kind α) (f : α → Multiset β) (b : β) :
    (s.total f).count b = s.total fun a => (f a).count b :=
  map_total (Multiset.countAddMonoidHom b) s f

/-- What is in a total of multisets is in the share of some value. -/
theorem mem_total {β : Type} {s : Slots kind α} {f : α → Multiset β} {b : β} :
    b ∈ s.total f ↔ ∃ h a, s.get? h = some a ∧ b ∈ f a := by
  have each (objects : List α) : b ∈ (objects.map f).sum ↔ ∃ a ∈ objects, b ∈ f a := by
    induction objects with
    | nil => simp
    | cons a rest ih => simp [ih]
  simp only [total, each, mem_values, ← exists_and_right]
  exact exists_comm

/-- A total of shares that are all zero is zero. -/
theorem total_eq_zero {s : Slots kind α} {f : α → M}
    (nothing : ∀ {h a}, s.get? h = some a → f a = 0) : s.total f = 0 := by
  refine List.sum_eq_zero fun share member => ?_
  obtain ⟨a, inside, rfl⟩ := List.mem_map.mp member
  obtain ⟨h, found⟩ := mem_values.mp inside
  exact nothing found

/-- Counting the objects of some kind is adding one for each. -/
theorem total_ite (s : Slots kind α) (p : α → Bool) :
    (s.total fun a => if p a then 1 else 0) = s.values.countP p := by
  unfold total
  induction s.values with
  | nil => rfl
  | cons a rest ih => rw [List.map_cons, List.sum_cons, ih, List.countP_cons, Nat.add_comm]

end Slots

end SharedMemory
