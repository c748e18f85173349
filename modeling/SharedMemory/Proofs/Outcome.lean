import SharedMemory.Kernel.Basic

/-!
# How operations end

An operation that can be refused either ends with an answer or is refused, and both leave
a state. `KernelM.Ends` says what is true at each end; its laws take an operation apart
into the steps it is made of.
-/

namespace SharedMemory

namespace KernelM

variable {α β : Type}

/-- An operation ends as `good` says if it is carried out, and as `bad` says if it is
refused. -/
structure Ends (x : KernelM α) (k : Kernel) (good : α → Kernel → Prop)
    (bad : Errno → Kernel → Prop) : Prop where
  ok : ∀ {a : α} {k' : Kernel}, x k = .ok a k' → good a k'
  error : ∀ {cause : Errno} {k' : Kernel}, x k = .error cause k' → bad cause k'

/-- The state that an operation leaves, carried out or refused. -/
def after (x : KernelM α) (k : Kernel) : Kernel :=
  match x k with
  | .ok _ k' => k'
  | .error _ k' => k'

variable {x : KernelM α} {k k' : Kernel} {good good' : α → Kernel → Prop}
  {bad bad' : Errno → Kernel → Prop}

/-- How a program ends that is carried out. -/
theorem ends_iff_of_ok {a : α} (carriedOut : x k = .ok a k') : x.Ends k good bad ↔ good a k' := by
  refine ⟨fun ends => ends.ok carriedOut, fun holds => ⟨fun same => ?_, fun other => ?_⟩⟩
  · rw [carriedOut] at same
    cases same
    exact holds
  · rw [carriedOut] at other
    cases other

/-- How a program ends that is refused. -/
theorem ends_iff_of_error {cause : Errno} (refused : x k = .error cause k') :
    x.Ends k good bad ↔ bad cause k' := by
  refine ⟨fun ends => ends.error refused, fun holds => ⟨fun other => ?_, fun same => ?_⟩⟩
  · rw [refused] at other
    cases other
  · rw [refused] at same
    cases same
    exact holds

/-- Whether an operation is carried out with a given answer, or refused for a given cause, can be
computed. -/
instance [DecidableEq α] (x : KernelM α) (k : Kernel) (a : α) : Decidable (∃ k', x k = .ok a k') :=
  match result : x k with
  | .ok b k' => decidable_of_iff (b = a) (by simp)
  | .error _ _ => isFalse (by simp)

instance (x : KernelM α) (k : Kernel) (cause : Errno) : Decidable (∃ k', x k = .error cause k') :=
  match result : x k with
  | .ok _ _ => isFalse (by simp)
  | .error other k' => decidable_of_iff (other = cause) (by simp)

/-- The kernel after a program that is carried out. -/
theorem after_of_ok {a : α} (carriedOut : x k = .ok a k') : x.after k = k' := by
  rw [after, carriedOut]

/-- What is true at either end is true of the state that is left. -/
theorem Ends.after {property : Kernel → Prop}
    (ends : x.Ends k (fun _ => property) (fun _ => property)) : property (x.after k) := by
  unfold KernelM.after
  split
  case h_1 carriedOut => exact ends.ok carriedOut
  case h_2 refused => exact ends.error refused

/-- A program that ends in one way ends in every weaker way. -/
theorem Ends.mono (ends : x.Ends k good bad) (goodWeaker : ∀ a k', good a k' → good' a k')
    (badWeaker : ∀ cause k', bad cause k' → bad' cause k') : x.Ends k good' bad' :=
  ⟨fun carriedOut => goodWeaker _ _ (ends.ok carriedOut),
    fun refused => badWeaker _ _ (ends.error refused)⟩

/-- Every program ends somehow. -/
theorem ends_trivial (x : KernelM α) (k : Kernel) :
    x.Ends k (fun _ _ => True) (fun _ _ => True) :=
  ⟨fun _ => trivial, fun _ => trivial⟩

/-- What is true at each end for one reason is true together with what is so for another. -/
theorem Ends.and (ends : x.Ends k good bad) (ends' : x.Ends k good' bad') :
    x.Ends k (fun a k' => good a k' ∧ good' a k') (fun cause k' => bad cause k' ∧ bad' cause k') :=
  ⟨fun carriedOut => ⟨ends.ok carriedOut, ends'.ok carriedOut⟩,
    fun refused => ⟨ends.error refused, ends'.error refused⟩⟩

/-- At its end an operation has ended so. -/
theorem Ends.recall (ends : x.Ends k good bad) :
    x.Ends k (fun a k' => x k = .ok a k' ∧ good a k') bad :=
  ⟨fun carriedOut => ⟨carriedOut, ends.ok carriedOut⟩, ends.error⟩

/-- An operation that ends in one refusal only is refused so. -/
theorem Ends.eq_error {cause : Errno}
    (ends : x.Ends k (fun _ _ => False) (fun cause' k'' => cause' = cause ∧ k'' = k')) :
    x k = .error cause k' := by
  cases result : x k with
  | ok a k'' => exact (ends.ok result).elim
  | error cause' k'' =>
      obtain ⟨rfl, rfl⟩ := ends.error result
      rfl

/-- An operation that ends with one answer only is carried out so. -/
theorem Ends.eq_ok {a : α}
    (ends : x.Ends k (fun a' k'' => a' = a ∧ k'' = k') (fun _ _ => False)) : x k = .ok a k' := by
  cases result : x k with
  | ok a' k'' =>
      obtain ⟨rfl, rfl⟩ := ends.ok result
      rfl
  | error cause k'' => exact (ends.error result).elim

/-! ## Steps -/

@[simp] theorem ends_pure {a : α} : (pure a : KernelM α).Ends k good bad ↔ good a k :=
  ends_iff_of_ok rfl

@[simp] theorem ends_throw {cause : Errno} :
    (throw cause : KernelM α).Ends k good bad ↔ bad cause k :=
  ends_iff_of_error rfl

/-- The second of two steps starts where the first ended well. -/
@[simp] theorem ends_bind {f : α → KernelM β} {good : β → Kernel → Prop} :
    (x >>= f).Ends k good bad ↔ x.Ends k (fun a k' => (f a).Ends k' good bad) bad := by
  cases result : x k with
  | ok a k' =>
      have same : (x >>= f) k = f a k' := by simp only [bind, EStateM.bind, result]
      rw [ends_iff_of_ok result]
      exact ⟨fun ends => ⟨fun h => ends.ok (same.trans h), fun h => ends.error (same.trans h)⟩,
        fun ends => ⟨fun h => ends.ok (same.symm.trans h), fun h => ends.error (same.symm.trans h)⟩⟩
  | error cause k' =>
      have same : (x >>= f) k = .error cause k' := by simp only [bind, EStateM.bind, result]
      rw [ends_iff_of_error result, ends_iff_of_error same]

@[simp] theorem ends_get {good : Kernel → Kernel → Prop} :
    (get : KernelM Kernel).Ends k good bad ↔ good k k :=
  ends_iff_of_ok rfl

@[simp] theorem ends_set {good : PUnit → Kernel → Prop} :
    (set k' : KernelM PUnit).Ends k good bad ↔ good ⟨⟩ k' :=
  ends_iff_of_ok rfl

@[simp] theorem ends_modify {f : Kernel → Kernel} {good : PUnit → Kernel → Prop} :
    (modify f : KernelM PUnit).Ends k good bad ↔ good ⟨⟩ (f k) :=
  ends_iff_of_ok rfl

/-- A value that is always there is there, or a handle names nothing. -/
@[simp] theorem ends_orStuck {value : Option α} :
    (orStuck value).Ends k good bad ↔
      (∀ a, value = some a → good a k) ∧ (value = none → bad .efault (k.halt .dangling)) := by
  cases value with
  | some a => simp [orStuck]
  | none =>
      have stuck : (orStuck none : KernelM α) k = .error .efault (k.halt .dangling) := rfl
      simp [ends_iff_of_error stuck]

@[simp] theorem ends_orRefuse {value : Option α} {cause : Errno} :
    (orRefuse value cause).Ends k good bad ↔
      (∀ a, value = some a → good a k) ∧ (value = none → bad cause k) := by
  cases value <;> simp [orRefuse]

@[simp] theorem ends_ofExcept {result : Except Errno α} :
    (ofExcept result).Ends k good bad ↔
      (∀ a, result = .ok a → good a k) ∧ (∀ cause, result = .error cause → bad cause k) := by
  cases result <;> simp [ofExcept]

@[simp] theorem ends_check {condition : Prop} [Decidable condition] {cause : Errno}
    {good : Unit → Kernel → Prop} :
    (check condition cause).Ends k good bad ↔
      (condition → good () k) ∧ (¬ condition → bad cause k) := by
  by_cases holds : condition <;> simp [check, holds]

@[simp] theorem ends_ite {condition : Prop} [Decidable condition] {y : KernelM α} :
    (if condition then x else y).Ends k good bad ↔
      (condition → x.Ends k good bad) ∧ (¬ condition → y.Ends k good bad) := by
  by_cases holds : condition <;> simp [holds]

/-! ## Steps on the way

What follows a step that can end an operation is shown from what the step found; the ways out are
answered where they branch off. -/

section Steps

variable {f : α → KernelM β} {good : β → Kernel → Prop}

/-- What follows an operation starts from whatever it ended with. -/
theorem Ends.bind {between : α → Kernel → Prop} (first : x.Ends k between bad)
    (next : ∀ a k', between a k' → (f a).Ends k' good bad) : (x >>= f).Ends k good bad :=
  ends_bind.mpr (first.mono next fun _ _ refused => refused)

theorem Ends.get_bind {f : Kernel → KernelM β} (next : (f k).Ends k good bad) :
    (get >>= f).Ends k good bad :=
  ends_bind.mpr (ends_get.mpr next)

theorem Ends.modify_bind {g : Kernel → Kernel} {f : PUnit → KernelM β}
    (next : (f ⟨⟩).Ends (g k) good bad) : (modify g >>= f).Ends k good bad :=
  ends_bind.mpr (ends_modify.mpr next)

theorem Ends.set_bind {f : PUnit → KernelM β} (next : (f ⟨⟩).Ends k' good bad) :
    (set k' >>= f).Ends k good bad :=
  ends_bind.mpr (ends_set.mpr next)

/-- What follows a value that is always there has the value. -/
theorem Ends.orStuck_bind {value : Option α} (stuck : bad .efault (k.halt .dangling))
    (next : ∀ a, value = some a → (f a).Ends k good bad) : (orStuck value >>= f).Ends k good bad :=
  ends_bind.mpr (ends_orStuck.mpr ⟨next, fun _ => stuck⟩)

/-- A value that is there does not end an operation. -/
theorem Ends.found_bind {value : Option α} {a : α} (found : value = some a)
    (next : (f a).Ends k good bad) : (orStuck value >>= f).Ends k good bad := by
  rw [found]
  exact ends_bind.mpr (ends_pure.mpr next)

/-- What follows a value that may be missing has the value. -/
theorem Ends.orRefuse_bind {value : Option α} {cause : Errno} (refused : bad cause k)
    (next : ∀ a, value = some a → (f a).Ends k good bad) :
    (orRefuse value cause >>= f).Ends k good bad :=
  ends_bind.mpr (ends_orRefuse.mpr ⟨next, fun _ => refused⟩)

/-- What follows a result has what was computed. -/
theorem Ends.ofExcept_bind {result : Except Errno α}
    (refused : ∀ cause, result = .error cause → bad cause k)
    (next : ∀ a, result = .ok a → (f a).Ends k good bad) : (ofExcept result >>= f).Ends k good bad :=
  ends_bind.mpr (ends_ofExcept.mpr ⟨next, refused⟩)

/-- A check whose condition holds does not end an operation. -/
theorem Ends.passed_bind {condition : Prop} [Decidable condition] {cause : Errno}
    {f : Unit → KernelM β} (holds : condition) (next : (f ()).Ends k good bad) :
    (check condition cause >>= f).Ends k good bad :=
  ends_bind.mpr (ends_check.mpr ⟨fun _ => next, fun fails => (fails holds).elim⟩)

/-- What follows a check has its condition. -/
theorem Ends.check_bind {condition : Prop} [Decidable condition] {cause : Errno}
    {f : Unit → KernelM β} (refused : bad cause k)
    (next : condition → (f ()).Ends k good bad) : (check condition cause >>= f).Ends k good bad :=
  ends_bind.mpr (ends_check.mpr ⟨next, fun _ => refused⟩)

end Steps

end KernelM

end SharedMemory
