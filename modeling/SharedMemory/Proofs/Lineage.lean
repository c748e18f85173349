import SharedMemory.Proofs.Representation
import SharedMemory.Proofs.Translation

/-!
# Where areas come from

An area of an address space is a part of one that was there before, or in the address space that it
is a copy of, or it was mapped (`Kernel.Stems`). So whatever an area came from by unmapping what is
around it and by forks, it has the rights of that area. In particular what stems from a read-only
attachment (`World.FromReadOnly`) is never writable.
-/

namespace SharedMemory

namespace Kernel

variable {k k' : Kernel} {refs refs' : Multiset Object} {may : Deed → Prop} {ref : SpaceRef}
  {a b : AddressSpace} {areas : List Area} {v : Area}

/-! ## One turn -/

/-- Where an area comes from in one turn: it is a part of one that the address space had, the
address space is new and a copy of one that has it, or it may be mapped. -/
inductive Stems (may : Deed → Prop) (k k' : Kernel) (ref : SpaceRef) (v : Area) : Prop
  | kept {a u} (found : k.space? ref = some a) (member : u ∈ a.areas) (part : v.Part u)
      (bearer : k'.bearer? ref = k.bearer? ref)
  | copied {source a} (fresh : ¬ k.Made ref) (found : k.space? source = some a)
      (member : v ∈ a.areas) (bearer : k'.bearer? ref = none ∨ k'.bearer? ref = k.bearer? source)
  | mapped (permitted : may (.map ref (k.bearer? ref) v)) (nonempty : v.span.start < v.span.stop)
      (bearer : k'.bearer? ref = k.bearer? ref)

private theorem stems_setSpace {ref' : SpaceRef} {a' : AddressSpace} (laid : k.Laid)
    (found : k.space? ref' = some a)
    (parts : ∀ w ∈ a'.areas, (∃ u ∈ a.areas, w.Part u) ∨
      may (.map ref' (k.bearer? ref') w) ∧ w.span.start < w.span.stop)
    (found' : (k.setSpace a' ref').space? ref = some b) (member : v ∈ b.areas) :
    Stems may k (k.setSpace a' ref') ref v := by
  have bearer := bearer?_setSpace (k := k) a' ref' ref
  rw [space?_setSpace found] at found'
  split at found'
  case isFalse =>
    exact .kept found' member (.refl ((laid.spaces found').nonempty v member)) bearer
  case isTrue same =>
    cases found'
    subst same
    rcases parts v member with ⟨u, inside, part⟩ | ⟨permitted, nonempty⟩
    · exact .kept found inside part bearer
    · exact .mapped permitted nonempty bearer

/-- Every area stems from one that was there, or may be mapped. -/
theorem Turn.stems (turn : Turn may k refs k' refs') (laid : k.Laid)
    (found' : k'.space? ref = some b) (member : v ∈ b.areas) : Stems may k k' ref v := by
  cases turn with
  | change change =>
      have same := change.holderPart
      rw [space?_congr same] at found'
      exact .kept found' member (.refl ((laid.spaces found').nonempty v member))
        (bearer?_congr same ref)
  | unmap found =>
      refine stems_setSpace laid found (fun w inside => .inl ?_) found' member
      obtain ⟨u, before, remains⟩ := AddressSpace.mem_areas_unmap.mp inside
      exact ⟨u, before, Area.part_of_mem_without ((laid.spaces found).nonempty u before) remains⟩
  | map found mappable permitted =>
      have ordered := (laid.spaces found).toOrdered
      refine stems_setSpace laid found (fun w inside => ?_) found' member
      rcases (ordered.mem_areas_map mappable.room mappable.nonempty).mp inside with rfl | before
      · exact .inr ⟨permitted, mappable.nonempty⟩
      · exact .inl ⟨w, before, .refl (ordered.nonempty w before)⟩
  | @establish _ a u ls found =>
      obtain ⟨pages, same⟩ := a.establishAll_eq u ls
      refine stems_setSpace laid found (fun w inside => .inl ?_) found' member
      rw [same] at inside
      exact ⟨w, inside, .refl ((laid.spaces found).nonempty w inside)⟩
  | rehold _ _ origin =>
      cases origin found' with
      | same found bearer =>
          exact .kept found member (.refl ((laid.spaces found).nonempty v member)) bearer
      | copy fresh found bearer => exact .copied fresh found member bearer
      | new => cases member

/-! ## One operation -/

/-- An address space was made under a reference, and each of its areas is a part of one in a list or
of one that may be mapped there. -/
structure Traced (may : Deed → Prop) (ref : SpaceRef) (areas : List Area) (k : Kernel) : Prop where
  made : k.Made ref
  traces : ∀ b, k.space? ref = some b → ∀ v ∈ b.areas,
    ∃ u, v.Part u ∧ (u ∈ areas ∨ ∃ bearer, may (.map ref bearer u))

/-- Where areas come from depends on the holders alone. -/
theorem Traced.congr (traced : Traced may ref areas k) (same : k'.holderPart = k.holderPart) :
    Traced may ref areas k' where
  made := (made_congr same ref).mpr traced.made
  traces := by
    rw [space?_congr same]
    exact traced.traces

/-- One turn lets areas be traced to those in the list. -/
theorem Turn.traced (turn : Turn may k refs k' refs') (laid : k.Laid)
    (traced : Traced may ref areas k) : Traced may ref areas k' where
  made := turn.made traced.made
  traces := by
    intro b found' v member
    cases turn.stems laid found' member with
    | kept found before part =>
        obtain ⟨u, part', origin⟩ := traced.traces _ found _ before
        exact ⟨u, part.trans part', origin⟩
    -- The reference was handed out before, so nothing new stands under it.
    | copied fresh => exact (fresh traced.made).elim
    | mapped permitted nonempty => exact ⟨v, .refl nonempty, .inr ⟨_, permitted⟩⟩

/-- Areas are traced to themselves. -/
theorem traced_start (laid : k.Laid) (found : k.space? ref = some a) :
    Traced may ref a.areas k where
  made := made_of_space? found
  traces := by
    intro b found' v member
    cases found.symm.trans found'
    exact ⟨v, .refl ((laid.spaces found).nonempty v member), .inl member⟩

end Kernel

/-- Machine words are read as signed numbers in different ways. -/
theorem signed_inj {m n : Nat} (first : m < wordSize) (second : n < wordSize)
    (same : signed 64 m = signed 64 n) : m = n := by
  have words : (m : Int) % (wordSize : Nat) = (n : Int) % (wordSize : Nat) := by
    rw [← Int.bmod_emod, ← Int.bmod_emod (x := n)]
    exact congrArg (· % (wordSize : Int)) same
  rw [Int.emod_eq_of_lt (Int.natCast_nonneg m) (Int.ofNat_lt.mpr first),
    Int.emod_eq_of_lt (Int.natCast_nonneg n) (Int.ofNat_lt.mpr second)] at words
  exact Int.ofNat.inj words

namespace Operation

/-- The operation attaches a segment to a task where an area starts. -/
def Attaches (w : World) (t : Handle .task) (v : Area) : Operation → Prop
  | shmat t' id address flagWord => t' = t ∧
      ∃ k, Kernel.shmat t id address flagWord w.kernel = .ok (signed 64 v.span.start) k
  | _ => False

end Operation

namespace World

open Kernel

/-- An area of a task stems from a read-only attachment: it is the area that was attached, lies
where such an area was and was not attached since, or a child of the task has it from there. -/
inductive FromReadOnly : World → Handle .task → Area → Prop
  | attached {w t id address flagWord task v} (reached : w.Reachable withoutKept)
      (readOnly : (AttachFlags.ofWord flagWord).readOnly = true)
      (attaches : (Operation.shmat t id address flagWord).Attaches w t v)
      (here : ((Operation.shmat t id address flagWord).run w).kernel.tasks.get? t = some task)
      (member : v ∈ task.space.areas) :
      FromReadOnly ((Operation.shmat t id address flagWord).run w) t v
  | remains {w t v o task v'} (before : FromReadOnly w t v) (permitted : withoutKept o)
      (enabled : o.Enabled w) (here : (o.run w).kernel.tasks.get? t = some task)
      (member : v' ∈ task.space.areas)
      (inside : v.span.start ≤ v'.span.start ∧ v'.span.stop ≤ v.span.stop)
      (old : ¬ o.Attaches w t v') : FromReadOnly (o.run w) t v'
  | inherited {w t v childPid child k task v'} (before : FromReadOnly w t v)
      (forked : Kernel.forkTask t childPid w.kernel = .ok child k)
      (here : ((Operation.forkTask t childPid).run w).kernel.tasks.get? child = some task)
      (member : v' ∈ task.space.areas)
      (inside : v.span.start ≤ v'.span.start ∧ v'.span.stop ≤ v.span.stop) :
      FromReadOnly ((Operation.forkTask t childPid).run w) child v'

variable {w w' : World} {o : Operation} {may : Deed → Prop} {t : Handle .task} {task task' : Task}
  {v v' : Area} {ref : SpaceRef} {a : AddressSpace}

/-- A step lets areas be traced to those that the address space had. -/
theorem Step.traced (step : Step may w w') (laid : w.kernel.Laid)
    (found : w.kernel.space? ref = some a) : Traced may ref a.areas w'.kernel :=
  step.kernel (Traced may ref a.areas) Turn.traced (fun same _ traced => traced.congr same) laid
    (traced_start laid found)

/-- The area that starts where a segment was attached is the one that was attached. -/
theorem attached_of_attaches {id : Int} {address : Nat} {flagWord : FlagWord}
    (laid : w.kernel.Laid)
    (attaches : (Operation.shmat t id address flagWord).Attaches w t v)
    (here : ((Operation.shmat t id address flagWord).run w).kernel.tasks.get? t = some task)
    (member : v ∈ task.space.areas) :
    ∃ answer k, w.kernel.Attached t id flagWord answer v k := by
  obtain ⟨_, k, carriedOut⟩ := attaches
  have after : ((Operation.shmat t id address flagWord).run w).kernel = k :=
    KernelM.after_of_ok carriedOut
  have laid' := (step_run (o := .shmat t id address flagWord) laid trivial).laid laid
  have ends : (Kernel.shmat t id address flagWord).Ends w.kernel
      (fun answer k' => ∃ u, w.kernel.Attached t id flagWord answer u k' ∧
        Passage (· = .map (.ofTask t) (w.kernel.bearer? (.ofTask t)) u) w.kernel 0 k' 0)
      (fun _ k' => Passage idle w.kernel 0 k' 0) := shmat_ends laid t id address flagWord
  obtain ⟨u, attached, _⟩ := ends.ok carriedOut
  obtain ⟨b, found, inside⟩ := attached.installed.mem
  rw [after] at here laid'
  cases (space?_ofTask here).symm.trans found
  have placed := laid'.spaces found
  have start : v.span.start = u.span.start :=
    signed_inj (placed.start_lt member) (placed.start_lt inside) attached.answer
  have same : v = u := placed.area_unique v.span.start member
    ⟨Nat.le_refl _, placed.nonempty v member⟩ inside
    ⟨Nat.le_of_eq start.symm, by rw [start]; exact placed.nonempty u inside⟩
  rw [← same] at attached
  exact ⟨_, k, attached⟩

/-- What lies where an area was, and was not attached just now, has the rights of that area. -/
theorem perms_of_remains (laid : w.kernel.Laid) (plain : withoutKept o) (enabled : o.Enabled w)
    (here : w.kernel.tasks.get? t = some task)
    (member : v ∈ task.space.areas) (here' : (o.run w).kernel.tasks.get? t = some task')
    (member' : v' ∈ task'.space.areas)
    (inside : v.span.start ≤ v'.span.start ∧ v'.span.stop ≤ v.span.stop)
    (old : ¬ o.Attaches w t v') : v'.perms = v.perms := by
  have step := step_run laid enabled
  have placed := (laid.spaces (space?_ofTask here)).toOrdered
  have placed' := ((step.laid laid).spaces (space?_ofTask here')).toOrdered
  obtain ⟨u, part, before | ⟨bearer, does⟩⟩ :=
    (step.traced laid (space?_ofTask here)).traces _ (space?_ofTask here') v' member'
  · -- The area that it is a part of lies where the old one does.
    have same : u = v := placed.area_unique v'.span.start before
      ⟨part.start, Nat.lt_of_lt_of_le part.nonempty part.stop⟩ member
      ⟨inside.1, Nat.lt_of_lt_of_le part.nonempty inside.2⟩
    rw [part.perms, same]
  · cases does with
    | mmap => cases plain
    | shmctl _ controls => cases controls
    | shmat carriedOut attached =>
        -- What was attached is there as a whole, so it is the new area itself.
        obtain ⟨b, found, mapped⟩ := attached.installed.mem
        rw [← KernelM.after_of_ok carriedOut] at found
        cases (space?_ofTask here').symm.trans found
        have same : v' = u := placed'.eq_of_inside mapped member' ⟨part.start, part.stop⟩
        subst same
        exact (old ⟨rfl, _, attached.answer ▸ carriedOut⟩).elim

/-- A child has the areas of its parent. -/
theorem areas_of_forked {childPid : Pid} {child : Handle .task} {k : Kernel}
    (forked : Kernel.forkTask t childPid w.kernel = .ok child k)
    (here : w.kernel.tasks.get? t = some task)
    (here' : ((Operation.forkTask t childPid).run w).kernel.tasks.get? child = some task') :
    task'.space.areas = task.space.areas := by
  have after : ((Operation.forkTask t childPid).run w).kernel = k := KernelM.after_of_ok forked
  have ends : (Kernel.forkTask t childPid).Ends w.kernel
      (fun child k' => Forked w.kernel t child k' ∧ Passage idle w.kernel 0 k' 0)
      (fun _ k' => Passage idle w.kernel 0 k' 0) := forkTask_ends t childPid
  obtain ⟨⟨a, original, copy⟩, _⟩ := ends.ok forked
  cases (space?_ofTask here).symm.trans original
  rw [← after] at copy
  have space : task'.space = { task.space with pages := [] } :=
    Option.some.inj ((space?_ofTask here').symm.trans copy)
  rw [space]

/-- What stems from a read-only attachment is there and is not writable. -/
theorem FromReadOnly.not_writable (stems : FromReadOnly w t v) :
    w.Reachable withoutKept ∧
      ∃ task, w.kernel.tasks.get? t = some task ∧ v ∈ task.space.areas ∧ v.perms.write = false := by
  induction stems with
  | @attached w t id address flagWord task v reached readOnly attaches here member =>
      have laid := reached.laid suits_withoutKept
      obtain ⟨_, _, attached⟩ := attached_of_attaches laid attaches here member
      refine ⟨reached.tail rfl trivial, task, here, member, ?_⟩
      rw [attached.access, attachMode, AttachMode.access, readOnly]
      rfl
  | @remains w t v o task v' _ plain enabled here' member' inside old ih =>
      obtain ⟨reached, _, here, member, readOnly⟩ := ih
      have laid := reached.laid suits_withoutKept
      refine ⟨reached.tail plain enabled, task, here', member', ?_⟩
      rw [perms_of_remains laid plain enabled here member here' member' inside old]
      exact readOnly
  | @inherited w t v childPid child k task v' _ forked here' member' inside ih =>
      obtain ⟨reached, _, here, member, readOnly⟩ := ih
      have placed := ((reached.laid suits_withoutKept).spaces (space?_ofTask here)).toOrdered
      refine ⟨reached.tail rfl trivial, task, here', member', ?_⟩
      rw [areas_of_forked forked here here'] at member'
      rw [placed.eq_of_inside member member' inside]
      exact readOnly

end World

end SharedMemory
