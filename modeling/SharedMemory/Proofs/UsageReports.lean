import SharedMemory.Proofs.Faultless
import SharedMemory.Proofs.Rotation

/-!
# What registries report

A registry reports on its identifiers what it keeps for the rotation: the one that it handed out
last (`World.usage_shows_last`). That is the highest one so far until the rotation first comes
round, and after that whenever it is back at the highest one, but not in between.

The identifiers that a registry hands out in the course of operations are `World.issuedIds`. Where
the rotation is, and that it is nowhere but at zero before a registry is made, is `Kernel.Stands`.
-/

namespace SharedMemory

/-- The identifier that a registry hands out in an operation, if it does. -/
def Operation.issued? (w : World) (r : Handle .registry) (o : Operation) : Option Int :=
  (((o.run w).kernel.segments.get? w.kernel.segments.fresh).filter (·.registry = r)).map (·.id)

private theorem Operation.issued?_eq_some_iff {w : World} {r : Handle .registry} {o : Operation}
    {id : Int} : o.issued? w r = some id ↔ o.Issues w r id := by
  simp [issued?, Issues, Option.filter_eq_some_iff, and_assoc]

private theorem Operation.issued?_eq_none_iff {w : World} {r : Handle .registry} {o : Operation} :
    o.issued? w r = none ↔ ∀ id, ¬ o.Issues w r id := by
  simp only [Option.eq_none_iff_forall_ne_some, ne_eq, issued?_eq_some_iff]

namespace Kernel

open KernelM

/-- The rotation of a registry is at an identifier: the one that was handed out last, and zero as
long as the registry is not made. -/
structure Stands (k : Kernel) (r : Handle .registry) (last : Int) : Prop where
  registered : ∀ registry, k.registries.get? r = some registry → registry.lastId = last
  unmade : ¬ k.registries.Issued r → last = 0

/-- A control call for the usage gives the report of the registry of the task's namespace. -/
theorem Calling.shmctl_usage {k : Kernel} {t : Handle .task} {task : Task} {q : Requester}
    {registry : Registry} (calling : k.Calling t task q registry) (id : Int)
    (report : UsageReport) :
    shmctl t id 14 (.usage report) k =
      .ok (.usage registry.usageReport) (k.emit (.controlCalled id 14)) := by
  have still := calling.emit (.controlCalled id 14)
  apply Ends.eq_ok
  simp only [shmctl, ends_bind, ends_modify, still.ends_caller, ends_get, still.registered, orStuck,
    ends_pure]
  exact ends_pure.mpr ⟨rfl, rfl⟩

end Kernel

namespace World

open Kernel

variable {w : World} {o : Operation} {operations : List Operation} {r : Handle .registry}
  {registry : Registry} {last : Int}

/-- The identifiers that a registry hands out in the course of operations, in order. -/
def issuedIds (w : World) (r : Handle .registry) : List Operation → List Int
  | [] => []
  | o :: rest => (o.issued? w r).toList ++ (o.run w).issuedIds r rest

/-- The last identifier that operations hand out is the last one that the later of them do, or the
one that the first of them does. -/
theorem getLastD_issuedIds_cons :
    (w.issuedIds r (o :: operations)).getLastD last =
      ((o.run w).issuedIds r operations).getLastD ((o.issued? w r).getD last) := by
  rw [issuedIds]
  cases o.issued? w r with
  | none => rfl
  | some id => exact List.getLastD_cons ..

/-! ## Where the rotation is -/

/-- A registry that an operation makes has handed out nothing. -/
theorem lastId_of_not_issued (laid : w.kernel.Laid) (enabled : o.Enabled w)
    (unmade : ¬ w.kernel.registries.Issued r)
    (there : (o.run w).kernel.registries.get? r = some registry) : registry.lastId = 0 := by
  have missing : w.kernel.registries.get? r = none :=
    Option.eq_none_iff_forall_ne_some.mpr fun _ here => unmade (Slots.issued_of_get? here)
  by_cases draws : ∃ p, o.Does w (.draw p)
  · obtain ⟨p, does⟩ := draws
    cases does with
    | shmctl _ controls => cases controls
    | makeRegistry =>
        rcases Slots.get?_of_insert there with ⟨_, rfl⟩ | before
        · rfl
        · cases missing.symm.trans before
  · -- Nothing but the making of a registry puts one under a new handle.
    have still : (o.run w).kernel.registries.get? r = none := by
      refine (step_run laid enabled).objects (fun k => k.registries.get? r = none) ?_ ?_ missing
      · intro k _ k' _ turn absent
        refine Option.eq_none_iff_forall_ne_some.mpr fun registry' here => ?_
        rcases (turn.fated r).origin here with ⟨_, before, _⟩ | ⟨_, drawn⟩
        · cases absent.symm.trans before
        · exact draws ⟨_, drawn⟩
      · intro k k' _ _ registries absent
        rwa [registries]
    cases still.symm.trans there

/-- An operation moves the rotation to the identifier that it hands out, and otherwise leaves it. -/
theorem stands_run (laid : w.kernel.Laid) (enabled : o.Enabled w)
    (stands : w.kernel.Stands r last) : (o.run w).kernel.Stands r ((o.issued? w r).getD last) := by
  have step := step_run laid enabled
  cases issues : o.issued? w r with
  | some id =>
      obtain ⟨_, s, pages, _, _, after⟩ :=
        registry_of_issues laid enabled (Operation.issued?_eq_some_iff.mp issues)
      constructor
      · intro registry' there
        cases after.symm.trans there
        rfl
      · intro unmade
        exact absurd (Slots.issued_of_get? after) unmade
  | none =>
      have rests := Operation.issued?_eq_none_iff.mp issues
      constructor
      · intro registry' there
        cases here : w.kernel.registries.get? r with
        | some registry =>
            rw [(lastId_of_not_issues laid enabled rests here there).2]
            exact stands.registered registry here
        | none =>
            by_cases made : w.kernel.registries.Issued r
            · cases (step.bygone ⟨made, here⟩).2.symm.trans there
            · rw [lastId_of_not_issued laid enabled made there]
              exact (stands.unmade made).symm
      · exact fun unmade => stands.unmade fun made => unmade (step.issued made)

/-- Operations move the rotation to the last identifier that they hand out. -/
theorem stands_follow (reachable : w.Reachable anything) (admitted : w.Admits operations)
    (stands : w.kernel.Stands r last) :
    (w.follow operations).kernel.Stands r ((w.issuedIds r operations).getLastD last) := by
  induction operations generalizing w last with
  | nil => exact stands
  | cons o rest ih =>
      obtain ⟨enabled, admitted⟩ := admitted
      have moved := stands_run (reachable.laid suits_anything) enabled stands
      rw [getLastD_issuedIds_cons]
      exact ih (reachable.tail trivial enabled) admitted moved

/-! ## The report -/

/-- The highest of the identifiers, and zero if there are none. -/
def IsHighest (ids : List Int) (id : Int) : Prop :=
  (ids = [] ∧ id = 0) ∨ (id ∈ ids ∧ ∀ j ∈ ids, j ≤ id)

instance (ids : List Int) (id : Int) : Decidable (IsHighest ids id) :=
  inferInstanceAs (Decidable (_ ∨ _))

/-- The last identifier is the highest if none is higher. -/
theorem isHighest_getLastD_iff {ids : List Int} :
    IsHighest ids (ids.getLastD 0) ↔ ∀ id ∈ ids, id ≤ ids.getLastD 0 := by
  constructor
  · rintro (⟨rfl, _⟩ | ⟨_, highest⟩)
    · exact List.forall_mem_nil _
    · exact highest
  · intro highest
    by_cases unissued : ids = []
    · exact .inl ⟨unissued, by rw [unissued]; rfl⟩
    · refine .inr ⟨?_, highest⟩
      rw [List.getLastD_eq_getLast?, List.getLast?_eq_some_getLast unissued]
      exact List.getLast_mem unissued

/-- Identifiers that ascend end with the highest. -/
theorem isHighest_of_ascending {ids : List Int} (ascending : ids.Pairwise (· < ·)) :
    IsHighest ids (ids.getLastD 0) := by
  refine isHighest_getLastD_iff.mpr fun id member => ?_
  obtain ⟨earlier, last, rfl⟩ := ids.eq_nil_or_concat'.resolve_left (List.ne_nil_of_mem member)
  rw [List.getLastD_concat]
  rcases List.mem_append.mp member with before | same
  · exact Int.le_of_lt ((List.pairwise_append.mp ascending).2.2 id before last
      (List.mem_singleton.mpr rfl))
  · exact Int.le_of_eq (List.mem_singleton.mp same)

/-- A registry reports the identifier that it handed out last, and zero as long as there is none.
After any operations, whatever the limits of the registry, that is the highest one so far exactly if
no identifier that was handed out before is higher. So it is as long as each identifier is higher
than the one before, that is, until the rotation first comes round. A task that asks by a control
call is given this report. -/
theorem usage_shows_last (admitted : ({} : World).Admits operations)
    (here : (({} : World).follow operations).kernel.registries.get? r = some registry) :
    let k := (({} : World).follow operations).kernel
    let ids := ({} : World).issuedIds r operations
    registry.usageReport.usedIds = ids.getLastD 0 ∧
      (IsHighest ids registry.usageReport.usedIds ↔
        ∀ id ∈ ids, id ≤ registry.usageReport.usedIds) ∧
      (ids.Pairwise (· < ·) → IsHighest ids registry.usageReport.usedIds) ∧
      ∀ t task q, k.tasks.get? t = some task → task.ipc = r → k.requester? task = some q →
        ∀ id report, ∃ k',
          shmctl t id 14 (.usage report) k = .ok (.usage registry.usageReport) k' := by
  intro k ids
  have start : ({} : World).kernel.Stands r 0 := ⟨nofun, fun _ => rfl⟩
  have shown : registry.usageReport.usedIds = ids.getLastD 0 :=
    (stands_follow .refl admitted start).registered registry here
  rw [shown]
  refine ⟨rfl, isHighest_getLastD_iff, isHighest_of_ascending, ?_⟩
  rintro t task q found rfl asking id report
  have calling : k.Calling t task q registry := ⟨found, asking, here⟩
  exact ⟨_, calling.shmctl_usage id report⟩

/-- A task makes two segments in a namespace with two identifiers. -/
def overturning : List Operation :=
  [.makePool 0x80000000 16, .makeRegistry .initial ⟨0⟩ { maxId := 1 } (.ipc true), .makeClock ⟨0⟩,
    .makeTask 1 (.superuser .initial) ⟨0⟩ ⟨0⟩ ⟨0x10000000, 0x11000000⟩,
    .shmget ⟨0⟩ privateKey 0x1000 ⟨0o600⟩, .shmget ⟨0⟩ privateKey 0x1000 ⟨0o600⟩]

/-- The segment under one is removed and made again. The rotation came round, and is back at the
highest identifier. -/
theorem usage_shows_last_returning :
    let operations := overturning ++ [.shmctl ⟨0⟩ 1 0 .null, .shmget ⟨0⟩ privateKey 0x1000 ⟨0o600⟩]
    let k := (({} : World).follow operations).kernel
    ({} : World).Admits operations ∧ ({} : World).issuedIds ⟨0⟩ operations = [1, 0, 1] ∧
      ∃ registry, k.registries.get? ⟨0⟩ = some registry ∧ registry.usageReport.usedIds = 1 ∧
        IsHighest (({} : World).issuedIds ⟨0⟩ operations) registry.usageReport.usedIds ∧
        ∃ k', shmctl ⟨0⟩ 0 14 (.usage .blank) k = .ok (.usage registry.usageReport) k' := by
  intro operations k
  have admitted : ({} : World).Admits operations := by decide +kernel
  have issued : ({} : World).issuedIds ⟨0⟩ operations = [1, 0, 1] := by decide +kernel
  have state : (k.registries.get? ⟨0⟩).isSome ∧
      ∃ task ∈ k.tasks.get? ⟨0⟩, task.ipc = ⟨0⟩ ∧ (k.requester? task).isSome := by decide +kernel
  obtain ⟨present, task, found, own, asking⟩ := state
  obtain ⟨registry, here⟩ := Option.isSome_iff_exists.mp present
  obtain ⟨q, asks⟩ := Option.isSome_iff_exists.mp asking
  obtain ⟨shown, highest, _, answered⟩ := usage_shows_last admitted here
  rw [issued] at shown highest
  have one : registry.usageReport.usedIds = 1 := shown
  refine ⟨admitted, issued, registry, here, one, ?_, answered ⟨0⟩ task q found own asks 0 .blank⟩
  rw [issued, highest, one]
  simp

/-- When the rotation has come round, the report shows zero, though one was handed out. -/
theorem wrapped_usage_not_highest :
    ({} : World).issuedIds ⟨0⟩ overturning = [1, 0] ∧
      ∃ registry ∈ (({} : World).follow overturning).kernel.registries.get? ⟨0⟩,
        registry.usageReport.usedIds = 0 ∧
        IsHighest (({} : World).issuedIds ⟨0⟩ overturning) 1 ∧
        ¬ IsHighest (({} : World).issuedIds ⟨0⟩ overturning) registry.usageReport.usedIds := by
  decide +kernel

end World

end SharedMemory
