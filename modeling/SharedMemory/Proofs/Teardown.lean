import SharedMemory.Proofs.RegistryChanges
import SharedMemory.Proofs.Revocation

/-!
# The end of an IPC namespace

An IPC namespace is kept by its handle and by its tasks. When the last of them goes, it removes
its segments and is gone; so at any time the namespace is held, or has a task, or is gone with all
its segments removed (`Kernel.Tended`). A segment that was removed is destroyed once nothing refers
to it. So nothing is left of the segments when the handle, the tasks and the references are all
gone, in whatever order they went, and a pool that nobody else took memory from is what it was.
-/

namespace SharedMemory

namespace Kernel

variable {k k' : Kernel} {refs refs' : Multiset Object} {may : Deed → Prop}
  {r : Handle .registry} {registry : Registry} {s : Handle .segment} {p : Handle .pool}

/-- Every segment of a registry was removed. -/
def Cleared (k : Kernel) (r : Handle .registry) : Prop :=
  ∀ s g, k.segments.get? s = some g → g.registry = r → g.lifetime = .pending

/-- A task lives in the IPC namespace of a registry. -/
def Peopled (k : Kernel) (r : Handle .registry) : Prop :=
  ∃ t task, k.tasks.get? t = some task ∧ task.ipc = r

/-- The registry of an IPC namespace is there, or it is gone and its segments were removed. -/
inductive Governed (k : Kernel) (r : Handle .registry) : Prop
  | present {registry : Registry} {held : Bool} (here : k.registries.get? r = some registry)
      (holder : registry.holder = .ipc held)
  | ended (bygone : k.Bygone r) (cleared : k.Cleared r)

/-- An IPC namespace has its handle or a task, or it is gone and its segments were removed. -/
inductive Tended (k : Kernel) (r : Handle .registry) : Prop
  | held {registry : Registry} (here : k.registries.get? r = some registry)
      (holder : registry.holder = .ipc true)
  | lived {registry : Registry} (here : k.registries.get? r = some registry)
      (holder : registry.holder = .ipc false) (peopled : k.Peopled r)
  | ended (bygone : k.Bygone r) (cleared : k.Cleared r)

private theorem Tended.governed (tended : k.Tended r) : k.Governed r := by
  cases tended with
  | held here holder => exact .present here holder
  | lived here holder => exact .present here holder
  | ended bygone cleared => exact .ended bygone cleared

/-- Whether a task lives in a namespace is decided by looking for one. -/
theorem hasTaskIn_eq_true : k.hasTaskIn r = true ↔ k.Peopled r := by
  simp only [hasTaskIn, List.any_eq_true, decide_eq_true_eq, Slots.mem_values]
  constructor
  · rintro ⟨task, ⟨t, found⟩, same⟩
    exact ⟨t, task, found, same⟩
  · rintro ⟨t, task, found, same⟩
    exact ⟨task, ⟨t, found⟩, same⟩

/-! ## What does not forsake a namespace -/

private theorem Cleared.turn (cleared : k.Cleared r) (bygone : k.Bygone r)
    (turn : Turn may k refs k' refs') : k'.Cleared r := by
  intro s g' found' own
  rcases turn.change_or_same with change | ⟨same, _⟩
  · rcases change.segmentsAlter with alter | ⟨c, _, rfl⟩
    · obtain ⟨g, found, alters⟩ := alter.origin found'
      exact alters.evolves.pending (cleared s g found (alters.evolves.registry.symm.trans own))
    · rcases c.segment_cases found' with ⟨_, rfl⟩ | found
      · cases own
        -- A registry that is gone makes no segment.
        cases bygone.2.symm.trans c.registered
      · exact cleared s g' found own
  · rw [segments_congr same] at found'
    exact cleared s g' found' own

/-- A task stays and stays in its namespace, or the namespace is forsaken. -/
theorem Turn.settled {t : Handle .task} {task : Task} (turn : Turn may k refs k' refs')
    (found : k.tasks.get? t = some task) :
    (∃ task', k'.tasks.get? t = some task' ∧ task'.ipc = task.ipc) ∨ may (.forsake task.ipc) := by
  have moved (a : AddressSpace) (ref : SpaceRef) :
      ∃ task', (k.setSpace a ref).tasks.get? t = some task' ∧ task'.ipc = task.ipc := by
    cases ref with
    | alone id => exact ⟨task, found, rfl⟩
    | ofTask t' =>
        simp only [setSpace]
        split
        case h_1 other there =>
          by_cases same : t' = t
          · subst same
            cases found.symm.trans there
            exact ⟨_, Slots.get?_set_self found _, rfl⟩
          · exact ⟨task, (Slots.get?_set_of_ne same _ _).trans found, rfl⟩
        case h_2 => exact ⟨task, found, rfl⟩
  cases turn with
  | change change =>
      have tasks : k'.tasks = k.tasks := congrArg (·.tasks) change.holderPart
      exact .inl ⟨task, tasks ▸ found, rfl⟩
  | unmap => exact .inl (moved _ _)
  | map => exact .inl (moved _ _)
  | establish => exact .inl (moved _ _)
  | rehold _ _ _ settled => exact settled found

/-- Where nobody may forsake a registry, one turn leaves what keeps it. -/
theorem Turn.holder (turn : Turn may k refs k' refs') (loyal : ¬ may (.forsake r))
    (here : k.registries.get? r = some registry) :
    ∃ registry', k'.registries.get? r = some registry' ∧ registry'.holder = registry.holder := by
  have fated := turn.fated r
  obtain ⟨registry', there⟩ := (fated.kept here).resolve_right loyal
  obtain ⟨_, before, alters⟩ := fated.before (Slots.issued_of_get? here) there
  cases here.symm.trans before
  exact ⟨registry', there, alters.holder loyal⟩

/-- Where nobody may forsake a registry, one turn leaves it tended. -/
theorem Turn.tended (turn : Turn may k refs k' refs') (loyal : ¬ may (.forsake r))
    (tended : k.Tended r) : k'.Tended r := by
  cases tended with
  | held here holder =>
      obtain ⟨_, there, same⟩ := turn.holder loyal here
      exact .held there (same.trans holder)
  | lived here holder peopled =>
      obtain ⟨_, there, same⟩ := turn.holder loyal here
      obtain ⟨t, task, found, rfl⟩ := peopled
      obtain ⟨task', found', stays⟩ := (turn.settled found).resolve_right loyal
      exact .lived there (same.trans holder) ⟨t, task', found', stays⟩
  | ended bygone cleared => exact .ended (turn.bygone bygone) (cleared.turn bygone turn)

/-! ## Removing all segments -/

/-- To mark all that a registry lists removes all its segments. -/
theorem cleared_releaseAll (registered : k.Registered) (proper : k.Proper)
    (here : k.registries.get? r = some registry) : (k.releaseAll r).Cleared r := by
  intro s g' found' own
  have stands := congrArg (·.get? s) (standing_releaseAll registered proper here)
  simp only [Slots.get?_map, found', Option.map_some] at stands
  obtain ⟨g, _, same⟩ := Option.map_eq_some_iff.mp stands.symm
  have owned : g.registry = r := by
    rw [← Segment.registry_revoked r g, same]
    exact own
  rw [Segment.revoked, if_pos owned] at same
  exact congrArg (·.lifetime) same.symm

/-- Once it was looked at whether anybody keeps a namespace, it is kept or gone. -/
theorem tended_collectNamespace (registered : k.Registered) (proper : k.Proper)
    (governed : k.Governed r) : (k.collectNamespace r).Tended r := by
  cases governed with
  | ended bygone cleared =>
      simp only [collectNamespace, bygone.2]
      exact .ended bygone cleared
  | @present registry held here holder =>
      simp only [collectNamespace, here]
      split
      case isTrue unkept =>
        have marked : Changes (fun _ => True) k 0 (k.releaseAll r) 0 :=
          changes_releaseAll r fun _ _ => trivial
        have issued : (k.releaseAll r).registries.Issued r :=
          marked.preserves (fun k _ => k.registries.Issued r)
            (fun change => (change.fated r).issued) (Slots.issued_of_get? here)
        refine .ended ⟨Slots.issued_erase.mpr issued, Slots.get?_erase_self _ _⟩ ?_
        exact cleared_releaseAll registered proper here
      case isFalse kept =>
        cases held with
        | true => exact .held here holder
        | false =>
            refine .lived here holder (hasTaskIn_eq_true.mp ?_)
            simpa using fun empty => kept ⟨holder, empty⟩

/-! ## What forsakes a namespace -/

private theorem tended_dropRegistry (tended : k.Tended r) : (k.dropRegistry r).Tended r := by
  have same : k.dropRegistry r = k := by
    unfold dropRegistry
    cases tended.governed with
    | present here holder => simp [here, holder]
    | ended bygone => simp [bygone.2]
  rwa [same]

/-- A namespace whose handle is dropped is kept by its tasks, or goes with its segments. -/
theorem tended_dropNamespace (registered : k.Registered) (proper : k.Proper)
    (tended : k.Tended r) : (k.dropNamespace r).Tended r := by
  unfold dropNamespace
  split
  case h_1 registry here =>
    split
    case isTrue =>
      refine tended_collectNamespace (registered.keep (keeps_unhold here)) (proper.of_eq rfl) ?_
      exact .present (Slots.get?_set_self here _) rfl
    case isFalse => exact tended
  case h_2 => exact tended

/-- The namespace of a task that is dropped is kept by others, or goes with its segments. -/
theorem tended_dropTask {t : Handle .task} {task : Task} (registered : k.Registered)
    (proper : k.Proper) (found : k.tasks.get? t = some task) (tended : k.Tended task.ipc) :
    (k.dropTask t).Tended task.ipc := by
  have governed : { k with tasks := k.tasks.erase t }.Governed task.ipc := by
    cases tended.governed with
    | present here holder => exact .present here holder
    | ended bygone cleared => exact .ended bygone cleared
  have collected :
      ({ k with tasks := k.tasks.erase t }.collectNamespace task.ipc).Tended task.ipc :=
    tended_collectNamespace (registered.of_eq rfl rfl) (proper.of_eq rfl) governed
  have dropped : Changes idle ({ k with tasks := k.tasks.erase t }.collectNamespace task.ipc)
      (task.space.mapped + 0) (k.dropTask t) 0 := by
    simp only [dropTask, found]
    exact changes_dropSpaceValue task.space
  exact dropped.preserves (fun k _ => k.Tended task.ipc)
    (fun change => Turn.tended (.change change) id) collected

private theorem Tended.congr (tended : k.Tended r) (holders : k'.holderPart = k.holderPart)
    (segments : k'.segments = k.segments) (registries : k'.registries = k.registries) :
    k'.Tended r := by
  have tasks : k'.tasks = k.tasks := congrArg (·.tasks) holders
  cases tended with
  | held here holder => exact .held (registries ▸ here) holder
  | lived here holder peopled =>
      obtain ⟨t, task, found, own⟩ := peopled
      exact .lived (registries ▸ here) holder ⟨t, task, tasks ▸ found, own⟩
  | ended bygone cleared =>
      refine .ended ?_ fun s g found => cleared s g (segments ▸ found)
      rwa [Bygone, registries]

/-! ## Who takes memory from a pool -/

/-- A registry alone takes memory from a pool: no other does, and whatever segments others had of
it are destroyed. -/
structure Exclusive (k : Kernel) (p : Handle .pool) (r : Handle .registry) : Prop where
  registries : ∀ {r' registry}, k.registries.get? r' = some registry → registry.pool = p → r' = r
  segments : ∀ {s g}, k.segments.get? s = some g → g.pool = p →
    g.registry = r ∨ g.destroyed = true

private theorem Turn.exclusive (turn : Turn may k refs k' refs') (undrawn : ¬ may (.draw p))
    (exclusive : k.Exclusive p r) : k'.Exclusive p r where
  registries := by
    intro r' registry' there drawn
    rcases (turn.fated r').origin there with ⟨registry, here, alters⟩ | ⟨_, permitted⟩
    · exact exclusive.registries here (alters.pool.symm.trans drawn)
    · exact absurd (drawn ▸ permitted) undrawn
  segments := by
    intro s g' found' drawn
    rcases turn.change_or_same with change | ⟨same, _⟩
    · rcases change.segmentsAlter with alter | ⟨c, _, rfl⟩
      · obtain ⟨g, found, alters⟩ := alter.origin found'
        have evolves := alters.evolves
        exact (exclusive.segments found (evolves.pool.symm.trans drawn)).imp
          evolves.registry.trans evolves.destroyed
      · rcases c.segment_cases found' with ⟨_, rfl⟩ | found
        · exact .inl (exclusive.registries c.registered drawn)
        · exact exclusive.segments found drawn
    · rw [segments_congr same] at found'
      exact exclusive.segments found' drawn

/-- Nothing takes memory from a pool: no registry does, and the segments of it are destroyed. -/
structure Undrawn (k : Kernel) (p : Handle .pool) : Prop where
  registries : ∀ {r registry}, k.registries.get? r = some registry → registry.pool ≠ p
  segments : ∀ {s g}, k.segments.get? s = some g → g.pool = p → g.destroyed = true

/-- The first registry on a pool has it alone. -/
theorem Undrawn.makeRegistry (undrawn : k.Undrawn p) (userNs : UserNamespace) (limits : Limits)
    (holder : Holder) :
    (k.makeRegistry userNs p limits holder).2.Exclusive p k.registries.fresh where
  registries := by
    intro r registry here drawn
    have placed : (k.registries.insert (.empty userNs p limits holder)).get? r = some registry :=
      here
    rcases Slots.get?_of_insert placed with ⟨new, _⟩ | before
    · exact new
    · exact absurd drawn (undrawn.registries before)
  segments := fun found drawn => .inr (undrawn.segments found drawn)

/-- Nothing is left that keeps an IPC namespace or its segments: the handle was dropped, no task
lives in it, and nothing refers to a segment of it. -/
structure Abandoned (k : Kernel) (r : Handle .registry) : Prop where
  dropped : ∀ {registry}, k.registries.get? r = some registry → registry.holder ≠ .ipc true
  deserted : ¬ k.Peopled r
  unreferenced : ∀ {s g}, k.segments.get? s = some g → g.registry = r →
    k.referencesTo (.segment s) = 0

/-- Without anything that keeps it, a namespace that is tended is gone. -/
theorem Abandoned.ended (abandoned : k.Abandoned r) (tended : k.Tended r) :
    k.Bygone r ∧ k.Cleared r := by
  cases tended with
  | held here holder => exact absurd holder (abandoned.dropped here)
  | lived _ _ peopled => exact absurd peopled abandoned.deserted
  | ended bygone cleared => exact ⟨bygone, cleared⟩

end Kernel

/-- The operation makes a registry that takes its memory from a pool. -/
def Operation.drawsFrom (p : Handle .pool) : Operation → Bool
  | makeRegistry _ p' _ _ => decide (p' = p)
  | _ => false

/-- The operation makes no registry that takes its memory from a pool. -/
def Operation.Spares (p : Handle .pool) (o : Operation) : Prop := o.drawsFrom p = false

instance (p : Handle .pool) : DecidablePred (Operation.Spares p) := fun o =>
  inferInstanceAs (Decidable (o.drawsFrom p = false))

namespace World

open Kernel

variable {w w' : World} {o : Operation} {r : Handle .registry} {p : Handle .pool}
  {pool : FramePool}

private theorem suits_spares (p : Handle .pool) : Suits (Operation.Spares p) (· ≠ .draw p) where
  covers := by
    intro w o d permitted does
    cases does with
    | makeRegistry =>
        rintro ⟨rfl⟩
        exact of_decide_eq_false permitted rfl
    | shmctl _ controls => cases controls <;> exact nofun
    | _ => exact nofun

/-- Every operation leaves a namespace tended. -/
theorem tended_run (reachable : w.Reachable anything) (enabled : o.Enabled w)
    (tended : w.kernel.Tended r) : (o.run w).kernel.Tended r := by
  have registered := reachable.registered suits_anything
  have proper := reachable.proper suits_anything
  by_cases forsakes : o.Does w (.forsake r)
  · cases forsakes with
    | dropRegistry => exact tended_dropRegistry tended
    | unhold => exact tended_dropNamespace registered proper tended
    | leave found => exact tended_dropTask registered proper found tended
    | shmctl _ controls => cases controls
  · exact (step_run (reachable.laid suits_anything) enabled).objects (Tended · r)
      (fun turn => turn.tended forsakes)
      (fun holders segments registries before => before.congr holders segments registries) tended

/-- Along every run an IPC namespace has its handle or a task, or is gone with its segments
removed. -/
theorem Run.tended (run : Run anything w w') (reachable : w.Reachable anything)
    (tended : w.kernel.Tended r) : w'.kernel.Tended r := by
  induction run with
  | refl => exact tended
  | tail before _ enabled ih => exact tended_run (reachable.trans before) enabled ih

private theorem Run.exclusive (run : Run (Operation.Spares p) w w') (laid : w.kernel.Laid)
    (exclusive : w.kernel.Exclusive p r) : w'.kernel.Exclusive p r := by
  refine run.preserves (suits_spares p) (·.kernel.Exclusive p r) ?_ laid exclusive
  intro w w' step before
  refine step.objects (Exclusive · p r) (fun turn => turn.exclusive fun drawn => drawn rfl) ?_
    before
  intro k k' _ segments registries before
  exact ⟨fun here => before.registries (registries ▸ here),
    fun found => before.segments (segments ▸ found)⟩

private theorem claims_of_destroyed
    (destroyed : ∀ {s g}, w.kernel.segments.get? s = some g → g.pool = p →
    g.destroyed = true) : w.claims p = w.loansOf p := by
  have none : w.kernel.segments.total (·.claim p) = 0 := by
    refine Slots.total_eq_zero fun {s g} found => if_neg fun alive => ?_
    cases (destroyed found alive.1).symm.trans alive.2
  rw [claims, none, zero_add]

/-- Nothing is left of an IPC namespace. A namespace is made on a pool that nothing else takes
memory from, and anything is done after that but to make another registry on the pool. When in the
end the handle was dropped, no task lives in the namespace and nothing refers to its segments, in
whatever order they went, then the registry is gone and every segment that was ever made in it is
destroyed. If the frames lent from the pool for other purposes are the same as in the beginning, so
is the whole pool. -/
theorem namespace_torn_down (reachable : w.Reachable anything)
    (pooled : w.kernel.pools.get? p = some pool) (undrawn : w.kernel.Undrawn p)
    {userNs : UserNamespace} {limits : Limits}
    (run : Run (Operation.Spares p) ((Operation.makeRegistry userNs p limits (.ipc true)).run w) w')
    (abandoned : w'.kernel.Abandoned w.kernel.registries.fresh) :
    w'.kernel.registries.get? w.kernel.registries.fresh = none ∧
    (∀ s g, w'.kernel.segments.get? s = some g → g.registry = w.kernel.registries.fresh →
      g.destroyed = true) ∧
    ((w'.loansOf p).Perm (w.loansOf p) → w'.kernel.pools.get? p = some pool) := by
  have first : Run anything w ((Operation.makeRegistry userNs p limits (.ipc true)).run w) :=
    .tail .refl trivial trivial
  have made : ((Operation.makeRegistry userNs p limits (.ipc true)).run w).Reachable anything :=
    reachable.trans first
  have whole : Run anything ((Operation.makeRegistry userNs p limits (.ipc true)).run w) w' :=
    run.mono fun _ _ => trivial
  have later : w'.Reachable anything := made.trans whole
  have tended := whole.tended made (.held (Slots.get?_insert_fresh _ _) rfl)
  obtain ⟨bygone, cleared⟩ := abandoned.ended tended
  have destroyed : ∀ s g, w'.kernel.segments.get? s = some g →
      g.registry = w.kernel.registries.fresh → g.destroyed = true := by
    intro s g found own
    have unused := abandoned.unreferenced found own
    rw [← later.attachCount suits_anything found] at unused
    exact (later.proper suits_anything s g found).destroyed.mpr ⟨cleared s g found own, unused⟩
  refine ⟨bygone.2, destroyed, fun lent => ?_⟩
  have exclusive : w'.kernel.Exclusive p w.kernel.registries.fresh :=
    run.exclusive (made.laid suits_anything) (undrawn.makeRegistry userNs limits (.ipc true))
  have claims' : w'.claims p = w'.loansOf p := claims_of_destroyed fun found drawn =>
    (exclusive.segments found drawn).elim (destroyed _ _ found) id
  have claims : w.claims p = w.loansOf p := claims_of_destroyed undrawn.segments
  have same : w'.claims p = w.claims p := by
    rw [claims', claims]
    exact Multiset.coe_eq_coe.mpr lent
  exact (first.trans whole).pool_eq reachable pooled same

/-- In an IPC namespace over sixteen frames, of which one is lent, a task makes a segment, attaches
it and has a child. A request for the segment and a reference to it are kept, and a second segment
is removed while it is attached. Then the handle goes, the child ends and is dropped, the first
task is dropped as the last to keep the namespace, and the request and the reference go last. -/
def disbanding : List Operation :=
  let root : Requester := ⟨.superuser .initial, none, none⟩
  [.makeClock ⟨0⟩, .makeTask 1 (.superuser .initial) ⟨0⟩ ⟨0⟩ ⟨0x10000, 0x40000⟩,
    .shmget ⟨0⟩ 7 0x3000 ⟨0o1600⟩, .shmat ⟨0⟩ 1 0 ⟨0⟩, .shmget ⟨0⟩ privateKey 0x1000 ⟨0o600⟩,
    .shmat ⟨0⟩ 2 0 ⟨0⟩, .forkTask ⟨0⟩ 2, .attach ⟨0⟩ root 0 ⟨false, false, false⟩,
    .cloneReference (.segment ⟨0⟩), .shmctl ⟨0⟩ 2 0 .null,
    .munmap (.ofTask ⟨0⟩) root 0x11000 0x1000, .dropNamespace ⟨0⟩, .exitTask ⟨1⟩, .dropTask ⟨1⟩,
    .dropTask ⟨0⟩, .dropRequest ⟨0⟩, .dropReference ⟨0⟩]

/-- Both segments are destroyed, and all frames but the one that is lent are free again. -/
theorem namespace_torn_down_disbanding :
    let w := ({} : World).follow [.makePool 0 16, .lend ⟨0⟩ 0x1000]
    let w' := ((Operation.makeRegistry .initial ⟨0⟩ {} (.ipc true)).run w).follow disbanding
    w'.kernel.segments.values.length = 2 ∧ w'.kernel.registries.get? ⟨0⟩ = none ∧
      (∀ s g, w'.kernel.segments.get? s = some g → g.registry = ⟨0⟩ → g.destroyed = true) ∧
      w'.kernel.pools.get? ⟨0⟩ = some ⟨0, true :: List.replicate 15 false⟩ := by
  intro w w'
  have reachable : w.Reachable anything :=
    reachable_follow (by decide +kernel) fun _ _ => trivial
  have pooled : w.kernel.pools.get? ⟨0⟩ = some ⟨0, true :: List.replicate 15 false⟩ := by
    decide +kernel
  have undrawn : w.kernel.Undrawn ⟨0⟩ := by
    refine ⟨fun {r registry} here => ?_, fun {s g} found => ?_⟩
    · have none : w.kernel.registries.values = [] := by decide +kernel
      have member := Slots.mem_values.mpr ⟨r, here⟩
      rw [none] at member
      cases member
    · have none : w.kernel.segments.values = [] := by decide +kernel
      have member := Slots.mem_values.mpr ⟨s, found⟩
      rw [none] at member
      cases member
  have run : Run (Operation.Spares ⟨0⟩)
      ((Operation.makeRegistry .initial ⟨0⟩ {} (.ipc true)).run w) w' :=
    Run.refl.follow (by decide +kernel) (by decide +kernel)
  have gone : w'.kernel.registries.get? ⟨0⟩ = none := by decide +kernel
  have tasks : w'.kernel.tasks.values = [] := by decide +kernel
  have spaces : w'.kernel.spaces.values = [] := by decide +kernel
  have requests : w'.kernel.requests.values = [] := by decide +kernel
  have references : w'.kernel.references.values = [] := by decide +kernel
  have abandoned : w'.kernel.Abandoned ⟨0⟩ := by
    refine ⟨fun here => ?_, fun peopled => ?_, fun _ _ => ?_⟩
    · cases gone.symm.trans here
    · obtain ⟨t, task, found, _⟩ := peopled
      have member := Slots.mem_values.mpr ⟨t, found⟩
      rw [tasks] at member
      cases member
    · simp [referencesTo, Slots.total, tasks, spaces, requests, references]
  obtain ⟨ended, destroyed, restored⟩ :=
    namespace_torn_down reachable pooled undrawn run abandoned
  exact ⟨by decide +kernel, ended, destroyed, restored (by decide +kernel)⟩

end World

end SharedMemory
