import SharedMemory.Proofs.Accounts
import SharedMemory.Proofs.Charters

/-!
# Strangers leave segments alone

A segment that is active and registered stays so, with the same charter, as long as only tasks act
that are strangers to it: neither its owner nor its creator, and without the capability to
administer its namespace. What it takes to give a segment a new owner or to remove it is known
(`Operation.Does`), and no stranger has it. So the guard itself, the owner, does not change, and
the argument can be repeated for the next operation.
-/

namespace SharedMemory

/-- Credentials of a stranger to a segment, if its namespace is the one given: not those of the
owner or of the creator, and not those of an administrator. -/
def Segment.Stranger (g : Segment) (userNs : UserNamespace) (c : Credentials) : Prop :=
  c.uid ≠ g.owner.uid ∧ c.uid ≠ g.creator.uid ∧ c.hasCapabilityIn .sysAdmin userNs = false

instance (g : Segment) (userNs : UserNamespace) (c : Credentials) :
    Decidable (g.Stranger userNs c) :=
  inferInstanceAs (Decidable (_ ∧ _))

/-- A stranger to a segment may not act as its owner. -/
theorem Segment.Stranger.not_ownedBy {g : Segment} {c : Credentials}
    (stranger : g.Stranger g.userNs c) : ¬ g.ownedBy c = true := by
  obtain ⟨owner, creator, capable⟩ := stranger
  simp [ownedBy, Ne.symm owner, Ne.symm creator, capable]

/-- The segment that a deed gives a new owner or removes. -/
def Deed.subject? : Deed → Option (Handle .segment)
  | .map _ _ _ => none
  | .assign s => some s
  | .remove s => some s
  | .make _ => none
  | .draw _ => none
  | .forsake _ => none

namespace World

open Kernel

variable {w w' : World} {o : Operation} {s : Handle .segment} {g g' : Segment}
  {registry : Registry}

/-- A task acts that is a stranger to a segment, and the registry of the segment is there
afterwards. -/
def ByStranger (g : Segment) (userNs : UserNamespace) (w : World) (o : Operation) : Prop :=
  (∃ t ∈ o.actor?, ∀ task ∈ w.kernel.tasks.get? t, g.Stranger userNs task.credentials) ∧
    ((o.run w).kernel.registries.get? g.registry).isSome

instance (g : Segment) (userNs : UserNamespace) (w : World) (o : Operation) :
    Decidable (ByStranger g userNs w o) :=
  inferInstanceAs (Decidable (_ ∧ _))

/-- A control call that does something to a segment is made by someone who may act as an owner. -/
theorem not_controls {t : Handle .task} {id code : Int} {d : Deed}
    (found : w.kernel.segments.get? s = some g)
    (unowned : ∀ task, w.kernel.tasks.get? t = some task → ¬ g.ownedBy task.credentials = true)
    (about : d.subject? = some s) : ¬ w.kernel.Controls t id code d := by
  intro controls
  cases controls with
  | remove _ named owned =>
      cases about
      cases found.symm.trans named.present
      exact unowned _ named.caller owned
  | assign _ named owned =>
      cases about
      cases found.symm.trans named.present
      exact unowned _ named.caller owned

/-- What a stranger does gives the segment no new owner and does not remove it. -/
theorem ByStranger.not_does {userNs : UserNamespace} {d : Deed}
    (done : ByStranger g userNs w o) (registered : w.kernel.Registered)
    (found : w.kernel.segments.get? s = some g') (same : g'.charter = g.charter)
    (native : g.userNs = userNs) (about : d.subject? = some s) : ¬ o.Does w d := by
  obtain ⟨⟨t, acts, stranger⟩, kept⟩ := done
  subst native
  have unowned (task : Task) (here : w.kernel.tasks.get? t = some task) :
      ¬ g'.ownedBy task.credentials = true := by
    rw [Segment.ownedBy_of_terms (Segment.terms_of_charter same)]
    exact (stranger task here).not_ownedBy
  intro does
  cases does with
  | shmctl _ controls =>
      cases acts
      exact not_controls found unowned about controls
  | dropTask _ listed gone =>
      cases about
      -- Only with its registry would the segment go, and the registry is kept.
      have own : g'.registry = g.registry := congrArg (·.registry) same
      rw [← registered.registry_of_lists listed found, own] at gone
      have missing : ((Operation.dropTask _).run w).kernel.registries.get? g.registry = none := gone
      rw [missing] at kept
      cases kept
  | shmat => cases about
  | mmap => cases about
  | setOwner => cases acts
  | markDestroyed => cases acts
  | releaseAll => cases acts
  | dropNamespace => cases acts
  | makeRegistry => cases about
  | findOrCreate => cases about
  | shmget => cases about
  | dropRegistry => cases about
  | unhold => cases about
  | leave => cases about

/-- What a stranger does leaves the charter of the segment. -/
theorem ByStranger.step {userNs : UserNamespace} (done : ByStranger g userNs w o)
    (enabled : o.Enabled w) (reachable : w.Reachable anything)
    (found : w.kernel.segments.get? s = some g') (same : g'.charter = g.charter)
    (native : g.userNs = userNs) :
    ∃ g'', (o.run w).kernel.segments.get? s = some g'' ∧ g''.charter = g.charter := by
  have laid := reachable.laid suits_anything
  have registered := reachable.registered suits_anything
  obtain ⟨g'', found', kept⟩ := (step_run laid enabled).charter laid
    (done.not_does registered found same native rfl)
    (done.not_does registered found same native rfl) found
  exact ⟨g'', found', kept.trans same⟩

/-- As long as only strangers act and its registry is kept, a segment keeps its charter. -/
theorem Path.charter {userNs : UserNamespace} (path : Path (ByStranger g userNs) w w')
    (reachable : w.Reachable anything) (found : w.kernel.segments.get? s = some g)
    (native : g.userNs = userNs)
    (here : (w.kernel.registries.get? g.registry).isSome) :
    (w'.kernel.registries.get? g.registry).isSome ∧
      ∃ g', w'.kernel.segments.get? s = some g' ∧ g'.charter = g.charter := by
  induction path with
  | refl => exact ⟨here, g, found, rfl⟩
  | tail before done enabled ih =>
      obtain ⟨_, g', found', same⟩ := ih
      have reached := reachable.trans (before.run fun _ _ _ => trivial)
      exact ⟨done.2, done.step enabled reached found' same native⟩

/-- Strangers leave a segment alone. Take a segment that is active and whose registry is there,
and any run of system calls, unmappings, page faults, forks and exits during which the registry is
kept. If each is done by a task whose credentials are neither the owner's nor the creator's and
that lacks the capability to administer the registry's namespace, then the segment is active and
registered under the same identifier and key in the end, and has the same owner, creator,
permissions, size, backing and time of change. -/
theorem integrity (reachable : w.Reachable anything) (found : w.kernel.segments.get? s = some g)
    (active : g.lifetime = .active) (here : w.kernel.registries.get? g.registry = some registry)
    (path : Path (ByStranger g registry.userNs) w w') :
    ∃ g' registry', w'.kernel.segments.get? s = some g' ∧ g'.lifetime = .active ∧
      w'.kernel.registries.get? g.registry = some registry' ∧ registry'.find? g.id = some s ∧
      (g.key ≠ privateKey → w'.kernel.findByKey? registry' g.key = some s) ∧
      g'.id = g.id ∧ g'.key = g.key ∧ g'.owner = g.owner ∧ g'.creator = g.creator ∧
      g'.perms = g.perms ∧ g'.size = g.size ∧ g'.backing = g.backing ∧
      g'.changeTime = g.changeTime := by
  have native := (reachable.housed suits_anything).userNs found here
  obtain ⟨kept, g', found', same⟩ :=
    path.charter reachable found native (Option.isSome_iff_exists.mpr ⟨registry, here⟩)
  obtain ⟨registry', here'⟩ := Option.isSome_iff_exists.mp kept
  have reached : w'.Reachable anything := reachable.trans (path.run fun _ _ _ => trivial)
  have active' : g'.lifetime = .active := (congrArg (·.lifetime) same).trans active
  have id : g'.id = g.id := congrArg (·.id) same
  have key : g'.key = g.key := congrArg (·.key) same
  have own : g'.registry = g.registry := congrArg (·.registry) same
  have alive : g'.destroyed = false := by
    refine (Bool.eq_false_or_eq_true _).resolve_left fun destroyed => ?_
    have pending := ((reached.proper suits_anything s g' found').destroyed.mp destroyed).1
    cases active'.symm.trans pending
  rw [← own] at here'
  have listed' := (reached.find?_iff suits_anything found' here').mpr alive
  have ascending := (reached.registered suits_anything).ascending here'
  have member := (Registry.find?_eq_some_iff ascending).mp listed'
  have accounts := (reached.accounted suits_anything).registries here'
  have keyed : w'.kernel.keyOf? s = some g.key := by rw [keyOf?, found', Option.map_some, key]
  rw [own] at here'
  exact ⟨g', registry', found', active', here', id ▸ listed', accounts.findByKey? member keyed, id,
    key, congrArg (·.owner) same, congrArg (·.creator) same, congrArg (·.perms) same,
    congrArg (·.size) same, congrArg (·.backing) same, congrArg (·.changeTime) same⟩

/-- A segment of the superuser that everybody may read, and a task of a user who may pass
permission checks. -/
def guarding : List Operation :=
  [.makePool 0 16, .makeRegistry .initial ⟨0⟩ {} (.ipc true), .makeClock ⟨0⟩,
    .makeTask 1 (.superuser .initial) ⟨0⟩ ⟨0⟩ ⟨0x10000, 0x40000⟩,
    .shmget ⟨0⟩ 7 0x3000 ⟨0o1644⟩,
    .makeTask 2 ((Credentials.plain ⟨1000⟩ ⟨1000⟩ .initial).withCapabilities .ipcOwner) ⟨0⟩ ⟨0⟩
      ⟨0x10000, 0x40000⟩]

/-- The user attaches the segment, writes to it, tries to remove it and to give it away, and has a
child that unmaps a part of it and detaches the rest. Then the user's first task ends. -/
def prying : List Operation :=
  [.shmget ⟨1⟩ 7 0 ⟨0⟩, .shmat ⟨1⟩ 1 0 ⟨0⟩, .faultTask ⟨1⟩ 0x10000 .readWrite,
    .shmctl ⟨1⟩ 1 0 .null, .shmctl ⟨1⟩ 1 1 (.status .blank), .forkTask ⟨1⟩ 3,
    .munmap (.ofTask ⟨2⟩) ⟨.plain ⟨1000⟩ ⟨1000⟩ .initial, none, none⟩ 0x11000 0x1000,
    .shmdt ⟨2⟩ 0x10000, .exitTask ⟨1⟩, .dropTask ⟨1⟩]

/-- The segment is as it was, but for the notes on its use. -/
theorem integrity_prying :
    let w := ({} : World).follow guarding
    w.Reachable anything ∧ ∃ g registry, w.kernel.segments.get? ⟨0⟩ = some g ∧
      g.lifetime = .active ∧ w.kernel.registries.get? g.registry = some registry ∧ g.key = 7 ∧
      Path (ByStranger g registry.userNs) w (w.follow prying) ∧
      ∃ g' registry', (w.follow prying).kernel.segments.get? ⟨0⟩ = some g' ∧
        g'.lifetime = .active ∧ g'.owner = g.owner ∧
        (w.follow prying).kernel.registries.get? g.registry = some registry' ∧
        registry'.find? g.id = some ⟨0⟩ ∧
        (w.follow prying).kernel.findByKey? registry' 7 = some ⟨0⟩ := by
  intro w
  have reachable : w.Reachable anything :=
    reachable_follow (by decide +kernel) fun _ _ => trivial
  have present : (w.kernel.segments.get? ⟨0⟩).isSome ∧ (w.kernel.registries.get? ⟨0⟩).isSome := by
    decide +kernel
  have state : ∀ g ∈ w.kernel.segments.get? ⟨0⟩, ∀ registry ∈ w.kernel.registries.get? ⟨0⟩,
      g.lifetime = .active ∧ g.registry = ⟨0⟩ ∧ g.key = 7 ∧
        w.Permits (ByStranger g registry.userNs) prying := by decide +kernel
  obtain ⟨g, found⟩ := Option.isSome_iff_exists.mp present.1
  obtain ⟨registry, here⟩ := Option.isSome_iff_exists.mp present.2
  obtain ⟨active, own, key, permitted⟩ := state g found registry here
  rw [← own] at here
  have path : Path (ByStranger g registry.userNs) w (w.follow prying) := Path.refl.follow permitted
  obtain ⟨g', registry', found', active', here', listed, keyed, _, _, owner, _⟩ :=
    integrity reachable found active here path
  have shared : g.key ≠ privateKey := by
    rw [key]
    decide
  exact ⟨reachable, g, registry, found, active, here, key, path, g', registry', found', active', owner,
    here', listed, key ▸ keyed shared⟩

end World

end SharedMemory
