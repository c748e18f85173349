import SharedMemory.Proofs.Accounts
import SharedMemory.Proofs.Teardown

/-!
# Agreement on keys

Whoever asks a registry for a key gets the same segment as everybody else, until that segment is
removed. A segment has its key for as long as it is active (`Segment.Sustains`), a registry has at
most one active segment for a key and finds it (`Kernel.Keyed.findByKey?`), and so a request makes
a segment for a key only if none is active. Removal is said of the operations that are carried out
(`Operation.Marks`): a history that spares a segment leaves it its key (`World.keyed_follow`). From
the removal on nobody gets the old segment, and whatever has the key was made later: the operations
that remove segments make none.
-/

namespace SharedMemory

namespace Segment

variable {may : Deed → Prop} {s : Handle .segment} {g g' g'' : Segment}

/-- A segment has become another one of the same registry. If that is active, the segment was, and
its key is the same. -/
structure Sustains (g g' : Segment) : Prop where
  registry : g'.registry = g.registry
  active : g'.lifetime = .active → g.lifetime = .active ∧ g'.key = g.key

private theorem Sustains.refl (g : Segment) : g.Sustains g := ⟨rfl, fun active => ⟨active, rfl⟩⟩

private theorem Sustains.trans (first : g.Sustains g') (second : g'.Sustains g'') :
    g.Sustains g'' where
  registry := second.registry.trans first.registry
  active := by
    intro active
    obtain ⟨active', key'⟩ := second.active active
    obtain ⟨before, key⟩ := first.active active'
    exact ⟨before, key'.trans key⟩

private theorem Sustains.of_core (same : g'.core = g.core) : g.Sustains g' where
  registry := congrArg (·.registry) same
  active := fun active => ⟨(congrArg (·.lifetime) same).symm.trans active, congrArg (·.key) same⟩

private theorem Alters.sustains (alters : g.Alters may s g') : g.Sustains g' := by
  induction alters with
  | @note g' same =>
      have core : g'.unnoted.core = g.unnoted.core := congrArg Segment.core same
      exact .of_core core
  | count => exact ⟨rfl, fun active => ⟨active, rfl⟩⟩
  | assign granted => exact .of_core (Kernel.setOwner_eq_ok granted).2
  | remove => exact ⟨rfl, nofun⟩
  | retire _ ih => exact ⟨ih.registry, ih.active⟩

private theorem Alters.lifetime (alters : g.Alters may s g') (unremoved : ¬ may (.remove s)) :
    g'.lifetime = g.lifetime := by
  induction alters with
  | note same => exact congrArg (·.lifetime) same
  | count => rfl
  | assign granted => exact congrArg (·.lifetime) (Kernel.setOwner_eq_ok granted).2
  | remove permitted => exact absurd permitted unremoved
  | retire _ ih => exact ih

end Segment

namespace Kernel

open KernelM

variable {k k' : Kernel} {refs refs' : Multiset Object} {may : Deed → Prop} {r : Handle .registry}
  {registry : Registry} {key : Int} {s s' : Handle .segment} {g : Segment}

/-- An active segment of a registry has a key. -/
def Keyed (k : Kernel) (r : Handle .registry) (key : Int) (s : Handle .segment) : Prop :=
  ∃ g, k.segments.get? s = some g ∧ g.registry = r ∧ g.key = key ∧ g.lifetime = .active

/-! ## Finding by key -/

/-- A registry finds only active segments of its own by key. -/
theorem keyed_of_findByKey? (registered : k.Registered) (proper : k.Proper)
    (here : k.registries.get? r = some registry) (found : k.findByKey? registry key = some s) :
    k.Keyed r key s := by
  obtain ⟨keyed, shared⟩ := keyOf?_of_findByKey? found
  obtain ⟨id, member⟩ := exists_mem_of_findByKey? found
  obtain ⟨g, present, rfl⟩ := Option.map_eq_some_iff.mp keyed
  have own := registered.registry_of_lists ⟨registry, here, id, member⟩ present
  refine ⟨g, present, own, rfl, ?_⟩
  cases lifetime : g.lifetime with
  | active => rfl
  | pending => exact absurd ((proper s g present).hidden lifetime) shared

/-- A registry finds the active segment with a key. -/
theorem Keyed.findByKey? (keyed : k.Keyed r key s) (registered : k.Registered) (proper : k.Proper)
    (accounted : k.Accounted) (here : k.registries.get? r = some registry)
    (shared : key ≠ privateKey) : k.findByKey? registry key = some s := by
  obtain ⟨g, present, rfl, rfl, active⟩ := keyed
  have alive : g.destroyed = false := by
    refine (Bool.eq_false_or_eq_true _).resolve_left fun destroyed => ?_
    cases active.symm.trans ((proper s g present).destroyed.mp destroyed).1
  have member := (registered.listed here g.id s).mpr (listing?_of_alive present alive)
  have own : k.keyOf? s = some g.key := by rw [keyOf?, present, Option.map_some]
  exact (accounted.registries here).findByKey? member own shared

/-- At most one active segment of a registry has a key. -/
theorem Keyed.unique (keyed : k.Keyed r key s) (keyed' : k.Keyed r key s')
    (registered : k.Registered) (proper : k.Proper) (accounted : k.Accounted)
    (here : k.registries.get? r = some registry) (shared : key ≠ privateKey) : s' = s := by
  have found := keyed.findByKey? registered proper accounted here shared
  have found' := keyed'.findByKey? registered proper accounted here shared
  exact Option.some.inj (found'.symm.trans found)

/-- The segment that a request for a key gives has the key. -/
theorem Obtained.keyed {q : Requester} {asked : SegmentRequest}
    (obtained : Obtained k r q asked s k') (registered : k.Registered) (proper : k.Proper)
    (shared : asked.isPrivate = false) : k'.Keyed r asked.key s := by
  cases obtained with
  | existing here _ found => exact keyed_of_findByKey? registered proper here found
  | created c owned _ same =>
      have key : c.segment.key = asked.key := by
        simp only [Creation.segment, newSegment, same, shared]
        rfl
      exact ⟨c.segment, Slots.get?_insert_fresh _ _, owned, key, rfl⟩

/-- Somebody's request to a registry for a key is carried out and gives a segment. -/
def Gives (k : Kernel) (r : Handle .registry) (key : Int) (s : Handle .segment) (k' : Kernel) :
    Prop :=
  ∃ q asked, asked.isPrivate = false ∧ asked.key = key ∧ findOrCreate r q asked k = .ok s k'

/-- A request for a key gives the active segment with the key and changes nothing, or makes a
segment if there is none. -/
theorem Gives.cases {k' : Kernel} (gives : k.Gives r key s k') (registered : k.Registered)
    (proper : k.Proper) :
    k'.Keyed r key s ∧ ∃ registry, k.registries.get? r = some registry ∧
      (k.findByKey? registry key = some s ∧ k' = k ∨
        k.findByKey? registry key = none ∧ s = k.segments.fresh) := by
  obtain ⟨q, asked, shared, rfl, given⟩ := gives
  have obtained := (findOrCreate_ends r q asked).ok given
  refine ⟨obtained.keyed registered proper shared, ?_⟩
  cases obtained with
  | existing here _ found => exact ⟨_, here, .inl ⟨found, rfl⟩⟩
  | created c owned _ same =>
      subst owned same
      refine ⟨c.registry, c.registered, .inr ⟨?_, rfl⟩⟩
      exact c.unclaimed.resolve_left (by simp [shared])

/-- No request gives a segment that was removed. -/
theorem not_given_of_pending (proper : k.Proper) (present : k.segments.get? s = some g)
    (pending : g.lifetime = .pending) (q : Requester) (asked : SegmentRequest) (k' : Kernel) :
    findOrCreate r q asked k ≠ .ok s k' := by
  intro given
  cases (findOrCreate_ends r q asked).ok given with
  | existing _ _ found =>
      obtain ⟨keyed, shared⟩ := keyOf?_of_findByKey? found
      rw [keyOf?, present, Option.map_some, (proper s g present).hidden pending] at keyed
      exact shared (Option.some.inj keyed).symm
  | created => simp at present

/-! ## Keys last while segments are active -/

/-- What has a key had it before. -/
theorem Keyed.before {g' : Segment} (keyed : k'.Keyed r key s)
    (present : k.segments.get? s = some g) (present' : k'.segments.get? s = some g')
    (sustains : g.Sustains g') : k.Keyed r key s := by
  obtain ⟨_, there, own, has, active⟩ := keyed
  cases present'.symm.trans there
  obtain ⟨active', same⟩ := sustains.active active
  exact ⟨g, present, sustains.registry.symm.trans own, same.symm.trans has, active'⟩

private theorem Turn.sustains (turn : Turn may k refs k' refs')
    (present : k.segments.get? s = some g) :
    ∃ g', k'.segments.get? s = some g' ∧ g.Sustains g' := by
  rcases turn.change_or_same with change | ⟨same, _⟩
  · rcases change.segmentsAlter with alter | ⟨c, _, rfl⟩
    · obtain ⟨g', present', alters⟩ := alter.result present
      exact ⟨g', present', alters.sustains⟩
    · exact ⟨g, (Slots.get?_insert_of_ne (Slots.ne_fresh present) _).trans present, .refl g⟩
  · exact ⟨g, by rwa [segments_congr same], .refl g⟩

/-! ## Marking -/

/-- A control call that is carried out removes the segment that it names. -/
theorem Names.eq_of_shmctl {t : Handle .task} {id code : Int} {task : Task}
    {buffer answer : ControlBuffer} (named : k.Names t id task s g)
    (command : ControlCommand.ofCode code = .remove)
    (carriedOut : shmctl t id code buffer k = .ok answer k') :
    k' = (k.emit (.controlCalled id code)).markDestroyed s := by
  suffices ends : (shmctl t id code buffer).Ends k
      (fun _ k' => k' = (k.emit (.controlCalled id code)).markDestroyed s) (fun _ _ => True) from
    ends.ok carriedOut
  simp only [shmctl, ends_bind, ends_modify, command]
  refine (@caller_ends _ 0 idle t).mono ?_ fun _ _ _ => trivial
  rintro ⟨task', q⟩ _ ⟨rfl, caller, _⟩
  obtain rfl : task' = task := Option.some.inj (caller.symm.trans named.caller)
  simp only [ends_get, ends_orStuck, implies_true, and_true]
  intro registry _
  refine (@findSegment_ends _ 0 idle task' id).mono ?_ fun _ _ _ => trivial
  rintro s' _ ⟨rfl, registry', here', lookup'⟩
  obtain ⟨registry, here, lookup⟩ := named.registered
  cases here.symm.trans here'
  cases lookup.symm.trans lookup'
  simp only [controlSegment, ends_bind, ends_get, ends_orStuck, ends_check, ends_modify, ends_pure,
    implies_true, and_self]

/-- If an IPC namespace ends when it is looked at whether anybody keeps it, its segments are
removed. -/
theorem cleared_collectNamespace (registered : k.Registered) (proper : k.Proper)
    (here : k.registries.get? r = some registry)
    (gone : (k.collectNamespace r).registries.get? r = none) :
    (k.collectNamespace r).Cleared r := by
  simp only [collectNamespace, here] at gone ⊢
  split
  case isTrue => exact cleared_releaseAll registered proper here
  case isFalse kept =>
    rw [if_neg kept, here] at gone
    cases gone

/-- If an IPC namespace ends with its handle, its segments are removed. -/
theorem cleared_dropNamespace (registered : k.Registered) (proper : k.Proper)
    (here : k.registries.get? r = some registry)
    (gone : (k.dropNamespace r).registries.get? r = none) : (k.dropNamespace r).Cleared r := by
  simp only [dropNamespace, here] at gone ⊢
  split
  case isTrue held =>
    rw [if_pos held] at gone
    exact cleared_collectNamespace (registered.keep (keeps_unhold here)) (proper.of_eq rfl)
      (Slots.get?_set_self here _) gone
  case isFalse kept =>
    rw [if_neg kept, here] at gone
    cases gone

/-- If an IPC namespace ends with a task, its segments are removed. -/
theorem pending_dropTask {t : Handle .task} {task : Task} (registered : k.Registered)
    (proper : k.Proper) (found : k.tasks.get? t = some task) (listed : k.Lists task.ipc s)
    (gone : (k.dropTask t).registries.get? task.ipc = none)
    (present : k.segments.get? s = some g) :
    ∃ g', (k.dropTask t).segments.get? s = some g' ∧ g'.lifetime = .pending := by
  have own := registered.registry_of_lists listed present
  obtain ⟨registry, here, _⟩ := listed
  let left : Kernel := { k with tasks := k.tasks.erase t }
  have collected : Changes (fun _ => True) left 0 (left.collectNamespace task.ipc) 0 :=
    changes_collectNamespace task.ipc trivial fun _ _ _ => trivial
  have dropped : Changes idle (left.collectNamespace task.ipc) (task.space.mapped + 0)
      (k.dropTask t) 0 := by
    simp only [dropTask, found]
    exact changes_dropSpaceValue task.space
  -- Nothing that the address space lets go of takes a registry along.
  have ended : (left.collectNamespace task.ipc).registries.get? task.ipc = none := by
    by_contra kept
    obtain ⟨_, there⟩ := dropped.preserves
      (fun k _ => ∃ registry, k.registries.get? task.ipc = some registry)
      (fun change before => before.elim fun _ there =>
        ((Turn.change change).holder id there).imp fun _ => And.left)
      (Option.ne_none_iff_exists'.mp kept)
    cases gone.symm.trans there
  obtain ⟨g₁, present₁, first⟩ := collected.course.evolves present
  obtain ⟨g₂, present₂, second⟩ := dropped.course.evolves present₁
  have cleared := cleared_collectNamespace (k := left) (registered.of_eq rfl rfl)
    (proper.of_eq rfl) here ended
  exact ⟨g₂, present₂, second.pending (cleared s g₁ present₁ (first.registry.trans own))⟩

end Kernel

/-- The operation marks a segment for destruction: by itself or with all of its registry, by a
control call that is carried out, or because its IPC namespace goes. -/
def Operation.Marks (w : World) (s : Handle .segment) : Operation → Prop
  | markDestroyed s' => s' = s
  | releaseAll r => w.kernel.Lists r s
  | shmctl t id code buffer =>
      ControlCommand.ofCode code = .remove ∧ (∃ task g, w.kernel.Names t id task s g) ∧
        ∃ answer k, Kernel.shmctl t id code buffer w.kernel = .ok answer k
  | dropNamespace r =>
      w.kernel.Lists r s ∧ (w.kernel.dropNamespace r).registries.get? r = none
  | dropTask t => ∃ task, w.kernel.tasks.get? t = some task ∧ w.kernel.Lists task.ipc s ∧
      (w.kernel.dropTask t).registries.get? task.ipc = none
  | _ => False

namespace World

open Kernel

variable {w w' w'' : World} {o : Operation} {may : Deed → Prop} {allowed : Operation → Prop}
  {r : Handle .registry} {key : Int} {s s' : Handle .segment} {g g' : Segment}

/-- Whatever has the deed of removal marks. -/
theorem marks_of_does (does : o.Does w (.remove s)) : o.Marks w s := by
  cases does with
  | shmctl carriedOut controls =>
      cases controls with
      | remove command named => exact ⟨command, ⟨_, _, named⟩, _, _, carriedOut⟩
  | markDestroyed => exact rfl
  | releaseAll listed => exact listed
  | dropNamespace listed gone => exact ⟨listed, gone⟩
  | dropTask found listed gone => exact ⟨_, found, listed, gone⟩

/-- An operation that marks a segment makes it pending. -/
theorem pending_of_marks (reachable : w.Reachable anything) (marks : o.Marks w s)
    (present : w.kernel.segments.get? s = some g) :
    ∃ g', (o.run w).kernel.segments.get? s = some g' ∧ g'.lifetime = .pending := by
  have registered := reachable.registered suits_anything
  have proper := reachable.proper suits_anything
  have laid := reachable.laid suits_anything
  -- Where all segments of a registry are removed, this one is, which stays in its registry.
  have of_cleared {o : Operation} {r : Handle .registry} (enabled : o.Enabled w)
      (listed : w.kernel.Lists r s) (cleared : (o.run w).kernel.Cleared r) :
      ∃ g', (o.run w).kernel.segments.get? s = some g' ∧ g'.lifetime = .pending := by
    obtain ⟨g', present', evolves⟩ := (step_run laid enabled).evolves present
    have own := registered.registry_of_lists listed present
    exact ⟨g', present', cleared s g' present' (evolves.registry.trans own)⟩
  cases o with
  | markDestroyed s' =>
      cases marks
      exact pending_markDestroyed present
  | releaseAll r =>
      obtain ⟨registry, here, _⟩ := id marks
      exact of_cleared (o := .releaseAll r) trivial marks
        (cleared_releaseAll registered proper here)
  | shmctl t id code buffer =>
      obtain ⟨command, ⟨task, _, named⟩, answer, k, carriedOut⟩ := marks
      have removed := named.eq_of_shmctl command carriedOut
      simp only [Operation.run, Operation.apply, KernelM.after_of_ok carriedOut, removed]
      exact pending_markDestroyed (k := w.kernel.emit (.controlCalled id code)) present
  | dropNamespace r =>
      obtain ⟨listed, gone⟩ := marks
      obtain ⟨registry, here, _⟩ := id listed
      exact of_cleared (o := .dropNamespace r) trivial listed
        (cleared_dropNamespace registered proper here gone)
  | dropTask t =>
      obtain ⟨task, found, listed, gone⟩ := marks
      exact pending_dropTask registered proper found listed gone present
  | _ => cases marks

/-- An operation that removes a segment makes none. -/
theorem not_makes_of_removes (does : o.Does w (.remove s)) : ¬ o.Does w (.make r) := by
  intro makes
  cases makes with
  | findOrCreate => cases does
  | shmget => cases does
  | shmctl _ controls => cases controls

/-- A step sustains every segment. -/
theorem Step.sustains (step : Step may w w') (present : w.kernel.segments.get? s = some g) :
    ∃ g', w'.kernel.segments.get? s = some g' ∧ g.Sustains g' := by
  refine step.objects (fun k => ∃ g', k.segments.get? s = some g' ∧ g.Sustains g') ?_ ?_
    ⟨g, present, .refl g⟩
  · rintro k refs k' refs' turn ⟨g', present', before⟩
    obtain ⟨g'', present'', last⟩ := turn.sustains present'
    exact ⟨g'', present'', before.trans last⟩
  · rintro k k' _ segments _ before
    rwa [segments]

/-- Along a run a segment keeps its registry, and its key while it is active. -/
theorem Run.sustains (suits : Suits allowed may) (run : Run allowed w w') (laid : w.kernel.Laid)
    (present : w.kernel.segments.get? s = some g) :
    ∃ g', w'.kernel.segments.get? s = some g' ∧ g.Sustains g' := by
  refine run.preserves suits (fun w' => ∃ g', w'.kernel.segments.get? s = some g' ∧
    g.Sustains g') ?_ laid ⟨g, present, .refl g⟩
  rintro w w' step ⟨g', present', before⟩
  obtain ⟨g'', present'', last⟩ := step.sustains present'
  exact ⟨g'', present'', before.trans last⟩

/-- An operation after which an active segment is removed removes it. -/
theorem removes_of_pending (laid : w.kernel.Laid) (enabled : o.Enabled w)
    (keyed : w.kernel.Keyed r key s) (present : (o.run w).kernel.segments.get? s = some g)
    (pending : g.lifetime = .pending) : o.Does w (.remove s) := by
  obtain ⟨g₀, before, _, _, active⟩ := keyed
  by_contra unremoved
  obtain ⟨g', present', same⟩ := (step_run laid enabled).view (s := s) Segment.lifetime
    (fun alters => alters.lifetime unremoved) laid before
  cases present.symm.trans present'
  cases pending.symm.trans (same.trans active)

/-- While a segment with a key is active, every request for the key gives it and changes nothing. -/
theorem gives_of_keyed (reachable : w.Reachable anything) (shared : key ≠ privateKey)
    (keyed : w.kernel.Keyed r key s) {k : Kernel} (gives : w.kernel.Gives r key s' k) :
    s' = s ∧ k = w.kernel := by
  have registered := reachable.registered suits_anything
  have proper := reachable.proper suits_anything
  obtain ⟨_, registry, here, cases⟩ := gives.cases registered proper
  have found := keyed.findByKey? registered proper (reachable.accounted suits_anything) here shared
  rcases cases with ⟨found', same⟩ | ⟨none, _⟩
  · exact ⟨Option.some.inj (found'.symm.trans found), same⟩
  · cases none.symm.trans found

/-- After a segment with a key was removed, a request for the key gives one that was made later. -/
theorem made_after_removal (reachable : w.Reachable anything) (shared : key ≠ privateKey)
    (keyed : w.kernel.Keyed r key s) (enabled : o.Enabled w)
    (present : (o.run w).kernel.segments.get? s = some g) (pending : g.lifetime = .pending)
    (run : Run anything (o.run w) w') {k : Kernel} (gives : w'.kernel.Gives r key s' k) :
    (o.run w).kernel.segments.get? s' = none := by
  have laid := reachable.laid suits_anything
  have next : (o.run w).Reachable anything := reachable.tail trivial enabled
  have later : w'.Reachable anything := next.trans run
  have registered := later.registered suits_anything
  have proper := later.proper suits_anything
  obtain ⟨_, registry', there, cases⟩ := gives.cases registered proper
  refine Option.eq_none_iff_forall_ne_some.mpr fun g₁ present₁ => ?_
  obtain ⟨g₂, present₂, kept⟩ := run.sustains suits_anything (next.laid suits_anything) present₁
  rcases cases with ⟨found, _⟩ | ⟨_, rfl⟩
  · -- A segment that was there after the removal had the key before it, so it is the removed one.
    have keyed₁ : (o.run w).kernel.Keyed r key s' :=
      (keyed_of_findByKey? registered proper there found).before present₁ present₂ kept
    obtain ⟨g', present', own, _, active⟩ := id keyed₁
    have removes := removes_of_pending laid enabled keyed present pending
    have step := step_run laid enabled
    obtain ⟨g₀, present₀⟩ := step.segment_origin (not_makes_of_removes removes) present' own
    obtain ⟨g'', present'', last⟩ := step.sustains present₀
    have keyed₀ : w.kernel.Keyed r key s' := keyed₁.before present₀ present'' last
    obtain ⟨_, before, rfl, _⟩ := id keyed
    have whole : Run anything w w' := (Run.refl.tail trivial enabled).trans run
    obtain ⟨registry, here⟩ := whole.registry_before suits_anything laid
      ((reachable.housed suits_anything).issued before) there
    have same : s' = s := keyed.unique keyed₀ (reachable.registered suits_anything)
      (reachable.proper suits_anything) (reachable.accounted suits_anything) here shared
    subst same
    cases present.symm.trans present'
    cases pending.symm.trans active
  · simp at present₂

private theorem run_findOrCreate {q : Requester} {asked : SegmentRequest} {k : Kernel}
    (carriedOut : findOrCreate r q asked w.kernel = .ok s k) :
    (Operation.findOrCreate r q asked).run w = { w with kernel := k } := by
  simp only [Operation.run, Operation.apply, KernelM.after_of_ok carriedOut]

private theorem Reachable.gives {k : Kernel} (reachable : w.Reachable anything)
    (given : w.kernel.Gives r key s k) : ({ w with kernel := k } : World).Reachable anything := by
  obtain ⟨q, asked, _, _, carriedOut⟩ := given
  rw [← run_findOrCreate carriedOut]
  exact reachable.tail trivial trivial

/-! ## Agreement -/

/-- No operation marks a segment when its turn comes. -/
def Spares (w : World) (s : Handle .segment) : List Operation → Prop
  | [] => True
  | o :: rest => ¬ o.Marks w s ∧ (o.run w).Spares s rest

/-- A segment with a key keeps it through an operation that does not mark it. -/
theorem keyed_run (reachable : w.Reachable anything) (enabled : o.Enabled w)
    (unmarked : ¬ o.Marks w s) (keyed : w.kernel.Keyed r key s) :
    (o.run w).kernel.Keyed r key s := by
  have laid := reachable.laid suits_anything
  obtain ⟨g, present, own, has, _⟩ := id keyed
  obtain ⟨g', present', kept⟩ := (step_run laid enabled).sustains present
  cases lifetime : g'.lifetime with
  | active =>
      have same := (kept.active lifetime).2
      exact ⟨g', present', kept.registry.trans own, same.trans has, lifetime⟩
  | pending =>
      have removes := removes_of_pending laid enabled keyed present' lifetime
      exact absurd (marks_of_does removes) unmarked

/-- A segment with a key keeps it through operations that spare it. -/
theorem keyed_follow {operations : List Operation} (reachable : w.Reachable anything)
    (admitted : w.Admits operations) (spares : w.Spares s operations)
    (keyed : w.kernel.Keyed r key s) : (w.follow operations).kernel.Keyed r key s := by
  induction operations generalizing w with
  | nil => exact keyed
  | cons o rest ih =>
      obtain ⟨enabled, admitted⟩ := admitted
      obtain ⟨unmarked, spares⟩ := spares
      exact ih (reachable.tail trivial enabled) admitted spares
        (keyed_run reachable enabled unmarked keyed)

/-- Requests for a key agree. Somebody's request to a registry for a key that is not the private
one gives a segment, and any operations follow. As long as none of them marks the segment, it is
active and has the key, and every request for the key gives that segment and makes none. From the
operation on that marks it, it is pending, no request at all gives it, and every request for the
key gives a segment that was not yet there when it was marked. -/
theorem keys_agree {k : Kernel} {operations : List Operation} (reachable : w.Reachable anything)
    (shared : key ≠ privateKey) (given : w.kernel.Gives r key s k)
    (admitted : ({ w with kernel := k } : World).Admits operations)
    (spares : ({ w with kernel := k } : World).Spares s operations) :
    let w' := ({ w with kernel := k } : World).follow operations
    w'.kernel.Keyed r key s ∧
      (∀ s' k', w'.kernel.Gives r key s' k' → s' = s ∧ k' = w'.kernel) ∧
      ∀ o : Operation, o.Enabled w' → o.Marks w' s → ∀ w'', Run anything (o.run w') w'' →
        (∃ g, w''.kernel.segments.get? s = some g ∧ g.lifetime = .pending) ∧
        (∀ r' q asked k', findOrCreate r' q asked w''.kernel ≠ .ok s k') ∧
        ∀ s' k', w''.kernel.Gives r key s' k' → (o.run w').kernel.segments.get? s' = none := by
  intro w'
  have start := reachable.gives given
  have reached : w'.Reachable anything := start.follow admitted fun _ _ => trivial
  obtain ⟨first, _⟩ := given.cases (reachable.registered suits_anything)
    (reachable.proper suits_anything)
  have keyed : w'.kernel.Keyed r key s := keyed_follow start admitted spares first
  refine ⟨keyed, fun s' k' gives => gives_of_keyed reached shared keyed gives, ?_⟩
  intro o enabled marks w'' run
  have next : (o.run w').Reachable anything := reached.tail trivial enabled
  have later : w''.Reachable anything := next.trans run
  obtain ⟨_, before, _⟩ := id keyed
  obtain ⟨g, present, pending⟩ := pending_of_marks reached marks before
  obtain ⟨g', present', evolves⟩ :=
    run.evolves suits_anything (next.laid suits_anything) present
  have removed := evolves.pending pending
  refine ⟨⟨g', present', removed⟩, fun r' q asked k' => ?_, fun s' k' gives => ?_⟩
  · exact not_given_of_pending (later.proper suits_anything) present' removed q asked k'
  · exact made_after_removal reached shared keyed enabled present pending run gives

/-- A pool with a registry, and a task of user two in its namespace. -/
def founding : List Operation :=
  [.makePool 0 16, .makeRegistry .initial ⟨0⟩ {} (.ipc true), .makeClock ⟨0⟩,
    .makeTask 1 (.plain ⟨2⟩ ⟨0⟩ .initial) ⟨0⟩ ⟨0⟩ ⟨0x10000, 0x40000⟩]

/-- Two users get the same segment for a key, with private requests and requests for another key
between theirs, with the segment attached, and after the second of them was refused to remove it.
Once the registry removes all its segments the key stands for a new one, while the old one is still
attached. -/
theorem keys_agree_founding :
    let user (uid : UInt32) : Requester := ⟨.plain ⟨uid⟩ ⟨0⟩ .initial, none, none⟩
    let asked (key : Int) (isPrivate : Bool) : SegmentRequest :=
      ⟨key, 1, 0o666, isPrivate, true, false⟩
    let w := ({} : World).follow founding
    let ask : Operation := .findOrCreate ⟨0⟩ (user 1) (asked 7 false)
    let between : List Operation := [.findOrCreate ⟨0⟩ (user 2) (asked 7 true),
      .findOrCreate ⟨0⟩ (user 2) (asked 8 false), .attach ⟨0⟩ (user 2) 0 ⟨false, false, false⟩,
      .shmctl ⟨0⟩ 1 0 .null]
    let w' := (ask.run w).follow between
    let w'' := (Operation.releaseAll ⟨0⟩).run w'
    (∃ k, w.kernel.Gives ⟨0⟩ 7 ⟨0⟩ k) ∧ (ask.run w).Spares ⟨0⟩ between ∧
      w'.kernel.Gives ⟨0⟩ 7 ⟨0⟩ w'.kernel ∧ (Operation.releaseAll ⟨0⟩).Marks w' ⟨0⟩ ∧
      (∃ g, w''.kernel.segments.get? ⟨0⟩ = some g ∧ g.lifetime = .pending) ∧
      (∃ k, w''.kernel.Gives ⟨0⟩ 7 ⟨3⟩ k) ∧ w''.kernel.segments.get? ⟨3⟩ = none := by
  intro user asked w ask between w' w''
  have reachable : w.Reachable anything :=
    reachable_follow (by decide +kernel) fun _ _ => trivial
  have first : ∃ k, findOrCreate ⟨0⟩ (user 1) (asked 7 false) w.kernel = .ok ⟨0⟩ k := by
    decide +kernel
  have second : ∃ k, findOrCreate ⟨0⟩ (user 2) (asked 7 false) w'.kernel = .ok ⟨0⟩ k := by
    decide +kernel
  have third : ∃ k, findOrCreate ⟨0⟩ (user 2) (asked 7 false) w''.kernel = .ok ⟨3⟩ k := by
    decide +kernel
  have refused : ∃ k, Kernel.shmctl ⟨0⟩ 1 0 .null ((ask.run w).follow (between.take 3)).kernel =
      .error .eperm k := by
    decide +kernel
  have listed : ∃ registry ∈ w'.kernel.registries.get? ⟨0⟩, (1, ⟨0⟩) ∈ registry.table := by
    decide +kernel
  have admitted : (ask.run w).Admits between := by decide +kernel
  obtain ⟨k, carriedOut⟩ := first
  obtain ⟨k', carriedOut'⟩ := second
  obtain ⟨k'', carriedOut''⟩ := third
  have given : w.kernel.Gives ⟨0⟩ 7 ⟨0⟩ k := ⟨user 1, asked 7 false, rfl, rfl, carriedOut⟩
  have given' : w'.kernel.Gives ⟨0⟩ 7 ⟨0⟩ k' := ⟨user 2, asked 7 false, rfl, rfl, carriedOut'⟩
  have given'' : w''.kernel.Gives ⟨0⟩ 7 ⟨3⟩ k'' := ⟨user 2, asked 7 false, rfl, rfl, carriedOut''⟩
  have spares : (ask.run w).Spares ⟨0⟩ between := by
    refine ⟨id, id, id, ?_, trivial⟩
    rintro ⟨_, _, _, _, done⟩
    obtain ⟨_, refusal⟩ := refused
    cases refusal.symm.trans done
  have marks : (Operation.releaseAll ⟨0⟩).Marks w' ⟨0⟩ := by
    obtain ⟨registry, here, member⟩ := listed
    exact ⟨registry, here, 1, member⟩
  have asking : ask.run w = { w with kernel := k } := run_findOrCreate carriedOut
  rw [asking] at admitted spares
  obtain ⟨_, agree, removal⟩ := keys_agree reachable (by decide) given admitted spares
  rw [← asking] at agree removal spares
  obtain ⟨pending, _, later⟩ := removal (.releaseAll ⟨0⟩) trivial marks w'' .refl
  rw [(agree ⟨0⟩ k' given').2] at given'
  exact ⟨⟨k, given⟩, spares, given', marks, pending, ⟨k'', given''⟩, later ⟨3⟩ k'' given''⟩

end World

end SharedMemory
