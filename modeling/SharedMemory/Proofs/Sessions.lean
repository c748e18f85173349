import SharedMemory.Proofs.World
import SharedMemory.Session.Run

/-!
# Sessions are runs

A session does nothing to its kernel but operations. Every command looks names and objects up
(`Session.Looks`), has the kernel carry operations out, and binds names to what results
(`Session.stays_perform`). So a session that started with nothing, and whose kernel has not halted,
has the kernel of a reachable world (`Session.mirrors_play`), and what is true in every reachable
world is true of it.

Two things keep a session from being a run. A command can ask for what no enabled operation does,
such as an address space that ends past the word; `Session.Command.Fits` says which do not. And a
name can stand for an object that is gone, which halts the kernel and ends the session.
-/

namespace SharedMemory

namespace Kernel

variable {k : Kernel}

/-- The object of a kept request is held. -/
theorem mem_held_of_request {h : Handle .request} {m : MapRequest}
    (kept : k.requests.get? h = some m) : m.object ∈ k.held := by
  simp [held, Slots.total_erase kept]

/-- The object of a kept reference is held. -/
theorem mem_held_of_reference {h : Handle .reference} {object : Object}
    (kept : k.references.get? h = some object) : object ∈ k.held := by
  simp [held, Slots.total_erase kept]

end Kernel

namespace Operation

/-- The operation is enabled in every world and leaves the loans. -/
def Anytime : Operation → Prop
  | lend .. | giveBack .. | editRequest .. | cloneRequest .. | cloneReference .. => False
  | makeWindow window => window.references = 0
  | makeSpace range => range.start ≤ range.stop ∧ range.stop < wordSize
  | makeTask _ _ _ _ range => range.start ≤ range.stop ∧ range.stop < wordSize
  | _ => True

variable {o : Operation}

private theorem Anytime.enabled (anytime : o.Anytime) (w : World) : o.Enabled w := by
  cases o <;> first | exact anytime | exact anytime.elim

private theorem Anytime.run_eq (anytime : o.Anytime) (w : World) :
    o.run w = { w with kernel := o.apply w.kernel } := by
  cases o <;> first | rfl | exact anytime.elim

end Operation

namespace Names

variable {α : Type} {n : Names α} {name : String} {a : α}

/-- Without a name there is no more than before. -/
theorem subperm_erase : ((n.erase name).entries.map (·.2)).Subperm (n.entries.map (·.2)) :=
  (List.filter_sublist.map _).subperm

/-- With a name there is no more than what it stands for and what there was before. -/
theorem subperm_bind : ((n.bind name a).entries.map (·.2)).Subperm (a :: n.entries.map (·.2)) := by
  simp only [bind, List.map_append, List.map_cons, List.map_nil]
  exact (List.perm_append_singleton _ _).subperm.trans ((List.subperm_cons a).mpr subperm_erase)

/-- A name that is taken away leaves what the others stand for. -/
theorem subperm_cons_erase (found : n.find? name = some a) :
    (a :: (n.erase name).entries.map (·.2)).Subperm (n.entries.map (·.2)) := by
  obtain ⟨before, after, split, _⟩ := List.lookup_eq_some_iff.mp found
  have rest : ((n.erase name).entries.map (·.2)).Subperm ((before ++ after).map (·.2)) := by
    simp only [erase, split, List.filter_append, List.filter_cons, ne_eq, not_true_eq_false,
      decide_false, Bool.false_eq_true, if_false]
    exact ((List.filter_sublist.append List.filter_sublist).map _).subperm
  have moved : n.entries.Perm ((name, a) :: (before ++ after)) := split ▸ List.perm_middle
  have whole := (moved.map fun entry => entry.2).symm.subperm
  exact ((List.subperm_cons a).mpr rest).trans whole

end Names

namespace Session

open World

variable {α β : Type} {s s' : Session} {w w' : World} {x : SessionM α} {f : α → SessionM β}

/-! ## Looking things up -/

/-- A part of a command that only looks things up: it changes nothing, but the kernel halts if
there is nothing under a handle. -/
def Looks (x : SessionM α) : Prop :=
  ∀ s, (∃ a, x s = .ok a s) ∨ (∃ cause, x s = .error cause s) ∨
    ∃ cause, x s = .error cause { s with kernel := s.kernel.halt .dangling }

private theorem looks_pure (a : α) : Looks (pure a) := fun _ => .inl ⟨a, rfl⟩

private theorem looks_get : Looks get := fun s => .inl ⟨s, rfl⟩

/-- What looks things up in two steps only looks things up. -/
theorem Looks.bind (first : Looks x) (second : ∀ a, Looks (f a)) : Looks (x >>= f) := by
  intro s
  rcases first s with ⟨a, found⟩ | ⟨cause, unbound⟩ | ⟨cause, stuck⟩
  · have same : (x >>= f) s = f a s := by simp only [Bind.bind, EStateM.bind, found]
    rw [same]
    exact second a s
  · refine .inr (.inl ⟨cause, ?_⟩)
    simp only [Bind.bind, EStateM.bind, unbound]
  · refine .inr (.inr ⟨cause, ?_⟩)
    simp only [Bind.bind, EStateM.bind, stuck]

/-- What was looked up in two steps was found in both. -/
private theorem Looks.bind_eq_ok {b : β} (first : Looks x) (found : (x >>= f) s = .ok b s') :
    ∃ a, x s = .ok a s ∧ f a s = .ok b s' := by
  simp only [Bind.bind, EStateM.bind] at found
  rcases first s with ⟨a, same⟩ | ⟨cause, unbound⟩ | ⟨cause, stuck⟩
  · rw [same] at found
    exact ⟨a, same, found⟩
  · rw [unbound] at found
    cases found
  · rw [stuck] at found
    cases found

/-- To look a name up leaves the session, also if the name is not bound. -/
theorem looks_named (table : Session → Names α) (field name : String) :
    Looks (named table field name) := by
  refine looks_get.bind fun s => ?_
  cases (table s).find? name with
  | some a => exact looks_pure a
  | none => exact fun s => .inr (.inl ⟨.unbound field, rfl⟩)

/-- What a look-up answers is bound to the name. -/
theorem named_eq_ok {table : Session → Names α} {field name : String} {a : α}
    (found : named table field name s = .ok a s') : (table s).find? name = some a := by
  obtain ⟨_, got, found⟩ := looks_get.bind_eq_ok found
  cases got
  cases value : (table s).find? name with
  | some b =>
      simp only [value] at found
      cases found
      rfl
  | none =>
      simp only [value] at found
      cases found

/-- The kernel carries out a program one part after the other. -/
theorem run_bind {x : KernelM α} {f : α → KernelM β} :
    run (x >>= f) = run x >>= fun a => run (f a) := by
  funext s
  simp only [run, bind, EStateM.bind]
  cases x s.kernel with
  | ok a k => rfl
  | error cause k => rfl

private theorem looks_orStuck (value : Option α) : Looks (run (KernelM.orStuck value)) := by
  cases value with
  | some a => exact fun s => .inl ⟨a, rfl⟩
  | none => exact fun s => .inr (.inr ⟨_, rfl⟩)

/-- To look at an object leaves the session, and halts the kernel if there is none. -/
theorem looks_object {kind : Kind} (slots : Kernel → Slots kind α) (h : Handle kind) :
    Looks (object slots h) := looks_get.bind fun _ => looks_orStuck _

private theorem looks_ofExcept (value : Except Errno α) : Looks (run (KernelM.ofExcept value)) := by
  cases value with
  | ok a => exact fun s => .inl ⟨a, rfl⟩
  | error cause => exact fun s => .inr (.inl ⟨_, rfl⟩)

/-- A call of the kernel that only looks things up. -/
theorem looks_segmentStatus (g : Handle .segment) (q : Requester) :
    Looks (run (Kernel.segmentStatus g q)) := by
  simp only [Kernel.segmentStatus, run_bind]
  have looks_kernel : Looks (run get) := fun s => .inl ⟨s.kernel, rfl⟩
  exact looks_kernel.bind fun _ => (looks_orStuck _).bind fun _ => looks_ofExcept _

private theorem looks_taskNamed (name : String) :
    Looks (taskNamed name) := looks_named tasks "task" name

private theorem looks_segmentNamed (name : String) : Looks (segmentNamed name) :=
  looks_named segments "shm" name

private theorem looks_registryNamed (name : RegistryName) : Looks (registryNamed name) := by
  cases name with
  | registry name => exact looks_named registries "reg" name
  | ipc name => exact looks_named namespaces "ipc" name

private theorem looks_spaceNamed (name : SpaceName) : Looks (spaceNamed name) := by
  cases name with
  | space name => exact (looks_named spaces "space" name).bind fun _ => looks_pure _
  | task name => exact (looks_taskNamed name).bind fun _ => looks_pure _

private theorem looks_spaceValue (name : SpaceName) : Looks (spaceValue name) :=
  (looks_spaceNamed name).bind fun _ => looks_get.bind fun _ => looks_orStuck _

private theorem looks_objectNamed (name : ObjectName) : Looks (objectNamed name) := by
  cases name with
  | segment name => exact (looks_segmentNamed name).bind fun _ => looks_pure _
  | window name => exact (looks_named windows "obj" name).bind fun _ => looks_pure _

/-- Whoever asks is looked up, by name or by the task that asks. -/
theorem looks_requester (asker : Asker) : Looks (requester asker) := by
  cases asker with
  | context c => exact (looks_named credentials "cred" c.credentials).bind fun _ => looks_pure _
  | task name =>
      exact (looks_taskNamed name).bind fun t => (looks_object (·.tasks) t).bind fun _ =>
        looks_get.bind fun _ => looks_orStuck _

private theorem looks_referenced (source : ReferenceName) : Looks (referenced source) := by
  cases source with
  | request name =>
      exact (looks_named requests "opts" name).bind fun h =>
        (looks_object (·.requests) h).bind fun _ => looks_pure _
  | reference name =>
      exact (looks_named references "ref" name).bind fun h => looks_object (·.references) h

private theorem looks_identityOf (o : Object) : Looks (identityOf o) :=
  looks_get.bind fun _ => looks_orStuck _

private theorem looks_segmentIdOf (o : Object) : Looks (segmentIdOf o) := by
  cases o with
  | segment g => exact (looks_object (·.segments) g).bind fun _ => looks_pure _
  | window _ => exact looks_pure none

/-! ## Following a world -/

/-- The session has the kernel of a world, and the frames that it has names for are out. -/
structure Mirrors (s : Session) (w : World) : Prop where
  kernel : s.kernel = w.kernel
  ranges : (s.ranges.entries.map (·.2)).Subperm w.loans

/-- The session mirrors what a world became by operations. -/
def Follows (w : World) (s : Session) : Prop := ∃ w', Run anything w w' ∧ s.Mirrors w'

/-- The session goes on following when the kernel carries out an operation other than on loans. -/
theorem Follows.operate (follows : Follows w s) (o : Operation)
    (plain : ∀ w', o.run w' = { w' with kernel := o.apply w'.kernel })
    (enabled : ∀ w', s.kernel = w'.kernel → o.Enabled w') :
    Follows w { s with kernel := o.apply s.kernel } := by
  obtain ⟨w', run, mirrors⟩ := follows
  refine ⟨o.run w', run.tail trivial (enabled w' mirrors.kernel), ?_⟩
  rw [plain]
  exact ⟨congrArg o.apply mirrors.kernel, mirrors.ranges⟩

/-- A part of a command leaves a session that follows a world, or a halted kernel and no answer. -/
def Stays (w : World) (x : SessionM α) (s : Session) : Prop :=
  match x s with
  | .ok _ s' => Follows w s'
  | .error _ s' => s'.kernel.halted = true ∨ Follows w s'

/-- A part of a command keeps to operations, whatever was done before. -/
def Plays (w : World) (x : SessionM α) : Prop := ∀ s, Follows w s → Stays w x s

private theorem stays_of_ok {a : α} (carriedOut : x s = .ok a s') (follows : Follows w s') :
    Stays w x s := by
  simpa only [Stays, carriedOut] using follows

private theorem stays_of_error {cause : Refusal} (refused : x s = .error cause s')
    (follows : Follows w s') : Stays w x s := by
  simpa only [Stays, refused] using Or.inr follows

private theorem stays_bind_of_ok {a : α} (carriedOut : x s = .ok a s') (next : Stays w (f a) s') :
    Stays w (x >>= f) s := by
  have same : (x >>= f) s = f a s' := by simp only [bind, EStateM.bind, carriedOut]
  rwa [Stays, same]

private theorem stays_bind_of_error {cause : Refusal} (refused : x s = .error cause s')
    (ended : s'.kernel.halted = true ∨ Follows w s') : Stays w (x >>= f) s := by
  have same : (x >>= f) s = .error cause s' := by simp only [bind, EStateM.bind, refused]
  rwa [Stays, same]

/-- What comes after a part that keeps to operations starts from a session that follows. -/
theorem Plays.stays_bind (first : Plays w x) (follows : Follows w s)
    (next : ∀ a s', Follows w s' → Stays w (f a) s') : Stays w (x >>= f) s := by
  have ended := first s follows
  cases result : x s with
  | ok a s' =>
      rw [Stays, result] at ended
      exact stays_bind_of_ok result (next a s' ended)
  | error cause s' =>
      rw [Stays, result] at ended
      exact stays_bind_of_error result ended

/-- Parts that keep to operations do so one after the other. -/
theorem Plays.bind (first : Plays w x) (second : ∀ a, Plays w (f a)) : Plays w (x >>= f) :=
  fun _ follows => first.stays_bind follows fun a s' => second a s'

/-- What comes after something was looked up starts from the same session. -/
theorem Looks.stays_bind (looks : Looks x) (follows : Follows w s)
    (next : ∀ a, x s = .ok a s → Stays w (f a) s) : Stays w (x >>= f) s := by
  rcases looks s with ⟨a, found⟩ | ⟨cause, unbound⟩ | ⟨cause, stuck⟩
  · exact stays_bind_of_ok found (next a found)
  · exact stays_bind_of_error unbound (.inr follows)
  · exact stays_bind_of_error stuck (.inl rfl)

/-- What only looks things up does no operation. -/
theorem Looks.plays (looks : Looks x) : Plays w x := by
  intro s follows
  rw [← bind_pure x]
  exact looks.stays_bind follows fun a _ => stays_of_ok rfl follows

private theorem plays_pure (a : α) : Plays w (pure a) := (looks_pure a).plays

/-- Names may be bound and unbound at any time. -/
theorem plays_modify {g : Session → Session}
    (same : ∀ s, (g s).kernel = s.kernel ∧ (g s).ranges = s.ranges) :
    Plays w (modify g : SessionM Unit) := by
  rintro s ⟨w', run, mirrors⟩
  refine stays_of_ok rfl ⟨w', run, (same s).1.trans mirrors.kernel, ?_⟩
  rw [(same s).2]
  exact mirrors.ranges

private theorem Plays.modify_bind {g : Session → Session} {y : SessionM α} (next : Plays w y)
    (same : ∀ s, (g s).kernel = s.kernel ∧ (g s).ranges = s.ranges) :
    Plays w ((modify g : SessionM Unit) >>= fun _ => y) :=
  (plays_modify same).bind fun _ => next

/-! ## Operations -/

private theorem run_of_ok {x : KernelM α} {a : α} {k : Kernel} (carriedOut : x s.kernel = .ok a k) :
    run x s = .ok a { s with kernel := k } := by
  rw [run, carriedOut]

private theorem run_of_error {x : KernelM α} {cause : Errno} {k : Kernel}
    (refused : x s.kernel = .error cause k) :
    run x s = .error (.errno cause) { s with kernel := k } := by
  rw [run, refused]

/-- A change of the kernel that is an operation. -/
theorem plays_change {g : Kernel → Kernel} (o : Operation)
    (anytime : o.Anytime) (same : ∀ k, g k = o.apply k) : Plays w (change g) := by
  intro s follows
  have operated := follows.operate o anytime.run_eq fun w' _ => anytime.enabled w'
  rw [← same] at operated
  exact stays_of_ok rfl operated

/-- A call of the kernel that is an operation, whether or not it is refused. -/
theorem plays_run {x : KernelM α} (o : Operation)
    (anytime : o.Anytime) (same : ∀ k, x.after k = o.apply k) : Plays w (run x) := by
  intro s follows
  have operated := follows.operate o anytime.run_eq fun w' _ => anytime.enabled w'
  rw [← same, KernelM.after] at operated
  cases result : x s.kernel with
  | ok a k =>
      rw [result] at operated
      exact stays_of_ok (run_of_ok result) operated
  | error cause k =>
      rw [result] at operated
      exact stays_of_error (run_of_error result) operated

/-- Something that the kernel makes by an operation. -/
theorem plays_produce {g : Kernel → α × Kernel} (o : Operation)
    (anytime : o.Anytime) (same : ∀ k, (g k).2 = o.apply k) : Plays w (produce g) :=
  plays_run o anytime same

private theorem plays_forM {g : α → SessionM Unit} (each : ∀ a, Plays w (g a)) (value : Option α) :
    Plays w (value.forM g) := by
  cases value with
  | some a => exact each a
  | none => exact plays_pure ()

/-! ## Binding names -/

/-- To bind a name is to note what it stands for and then to drop what it stood for. -/
theorem plays_rebind {g : Session → Session} {old : Session → Option α} {drop : α → SessionM Unit}
    (same : ∀ s, (g s).kernel = s.kernel ∧ (g s).ranges = s.ranges)
    (drops : ∀ a, Plays w (drop a)) :
    Plays w (get >>= fun s => (modify g : SessionM Unit) >>= fun _ => (old s).forM drop) :=
  looks_get.plays.bind fun s => (plays_forM drops (old s)).modify_bind same

private theorem plays_bindRegistry (name : String) (r : Handle .registry) :
    Plays w (bindRegistry name r) :=
  plays_rebind (fun _ => ⟨rfl, rfl⟩) fun r => plays_change (.dropRegistry r) trivial fun _ => rfl

private theorem plays_bindNamespace (name : String) (r : Handle .registry) :
    Plays w (bindNamespace name r) :=
  plays_rebind (fun _ => ⟨rfl, rfl⟩) fun r => plays_change (.dropNamespace r) trivial fun _ => rfl

private theorem plays_bindTask (name : String) (t : Handle .task) : Plays w (bindTask name t) :=
  plays_rebind (fun _ => ⟨rfl, rfl⟩) fun t => plays_change (.dropTask t) trivial fun _ => rfl

private theorem plays_bindRequest (name : String) (h : Handle .request) :
    Plays w (bindRequest name h) :=
  plays_rebind (fun _ => ⟨rfl, rfl⟩) fun h => plays_change (.dropRequest h) trivial fun _ => rfl

private theorem plays_bindReference (name : String) (h : Handle .reference) :
    Plays w (bindReference name h) :=
  plays_rebind (fun _ => ⟨rfl, rfl⟩) fun h => plays_change (.dropReference h) trivial fun _ => rfl

private theorem plays_bindSpace (name : String) (a : Handle .space) : Plays w (bindSpace name a) :=
  plays_rebind (fun _ => ⟨rfl, rfl⟩) fun a => plays_change (.dropSpace a) trivial fun _ => rfl

private theorem plays_bindSegment (name : String) (g : Handle .segment) :
    Plays w (bindSegment name g) :=
  plays_modify fun _ => ⟨rfl, rfl⟩

/-- To unbind a name is to forget it and then to drop what it stood for. -/
theorem plays_unbind {table : Session → Names α} {field name : String} {g : Session → Session}
    {drop : α → SessionM β} (same : ∀ s, (g s).kernel = s.kernel ∧ (g s).ranges = s.ranges)
    (drops : ∀ a, Plays w (drop a)) :
    Plays w (named table field name >>= fun a => (modify g : SessionM Unit) >>= fun _ => drop a) :=
  (looks_named table field name).plays.bind fun a => (drops a).modify_bind same

/-- Whatever a name stands for, there is an operation that drops it. -/
theorem plays_drop (kind : Droppable) (name : String) : Plays w (drop kind name) := by
  cases kind with
  | registry =>
      refine plays_unbind (fun _ => ⟨rfl, rfl⟩) fun r => ?_
      exact plays_change (.dropRegistry r) trivial fun _ => rfl
  | ipc =>
      refine plays_unbind (fun _ => ⟨rfl, rfl⟩) fun r => ?_
      exact plays_change (.dropNamespace r) trivial fun _ => rfl
  | task =>
      refine plays_unbind (fun _ => ⟨rfl, rfl⟩) fun t => ?_
      exact plays_change (.dropTask t) trivial fun _ => rfl
  | segment =>
      exact (looks_named segments "name" name).plays.bind fun _ => plays_modify fun _ => ⟨rfl, rfl⟩
  | request =>
      refine plays_unbind (fun _ => ⟨rfl, rfl⟩) fun h => ?_
      exact plays_change (.dropRequest h) trivial fun _ => rfl
  | reference =>
      refine plays_unbind (fun _ => ⟨rfl, rfl⟩) fun h => ?_
      exact plays_change (.dropReference h) trivial fun _ => rfl
  | space =>
      refine plays_unbind (fun _ => ⟨rfl, rfl⟩) fun a => ?_
      exact plays_change (.dropSpace a) trivial fun _ => rfl

/-! ## Requests and references -/

/-- A request that results from a call of the kernel is kept at once, so that both are one
operation. -/
theorem plays_keepOrDrop {x : KernelM MapRequest} (o : Operation) (name : Option String)
    (anytime : o.Anytime)
    (same : ∀ k, (x >>= fun m => modify fun k => (k.keepRequest m).2).after k = o.apply k) :
    Plays w (run x >>= fun m => keepOrDrop m name >>= fun _ => pure (Answer.request m)) := by
  intro s follows
  have operated := follows.operate o anytime.run_eq fun w' _ => anytime.enabled w'
  cases result : x s.kernel with
  | ok m k =>
      have kept : (x >>= fun m => modify fun k => (k.keepRequest m).2).after s.kernel =
          (k.keepRequest m).2 := by
        apply KernelM.after_of_ok (a := ())
        simp only [bind, EStateM.bind, result]
        rfl
      rw [← same, kept] at operated
      refine stays_bind_of_ok (run_of_ok result) ?_
      have answers := plays_pure (w := w) (Answer.request m)
      cases name with
      | some name =>
          exact ((plays_bindRequest name k.requests.fresh).bind fun _ => answers) _ operated
      | none =>
          have drops : Plays w (change (·.dropRequest k.requests.fresh)) :=
            plays_change (.dropRequest _) trivial fun _ => rfl
          exact (drops.bind fun _ => answers) _ operated
  | error cause k =>
      have kept : (x >>= fun m => modify fun k => (k.keepRequest m).2).after s.kernel = k := by
        simp only [KernelM.after, bind, EStateM.bind, result]
      rw [← same, kept] at operated
      exact stays_bind_of_error (run_of_error result) (.inr operated)

/-- What a look at a handle answers is under the handle. -/
theorem object_eq_ok {kind : Kind} {slots : Kernel → Slots kind α} {h : Handle kind} {a : α}
    (found : object slots h s = .ok a s') : (slots s.kernel).get? h = some a := by
  have same : object slots h s = run (KernelM.orStuck ((slots s.kernel).get? h)) s := rfl
  rw [same] at found
  cases value : (slots s.kernel).get? h with
  | some b =>
      rw [value] at found
      cases found
      rfl
  | none =>
      rw [value] at found
      cases found

/-- What a name refers to is held. -/
theorem mem_held_of_referenced {source : ReferenceName} {o : Object}
    (found : referenced source s = .ok o s) : o ∈ s.kernel.held := by
  cases source with
  | request name =>
      obtain ⟨h, _, kept⟩ := (looks_named requests "opts" name).bind_eq_ok found
      obtain ⟨m, there, same⟩ := (looks_object (·.requests) h).bind_eq_ok kept
      cases same
      exact Kernel.mem_held_of_request (object_eq_ok there)
  | reference name =>
      obtain ⟨h, _, there⟩ := (looks_named references "ref" name).bind_eq_ok found
      exact Kernel.mem_held_of_reference (object_eq_ok there)

/-- A request is used up by the operation that maps it, or dropped if the address space is not
bound. -/
theorem plays_useRequest (space : SpaceName) (asker : Asker) (request : String) :
    Plays w (useRequest space asker request) := by
  refine (looks_requester asker).plays.bind fun q => ?_
  refine plays_unbind (fun _ => ⟨rfl, rfl⟩) fun h => looks_get.plays.bind fun s => ?_
  cases spaceNamed space s with
  | ok ref _ => exact plays_run (.mmap ref q h) trivial fun _ => rfl
  | error cause _ =>
      refine (plays_change (.dropRequest h) trivial fun _ => rfl).bind fun _ => ?_
      exact fun s follows => stays_of_error rfl follows

/-! ## Commands -/

/-- What whoever gives a command has to see to: ranges of addresses are not turned around and end
within the word, and frames go back to the pool that they came from. -/
def Command.Fits (s : Session) : Command → Prop
  | .makeSpace _ range => range.start ≤ range.stop ∧ range.stop < wordSize
  | .makeTask _ _ _ _ _ range => range.start ≤ range.stop ∧ range.stop < wordSize
  | .notify _ _ _ span _ => span.start ≤ span.stop
  | .release pool range => ∀ p ∈ s.pools.find? pool, ∀ taken ∈ s.ranges.find? range, taken.1 = p
  | _ => True

instance (s : Session) (c : Command) : Decidable (c.Fits s) := by
  cases c <;> dsimp only [Command.Fits] <;> infer_instance

/-- A notice about a range that is not turned around goes straight to the object. -/
theorem plays_notify (notice : Notice) (o : Object) (q : Requester) {span : Span} (offset : Nat)
    (upright : span.start ≤ span.stop) : Plays w (notify notice o q span offset) := by
  intro s follows
  have kept : change (·.require (span.start ≤ span.stop) .arithmetic) s = .ok () s := by
    simp only [change, Kernel.require, if_pos upright]
    rfl
  refine stays_bind_of_ok kept ?_
  cases notice with
  | added =>
      exact (plays_run (.notifyAdded q o span offset) trivial fun _ => rfl) s follows
  | removed =>
      exact (plays_change (.notifyRemoved q o span offset) trivial fun _ => rfl) s follows
  | copied =>
      exact (plays_run (.notifyCopied o span offset) trivial fun _ => rfl) s follows

/-- An edit leaves the object of a request. -/
theorem plays_editRequest (request : String) (edit : RequestEdit) :
    Plays w (perform (.editRequest request edit)) := by
  intro s follows
  refine (looks_named requests "opts" request).stays_bind follows fun h _ => ?_
  refine (looks_object (·.requests) h).stays_bind follows fun m found => ?_
  have kept := object_eq_ok found
  refine stays_of_ok rfl (follows.operate (.editRequest h (edit.apply m)) (fun _ => rfl) ?_)
  intro w' same m' there
  rw [← same, kept] at there
  cases there
  rfl

/-- Another reference is made only of an object to which there is one. -/
theorem plays_cloneReference (source : ReferenceName) (name : Option String) :
    Plays w (perform (.cloneReference source name)) := by
  intro s follows
  refine (looks_referenced source).stays_bind follows fun o found => ?_
  have kept : Follows w { s with kernel := (s.kernel.keepReference o).2 } := by
    refine follows.operate (.cloneReference o) (fun _ => rfl) fun w' same => ?_
    rw [Operation.Enabled, ← same]
    exact mem_held_of_referenced found
  refine stays_bind_of_ok rfl ?_
  refine ((looks_segmentIdOf o).plays.bind fun id => ?_) _ kept
  refine (looks_identityOf o).plays.bind fun identity => ?_
  cases name with
  | some name => exact (plays_bindReference name _).bind fun _ => plays_pure _
  | none =>
      exact (plays_change (.dropReference _) trivial fun _ => rfl).bind fun _ => plays_pure _

/-- Frames that are taken are out, and the name that they get is the only one for them. -/
theorem plays_allocate (pool : String) (length : Nat) (name : Option String) :
    Plays w (perform (.allocate pool length name)) := by
  intro s follows
  refine (looks_named pools "mem" pool).stays_bind follows fun p _ => ?_
  obtain ⟨w', before, mirrors⟩ := follows
  have lent : Run anything w ((Operation.lend p length).run w') := before.tail trivial trivial
  cases result : Kernel.allocateFrames p length s.kernel with
  | ok span k =>
      have after : (Operation.lend p length).run w' =
          { w' with kernel := k, loans := (p, span) :: w'.loans } := by
        simp only [Operation.run, ← mirrors.kernel, result]
      rw [after] at lent
      refine stays_bind_of_ok (run_of_ok result) ?_
      cases name with
      | some name =>
          refine stays_of_ok rfl ⟨_, lent, rfl, ?_⟩
          exact Names.subperm_bind.trans ((List.subperm_cons _).mpr mirrors.ranges)
      | none =>
          refine stays_of_ok rfl ⟨_, lent, rfl, ?_⟩
          exact mirrors.ranges.trans (List.sublist_cons_self _ _).subperm
  | error cause k =>
      have after : (Operation.lend p length).run w' = { w' with kernel := k } := by
        simp only [Operation.run, ← mirrors.kernel, result]
      rw [after] at lent
      exact stays_bind_of_error (run_of_error result) (.inr ⟨_, lent, rfl, mirrors.ranges⟩)

/-- Frames are given back that are out, since they had a name. -/
theorem stays_release {pool range : String} (follows : Follows w s)
    (fits : Command.Fits s (.release pool range)) : Stays w (perform (.release pool range)) s := by
  obtain ⟨w', before, mirrors⟩ := follows
  refine (looks_named ranges "range" range).stays_bind ⟨w', before, mirrors⟩ fun taken found => ?_
  have bound : s.ranges.find? range = some taken := named_eq_ok found
  have rest := (Names.subperm_cons_erase bound).trans mirrors.ranges
  refine stays_bind_of_ok rfl ?_
  have still : (s.ranges.erase range).entries.map (·.2) |>.Subperm w'.loans :=
    (List.sublist_cons_self _ _).subperm.trans rest
  refine (looks_named pools "mem" pool).stays_bind ⟨w', before, mirrors.kernel, still⟩
    fun p found => ?_
  have pooled := named_eq_ok found
  have own : taken.1 = p := fits p pooled taken bound
  subst own
  have out : (Operation.giveBack taken.1 taken.2).Enabled w' := rest.subset (List.mem_cons_self ..)
  refine stays_bind_of_ok rfl ?_
  refine ((looks_object (·.pools) taken.1).bind fun _ => looks_pure _).plays _ ?_
  refine ⟨_, before.tail trivial out, congrArg (·.releaseFrames taken.1 taken.2) mirrors.kernel, ?_⟩
  have erased := rest.erase taken
  rw [List.erase_cons_head] at erased
  exact erased

/-- Every command does nothing to the kernel but operations. -/
theorem stays_perform {c : Command} (follows : Follows w s) (fits : c.Fits s) :
    Stays w (perform c) s := by
  -- What only looks things up may stand anywhere, also at the end.
  have shows {α : Type} {x : SessionM α} {f : α → Answer} (looks : Looks x) :
      Plays w (x >>= fun a => pure (f a)) := (looks.bind fun _ => looks_pure _).plays
  have answers {α : Type} {x : SessionM α} {f : α → Answer} (plays : Plays w x) :
      Plays w (x >>= fun a => pure (f a)) := plays.bind fun _ => plays_pure _
  cases c with
  | makeUserNamespace name parent owner uidMap gidMap =>
      refine ((looks_named userNamespaces "parent" parent).plays.bind fun parent => ?_) s follows
      refine (plays_produce (.makeUserNamespace parent owner uidMap gidMap) trivial
        fun _ => rfl).bind fun _ => ?_
      exact answers (plays_modify fun _ => ⟨rfl, rfl⟩)
  | makeCredentials name userNs owner groups capabilities =>
      refine ((looks_named userNamespaces "ns" userNs).plays.bind fun _ => ?_) s follows
      exact answers (plays_modify fun _ => ⟨rfl, rfl⟩)
  | mapIds userNs ids => exact shows (looks_named userNamespaces "ns" userNs) s follows
  | hasCapability cred capability userNs =>
      refine ((looks_named credentials "cred" cred).plays.bind fun _ => ?_) s follows
      exact shows (looks_named userNamespaces "ns" userNs)
  | inGroups cred groups => exact shows (looks_named credentials "cred" cred) s follows
  | makePool name base frames =>
      refine ((plays_produce (.makePool base frames) trivial fun _ => rfl).bind fun p => ?_)
        s follows
      exact (shows (looks_object (·.pools) p)).modify_bind fun _ => ⟨rfl, rfl⟩
  | allocate pool length name => exact plays_allocate pool length name s follows
  | release pool range => exact stays_release follows fits
  | usedBytes pool =>
      refine ((looks_named pools "mem" pool).plays.bind fun p => ?_) s follows
      exact shows (looks_object (·.pools) p)
  | makeRegistry name userNs pool limits =>
      refine ((looks_named userNamespaces "ns" userNs).plays.bind fun ns => ?_) s follows
      refine (looks_named pools "mem" pool).plays.bind fun p => ?_
      refine (plays_produce (.makeRegistry ns p limits .handle) trivial fun _ => rfl).bind
        fun r => ?_
      exact answers (plays_bindRegistry name r)
  | makeNamespace name userNs pool limits =>
      refine ((looks_named userNamespaces "ns" userNs).plays.bind fun ns => ?_) s follows
      refine (looks_named pools "mem" pool).plays.bind fun p => ?_
      refine (plays_produce (.makeRegistry ns p limits (.ipc true)) trivial fun _ => rfl).bind
        fun r => ?_
      exact answers (plays_bindNamespace name r)
  | findOrCreate registry asker asked name =>
      refine ((looks_requester asker).plays.bind fun q => ?_) s follows
      refine (looks_registryNamed registry).plays.bind fun r => ?_
      refine (plays_run (.findOrCreate r q asked) trivial fun _ => rfl).bind fun g => ?_
      refine (plays_forM (fun name => plays_bindSegment name g) name).bind fun _ => ?_
      exact shows (looks_object (·.segments) g)
  | find registry id name =>
      refine ((looks_registryNamed registry).plays.bind fun r => ?_) s follows
      refine (looks_object (·.registries) r).plays.bind fun registry => ?_
      cases registry.find? id with
      | some g =>
          refine (plays_forM (fun name => plays_bindSegment name g) name).bind fun _ => ?_
          exact shows (looks_object (·.segments) g)
      | none => exact plays_pure _
  | describeRegistry registry =>
      refine ((looks_registryNamed registry).plays.bind fun r => ?_) s follows
      exact shows (looks_object (·.registries) r)
  | releaseAll registry =>
      refine ((looks_registryNamed registry).plays.bind fun r => ?_) s follows
      exact answers (plays_change (.releaseAll r) trivial fun _ => rfl)
  | describeSegment segment =>
      refine ((looks_segmentNamed segment).plays.bind fun g => ?_) s follows
      exact shows (looks_object (·.segments) g)
  | attach segment asker address mode name =>
      refine ((looks_requester asker).plays.bind fun q => ?_) s follows
      refine (looks_segmentNamed segment).plays.bind fun g => ?_
      exact plays_keepOrDrop (.attach g q address mode) name trivial fun _ => rfl
  | status segment asker =>
      refine ((looks_requester asker).plays.bind fun q => ?_) s follows
      refine (looks_segmentNamed segment).plays.bind fun g => ?_
      exact shows (looks_segmentStatus g q)
  | setOwner segment asker uid gid mode =>
      refine ((looks_requester asker).plays.bind fun q => ?_) s follows
      refine (looks_segmentNamed segment).plays.bind fun g => ?_
      exact answers (plays_run (.setOwner g q uid gid mode) trivial fun _ => rfl)
  | ownedBy segment cred =>
      refine ((looks_named credentials "cred" cred).plays.bind fun _ => ?_) s follows
      refine (looks_segmentNamed segment).plays.bind fun g => ?_
      exact shows (looks_object (·.segments) g)
  | markDestroyed segment =>
      refine ((looks_segmentNamed segment).plays.bind fun g => ?_) s follows
      exact answers (plays_change (.markDestroyed g) trivial fun _ => rfl)
  | notify notice o asker span offset =>
      refine ((looks_requester asker).plays.bind fun q => ?_) s follows
      refine (looks_objectNamed o).plays.bind fun object => ?_
      exact answers (plays_notify notice object q offset fits)
  | locate o required optional access =>
      refine ((looks_objectNamed o).plays.bind fun object => ?_) s follows
      exact answers (plays_produce (.locate object required optional access) trivial fun _ => rfl)
  | makeWindow name base length split refuses copies =>
      refine ((plays_produce (.makeWindow ⟨name, base, length, split, refuses, copies, 0, []⟩) rfl
        fun _ => rfl).bind fun _ => ?_) s follows
      exact answers (plays_modify fun _ => ⟨rfl, rfl⟩)
  | describeWindow window =>
      refine ((looks_named windows "obj" window).plays.bind fun h => ?_) s follows
      refine (looks_object (·.windows) h).plays.bind fun _ => ?_
      exact answers (plays_change (.emptyJournal h) trivial fun _ => rfl)
  | windowRequest window name =>
      refine ((looks_named windows "obj" window).plays.bind fun h => ?_) s follows
      exact plays_keepOrDrop (.requestWindow h) (some name) trivial fun _ => rfl
  | editRequest request edit => exact plays_editRequest request edit s follows
  | describeRequest request =>
      refine ((looks_named requests "opts" request).plays.bind fun h => ?_) s follows
      refine (looks_object (·.requests) h).plays.bind fun m => ?_
      exact shows (looks_identityOf m.object)
  | cloneReference source name => exact plays_cloneReference source name s follows
  | sameObject first second =>
      refine ((looks_named references "a" first).plays.bind fun h => ?_) s follows
      refine (looks_object (·.references) h).plays.bind fun _ => ?_
      refine (looks_named references "b" second).plays.bind fun h' => ?_
      exact shows (looks_object (·.references) h')
  | makeSpace name range =>
      refine ((plays_produce (.makeSpace range) fits fun _ => rfl).bind fun a => ?_)
        s follows
      exact answers (plays_bindSpace name a)
  | mmap space asker request => exact answers (plays_useRequest space asker request) s follows
  | munmap space asker address length =>
      refine ((looks_requester asker).plays.bind fun q => ?_) s follows
      refine (looks_spaceNamed space).plays.bind fun ref => ?_
      exact answers (plays_run (.munmap ref q address length) trivial fun _ => rfl)
  | detach space asker address =>
      refine ((looks_requester asker).plays.bind fun q => ?_) s follows
      refine (looks_spaceNamed space).plays.bind fun ref => ?_
      exact answers (plays_run (.detach ref q address) trivial fun _ => rfl)
  | unmapAll space asker =>
      refine ((looks_requester asker).plays.bind fun q => ?_) s follows
      refine (looks_spaceNamed space).plays.bind fun ref => ?_
      exact answers (plays_change (.unmapAll ref q) trivial fun _ => rfl)
  | forkSpace space asker name =>
      refine ((looks_requester asker).plays.bind fun _ => ?_) s follows
      refine (looks_spaceNamed space).plays.bind fun ref => ?_
      refine (plays_run (.forkSpace ref) trivial fun _ => rfl).bind fun child => ?_
      refine (plays_bindSpace name child).bind fun _ => ?_
      exact shows (looks_object (·.spaces) child)
  | faultSpace space address access =>
      refine ((looks_spaceNamed space).plays.bind fun ref => ?_) s follows
      exact answers (plays_produce (.faultSpace ref address access) trivial fun _ => rfl)
  | overlaps space address length => exact shows (looks_spaceValue space) s follows
  | findArea space address => exact shows (looks_spaceValue space) s follows
  | resolve space address => exact shows (looks_spaceValue space) s follows
  | describeSpace space => exact shows (looks_spaceValue space) s follows
  | makeClock name start =>
      refine ((plays_produce (.makeClock (.stoppedAt (start.getD .zero))) trivial
        fun _ => rfl).bind fun _ => ?_) s follows
      exact answers (plays_modify fun _ => ⟨rfl, rfl⟩)
  | tick clock reset advance =>
      refine ((looks_named clocks "clock" clock).plays.bind fun h => ?_) s follows
      refine (looks_object (·.clocks) h).plays.bind fun c => ?_
      exact answers (plays_change (.setClock h _) trivial fun _ => rfl)
  | makeTask name pid cred ipc clock range =>
      refine ((looks_named credentials "cred" cred).plays.bind fun c => ?_) s follows
      refine (looks_named namespaces "ipc" ipc).plays.bind fun r => ?_
      refine (looks_named clocks "clock" clock).plays.bind fun h => ?_
      refine (plays_produce (.makeTask pid c r h range) fits fun _ => rfl).bind
        fun t => ?_
      exact answers (plays_bindTask name t)
  | describeTask task =>
      refine ((looks_taskNamed task).plays.bind fun t => ?_) s follows
      refine (looks_object (·.tasks) t).plays.bind fun task => ?_
      exact shows (looks_object (·.registries) task.ipc)
  | shmget task key size flags =>
      refine ((looks_taskNamed task).plays.bind fun t => ?_) s follows
      exact answers (plays_run (.shmget t key size flags) trivial fun _ => rfl)
  | shmat task id address flags =>
      refine ((looks_taskNamed task).plays.bind fun t => ?_) s follows
      exact answers (plays_run (.shmat t id address flags) trivial fun _ => rfl)
  | shmdt task address =>
      refine ((looks_taskNamed task).plays.bind fun t => ?_) s follows
      exact answers (plays_run (.shmdt t address) trivial fun _ => rfl)
  | shmctl task id code buffer =>
      refine ((looks_taskNamed task).plays.bind fun t => ?_) s follows
      exact answers (plays_run (.shmctl t id code buffer) trivial fun _ => rfl)
  | forkTask task name pid =>
      refine ((looks_taskNamed task).plays.bind fun t => ?_) s follows
      refine (plays_run (.forkTask t pid) trivial fun _ => rfl).bind fun child => ?_
      exact answers (plays_bindTask name child)
  | exit task =>
      refine ((looks_taskNamed task).plays.bind fun t => ?_) s follows
      exact answers (plays_change (.exitTask t) trivial fun _ => rfl)
  | fault task address access =>
      refine ((looks_taskNamed task).plays.bind fun t => ?_) s follows
      exact answers (plays_produce (.faultTask t address access) trivial fun _ => rfl)
  | raiseSignal task signal =>
      refine ((looks_taskNamed task).plays.bind fun t => ?_) s follows
      exact answers (plays_change (.raiseSignal t signal) trivial fun _ => rfl)
  | takeSignal task =>
      refine ((looks_taskNamed task).plays.bind fun t => ?_) s follows
      exact answers (plays_produce (.takeSignal t) trivial fun _ => rfl)
  | drop kind name => exact answers (plays_drop kind name) s follows

/-! ## Sessions -/

/-- A session that mirrors a world mirrors, after a command, what the world became by operations,
unless there was no answer and the kernel halted. -/
theorem mirrors_step {c : Command} (mirrors : s.Mirrors w) (fits : c.Fits s) :
    (∃ w', Run anything w w' ∧ (s.step c).session.Mirrors w') ∨
      (s.step c).session.kernel.halted = true ∧ ∃ cause, (s.step c).reply = .error cause := by
  have stays : Stays w (perform c) s := stays_perform ⟨w, .refl, mirrors⟩ fits
  cases result : perform c s with
  | ok answer s' =>
      rw [Stays, result] at stays
      rw [step, result]
      exact .inl stays
  | error cause s' =>
      rw [Stays, result] at stays
      rw [step, result]
      rcases stays with halted | follows
      · exact .inr ⟨halted, cause, rfl⟩
      · exact .inl follows

/-- The session after commands. -/
def play (s : Session) (cs : List Command) : Session :=
  cs.foldl (fun s c => (s.step c).session) s

/-- Every command is one that whoever gives it may give, and halts nothing. -/
def Accepts (s : Session) : List Command → Prop
  | [] => True
  | c :: cs => c.Fits s ∧ (s.step c).session.kernel.halted = false ∧ (s.step c).session.Accepts cs

instance Accepts.decide (s : Session) : (cs : List Command) → Decidable (s.Accepts cs)
  | [] => inferInstanceAs (Decidable True)
  | c :: cs =>
      have := Accepts.decide (s.step c).session cs
      inferInstanceAs (Decidable (_ ∧ _ ∧ _))

/-- A session that follows a world goes on following it. -/
theorem follows_play {cs : List Command} (follows : Follows w s) (accepts : s.Accepts cs) :
    Follows w (s.play cs) := by
  induction cs generalizing s with
  | nil => exact follows
  | cons c cs ih =>
      obtain ⟨fits, running, rest⟩ := accepts
      obtain ⟨w', before, mirrors⟩ := follows
      refine ih ?_ rest
      rcases mirrors_step mirrors fits with ⟨w'', after, mirrors⟩ | ⟨halted, _⟩
      · exact ⟨w'', before.trans after, mirrors⟩
      · rw [running] at halted
        cases halted

/-- A session that started with nothing has the kernel of a reachable world. -/
theorem mirrors_play {cs : List Command} (accepts : ({} : Session).Accepts cs) :
    ∃ w, Reachable anything w ∧ (({} : Session).play cs).Mirrors w :=
  follows_play ⟨{}, .refl, rfl, List.nil_subperm⟩ accepts

-- Frames are taken, kept under a name, and given back under it.
example : ({} : Session).Accepts
    [.makePool "memory" 0 4, .allocate "memory" 4096 (some "frames"),
      .release "memory" "frames"] := by
  decide +kernel

end Session

end SharedMemory
