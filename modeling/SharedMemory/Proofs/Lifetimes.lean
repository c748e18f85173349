import SharedMemory.Proofs.Registration

/-!
# The life of a segment

A segment is active until it is removed. Once it was removed it has lost its key, and it is
destroyed as soon as nothing refers to it; a destroyed segment is never to be had again, even
if its identifier is handed out to another. Whoever attaches a segment by its identifier finds
one that is not destroyed, so the call never says that the segment was removed.
-/

namespace SharedMemory

/-- A segment is destroyed exactly if it is doomed, and once it was removed it has no key. -/
structure Segment.Proper (g : Segment) : Prop where
  destroyed : g.destroyed = true ↔ g.Doomed
  hidden : g.lifetime = .pending → g.key = privateKey

namespace Segment

variable {g g' : Segment}

private theorem Proper.of_core (proper : g.Proper) (same : g'.core = g.core) : g'.Proper := by
  have destroyed : g'.destroyed = g.destroyed := congrArg (·.destroyed) same
  have lifetime : g'.lifetime = g.lifetime := congrArg (·.lifetime) same
  have count : g'.attachCount = g.attachCount := congrArg (·.attachCount) same
  have key : g'.key = g.key := congrArg (·.key) same
  constructor
  · rw [destroyed, Doomed, lifetime, count]
    exact proper.destroyed
  · rw [lifetime, key]
    exact proper.hidden

/-- To remove a segment that was removed changes nothing. -/
theorem Proper.removed_eq (proper : g.Proper) (pending : g.lifetime = .pending) :
    g.removed = g := by
  rw [removed, ← proper.hidden pending, ← pending]

/-- A segment that changes stays without a key once it was removed, and a destroyed segment
stays doomed: it has no reference to lose, and gains none. -/
theorem Shift.proper (shift : g.Shift g') (proper : g.Proper) :
    (g'.destroyed = true → g'.Doomed) ∧ (g'.lifetime = .pending → g'.key = privateKey) := by
  have doomed (gone : g'.destroyed = true) : g.Doomed :=
    proper.destroyed.mp (shift.destroyed ▸ gone)
  cases shift with
  | acquire usable => exact ⟨fun gone => absurd (doomed gone) usable, proper.hidden⟩
  | release counted =>
      refine ⟨fun gone => ?_, proper.hidden⟩
      have none := (doomed gone).2
      omega
  | remove => exact ⟨fun gone => ⟨rfl, (doomed gone).2⟩, fun _ => rfl⟩

end Segment

namespace Kernel

open KernelM

/-- Every segment is destroyed exactly if it is doomed, and has no key once it was removed. -/
def Proper (k : Kernel) : Prop := ∀ s g, k.segments.get? s = some g → g.Proper

variable {k k' : Kernel} {s : Handle .segment} {g g' : Segment}

private theorem Proper.set (proper : k.Proper) (found : k.segments.get? s = some g)
    (new : g'.Proper) (placed : k'.segments = k.segments.set s g') : k'.Proper := by
  intro s' g'' found'
  rw [placed] at found'
  by_cases same : s = s'
  · subst same
    rw [Slots.get?_set_self found] at found'
    cases found'
    exact new
  · rw [Slots.get?_set_of_ne same] at found'
    exact proper s' g'' found'

private theorem Proper.settle (proper : k.Proper) (found : k.segments.get? s = some g)
    (shift : g.Shift g') : (k.settle s g').Proper := by
  obtain ⟨doomed, hidden⟩ := shift.proper (proper s g found)
  rcases settle_cases found g' with ⟨same, spared⟩ | ⟨same, _, final⟩ <;> rw [same]
  · refine proper.set found ⟨⟨doomed, fun final => ?_⟩, hidden⟩ rfl
    exact (Bool.eq_false_or_eq_true _).resolve_right fun alive => spared alive final
  · have retired : ({ g' with destroyed := true } : Segment).Proper := ⟨iff_of_true rfl final, hidden⟩
    exact proper.set found retired segments_retire

/-- Whether every segment is proper depends on the segments alone. -/
theorem Proper.of_eq (proper : k.Proper) (segments : k'.segments = k.segments) : k'.Proper :=
  fun s g found => proper s g (segments ▸ found)

/-- One development leaves every segment proper. -/
theorem Development.proper (development : k.Development k') (proper : k.Proper) : k'.Proper := by
  cases development with
  | keep keeps =>
      intro s g' found
      obtain ⟨g, present, same⟩ := keeps.segment found
      exact (proper s g present).of_core same
  | shift found shift => exact proper.settle found shift
  | create c =>
      intro s g found
      rcases c.segment_cases found with ⟨_, rfl⟩ | present
      · exact ⟨iff_of_false nofun fun doomed => (nomatch doomed.1), nofun⟩
      · exact proper s g present
  | makePool => exact proper.of_eq rfl
  | makeRegistry => exact proper.of_eq rfl
  | eraseRegistry => exact proper.of_eq rfl

/-! ## A destroyed segment is not to be had -/

/-- A segment that no registry lists, that no lookup and no request for a segment gives, and
that nobody can attach: the attempt is refused and changes nothing. -/
structure Unobtainable (k : Kernel) (s : Handle .segment) : Prop where
  unlisted : ∀ {r registry}, k.registries.get? r = some registry → ∀ id, (id, s) ∉ registry.table
  unfound : ∀ {r registry}, k.registries.get? r = some registry → ∀ id, registry.find? id ≠ some s
  withheld : ∀ r q asked k', findOrCreate r q asked k ≠ .ok s k'
  unattachable : ∀ q address mode, attach s q address mode k = .error .eidrm k

private theorem attach_of_doomed (found : k.segments.get? s = some g) (doomed : g.Doomed)
    (q : Requester)
    (address : Nat) (mode : AttachMode) : attach s q address mode k = .error .eidrm k := by
  apply KernelM.Ends.eq_error
  simp only [attach, ends_bind, ends_get, ends_orStuck, ends_check]
  refine ⟨fun g' found' => ?_, fun missing => ?_⟩
  · cases found.symm.trans found'
    exact ⟨fun usable => absurd doomed usable, fun _ => ⟨trivial, trivial⟩⟩
  · cases found.symm.trans missing

private theorem Registered.unobtainable (registered : k.Registered)
    (found : k.segments.get? s = some g)
    (destroyed : g.destroyed = true) (doomed : g.Doomed) : k.Unobtainable s := by
  have gone : k.listing? s = none := by
    rw [listing?, found, Option.bind_some, Segment.listing?, if_pos destroyed]
  have unlisted : ∀ {r registry}, k.registries.get? r = some registry →
      ∀ id, (id, s) ∉ registry.table := by
    intro r registry here id member
    rw [registered.listed here, gone] at member
    cases member
  refine ⟨unlisted, fun here id lookup => ?_, fun r q asked k' given => ?_, fun q address mode => ?_⟩
  · rw [Registry.find?_eq_some_iff (registered.ascending here)] at lookup
    exact unlisted here id lookup
  · cases (findOrCreate_ends r q asked).ok given with
    | existing here _ keyed =>
        obtain ⟨id, member⟩ := exists_mem_of_findByKey? keyed
        exact unlisted here id member
    | created => simp at found
  · exact attach_of_doomed found doomed q address mode

/-! ## Removing twice -/

/-- To mark a segment again changes nothing. -/
theorem markDestroyed_of_pending (proper : k.Proper) (found : k.segments.get? s = some g)
    (pending : g.lifetime = .pending) : k.markDestroyed s = k := by
  have proper := proper s g found
  rw [markDestroyed_eq_settle found, proper.removed_eq pending]
  rcases settle_cases found g with ⟨placed, _⟩ | ⟨_, alive, doomed⟩
  · rw [placed, setSegment, Slots.set_self found]
  · rw [← proper.destroyed, alive] at doomed
    cases doomed

/-- A segment that is marked is pending. -/
theorem pending_markDestroyed (found : k.segments.get? s = some g) :
    ∃ g', (k.markDestroyed s).segments.get? s = some g' ∧ g'.lifetime = .pending := by
  rw [markDestroyed_eq_settle found]
  rcases settle_cases found g.removed with ⟨same, _⟩ | ⟨same, _⟩ <;> rw [same]
  · exact ⟨_, Slots.get?_set_self found _, rfl⟩
  · rw [segments_retire]
    exact ⟨_, Slots.get?_set_self found _, rfl⟩

/-! ## Attaching by an identifier -/

private theorem placeRequest_refusals (ref : SpaceRef) (q : Requester) (m : MapRequest)
    (length : Nat) :
    (placeRequest ref q m length).Ends k (fun _ _ => True) (fun cause _ => cause ≠ .eidrm) := by
  simp only [placeRequest, placeFixed, placeAnywhere, ends_ite, ends_bind, ends_get, ends_orStuck,
    ends_check, ends_orRefuse, ends_modify, ends_pure]
  simp

private theorem notifyAdded_refusals (q : Requester) (object : Object) (span : Span)
    (offset : Nat) :
    (notifyAdded q object span offset).Ends k (fun _ _ => True) (fun cause _ => cause ≠ .eidrm) := by
  cases object <;> simp [notifyAdded]

private theorem attach_refusals (found : k.segments.get? s = some g) (kept : ¬ g.Doomed)
    (q : Requester) (address : Nat) (mode : AttachMode) :
    (attach s q address mode).Ends k (fun _ _ => True) (fun cause _ => cause ≠ .eidrm) := by
  refine (@attach_ends k 0 idle s q address mode).mono (fun _ _ _ => trivial) ?_
  rintro cause k' ⟨_, because⟩ gone
  obtain ⟨g', present, doomed⟩ := because gone
  cases found.symm.trans present
  exact kept doomed

/-- Mapping an object is never refused on the ground that the object was removed. -/
theorem mmap_refusals (ref : SpaceRef) (q : Requester) (m : MapRequest) :
    (mmap ref q m).Ends k (fun _ _ => True) (fun cause _ => cause ≠ .eidrm) := by
  have installed : (install ref q m).Ends k (fun _ _ => True) (fun cause _ => cause ≠ .eidrm) := by
    unfold install
    refine .check_bind (by simp) fun nonzero => .check_bind (by simp) fun allowed => ?_
    refine .orRefuse_bind (by simp) fun length rounded => ?_
    refine (placeRequest_refusals ref q m length).bind fun start k₁ placed => .modify_bind ?_
    refine (notifyAdded_refusals q m.object _ m.offset).bind fun _ k₂ told => .get_bind ?_
    refine .orStuck_bind (by simp) fun identity named => ?_
    exact .orStuck_bind (by simp) fun a here => .set_bind (ends_pure.mpr trivial)
  cases result : install ref q m k with
  | ok start k' =>
      have same : mmap ref q m k = .ok start (k'.release m.object) := by simp only [mmap, result]
      exact (ends_iff_of_ok same).mpr trivial
  | error cause k' =>
      have same : mmap ref q m k = .error cause (k'.release m.object) := by
        simp only [mmap, result]
      exact (ends_iff_of_error same).mpr (installed.error result)

/-- An address that cannot be attached at is refused in one way only. -/
theorem attachAddress_refusals {address : Nat} {flags : AttachFlags} {cause : Errno}
    (refused : attachAddress address flags = .error cause) : cause = .einval := by
  unfold attachAddress at refused
  split at refused
  · cases refused
    rfl
  · split at refused
    · cases refused
      rfl
    · cases refused

/-- Whoever attaches a segment by its identifier is never told that the segment was removed: a
segment that is found is not destroyed, so it is not doomed. -/
theorem shmat_refusals (registered : k.Registered) (proper : k.Proper) (t : Handle .task) (id : Int)
    (address : Nat) (flagWord : FlagWord) :
    (shmat t id address flagWord).Ends k (fun _ _ => True) (fun cause _ => cause ≠ .eidrm) := by
  unfold shmat
  refine .modify_bind (.ofExcept_bind (fun cause refused => ?misplaced) fun start granted => ?_)
  case misplaced => simp [attachAddress_refusals refused]
  refine ends_caller_bind (by simp) fun task q calling asking => ?_
  refine ends_findSegment_bind (by simp) (by simp) fun registry s here lookup => ?_
  refine .get_bind (.orStuck_bind (by simp) fun g found => .check_bind (by simp) fun free => ?_)
  have kept : ¬ g.Doomed := by
    obtain ⟨g', present, _, _, alive⟩ := registered.segment_of_mem here
      ((Registry.find?_eq_some_iff (registered.ascending here)).mp lookup)
    cases present.symm.trans found
    rw [← (proper s g present).destroyed, alive]
    exact Bool.false_ne_true
  refine (attach_refusals found kept q start _).bind fun m k₁ attached => ?_
  refine (mmap_refusals (.ofTask t) q m).bind fun mapped k₂ installed => ?_
  exact .modify_bind (ends_pure.mpr trivial)

end Kernel

namespace World

open Kernel

variable {w w' : World} {may : Deed → Prop} {allowed : Operation → Prop} {s : Handle .segment}
  {g : Segment} {registry : Registry}

private theorem Development.proper (development : Development w w') (proper : w.kernel.Proper) :
    w'.kernel.Proper := by
  cases development with
  | objects development => exact development.proper proper
  | lend => exact proper.of_eq rfl
  | giveBack => exact proper.of_eq (objects_releaseFrames _ _).1

/-- In every world that is reached every segment is proper. -/
theorem Reachable.proper (suits : Suits allowed may) (reachable : Reachable allowed w) :
    w.kernel.Proper :=
  reachable.development suits (·.kernel.Proper) Development.proper
    fun s g found => by simp [Slots.get?] at found

/-- A step lets the segments evolve. -/
theorem Step.evolves (step : Step may w w') : w.kernel.Evolves w'.kernel := by
  cases step with
  | course passage => exact Chain.evolves passage
  | lend => exact (segmentsEvolve_of_eq rfl).evolves
  | giveBack => exact (segmentsEvolve_of_eq (objects_releaseFrames _ _).1).evolves

/-- Along a run no segment is lost and none goes back in its life. -/
theorem Run.evolves (suits : Suits allowed may) (run : Run allowed w w') (laid : w.kernel.Laid) :
    w.kernel.Evolves w'.kernel :=
  Run.preserves suits (fun w' => w.kernel.Evolves w'.kernel)
    (fun step before => before.trans step.evolves) run laid (Evolves.refl _)

/-- A segment is found under its identifier as long as it is not destroyed. -/
theorem Reachable.find?_iff (suits : Suits allowed may) (reachable : Reachable allowed w)
    (found : w.kernel.segments.get? s = some g)
    (here : w.kernel.registries.get? g.registry = some registry) :
    registry.find? g.id = some s ↔ g.destroyed = false := by
  have registered := reachable.registered suits
  rw [Registry.find?_eq_some_iff (registered.ascending here), registered.listed here, listing?,
    found, Option.bind_some, Segment.listing?]
  cases g.destroyed <;> simp

/-- A destroyed segment is not to be had at any later time. -/
theorem Reachable.unobtainable (suits : Suits allowed may) (reachable : Reachable allowed w)
    (found : w.kernel.segments.get? s = some g) (destroyed : g.destroyed = true) :
    w.kernel.Unobtainable s :=
  (reachable.registered suits).unobtainable found destroyed
    ((reachable.proper suits s g found).destroyed.mp destroyed)

/-- The life of a segment. In every reachable world a segment is destroyed exactly if it was
removed and nothing refers to it; once it was removed it has no key; and its registry, as long
as it exists, finds it under its identifier exactly until it is destroyed. To remove it twice
is to remove it once. Along every run from there it keeps its identifier, it stays removed once
it was and stays destroyed once it is, and from then on it is not to be had. Attaching by an
identifier never says that a segment was removed. -/
theorem segment_lifetime (reachable : w.Reachable anything) :
    (∀ s g, w.kernel.segments.get? s = some g →
      (g.destroyed = true ↔ g.lifetime = .pending ∧ g.attachCount = 0) ∧
      (g.lifetime = .pending → g.key = privateKey) ∧
      (∀ registry, w.kernel.registries.get? g.registry = some registry →
        (registry.find? g.id = some s ↔ g.destroyed = false)) ∧
      (∃ g', (w.kernel.markDestroyed s).segments.get? s = some g' ∧ g'.lifetime = .pending) ∧
      (g.lifetime = .pending → w.kernel.markDestroyed s = w.kernel) ∧
      ∀ w', Run anything w w' → ∃ g', w'.kernel.segments.get? s = some g' ∧ g'.id = g.id ∧
        (g.lifetime = .pending → g'.lifetime = .pending) ∧
        (g.destroyed = true → g'.destroyed = true ∧ w'.kernel.Unobtainable s)) ∧
    ∀ t id address flagWord k', shmat t id address flagWord w.kernel ≠ .error .eidrm k' := by
  have proper := reachable.proper suits_anything
  have registered := reachable.registered suits_anything
  refine ⟨fun s g found => ⟨(proper s g found).destroyed, (proper s g found).hidden,
    fun registry here => reachable.find?_iff suits_anything found here, pending_markDestroyed found,
    markDestroyed_of_pending proper found, fun w' run => ?_⟩, fun t id address flagWord k' refused =>
      (shmat_refusals registered proper t id address flagWord).error refused rfl⟩
  obtain ⟨g', found', evolves⟩ := run.evolves suits_anything (reachable.laid suits_anything) found
  have later : w'.Reachable anything := Run.trans reachable run
  exact ⟨g', found', evolves.id, evolves.pending, fun gone => ⟨evolves.destroyed gone,
    later.unobtainable suits_anything found' (evolves.destroyed gone)⟩⟩

/-- A registry with a single identifier makes a segment, which is removed, and then another. -/
def reissuing : List Operation :=
  let asked : SegmentRequest := ⟨privateKey, 1, 0o600, true, true, false⟩
  let root : Requester := ⟨.superuser .initial, none, none⟩
  [.makePool 0 16, .makeRegistry .initial ⟨0⟩ { maxId := 0 } .handle,
    .findOrCreate ⟨0⟩ root asked, .markDestroyed ⟨0⟩, .findOrCreate ⟨0⟩ root asked]

/-- The first segment is not to be had once its identifier belongs to the second. -/
theorem segment_lifetime_reissuing :
    let w := ({} : World).follow reissuing
    w.Reachable anything ∧
      (w.kernel.registries.get? ⟨0⟩).bind (·.find? 0) = some ⟨1⟩ ∧
      ∃ g, w.kernel.segments.get? ⟨0⟩ = some g ∧ g.id = 0 ∧ g.destroyed = true ∧
        w.kernel.markDestroyed ⟨0⟩ = w.kernel ∧ w.kernel.Unobtainable ⟨0⟩ := by
  intro w
  have reachable : w.Reachable anything :=
    reachable_follow (by decide +kernel) fun _ _ => trivial
  have present : (w.kernel.segments.get? ⟨0⟩).isSome := by decide +kernel
  have state : ∀ g ∈ w.kernel.segments.get? ⟨0⟩,
      g.id = 0 ∧ g.destroyed = true ∧ g.lifetime = .pending := by decide +kernel
  obtain ⟨g, found⟩ := Option.isSome_iff_exists.mp present
  obtain ⟨id, destroyed, pending⟩ := state g found
  obtain ⟨_, _, _, _, again, runs⟩ := (segment_lifetime reachable).1 _ g found
  obtain ⟨_, _, _, _, gone⟩ := runs w .refl
  exact ⟨reachable, by decide +kernel, g, found, id, destroyed, again pending, (gone destroyed).2⟩

end World

end SharedMemory
