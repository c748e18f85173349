import SharedMemory.Proofs.Changes

/-!
# Operations on objects as changes

The operations on segments, registries and windows, taken apart into changes of the
objects. Each states which references exist when it ends.
-/

namespace SharedMemory

namespace Kernel

open KernelM

variable {k : Kernel} {refs : Multiset Object} {may : Deed → Prop}

/-! ## Small steps -/

/-- A requirement may fail for want of a number or an object. -/
theorem changes_require (condition : Prop) [Decidable condition] {cause : Fault}
    (mild : cause = .arithmetic ∨ cause = .dangling) :
    Changes may k refs (k.require condition cause) refs := by
  unfold require
  split
  · exact .refl
  · exact .single (.halt cause mild)

/-- To tell an object that an area is gone changes no count. -/
theorem changes_notifyRemoved (q : Requester) (object : Object) (span : Span) (offset : Nat) :
    Changes may k refs (k.notifyRemoved q object span offset) refs := by
  cases object with
  | segment s =>
      simp only [notifyRemoved]
      split
      case h_1 g found =>
        have noted : Changes may k refs (k.setSegment s (g.noteDetach q)) refs :=
          .single (.segment found rfl)
        split
        · exact noted.tail (.emit _ rfl)
        · exact noted
      case h_2 => exact .single (.halt .dangling (.inr rfl))
  | window w =>
      simp only [notifyRemoved]
      split
      case h_1 window found => exact .single (.window found rfl)
      case h_2 => exact .single (.halt .dangling (.inr rfl))

/-- Every reference that is given up was one of those in hand. -/
theorem changes_releaseEach (objects : List Object) :
    Changes may k (Multiset.ofList objects + refs) (k.releaseEach objects) refs := by
  induction objects generalizing k with
  | nil => simpa [releaseEach] using Chain.refl
  | cons object rest ih =>
      have first : Changes may k (Multiset.ofList (object :: rest) + refs) (k.release object)
          (Multiset.ofList rest + refs) := by
        rw [← Multiset.cons_coe, Multiset.cons_add]
        exact .single (.release object)
      exact first.trans ih

/-- To look for the frames behind a range changes no count. -/
theorem changes_locate (object : Object) (required optional : Span) (access : Access) :
    Changes may k refs (k.locate object required optional access).2 refs := by
  cases object with
  | segment s =>
      simp only [locate]
      split
      · exact .refl
      · exact .single (.halt .dangling (.inr rfl))
  | window w =>
      simp only [locate]
      split
      case h_1 window found => exact .single (.window found rfl)
      case h_2 => exact .single (.halt .dangling (.inr rfl))

/-- To empty the journal of a window changes no count. -/
theorem changes_emptyJournal (w : Handle .window) :
    Changes may k refs (k.emptyJournal w) refs := by
  unfold emptyJournal
  split
  case h_1 window found => exact .single (.window found rfl)
  case h_2 => exact .single (.halt .dangling (.inr rfl))

/-- To tell an object of an area changes no count, whether or not it accepts. -/
theorem notifyAdded_ends (q : Requester) (object : Object) (span : Span) (offset : Nat) :
    (notifyAdded q object span offset).Ends k (fun _ k' => Changes may k refs k' refs)
      (fun _ k' => Changes may k refs k' refs) := by
  cases object with
  | segment s =>
      simp only [notifyAdded, ends_bind, ends_get, ends_orStuck, ends_set, ends_ite, ends_modify,
        ends_pure]
      refine ⟨fun g found => ?_, fun _ => .single (.halt .dangling (.inr rfl))⟩
      have noted : Changes may k refs (k.setSegment s (g.noteAttach q)) refs :=
        .single (.segment found rfl)
      exact ⟨fun _ => noted.tail (.emit _ rfl), fun _ => noted⟩
  | window w =>
      simp only [notifyAdded, ends_bind, ends_get, ends_orStuck, ends_set, ends_check]
      refine ⟨fun window found => ?_, fun _ => .single (.halt .dangling (.inr rfl))⟩
      have told : Changes may k refs (k.setWindow w (window.record (.added span offset))) refs :=
        .single (.window found rfl)
      exact ⟨fun _ => told, fun _ => told⟩

/-- To tell an object of a copy changes no count, whether or not it accepts. -/
theorem notifyCopied_ends (object : Object) (span : Span) (offset : Nat) :
    (notifyCopied object span offset).Ends k (fun _ k' => Changes may k refs k' refs)
      (fun _ k' => Changes may k refs k' refs) := by
  cases object with
  | segment s =>
      simp only [notifyCopied, ends_bind, ends_get, ends_pure]
      exact .refl
  | window w =>
      simp only [notifyCopied, ends_bind, ends_get, ends_orStuck]
      refine ⟨fun window found => ?_, fun _ => .single (.halt .dangling (.inr rfl))⟩
      rcases window.copies with _ | _ | left
      · simp only [ends_set]
        exact .single (.window found rfl)
      · simp only [ends_bind, ends_set, ends_throw]
        exact .single (.window found rfl)
      · simp only [ends_set]
        exact .single (.window found rfl)

/-! ## Requests on an object -/

/-- Attaching a segment that is to be had gives a request for all of it, with a reference. -/
theorem attach_ends (s : Handle .segment) (q : Requester) (address : Nat) (mode : AttachMode) :
    (attach s q address mode).Ends k
      (fun m k' => Changes may k refs k' (m.object ::ₘ refs) ∧ ∃ g, k.segments.get? s = some g ∧
        g.permits q.credentials mode.access = true ∧
        m = ⟨.segment s, g.size, 0, address, mode.fixed, mode.access, .all⟩)
      (fun cause k' => Changes may k refs k' refs ∧ (cause = .eidrm → ∃ g,
        k.segments.get? s = some g ∧ g.lifetime = .pending ∧ g.attachCount = 0)) := by
  have stuck : Changes may k refs (k.halt .dangling) refs := .single (.halt .dangling (.inr rfl))
  unfold attach
  refine .get_bind (.orStuck_bind ⟨stuck, by simp⟩ fun g found => ?_)
  refine ends_bind.mpr (ends_check.mpr ⟨fun usable => ?_, fun gone => ?removed⟩)
  case removed => exact ⟨.refl, fun _ => ⟨g, found, not_not.mp gone⟩⟩
  refine .check_bind ⟨.refl, by simp⟩ fun permitted => .set_bind (ends_pure.mpr ?_)
  refine ⟨?_, g, found, permitted, rfl⟩
  have noted : (k.setSegment s (g.noteAttach q)).segments.get? s = some (g.noteAttach q) :=
    Slots.get?_set_self found _
  have counted : (k.setSegment s (g.noteAttach q)).acquire (.segment s) =
      k.setSegment s { g.noteAttach q with attachCount := g.attachCount + 1 } := by
    simp only [acquire, noted]
    simp only [setSegment, Segment.noteAttach, Slots.set_set found]
  have note : Changes may k refs (k.setSegment s (g.noteAttach q)) refs := .single (.segment found rfl)
  rw [← counted]
  exact note.tail (.acquire (.segment s) (.inr ⟨_, noted, usable⟩))

/-- A request for a window comes with a reference to it. -/
theorem windowRequest_ends (w : Handle .window) :
    (windowRequest w).Ends k (fun m k' => Changes may k refs k' (m.object ::ₘ refs))
      (fun _ k' => Changes may k refs k' refs) := by
  simp only [windowRequest, ends_bind, ends_get, ends_orStuck, ends_modify, ends_pure]
  exact ⟨fun window found => .single (.acquire (.window w) (.inr ⟨window, found⟩)),
    fun _ => .single (.halt .dangling (.inr rfl))⟩

/-- The status of a segment is read without a change. -/
theorem segmentStatus_ends (s : Handle .segment) (q : Requester) :
    (segmentStatus s q).Ends k
      (fun status k' => k' = k ∧ ∃ g, k.segments.get? s = some g ∧
        g.status q.credentials = .ok status)
      (fun _ k' => Changes may k refs k' refs) := by
  have stuck : Changes may k refs (k.halt .dangling) refs := .single (.halt .dangling (.inr rfl))
  unfold segmentStatus
  refine .get_bind (.orStuck_bind stuck fun g found => ?_)
  refine ends_ofExcept.mpr ⟨fun status reported => ?_, fun cause refused => .refl⟩
  exact ⟨rfl, g, found, reported⟩

/-- Only an owner is granted a new owner, and the segment keeps all else. -/
theorem setOwner_eq_ok {g g' : Segment} {q : Requester} {uid gid : UInt32} {mode : Nat}
    (granted : g.setOwner q uid gid mode = .ok g') :
    g.ownedBy q.credentials = true ∧ g'.core = g.core := by
  unfold Segment.setOwner at granted
  split at granted
  case isTrue owned =>
    split at granted
    · cases granted
      exact ⟨owned, rfl⟩
    · cases granted
  case isFalse => cases granted

/-- An owner is given by assignment, and only by one who owns the segment. -/
theorem setSegmentOwner_ends (s : Handle .segment) (q : Requester) (uid gid : UInt32)
    (mode : Nat) :
    (setSegmentOwner s q uid gid mode).Ends k
      (fun _ k' => Changes (· = .assign s) k refs k' refs ∧
        ∃ g, k.segments.get? s = some g ∧ g.ownedBy q.credentials = true)
      (fun _ k' => Changes may k refs k' refs) := by
  have stuck : Changes may k refs (k.halt .dangling) refs := .single (.halt .dangling (.inr rfl))
  unfold setSegmentOwner
  refine .get_bind (.orStuck_bind stuck fun g found => ?_)
  refine .ofExcept_bind (fun _ _ => .refl) fun g' granted => ends_modify.mpr ?_
  exact ⟨.single (.assign found granted rfl), g, found, (setOwner_eq_ok granted).1⟩

/-! ## Finding and making segments -/

/-- What is found by a key has the key, which is not the private one. -/
theorem keyOf?_of_findByKey? {registry : Registry} {key : Int} {s : Handle .segment}
    (found : k.findByKey? registry key = some s) :
    k.keyOf? s = some key ∧ key ≠ privateKey := by
  unfold findByKey? at found
  split at found
  case isTrue => cases found
  case isFalse shared =>
    obtain ⟨entry, first, rfl⟩ := Option.map_eq_some_iff.mp found
    exact ⟨by simpa using List.find?_some first, shared⟩

/-- A segment that is found by its key is listed. -/
theorem exists_mem_of_findByKey? {registry : Registry} {key : Int} {s : Handle .segment}
    (keyed : k.findByKey? registry key = some s) : ∃ id, (id, s) ∈ registry.table := by
  unfold findByKey? at keyed
  split at keyed
  · cases keyed
  · obtain ⟨entry, found, rfl⟩ := Option.map_eq_some_iff.mp keyed
    exact ⟨entry.1, List.mem_of_find?_eq_some found⟩

/-- The segment that the key names is given out, or one is made. Before that the request may only
be refused, or find its registry missing. -/
theorem ends_findOrCreate {r : Handle .registry} {q : Requester} {asked : SegmentRequest}
    {good : Handle .segment → Kernel → Prop} {bad : Errno → Kernel → Prop}
    (missing : k.registries.get? r = none → bad .efault (k.halt .dangling))
    (refused : ∀ cause, bad cause k)
    (existing : ∀ registry s g, k.registries.get? r = some registry → asked.isPrivate = false →
      k.findByKey? registry asked.key = some s → k.segments.get? s = some g →
      mayOpen g q asked = .ok () → good s k)
    (made : ∀ registry, k.registries.get? r = some registry →
      registry.limits.minSize ≤ asked.size ∧ asked.size ≤ registry.limits.maxSize →
      registry.table.length < registry.limits.maxSegments →
      asked.isPrivate = true ∨ asked.create = true ∧ k.findByKey? registry asked.key = none →
      (createSegment r registry q asked).Ends k good bad) :
    (findOrCreate r q asked).Ends k good bad := by
  unfold findOrCreate
  refine .get_bind (ends_bind.mpr (ends_orStuck.mpr ⟨fun registry registered => ?_, missing⟩))
  refine .check_bind (refused .einval) fun bounded => .check_bind (refused .enospc) fun room => ?_
  have sized (asks : asked.create ∨ asked.isPrivate) :
      registry.limits.minSize ≤ asked.size ∧ asked.size ≤ registry.limits.maxSize := by
    have inside := not_or.mp fun outside => bounded ⟨asks, outside⟩
    exact inside.imp Nat.le_of_not_lt Nat.le_of_not_lt
  refine ends_ite.mpr ⟨fun isPrivate => ?_, fun shared => ?_⟩
  · exact made registry registered (sized (.inr isPrivate)) room (.inl isPrivate)
  · cases keyed : k.findByKey? registry asked.key with
    | some s =>
        obtain ⟨g, found, _⟩ := Option.map_eq_some_iff.mp (keyOf?_of_findByKey? keyed).1
        refine .found_bind found (.ofExcept_bind (fun cause _ => refused cause) fun _ allowed => ?_)
        have given := existing registry s g registered (Bool.eq_false_iff.mpr shared) keyed found
        exact ends_pure.mpr (given allowed)
    | none =>
        refine .check_bind (refused .enoent) fun create => ?_
        exact made registry registered (sized (.inl create)) room (.inr ⟨create, keyed⟩)

/-- How a segment that was asked for is obtained, and the kernel then. -/
inductive Obtained (k : Kernel) (r : Handle .registry) (q : Requester) (asked : SegmentRequest) :
    Handle .segment → Kernel → Prop
  | existing {registry s g} (registered : k.registries.get? r = some registry)
      (shared : asked.isPrivate = false) (keyed : k.findByKey? registry asked.key = some s)
      (found : k.segments.get? s = some g) (allowed : mayOpen g q asked = .ok ()) :
      Obtained k r q asked s k
  | created (c : Creation k) (owned : c.owner = r) (requested : c.requester = q)
      (same : c.asked = asked) :
      Obtained k r q asked k.segments.fresh
        (c.result.emit (.segmentCreated c.id asked.key asked.size (c.length / pageSize)))

/-- The kernel after a refusal to find or make a segment: a note in the log at most. -/
def Declined (k k' : Kernel) : Prop :=
  k' = k ∨ k' = k.emit .idsExhausted ∨ k' = k.halt .dangling

/-- Frames are taken from a pool that is there, or nothing happens but that the kernel halts. -/
theorem allocateFrames_ends (p : Handle .pool) (length : Nat) :
    (allocateFrames p length).Ends k
      (fun span k' => ∃ pool taken, k.pools.get? p = some pool ∧
        pool.allocate length = .ok (span, taken) ∧
          k' = (k.setPool p taken).emit (.framesTaken span))
      (fun _ k' => k' = k ∨ k' = k.halt .dangling) := by
  unfold allocateFrames
  refine .get_bind (.orStuck_bind (.inr rfl) fun pool pooled => ?_)
  refine .ofExcept_bind (fun _ _ => .inl rfl) fun taken allocated => .set_bind ?_
  exact ends_pure.mpr ⟨pool, taken.2, pooled, allocated, rfl⟩

/-- To make a pool is a change that needs no deed. -/
theorem changes_makePool (base frames : Nat) : Changes may k refs (k.makePool base frames).2 refs := by
  by_cases proper : PageAligned base ∧ base + frames * pageSize < wordSize
  · have same : k.require (PageAligned base ∧ base + frames * pageSize < wordSize) .arithmetic = k :=
      if_pos proper
    simp only [makePool, same]
    exact .single (.makePool base frames)
  · have halted : k.require (PageAligned base ∧ base + frames * pageSize < wordSize) .arithmetic =
        k.halt .arithmetic := if_neg proper
    simp only [makePool, halted]
    exact .tail (.single (.halt .arithmetic (.inl rfl))) (.makePool base frames)

/-- A segment is made if all that it takes is found, and nothing is taken otherwise. -/
theorem createSegment_ends {r : Handle .registry} {registry : Registry} (q : Requester)
    (asked : SegmentRequest) (registered : k.registries.get? r = some registry)
    (sized : registry.limits.minSize ≤ asked.size ∧ asked.size ≤ registry.limits.maxSize)
    (room : registry.table.length < registry.limits.maxSegments)
    (unclaimed : asked.isPrivate = true ∨ k.findByKey? registry asked.key = none) :
    (createSegment r registry q asked).Ends k (Obtained k r q asked)
      (fun _ k' => Declined k k') := by
  unfold createSegment
  refine .orRefuse_bind (.inl rfl) fun length rounded => ?_
  refine .check_bind (.inl rfl) fun affordable => ?_
  cases free : registry.nextFreeId? with
  | none =>
      simp only [ends_bind, ends_modify, ends_throw]
      exact .inr (.inl rfl)
  | some id =>
      simp only [ends_bind]
      refine (allocateFrames_ends registry.pool length).mono ?_ fun _ _ refused =>
        refused.imp_right .inr
      rintro backing _ ⟨pool, remaining, pooled, allocated, rfl⟩
      simp only [ends_get, ends_modify, ends_pure]
      exact .created ⟨r, registry, q, asked, length, id, pool, backing, remaining, registered, sized,
        room, unclaimed, rounded, affordable, free, pooled, allocated⟩ rfl rfl rfl

/-- The segment that is asked for is found or made, or the request is declined. -/
theorem findOrCreate_ends (r : Handle .registry) (q : Requester) (asked : SegmentRequest) :
    (findOrCreate r q asked).Ends k (Obtained k r q asked) (fun _ k' => Declined k k') := by
  apply ends_findOrCreate
  case missing => exact fun _ => .inr (.inr rfl)
  case refused => exact fun _ => .inl rfl
  case existing =>
    intro registry s g registered shared keyed found allowed
    exact .existing registered shared keyed found allowed
  case made =>
    intro registry registered sized room wanted
    exact createSegment_ends q asked registered sized room (wanted.imp_right And.right)

/-- To obtain a segment takes no other deed than to make one. -/
theorem Obtained.changes {r : Handle .registry} {q : Requester} {asked : SegmentRequest}
    {s : Handle .segment} {k' : Kernel} (obtained : Obtained k r q asked s k')
    (permitted : may (.make r)) : Changes may k refs k' refs := by
  cases obtained with
  | existing => exact .refl
  | created c owned => exact .tail (.single (.create c (owned ▸ permitted))) (.emit _ rfl)

/-- To be declined takes no deed. -/
theorem Declined.changes {k' : Kernel} (declined : Declined k k') : Changes may k refs k' refs := by
  rcases declined with rfl | rfl | rfl
  · exact .refl
  · exact .single (.emit _ rfl)
  · exact .single (.halt .dangling (.inr rfl))

/-! ## The end of registries -/

private theorem changes_markEach (handles : List (Handle .segment))
    (permitted : ∀ s ∈ handles, may (.remove s)) :
    Changes may k refs (handles.foldl markDestroyed k) refs := by
  induction handles generalizing k with
  | nil => exact .refl
  | cons s rest ih =>
      have first : Changes may k refs (k.markDestroyed s) refs :=
        .single (.markDestroyed s (permitted s (List.mem_cons_self ..)))
      exact first.trans (ih fun s' member => permitted s' (List.mem_cons_of_mem _ member))

/-- A segment that a registry lists. -/
def Lists (k : Kernel) (r : Handle .registry) (s : Handle .segment) : Prop :=
  ∃ registry, k.registries.get? r = some registry ∧ ∃ id, (id, s) ∈ registry.table

/-- To mark all that a registry lists takes the removal of each of these. -/
theorem changes_releaseAll (r : Handle .registry)
    (permitted : ∀ s, k.Lists r s → may (.remove s)) :
    Changes may k refs (k.releaseAll r) refs := by
  unfold releaseAll
  split
  case h_1 registry found =>
    refine changes_markEach _ fun s member => permitted s ?_
    obtain ⟨entry, inside, rfl⟩ := List.mem_map.mp member
    exact ⟨registry, found, entry.1, inside⟩
  case h_2 => exact .single (.halt .dangling (.inr rfl))

/-- A registry without a namespace goes and leaves its segments. -/
theorem changes_dropRegistry (r : Handle .registry) (permitted : may (.forsake r)) :
    Changes may k refs (k.dropRegistry r) refs := by
  unfold dropRegistry
  split
  · split
    · exact .single (.eraseRegistry r permitted)
    · exact .refl
  · exact .refl

/-- A namespace that nobody keeps marks its segments and goes. -/
theorem changes_collectNamespace (r : Handle .registry)
    (forsaken : may (.forsake r)) (permitted : (k.collectNamespace r).registries.get? r = none →
      ∀ s, k.Lists r s → may (.remove s)) :
    Changes may k refs (k.collectNamespace r) refs := by
  unfold collectNamespace at permitted ⊢
  split
  case h_1 registry found =>
    simp only [found] at permitted
    split
    case isTrue unkept =>
      rw [if_pos unkept] at permitted
      have gone : ((k.releaseAll r).eraseRegistry r).registries.get? r = none :=
        Slots.get?_erase_self _ _
      exact (changes_releaseAll r (permitted gone)).tail (.eraseRegistry r forsaken)
    case isFalse => exact .refl
  case h_2 => exact .refl

/-- A namespace loses its handle, and goes if no task keeps it. -/
theorem changes_dropNamespace (r : Handle .registry)
    (forsaken : may (.forsake r)) (permitted : (k.dropNamespace r).registries.get? r = none →
      ∀ s, k.Lists r s → may (.remove s)) :
    Changes may k refs (k.dropNamespace r) refs := by
  unfold dropNamespace at permitted ⊢
  split
  case h_1 registry found =>
    simp only [found] at permitted
    split
    case isTrue held =>
      rw [if_pos held] at permitted
      have unheld : Changes may k refs (k.setRegistry r { registry with holder := .ipc false }) refs :=
        .single (.unhold found forsaken)
      refine unheld.trans
        (changes_collectNamespace r forsaken fun gone s listed => permitted gone s ?_)
      obtain ⟨registry', here, id, member⟩ := listed
      cases (Slots.get?_set_self found _).symm.trans here
      exact ⟨registry, found, id, member⟩
    case isFalse => exact .refl
  case h_2 => exact .refl

end Kernel

end SharedMemory
