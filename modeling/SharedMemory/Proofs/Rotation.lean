import SharedMemory.Proofs.Accounts
import SharedMemory.Proofs.RegistryChanges

/-!
# The rotation of identifiers

A registry hands out identifiers in rotation: it takes the first free one after the one that it
handed out last. So an identifier comes back only after a whole turn, in which every other one was
handed out or was seen to be in use.

The order of the rotation is `Registry.Precedes`. A search passes over identifiers that are in use
(`Registry.isSome_of_searchId`), an operation that makes a segment hands out the identifier that
the search ends at (`World.registry_of_issues`), and the two are put together by induction on the
operations between two creations.
-/

namespace SharedMemory

namespace Registry

variable {registry : Registry} {id last j maxId : Int}

/-- In rotation after `last`, the identifier `j` comes before `id`. -/
def Precedes (last j id : Int) : Prop :=
  (last < j ∧ j < id) ∨ (id ≤ last ∧ (last < j ∨ j < id))

/-- Every other identifier comes before the one handed out last comes again. -/
theorem precedes_self (other : j ≠ id) : Precedes id j id := by
  unfold Precedes
  omega

/-- What comes before an identifier comes before one on the way to it, or is that one, or comes
after it. -/
theorem Precedes.cases (precedes : Precedes last j id) (mid : Int) :
    Precedes last j mid ∨ j = mid ∨ Precedes mid j id := by
  unfold Precedes at *
  omega

private theorem not_precedes_succId (lower : 0 ≤ j) (upper : j ≤ maxId) :
    ¬ Precedes last j (succId maxId last) := by
  unfold Precedes succId
  split <;> omega

/-- A search passes over identifiers that are in use. -/
theorem isSome_of_searchId {steps : Nat} (lower : 0 ≤ j) (upper : j ≤ registry.limits.maxId)
    (found : registry.searchId steps last = some id) (precedes : Precedes last j id) :
    (registry.find? j).isSome := by
  induction steps generalizing last with
  | zero => cases found
  | succ steps ih =>
      simp only [searchId] at found
      split at found
      case isTrue =>
        cases found
        exact absurd precedes (not_precedes_succId lower upper)
      case isFalse taken =>
        split at found
        · cases found
        · rcases precedes.cases (succId registry.limits.maxId last) with before | rfl | after
          · exact absurd before (not_precedes_succId lower upper)
          · simpa [Option.isSome_iff_ne_none] using taken
          · exact ih found after

/-- How many identifiers the rotation comes to from `start` on, up to the one that was handed out
last. -/
def untilLast (registry : Registry) (start : Int) : Int :=
  registry.lastId - start + if start < registry.lastId then 0 else registry.limits.maxId + 1

/-- The identifier that comes next stays within the limit. -/
theorem succId_inside {start : Int} (inside : 0 ≤ start ∧ start ≤ maxId) :
    0 ≤ succId maxId start ∧ succId maxId start ≤ maxId := by
  unfold succId
  split <;> omega

/-- One identifier on, there is one less to come. -/
theorem untilLast_succId {start : Int} (inside : 0 ≤ start ∧ start ≤ registry.limits.maxId)
    (issued : 0 ≤ registry.lastId ∧ registry.lastId ≤ registry.limits.maxId)
    (onward : succId registry.limits.maxId start ≠ registry.lastId) :
    registry.untilLast (succId registry.limits.maxId start) = registry.untilLast start - 1 := by
  unfold untilLast
  unfold succId at onward ⊢
  split <;> split <;> split <;> omega

/-- A rotation comes to the last identifier in at least one step. -/
theorem untilLast_pos {start : Int} (inside : start ≤ registry.limits.maxId)
    (issued : 0 ≤ registry.lastId) : 0 < registry.untilLast start := by
  unfold untilLast
  split <;> omega

/-- From the last identifier on, a rotation comes to every one. -/
theorem untilLast_lastId (registry : Registry) :
    registry.untilLast registry.lastId = registry.limits.maxId + 1 := by
  rw [untilLast, if_neg (Int.lt_irrefl _)]
  omega

/-- A search that has steps enough to come round to the identifier that was handed out last, and
ends in vain, has seen that every identifier on the way is in use. -/
theorem isSome_of_searchId_eq_none {steps : Nat} {start : Int}
    (inside : 0 ≤ start ∧ start ≤ registry.limits.maxId)
    (issued : 0 ≤ registry.lastId ∧ registry.lastId ≤ registry.limits.maxId)
    (enough : registry.untilLast start ≤ steps) (lower : 0 ≤ j) (upper : j ≤ registry.limits.maxId)
    (ahead : Precedes start j registry.lastId ∨ j = registry.lastId)
    (vain : registry.searchId steps start = none) : (registry.find? j).isSome := by
  induction steps generalizing start with
  | zero =>
      have := untilLast_pos inside.2 issued.1
      omega
  | succ steps ih =>
      simp only [searchId] at vain
      split at vain
      case isTrue => cases vain
      case isFalse taken =>
        have used : (registry.find? (succId registry.limits.maxId start)).isSome := by
          simpa [Option.isSome_iff_ne_none] using taken
        split at vain
        case isTrue round =>
          rw [← round] at ahead
          rcases ahead with before | rfl
          · exact absurd before (not_precedes_succId lower upper)
          · exact used
        case isFalse onward =>
          have next := succId_inside inside
          have fewer : registry.untilLast (succId registry.limits.maxId start) ≤ steps := by
            rw [untilLast_succId inside issued onward]
            omega
          rcases ahead with before | last
          · rcases before.cases (succId registry.limits.maxId start) with early | rfl | after
            · exact absurd early (not_precedes_succId lower upper)
            · exact used
            · exact ih next fewer (.inl after) vain
          · exact ih next fewer (.inr last) vain

/-- Where an identifier is free, one is found. -/
theorem exists_nextFreeId? (numbered : 0 ≤ registry.limits.maxId)
    (issued : 0 ≤ registry.lastId ∧ registry.lastId ≤ registry.limits.maxId) (lower : 0 ≤ j)
    (upper : j ≤ registry.limits.maxId) (free : registry.find? j = none) :
    ∃ id, registry.nextFreeId? = some id := by
  apply Option.ne_none_iff_exists'.mp
  intro vain
  have ahead : Precedes registry.lastId j registry.lastId ∨ j = registry.lastId :=
    (em (j = registry.lastId)).symm.imp_left precedes_self
  have enough : registry.untilLast registry.lastId ≤ (registry.limits.maxId.toNat + 1 : Nat) := by
    rw [untilLast_lastId]
    omega
  have used := isSome_of_searchId_eq_none issued issued enough lower upper ahead vain
  rw [free] at used
  cases used

end Registry

namespace Kernel

open KernelM

variable {k k' : Kernel} {r : Handle .registry}

/-- A registry lists a segment under an identifier. -/
def Uses (k : Kernel) (r : Handle .registry) (id : Int) : Prop :=
  ∃ registry ∈ k.registries.get? r, (registry.find? id).isSome

instance (k : Kernel) (r : Handle .registry) (id : Int) : Decidable (k.Uses r id) :=
  inferInstanceAs (Decidable (∃ registry ∈ k.registries.get? r, _))

/-- What a request to a registry for a segment does: it leaves segments and registries, or makes
a segment. -/
inductive Serves (k : Kernel) (r : Handle .registry) (k' : Kernel) : Prop
  | nothing (segments : k'.segments = k.segments) (registries : k'.registries = k.registries)
  | made {log} (c : Creation { k with log }) (owned : c.owner = r)
      (segments : k'.segments = c.result.segments)
      (registries : k'.registries = c.result.registries)

private theorem Declined.serves (log : List Event) (declined : Declined { k with log } k') :
    Serves k r k' := by
  rcases declined with rfl | rfl | rfl <;> exact .nothing rfl rfl

private theorem Obtained.serves {q : Requester} {asked : SegmentRequest} {s : Handle .segment}
    (log : List Event) (obtained : Obtained { k with log } r q asked s k') : Serves k r k' := by
  cases obtained with
  | existing => exact .nothing rfl rfl
  | created c owned => exact .made c owned rfl rfl

private theorem findOrCreate_serves (r : Handle .registry) (q : Requester) (asked : SegmentRequest)
    : (findOrCreate r q asked).Ends k (fun _ => Serves k r) (fun _ => Serves k r) :=
  (findOrCreate_ends r q asked).mono (fun _ _ => Obtained.serves k.log) fun _ _ =>
    Declined.serves k.log

private theorem shmget_serves {t : Handle .task} {task : Task} (here : k.tasks.get? t = some task)
    (key : Int) (size : Nat) (flagWord : FlagWord) : (shmget t key size flagWord).Ends k
    (fun _ => Serves k task.ipc) (fun _ => Serves k task.ipc) := by
  unfold shmget
  refine ends_bind.mpr ((@noteGet_ends k 0 idle key size flagWord).mono ?_ fun _ _ => False.elim)
  rintro _ _ ⟨⟨log, rfl⟩, _⟩
  refine ends_caller_bind (.nothing rfl rfl) fun task' q there asking => ?_
  cases here.symm.trans there
  refine ends_bind.mpr ((findOrCreate_ends task.ipc q _).mono (fun s k' obtained => ?_)
    fun _ k' declined => declined.serves log)
  have served := obtained.serves log
  refine .get_bind (.orStuck_bind ?_ fun g found => ends_pure.mpr served)
  cases served with
  | nothing segments registries => exact .nothing segments registries
  | made c owned segments registries => exact .made c owned segments registries

end Kernel

/-- The operation makes a segment, and a registry hands out an identifier for it. -/
def Operation.Issues (w : World) (r : Handle .registry) (id : Int) (o : Operation) : Prop :=
  ∃ g ∈ (o.run w).kernel.segments.get? w.kernel.segments.fresh, g.registry = r ∧ g.id = id

instance (w : World) (r : Handle .registry) (id : Int) (o : Operation) :
    Decidable (o.Issues w r id) :=
  inferInstanceAs (Decidable (∃ g ∈ (o.run w).kernel.segments.get? _, _))

namespace World

open Kernel

variable {w v : World} {o : Operation} {r : Handle .registry} {registry : Registry} {id : Int}

/-- Whatever has the deed of making serves a request. -/
theorem Does.serves (does : o.Does w (.make r)) : Serves w.kernel r (o.run w).kernel := by
  cases does with
  | findOrCreate => exact (findOrCreate_serves r _ _).after
  | shmget found => exact (shmget_serves found _ _ _).after
  | shmctl _ controls => cases controls

/-- Where an operation makes a segment in a registry, the registry was there, and it handed out the
identifier that its search ended at. -/
theorem registry_of_issues (laid : w.kernel.Laid) (enabled : o.Enabled w)
    (issues : o.Issues w r id) :
    ∃ registry s pages, w.kernel.registries.get? r = some registry ∧
      registry.nextFreeId? = some id ∧
      (o.run w).kernel.registries.get? r = some (registry.register id s pages) := by
  obtain ⟨g, found, own, rfl⟩ := issues
  have fresh := Slots.get?_fresh w.kernel.segments
  by_cases makes : o.Does w (.make r)
  · cases Does.serves makes with
    | nothing segments =>
        rw [Option.mem_def, segments, fresh] at found
        cases found
    | made c owned segments registries =>
        subst owned
        rw [Option.mem_def, segments] at found
        rcases c.segment_cases found with ⟨_, rfl⟩ | old
        · have placed : c.result.registries.get? c.owner = some
              (c.registry.register c.id w.kernel.segments.fresh (c.length / pageSize)) :=
            Slots.get?_set_self c.registered _
          exact ⟨c.registry, _, _, c.registered, c.free, registries ▸ placed⟩
        · cases fresh.symm.trans old
  · obtain ⟨old, present⟩ := (step_run laid enabled).segment_origin makes found own
    cases fresh.symm.trans present

/-- An operation that makes no segment in a registry hands out no identifier of it. -/
theorem lastId_of_not_issues (laid : w.kernel.Laid) (enabled : o.Enabled w)
    (rests : ∀ id, ¬ o.Issues w r id) (here : w.kernel.registries.get? r = some registry)
    {registry' : Registry} (there : (o.run w).kernel.registries.get? r = some registry') :
    registry'.limits = registry.limits ∧ registry'.lastId = registry.lastId := by
  by_cases makes : o.Does w (.make r)
  · cases Does.serves makes with
    | nothing _ registries =>
        rw [registries, here] at there
        cases there
        exact ⟨rfl, rfl⟩
    | made c owned segments =>
        refine absurd ⟨c.segment, ?_, owned, rfl⟩ (rests c.id)
        rw [Option.mem_def, segments]
        exact Slots.get?_insert_fresh _ _
  · have kept := (step_run laid enabled).registryView
      (fun registry => (registry.limits, registry.lastId)) (r := r) ?_ here registry' there
    · exact Prod.mk.inj kept
    · intro registry registry' alters
      cases alters with
      | same => rfl
      | unregister => rfl
      | register _ _ _ permitted => exact absurd permitted makes
      | unhold => rfl

/-! ## Between two creations -/

/-- An operation is done in a world in the course of operations that start from a world. -/
inductive Occurs : World → List Operation → World → Operation → Prop
  | first {w o rest} : Occurs w (o :: rest) w o
  | later {w o rest v o'} (occurs : Occurs (o.run w) rest v o') : Occurs w (o :: rest) v o'

/-- In the course of operations and a last one an identifier is handed out before the last one, or
is in use when a segment is made. -/
def Visits (w : World) (operations : List Operation) (last : Operation) (r : Handle .registry)
    (j : Int) : Prop :=
  (∃ v o, Occurs w operations v o ∧ o.Issues v r j) ∨
    ∃ v o id, Occurs w (operations ++ [last]) v o ∧ o.Issues v r id ∧ v.kernel.Uses r j

private theorem Visits.later {operations : List Operation} {last : Operation} {j : Int}
    (visits : Visits (o.run w) operations last r j) : Visits w (o :: operations) last r j := by
  rcases visits with ⟨v, o', occurs, issues⟩ | ⟨v, o', id, occurs, issues, used⟩
  · exact .inl ⟨v, o', .later occurs, issues⟩
  · exact .inr ⟨v, o', id, .later occurs, issues, used⟩

/-- Until an identifier is handed out, those that precede it in rotation are visited. -/
theorem visits_of_precedes {operations : List Operation} {last : Operation} {i j : Int}
    (reachable : w.Reachable anything) (here : w.kernel.registries.get? r = some registry)
    (admitted : w.Admits (operations ++ [last])) (issues : last.Issues (w.follow operations) r i)
    (lower : 0 ≤ j) (upper : j ≤ registry.limits.maxId)
    (precedes : Registry.Precedes registry.lastId j i) : Visits w operations last r j := by
  -- A creation moves the place that the rotation is at, and all else leaves it.
  induction operations generalizing w registry with
  | nil =>
      obtain ⟨_, _, _, there, free, _⟩ :=
        registry_of_issues (reachable.laid suits_anything) admitted.1 issues
      cases here.symm.trans there
      have used := Registry.isSome_of_searchId lower upper free precedes
      exact .inr ⟨w, last, i, .first, issues, registry, here, used⟩
  | cons o rest ih =>
      obtain ⟨enabled, admitted⟩ := admitted
      have laid := reachable.laid suits_anything
      have next : (o.run w).Reachable anything := reachable.tail trivial enabled
      by_cases makes : ∃ id, o.Issues w r id
      · obtain ⟨id, made⟩ := makes
        obtain ⟨_, s, pages, there, free, after⟩ := registry_of_issues laid enabled made
        cases here.symm.trans there
        rcases precedes.cases id with passed | rfl | ahead
        · have used := Registry.isSome_of_searchId lower upper free passed
          exact .inr ⟨w, o, id, .first, made, registry, here, used⟩
        · exact .inl ⟨w, o, .first, made⟩
        · exact (ih next after admitted issues upper ahead).later
      · rw [not_exists] at makes
        -- The registry is there when the last operation makes a segment in it.
        obtain ⟨admits, admitsLast⟩ := admits_append.mp admitted
        have run : Run anything (o.run w) ((o.run w).follow rest) :=
          Run.refl.follow admits fun _ _ => trivial
        have reached : ((o.run w).follow rest).Reachable anything := next.trans run
        obtain ⟨_, _, _, there, _⟩ :=
          registry_of_issues (reached.laid suits_anything) admitsLast.1 issues
        obtain ⟨registry', after⟩ := run.registry_before suits_anything (next.laid suits_anything)
          ((step_run laid enabled).issued (Slots.issued_of_get? here)) there
        obtain ⟨limits, lastId⟩ := lastId_of_not_issues laid enabled makes here after
        exact (ih next after admitted issues (limits ▸ upper) (lastId ▸ precedes)).later

/-- A request to a registry gives a segment that was there and changes nothing, or hands out the
identifier of the segment that it gives. If it is refused no identifier is handed out. -/
theorem findOrCreate_issues (r : Handle .registry) (q : Requester) (asked : SegmentRequest) :
    (findOrCreate r q asked).Ends w.kernel
      (fun s k => k = w.kernel ∨
        ∃ g ∈ k.segments.get? s, (Operation.findOrCreate r q asked).Issues w r g.id)
      (fun _ k => k.registries = w.kernel.registries) := by
  refine (findOrCreate_ends r q asked).recall.mono ?_ ?_
  · rintro s k ⟨carriedOut, obtained⟩
    cases obtained with
    | existing => exact .inl rfl
    | created c owned =>
        have placed : c.result.segments.get? w.kernel.segments.fresh = some c.segment :=
          Slots.get?_insert_fresh _ _
        have left := KernelM.after_of_ok carriedOut
        refine .inr ⟨c.segment, placed, c.segment, ?_, owned, rfl⟩
        simp only [Operation.run, Operation.apply, left]
        exact placed
  · rintro _ k (rfl | rfl | rfl) <;> rfl

/-- Identifiers come back as late as possible. Take a registry in any reachable world, an operation
that makes a segment in it, any operations after that, and one that makes a segment in it under the
same identifier. Then every other identifier was handed out in between, or was in use when one of
the later segments was made; so if it was free all the while, it was handed out. An operation that
makes no segment in the registry leaves the place that the rotation is at, and a request that is
refused makes none. -/
theorem identifiers_rotate (reachable : w.Reachable anything)
    (here : w.kernel.registries.get? r = some registry) :
    (∀ first between last i, w.Admits (first :: (between ++ [last])) → first.Issues w r i →
      last.Issues ((first.run w).follow between) r i →
        ∀ j, 0 ≤ j → j ≤ registry.limits.maxId → j ≠ i →
          (first.run w).Visits between last r j ∧
          ((∀ v o, Occurs (first.run w) (between ++ [last]) v o → ¬ v.kernel.Uses r j) →
            ∃ v o, Occurs (first.run w) between v o ∧ o.Issues v r j)) ∧
    (∀ o : Operation, o.Enabled w → (∀ id, ¬ o.Issues w r id) → ∀ registry',
      (o.run w).kernel.registries.get? r = some registry' → registry'.lastId = registry.lastId) ∧
    ∀ q asked, (findOrCreate r q asked).Ends w.kernel
      (fun s k => k = w.kernel ∨
        ∃ g ∈ k.segments.get? s, (Operation.findOrCreate r q asked).Issues w r g.id)
      (fun _ k => k.registries = w.kernel.registries) := by
  have laid := reachable.laid suits_anything
  refine ⟨fun first between last i admitted issues again j lower upper other => ?_,
    fun o enabled rests registry' there => (lastId_of_not_issues laid enabled rests here there).2,
    fun q asked => findOrCreate_issues r q asked⟩
  obtain ⟨_, s, pages, there, _, after⟩ := registry_of_issues laid admitted.1 issues
  cases here.symm.trans there
  have next : (first.run w).Reachable anything := reachable.tail trivial admitted.1
  have visits : (first.run w).Visits between last r j :=
    visits_of_precedes next after admitted.2 again lower upper (Registry.precedes_self other)
  refine ⟨visits, fun free => ?_⟩
  rcases visits with issued | ⟨v, o, id, occurs, _, used⟩
  · exact issued
  · exact absurd used (free v o occurs)

/-- A registry with three identifiers makes two segments and removes the first of them. -/
def revolving : List Operation :=
  let root : Requester := ⟨.superuser .initial, none, none⟩
  [.makePool 0 16, .makeRegistry .initial ⟨0⟩ { maxId := 2 } .handle,
    .findOrCreate ⟨0⟩ root ⟨privateKey, 1, 0o600, true, true, false⟩,
    .findOrCreate ⟨0⟩ root ⟨privateKey, 1, 0o600, true, true, false⟩, .markDestroyed ⟨0⟩]

/-- Between two creations under zero the registry hands out one and sees that two is in use. The
request without a size is refused. -/
theorem identifiers_rotate_revolving :
    let w := ({} : World).follow revolving
    let root : Requester := ⟨.superuser .initial, none, none⟩
    let make : Operation := .findOrCreate ⟨0⟩ root ⟨privateKey, 1, 0o600, true, true, false⟩
    let refused : Operation := .findOrCreate ⟨0⟩ root ⟨privateKey, 0, 0o600, true, true, false⟩
    let between := [.markDestroyed ⟨2⟩, refused, make, .markDestroyed ⟨3⟩]
    w.Reachable anything ∧ make.Issues w ⟨0⟩ 0 ∧
      make.Issues ((make.run w).follow between) ⟨0⟩ 0 ∧
      (make.run w).Visits between make ⟨0⟩ 1 ∧ (make.run w).Visits between make ⟨0⟩ 2 := by
  intro w root make refused between
  have reachable : w.Reachable anything :=
    reachable_follow (by decide +kernel) fun _ _ => trivial
  have present : ∃ registry ∈ w.kernel.registries.get? ⟨0⟩, registry.limits.maxId = 2 := by
    decide +kernel
  obtain ⟨registry, here, largest⟩ := present
  have first : make.Issues w ⟨0⟩ 0 := by decide +kernel
  have again : make.Issues ((make.run w).follow between) ⟨0⟩ 0 := by decide +kernel
  have visited := (identifiers_rotate reachable here).1 make between make 0 (by decide +kernel)
    first again
  rw [largest] at visited
  exact ⟨reachable, first, again, (visited 1 (by decide) (by decide) (by decide)).1,
    (visited 2 (by decide) (by decide) (by decide)).1⟩

end World

end SharedMemory
