import SharedMemory.Proofs.Charters
import SharedMemory.Proofs.Lineage

/-!
# Access by permission

Permissions are checked when a segment is attached, and never again. Still a task reaches a segment
only as its permissions allow: an area has the rights with which it was attached, on every piece of
it and in every child (`Turn.within`), and as long as nobody gives the segment a new owner the
check comes out the same (`Step.licenses`).
-/

namespace SharedMemory

private theorem Access.not_write_of_allows {a asked : Access} (allowed : a.allows asked = true)
    (readOnly : a.write = false) : asked.write = false := by
  simp only [allows, readOnly, Bool.false_or, Bool.and_eq_true, Bool.not_eq_true'] at allowed
  exact allowed.1.2

namespace Kernel

variable {k k' : Kernel} {refs refs' : Multiset Object} {may : Deed → Prop} {s : Handle .segment}
  {grants grants' : Credentials → Access → Prop} {t : Handle .task} {task : Task} {address : Nat}
  {access : Access}

/-- Whoever maps a segment has been granted the rights with which it is mapped. -/
def Within (s : Handle .segment) (grants : Credentials → Access → Prop) (k : Kernel) : Prop :=
  ∀ ref a, k.space? ref = some a → ∀ c, k.bearer? ref = some c →
    ∀ v ∈ a.areas, v.object = .segment s → grants c v.perms

private theorem Within.mono (within : k.Within s grants)
    (weaker : ∀ c access, grants c access → grants' c access) : k.Within s grants' := by
  intro ref a found c bearer v member concerns
  exact weaker c v.perms (within ref a found c bearer v member concerns)

private theorem Within.congr (within : k.Within s grants) (same : k'.holderPart = k.holderPart) :
    k'.Within s grants := by
  intro ref a found c bearer
  rw [space?_congr same] at found
  rw [bearer?_congr same] at bearer
  exact within ref a found c bearer

/-- A turn that maps a segment only as is granted leaves every area granted. -/
theorem Turn.within (turn : Turn may k refs k' refs') (laid : k.Laid)
    (granted : ∀ {ref c v}, may (.map ref (some c) v) → v.object = .segment s → grants c v.perms)
    (within : k.Within s grants) : k'.Within s grants := by
  intro ref a found' c bearer v member concerns
  cases turn.stems laid found' member with
  | kept found before part same =>
      rw [part.perms]
      exact within _ _ found c (same.symm.trans bearer) _ before (part.object.symm.trans concerns)
  | copied _ found before inherited =>
      rcases inherited with lacking | same
      · cases lacking.symm.trans bearer
      · exact within _ _ found c (same.symm.trans bearer) v before concerns
  | mapped permitted _ same =>
      rw [same.symm.trans bearer] at permitted
      exact granted permitted concerns

/-- The segment's permissions let credentials access it so, or they may pass the check. -/
def Licenses (k : Kernel) (s : Handle .segment) (c : Credentials) (access : Access) : Prop :=
  ∃ g, k.segments.get? s = some g ∧ g.permits c access = true

/-- An access that a page fault lets go on is allowed by the area that it falls in. -/
theorem allows_of_faultTask (here : k.tasks.get? t = some task)
    (resolved : (k.faultTask t address access).1 = true) :
    ∃ v, task.space.areaAt? address = some v ∧ v.perms.allows access = true := by
  have space : (k.emit (.faulted address access)).space? (.ofTask t) = some task.space :=
    space?_ofTask here
  cases faulting : task.space.faultingArea? address access with
  | none =>
      simp [faultTask, here, faultSpace, space, faulting] at resolved
  | some v => exact ⟨v, Option.filter_eq_some_iff.mp faulting⟩

end Kernel

namespace Operation

/-- The operation uses no kept request, and gives a segment no new owner and permissions. -/
def LeavesTerms (s : Handle .segment) (w : World) (o : Operation) : Prop :=
  World.withoutKept o ∧ ¬ o.Assigns w s

/-- Whether an operation is none of those that may give a segment a new owner. -/
def neverAssigns : Operation → Bool
  | setOwner .. => false
  | shmctl .. => false
  | _ => true

private theorem leavesTerms {s : Handle .segment} (w : World) (o : Operation)
    (plain : World.withoutKept o ∧ o.neverAssigns = true) : LeavesTerms s w o := by
  refine ⟨plain.1, ?_⟩
  cases o with
  | setOwner => cases plain.2
  | shmctl => cases plain.2
  | _ => exact id

end Operation

namespace World

open Kernel

variable {may : Deed → Prop} {w w' : World} {o : Operation} {s : Handle .segment} {c : Credentials}
  {access : Access} {t : Handle .task} {task : Task} {v : Area}

/-- As long as a segment is given no new owner, it licenses what it did. -/
theorem Step.licenses (step : Step may w w') (laid : w.kernel.Laid)
    (unassigned : ¬ may (.assign s)) (licensed : w.kernel.Licenses s c access) :
    w'.kernel.Licenses s c access := by
  obtain ⟨g, found, permits⟩ := licensed
  obtain ⟨g', found', same⟩ := step.terms laid unassigned found
  exact ⟨g', found', (Segment.permits_of_terms same c access).trans permits⟩

/-- Whatever has the deed of assignment assigns. -/
theorem assigns_of_does (does : o.Does w (.assign s)) : o.Assigns w s := by
  cases does with
  | setOwner assigns => exact assigns
  | shmctl carriedOut controls =>
      cases controls with
      | assign command named => exact ⟨command, ⟨_, _, named⟩, _, _, carriedOut⟩

/-- What an operation maps, the segment licenses. -/
theorem licenses_of_does (plain : withoutKept o) {ref : SpaceRef} {bearer : Option Credentials}
    (does : o.Does w (.map ref bearer v)) (given : bearer = some c)
    (concerns : v.object = .segment s) : w.kernel.Licenses s c v.perms := by
  cases does with
  | mmap => cases plain
  | shmat _ attached =>
      obtain ⟨task, s', g, named, object, permits⟩ := attached.permitted
      cases object.symm.trans concerns
      cases (bearer?_ofTask named.caller).symm.trans given
      exact ⟨g, named.present, permits⟩
  | shmctl _ controls => cases controls

/-- As long as a segment is given no new owner, every task has it mapped as it licenses. -/
theorem Path.within (path : Path (Operation.LeavesTerms s) {} w) :
    w.kernel.Within s (w.kernel.Licenses s) := by
  induction path with
  | refl =>
      intro ref a found
      rw [space?_start] at found
      cases found
  | @tail w o before leaves enabled ih =>
      have reached : w.Reachable withoutKept := before.run fun _ _ leaves => leaves.1
      have laid := reached.laid suits_withoutKept
      have step := step_run laid enabled
      have mapped : (o.run w).kernel.Within s (w.kernel.Licenses s) :=
        step.kernel (Within s (w.kernel.Licenses s))
          (fun turn laid within => turn.within laid
            (fun does concerns => licenses_of_does leaves.1 does rfl concerns) within)
          (fun same _ within => within.congr same) laid ih
      refine mapped.mono ?_
      intro c access licensed
      exact step.licenses laid (fun does => leaves.2 (assigns_of_does does)) licensed

/-- Memory is reached with permission only. -/
structure Guarded (w : World) (s : Handle .segment) : Prop where
  /-- Whoever has the segment mapped has permission to access it so. -/
  areas : ∀ t task v, w.kernel.tasks.get? t = some task → v ∈ task.space.areas →
    v.object = .segment s → w.kernel.Licenses s task.credentials v.perms
  /-- An access to the segment goes on only if the rights that it gives to the task allow it, or
  the task has the capability to pass them in the namespace of the segment's registry. -/
  faults : ∀ t task v address access, w.kernel.tasks.get? t = some task →
    task.space.areaAt? address = some v → v.object = .segment s →
    (w.kernel.faultTask t address access).1 = true →
    ∃ g, w.kernel.segments.get? s = some g ∧
      (∀ registry, w.kernel.registries.get? g.registry = some registry →
        g.userNs = registry.userNs) ∧
      ((g.rightsOf task.credentials).allows access = true ∨
        task.credentials.hasCapabilityIn .ipcOwner g.userNs = true)
  /-- What stems from a read-only attachment gives no writable page, to the task that attached it
  and to its descendants. -/
  readOnly : ∀ t v, FromReadOnly w t v → ∃ task, w.kernel.tasks.get? t = some task ∧
    v ∈ task.space.areas ∧ v.perms.write = false ∧
    (∀ entry ∈ task.space.pages, v.span.Contains entry.1 → entry.2.perms.write = false) ∧
    ∀ address access, v.span.Contains address →
      (w.kernel.faultTask t address access).1 = true → access.write = false

/-- No page of what stems from a read-only attachment is writable. -/
theorem FromReadOnly.page_not_writable {entry : Nat × Page} (stems : FromReadOnly w t v)
    (here : w.kernel.tasks.get? t = some task) (member : entry ∈ task.space.pages)
    (inside : v.span.Contains entry.1) : entry.2.perms.write = false := by
  obtain ⟨reached, task', here', mapped, readOnly⟩ := stems.not_writable
  cases here.symm.trans here'
  have space := space?_ofTask here
  obtain ⟨u, mapped', inside', rights⟩ :=
    (reached.covered suits_withoutKept _ _ space).mapped entry member
  have placed := ((reached.laid suits_withoutKept).spaces space).toOrdered
  rw [rights, placed.area_unique entry.1 mapped' inside' mapped inside]
  exact readOnly

/-- No write to what stems from a read-only attachment goes on. -/
theorem FromReadOnly.write_faults {address : Nat} (stems : FromReadOnly w t v)
    (inside : v.span.Contains address) (resolved : (w.kernel.faultTask t address access).1 = true) :
    access.write = false := by
  obtain ⟨reached, task, here, mapped, readOnly⟩ := stems.not_writable
  obtain ⟨u, found, allowed⟩ := allows_of_faultTask here resolved
  obtain ⟨mapped', inside'⟩ := AddressSpace.areaAt?_eq_some found
  have placed := ((reached.laid suits_withoutKept).spaces (space?_ofTask here)).toOrdered
  rw [placed.area_unique address mapped' inside' mapped inside] at allowed
  exact Access.not_write_of_allows allowed readOnly

/-- Memory is reached with permission only. Take any run of system calls, unmappings, forks, exits
and page faults, by any tasks and in any order, in which address spaces are filled by attaching
segments and by forks only, and a segment that is given no new owner and permissions during it.
Then the tasks that have it mapped have permission to access it so; an access to it goes on only if
its permissions allow it or the task may pass them; and a read-only attachment never leads to a
writable page, however it is split and whoever inherits it. -/
theorem guarded (path : Path (Operation.LeavesTerms s) {} w) : w.Guarded s where
  areas := by
    intro t task v here member concerns
    exact path.within _ _ (space?_ofTask here) _ (bearer?_ofTask here) v member concerns
  faults := by
    intro t task v address access here found concerns resolved
    have reached : w.Reachable withoutKept := path.run fun _ _ leaves => leaves.1
    obtain ⟨u, found', allowed⟩ := allows_of_faultTask here resolved
    cases found.symm.trans found'
    have member := (AddressSpace.areaAt?_eq_some found).1
    obtain ⟨g, present, permits⟩ :=
      path.within _ _ (space?_ofTask here) _ (bearer?_ofTask here) v member concerns
    refine ⟨g, present, fun registry => (reached.housed suits_withoutKept).userNs present, ?_⟩
    rcases Bool.or_eq_true_iff.mp permits with rights | capable
    · exact .inl (Access.allows_trans rights allowed)
    · exact .inr capable
  readOnly := by
    intro t v stems
    obtain ⟨_, task, here, member, readOnly⟩ := stems.not_writable
    exact ⟨task, here, member, readOnly, fun _ => stems.page_not_writable here,
      fun _ _ => stems.write_faults⟩

private theorem Path.follow_plain {operations : List Operation}
    (before : Path (Operation.LeavesTerms s) w w')
    (permitted : w'.Permits (fun _ o => withoutKept o ∧ o.neverAssigns = true) operations) :
    Path (Operation.LeavesTerms s) w (w'.follow operations) :=
  before.follow (permitted.mono Operation.leavesTerms)

/-- A user. -/
def viewer : Requester := ⟨.plain ⟨1000⟩ ⟨1000⟩ .initial, none, none⟩

/-- A segment of the superuser that everybody may read, and a task of the user. -/
def displaying : List Operation :=
  [.makePool 0 16, .makeRegistry .initial ⟨0⟩ {} (.ipc true), .makeClock ⟨0⟩,
    .makeTask 1 (.superuser .initial) ⟨0⟩ ⟨0⟩ ⟨0x10000, 0x40000⟩,
    .shmget ⟨0⟩ 7 0x3000 ⟨0o1644⟩,
    .makeTask 2 viewer.credentials ⟨0⟩ ⟨0⟩ ⟨0x10000, 0x40000⟩]

/-- The user attaches the segment read-only, unmaps the middle of it and has a child, which reads
the last page. -/
def viewing : List Operation :=
  [.shmat ⟨1⟩ 1 0 ⟨0o10000⟩,
    .munmap (.ofTask ⟨1⟩) viewer 0x11000 0x1000,
    .forkTask ⟨1⟩ 3, .faultTask ⟨2⟩ 0x12000 .readOnly]

/-- The child has the last page from the read-only attachment: it may read it, as everybody may,
and it may not write to it. -/
theorem guarded_viewing :
    let w := (({} : World).follow displaying).follow viewing
    Path (Operation.LeavesTerms ⟨0⟩) {} w ∧ ∃ v task, FromReadOnly w ⟨2⟩ v ∧
      w.kernel.tasks.get? ⟨2⟩ = some task ∧ v ∈ task.space.areas ∧ v.object = .segment ⟨0⟩ ∧
      v.span = ⟨0x12000, 0x13000⟩ ∧ w.kernel.Licenses ⟨0⟩ task.credentials v.perms ∧
      (w.kernel.faultTask ⟨2⟩ 0x12000 .readOnly).1 = true ∧
      ¬ (w.kernel.faultTask ⟨2⟩ 0x12000 .readWrite).1 = true := by
  intro w
  let w₀ := ({} : World).follow displaying
  let w₁ := Operation.run w₀ (.shmat ⟨1⟩ 1 0 ⟨0o10000⟩)
  let w₂ := Operation.run w₁ (.munmap (.ofTask ⟨1⟩) viewer 0x11000 0x1000)
  let w₃ := Operation.run w₂ (.forkTask ⟨1⟩ 3)
  let whole : Area := ⟨⟨0x10000, 0x13000⟩, 0, .readOnly, .all, .segment ⟨0⟩⟩
  let last : Area := whole.slice 0x12000 0x13000
  have attached : FromReadOnly w₁ ⟨1⟩ whole := by
    have reached : w₀.Reachable withoutKept := reachable_follow (by decide +kernel) (by decide)
    obtain ⟨task, here, member⟩ : ∃ task ∈ w₁.kernel.tasks.get? ⟨1⟩, whole ∈ task.space.areas := by
      decide +kernel
    exact .attached reached rfl ⟨rfl, by decide +kernel⟩ here member
  have split : FromReadOnly w₂ ⟨1⟩ last := by
    obtain ⟨task, here, member⟩ : ∃ task ∈ w₂.kernel.tasks.get? ⟨1⟩, last ∈ task.space.areas := by
      decide +kernel
    exact attached.remains (o := .munmap ..) rfl trivial here member (by decide) id
  have inherited : FromReadOnly w₃ ⟨2⟩ last := by
    obtain ⟨k, forked⟩ : ∃ k, forkTask ⟨1⟩ 3 w₂.kernel = .ok ⟨2⟩ k := by decide +kernel
    obtain ⟨task, here, member⟩ : ∃ task ∈ w₃.kernel.tasks.get? ⟨2⟩, last ∈ task.space.areas := by
      decide +kernel
    exact split.inherited forked here member (by decide)
  obtain ⟨task, here, member⟩ : ∃ task ∈ w.kernel.tasks.get? ⟨2⟩, last ∈ task.space.areas := by
    decide +kernel
  have stems : FromReadOnly w ⟨2⟩ last :=
    inherited.remains (o := .faultTask ..) rfl trivial here member (by decide) id
  have path : Path (Operation.LeavesTerms ⟨0⟩) {} w :=
    (Path.refl.follow_plain (by decide +kernel)).follow_plain (by decide +kernel)
  have guards := guarded path
  obtain ⟨_, _, _, _, _, refuses⟩ := guards.readOnly ⟨2⟩ last stems
  refine ⟨path, last, task, stems, here, member, rfl, rfl, guards.areas _ _ _ here member rfl,
    by decide +kernel, fun resolved => ?_⟩
  cases refuses 0x12000 .readWrite (by decide) resolved

end World

end SharedMemory
