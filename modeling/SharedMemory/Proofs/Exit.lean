import SharedMemory.Proofs.Revocation
import SharedMemory.Proofs.Soundness

/-!
# Exit before the end

A task that is dropped first gives up its namespace and then its mappings. A task that exits
before it is dropped gives up its mappings first, and tells their segments in nobody's name. If
its namespace ends with it, the segments of the namespace are removed while the task still maps
them in the one case, and when some of them are already destroyed in the other. Yet both lead to
the same kernel: all segments of the namespace end up removed, and the rest is decided by the
references that others hold.
-/

namespace SharedMemory

/-- What is left of a task that exits: whatever lies in the range of its address space is
unmapped. -/
def Task.exited (task : Task) : Task :=
  { task with space := task.space.unmap task.space.range }

namespace Kernel

/-- The kernel without its log. -/
def unlogged (k : Kernel) : Kernel := { k with log := [] }

variable {k k' : Kernel} {t : Handle .task} {task : Task}

/-- To exit is to unmap all that lies in the range. -/
theorem exitTask_eq (laid : k.Laid) (found : k.tasks.get? t = some task) :
    k.exitTask t = (task.space.unmapEffects task.space.range).foldl
      (perform ⟨task.credentials, none, none⟩)
      (k.setSpace (task.space.unmap task.space.range) (.ofTask t)) := by
  have space := space?_ofTask found
  have upright : k.require (task.space.range.start ≤ task.space.range.stop) .arithmetic = k :=
    if_pos (laid.spaces space).range
  simp only [exitTask, found, unmapAll, space, unmapSpan, upright]

private theorem agree_exitTask (laid : k.Laid) (found : k.tasks.get? t = some task)
    (segments : task.space.OfSegments) : k.Agree (k.exitTask t) := by
  rw [exitTask_eq laid found]
  have same := objectPart_setSpace (k := k) (task.space.unmap task.space.range) (.ofTask t)
  have unmapped : k.Agree (k.setSpace (task.space.unmap task.space.range) (.ofTask t)) :=
    ⟨⟨congrArg (·.registries.map Registry.frame) same,
      congrArg (·.pools.map FramePool.region) same, congrArg (·.windows) same⟩,
      congrArg (·.segments.map Segment.standing) same⟩
  refine unmapped.trans (agree_performEach ⟨rfl, rfl⟩ fun e member => ?_)
  obtain ⟨v, inside, effect⟩ := List.mem_flatMap.mp member
  exact Area.ofSegment_of_mem_effects (segments v inside) effect

private theorem holderPart_exitTask (laid : k.Laid) (found : k.tasks.get? t = some task) :
    (k.exitTask t).holderPart = (k.setTask t task.exited).holderPart := by
  have effects : Changes idle _ (task.space.mapped + 0) _ _ :=
    changes_unmapEffects (k := k.setSpace (task.space.unmap task.space.range) (.ofTask t))
      ⟨task.credentials, none, none⟩ task.space task.space.range
  rw [exitTask_eq laid found, effects.holderPart]
  simp only [setSpace, found, Task.exited]

/-- To drop a task is to drop its address space and then to collect its namespace. -/
theorem dropTask_eq (found : k.tasks.get? t = some task) :
    k.dropTask t =
      ({ k with tasks := k.tasks.erase t }.collectNamespace task.ipc).dropSpaceValue
        task.space := by
  simp only [dropTask, found]

/-- A task that is dropped is gone, and the other holders stay. -/
theorem holderPart_dropTask (found : k.tasks.get? t = some task) :
    (k.dropTask t).holderPart = { k with tasks := k.tasks.erase t }.holderPart := by
  have collected : Changes (fun _ => True) { k with tasks := k.tasks.erase t } 0
      ({ k with tasks := k.tasks.erase t }.collectNamespace task.ipc) 0 :=
    changes_collectNamespace task.ipc trivial fun _ _ _ => trivial
  have dropped : Changes idle _ (task.space.mapped + 0) _ 0 :=
    changes_dropSpaceValue (k := { k with tasks := k.tasks.erase t }.collectNamespace task.ipc)
      task.space
  rw [dropTask_eq found, dropped.holderPart, collected.holderPart]

/-- Dropping a task leads to the same whether the objects are as they stand or as they stand after
references came and went. -/
theorem Agree.dropTask {task' : Task} (agree : k.Agree k') (found : k.tasks.get? t = some task)
    (found' : k'.tasks.get? t = some task') (ipc : task'.ipc = task.ipc)
    (others : k'.tasks.erase t = k.tasks.erase t) (registered : k.Registered)
    (registered' : k'.Registered) (proper : k.Proper) (proper' : k'.Proper)
    (segments : task.space.OfSegments) (segments' : task'.space.OfSegments) :
    (k.dropTask t).Agree (k'.dropTask t) := by
  have erased : { k with tasks := k.tasks.erase t }.Agree { k' with tasks := k'.tasks.erase t } :=
    ⟨⟨agree.registries, agree.pools, agree.windows⟩, agree.segments⟩
  have collected := erased.collectNamespace others (registered.of_eq rfl rfl)
    (registered'.of_eq rfl rfl) (proper.of_eq rfl) (proper'.of_eq rfl) task.ipc
  rw [dropTask_eq found, dropTask_eq found', ipc]
  exact (agree_dropSpaceValue segments).symm.trans
    (collected.trans (agree_dropSpaceValue segments'))

private theorem notes_dropTask (found : k.tasks.get? t = some task) (registered : k.Registered)
    (proper : k.Proper) (segments : task.space.OfSegments) :
    (k.dropTask t).segments.map Segment.notes = k.segments.map Segment.notes := by
  have collected := notes_collectNamespace (k := { k with tasks := k.tasks.erase t })
    (registered.of_eq rfl rfl) (proper.of_eq rfl) task.ipc
  rw [dropTask_eq found, (agree_dropSpaceValue segments).notes, collected]

private theorem unlogged_eq (holders : k'.holderPart = k.holderPart)
    (segments : k'.segments = k.segments) (registries : k'.registries = k.registries)
    (pools : k'.pools = k.pools) (windows : k'.windows = k.windows) (faults : k'.faults = k.faults)
    : k'.unlogged = k.unlogged := by
  have parts (k : Kernel) : k.unlogged =
      { k.holderPart with
        pools := k.pools, segments := k.segments, registries := k.registries,
        windows := k.windows, faults := k.faults } := rfl
  rw [parts, parts, holders, segments, registries, pools, windows, faults]

end Kernel

namespace World

open Kernel

variable {w : World} {k : Kernel} {t : Handle .task} {task : Task}

/-- To exit notes no fault. -/
theorem Sound.faults_exitTask (sound : w.Sound k k.held) (laid : k.Laid)
    (found : k.tasks.get? t = some task) (maps : ∀ v ∈ task.space.areas, v.MapsSegment) :
    (k.exitTask t).faults = k.faults := by
  have space := space?_ofTask found
  rw [← add_zero k.held] at sound
  simp only [exitTask, found, unmapAll, space]
  exact sound.faults_unmapSpan laid space (laid.spaces space).cleanCut_range maps _

/-- To drop a task notes no fault. -/
theorem Sound.faults_dropTask (sound : w.Sound k k.held) (found : k.tasks.get? t = some task)
    (segments : task.space.OfSegments) : (k.dropTask t).faults = k.faults := by
  have leaves : Passage (fun _ => True) k 0 { k with tasks := k.tasks.erase t }
      (task.space.mapped + 0) := passage_eraseTask found trivial
  rw [← add_zero k.held] at sound
  have erased := sound.course leaves
  rw [add_left_comm] at erased
  have collected := erased.changes
    (changes_collectNamespace task.ipc trivial fun _ _ _ => trivial)
  rw [dropTask_eq found, collected.faults_dropSpaceValue segments, erased.faults_collectNamespace]

/-- Exit before the end makes no difference. In every reachable world, if a task maps nothing but
segments, as it does if it maps them by system calls, it is the same to drop it and to let it exit
and then drop it, whether or not its namespace ends with it: all that remains is the same up to
the log. That is every segment with its count of references, its lifetime, key, owner, permissions
and notes, every registry with the segments and pages that it counts and its last identifier,
every pool, and all other tasks and address spaces. Nothing goes wrong on either way, and no
segment notes anything. -/
theorem drop_after_exit (reachable : w.Reachable anything)
    (found : w.kernel.tasks.get? t = some task) (maps : ∀ v ∈ task.space.areas, v.MapsSegment) :
    let dropped := (Operation.dropTask t).run w
    let exited := (Operation.dropTask t).run ((Operation.exitTask t).run w)
    exited.kernel.unlogged = dropped.kernel.unlogged ∧
      dropped.kernel.holderPart =
        { w.kernel with tasks := w.kernel.tasks.erase t }.holderPart ∧
      dropped.kernel.segments.map Segment.notes = w.kernel.segments.map Segment.notes ∧
      dropped.kernel.faults = w.kernel.faults := by
  intro dropped exited
  have laid := reachable.laid suits_anything
  have left : ((Operation.exitTask t).run w).Reachable anything := .tail reachable trivial trivial
  have ended : dropped.Reachable anything := .tail reachable trivial trivial
  have ended' : exited.Reachable anything := .tail left trivial trivial
  have segments : task.space.OfSegments := fun v member => (maps v member).segment
  -- What is left of the task when it has exited.
  have holders := holderPart_exitTask laid found
  have tasks : (w.kernel.exitTask t).tasks = w.kernel.tasks.set t task.exited :=
    congrArg (·.tasks) holders
  have found' : (w.kernel.exitTask t).tasks.get? t = some task.exited := by
    rw [tasks, Slots.get?_set_self found]
  have segments' : task.exited.space.OfSegments :=
    segments.unmap (laid.spaces (space?_ofTask found)).toOrdered task.space.range
  -- Both ways leave the same holders and the same objects, up to what the references decide.
  have direct := holderPart_dropTask found
  have same : exited.kernel.holderPart = dropped.kernel.holderPart := by
    calc exited.kernel.holderPart
        = { (w.kernel.exitTask t).holderPart with tasks := (w.kernel.exitTask t).tasks.erase t } :=
          holderPart_dropTask found'
      _ = { w.kernel.holderPart with tasks := w.kernel.tasks.erase t } := by
          rw [holders, tasks, Slots.erase_set]
          rfl
      _ = dropped.kernel.holderPart := direct.symm
  have agree : dropped.kernel.Agree exited.kernel :=
    (agree_exitTask laid found segments).dropTask found found' rfl
      (by rw [tasks, Slots.erase_set]) (reachable.registered suits_anything)
      (left.registered suits_anything) (reachable.proper suits_anything)
      (left.proper suits_anything) segments segments'
  have faults : dropped.kernel.faults = w.kernel.faults :=
    reachable.sound.faults_dropTask found segments
  have faults' : exited.kernel.faults = w.kernel.faults :=
    (left.sound.faults_dropTask found' segments').trans
      (reachable.sound.faults_exitTask laid found maps)
  obtain ⟨objects, registries, pools⟩ := ended.objects_eq ended' agree same rfl
  exact ⟨unlogged_eq same objects registries pools agree.windows (faults'.trans faults.symm),
    direct, notes_dropTask found (reachable.registered suits_anything)
      (reachable.proper suits_anything) segments, faults⟩

/-- A task in an IPC namespace attaches a segment and cuts a hole into it, and a reference to the
segment is kept. It attaches a second one twice that is then removed, and makes a third one. The
handle of the namespace goes, so that only the task keeps it. -/
def departing : List Operation :=
  let root : Requester := ⟨.superuser .initial, none, none⟩
  [.makePool 0 16, .makeRegistry .initial ⟨0⟩ {} (.ipc true), .makeClock ⟨5000000000⟩,
    .makeTask 1 (.superuser .initial) ⟨0⟩ ⟨0⟩ ⟨0x10000, 0x40000⟩, .shmget ⟨0⟩ 7 0x3000 ⟨0o1600⟩,
    .shmat ⟨0⟩ 1 0 ⟨0⟩, .munmap (.ofTask ⟨0⟩) root 0x11000 0x1000, .cloneReference (.segment ⟨0⟩),
    .shmget ⟨0⟩ privateKey 0x1000 ⟨0o600⟩, .shmat ⟨0⟩ 2 0 ⟨0⟩, .shmat ⟨0⟩ 2 0 ⟨0⟩,
    .shmctl ⟨0⟩ 2 0 .null, .shmget ⟨0⟩ 8 0x2000 ⟨0o1600⟩, .dropNamespace ⟨0⟩]

/-- The namespace ends with the task. On both ways the first segment stays for the reference that is
kept, and the others are destroyed. -/
theorem drop_after_exit_departing :
    let w := ({} : World).follow departing
    let dropped := (Operation.dropTask ⟨0⟩).run w
    let exited := (Operation.dropTask ⟨0⟩).run ((Operation.exitTask ⟨0⟩).run w)
    (∃ task, w.kernel.tasks.get? ⟨0⟩ = some task ∧ task.space.areas.length = 4) ∧
      exited.kernel.unlogged = dropped.kernel.unlogged ∧
      dropped.kernel.registries.get? ⟨0⟩ = none ∧
      dropped.kernel.segments.values.map (fun g => (g.attachCount, g.destroyed)) =
        [(1, false), (0, true), (0, true)] ∧
      dropped.kernel.segments.map Segment.notes = w.kernel.segments.map Segment.notes ∧
      dropped.kernel.faults = [] := by
  intro w dropped exited
  have plain : w.Reachable withoutKept := reachable_follow (by decide +kernel) (by decide +kernel)
  have reachable : w.Reachable anything := plain.mono fun _ _ => trivial
  have mapping : (w.kernel.tasks.get? ⟨0⟩).map (·.space.areas.length) = some 4 := by decide +kernel
  obtain ⟨task, found, areas⟩ := Option.map_eq_some_iff.mp mapping
  obtain ⟨same, _, notes, faults⟩ := drop_after_exit reachable found fun v member =>
    plain.mapsSegment (space?_ofTask found) member
  have quiet : w.kernel.faults = [] := by decide +kernel
  exact ⟨⟨task, found, areas⟩, same, by decide +kernel, by decide +kernel, notes,
    faults.trans quiet⟩

end World

end SharedMemory
