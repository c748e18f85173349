import SharedMemory.Proofs.Determination

/-!
# Namespaces that end

When a namespace ends, its registry removes all segments that it lists. Those that it no longer
lists were destroyed, so they were removed before; so in the end every segment of the registry is
removed, and no other is (`Kernel.standing_releaseAll`). What this makes of the objects depends on
nothing that the references decide, and no segment notes anything.
-/

namespace SharedMemory

namespace Segment

/-- The segment after the namespace of a registry ended. -/
def revoked (r : Handle .registry) (g : Segment) : Segment :=
  if g.registry = r then g.removed else g

/-- What a segment notes: when it was attached, detached and changed, and by which process it was
used last. -/
def notes (g : Segment) : Instant × Instant × Instant × Pid :=
  (g.attachTime, g.detachTime, g.changeTime, g.lastPid)

private theorem notes_revoked (r : Handle .registry) (g : Segment) :
    (g.revoked r).notes = g.notes := by
  unfold revoked
  split <;> rfl

/-- A segment stays in its registry when the namespace ends. -/
theorem registry_revoked (r : Handle .registry) (g : Segment) :
    (g.revoked r).registry = g.registry := by
  unfold revoked
  split <;> rfl

end Segment

namespace Kernel

variable {k k' : Kernel} {s : Handle .segment} {g : Segment} {r : Handle .registry}
  {registry : Registry}

private theorem agree_markDestroyed (found : k.segments.get? s = some g) :
    (k.setSegment s g.removed).Agree (k.markDestroyed s) := by
  rw [markDestroyed_eq_settle found, settle]
  split
  · exact agree_destroy s
  · exact .refl _

/-- To mark a segment changes in registries and pools only what the segments decide. -/
theorem framed_markDestroyed (s : Handle .segment) : k.Framed (k.markDestroyed s) := by
  cases found : k.segments.get? s with
  | none =>
      simp only [markDestroyed, found]
      exact (agree_halt _).toFramed
  | some g =>
      have placed : k.Framed (k.setSegment s g.removed) := ⟨rfl, rfl, rfl⟩
      exact placed.trans (agree_markDestroyed found).toFramed

/-- To mark all that a registry lists changes in registries and pools only what the segments
decide. -/
theorem framed_releaseAll (r : Handle .registry) : k.Framed (k.releaseAll r) := by
  have marked (handles : List (Handle .segment)) {k : Kernel} :
      k.Framed (handles.foldl markDestroyed k) := by
    induction handles generalizing k with
    | nil => exact .refl k
    | cons s rest ih => exact (framed_markDestroyed s).trans ih
  unfold releaseAll
  split
  · exact marked _
  · exact (agree_halt _).toFramed

private theorem standing_markDestroyed (s s' : Handle .segment) :
    ((k.markDestroyed s).segments.map Segment.standing).get? s' =
      ((k.segments.map Segment.standing).get? s').map fun g => if s' = s then g.removed else g := by
  cases found : k.segments.get? s with
  | none =>
      simp only [markDestroyed, found, halt, Slots.get?_map]
      by_cases same : s' = s
      · rw [same, found]
        rfl
      · simp only [if_neg same, Option.map_id']
  | some g =>
      rw [(agree_markDestroyed found).segments, Slots.get?_map, Slots.get?_map]
      by_cases same : s' = s
      · rw [same, found, setSegment, Slots.get?_set_self found]
        simp only [Option.map_some]
        rfl
      · simp only [setSegment, Slots.get?_set_of_ne (Ne.symm same), if_neg same, Option.map_id']

private theorem standing_markEach (handles : List (Handle .segment)) (s : Handle .segment) :
    ((handles.foldl markDestroyed k).segments.map Segment.standing).get? s =
      ((k.segments.map Segment.standing).get? s).map fun g =>
        if s ∈ handles then g.removed else g := by
  induction handles generalizing k with
  | nil => simp only [List.foldl_nil, List.not_mem_nil, if_false, Option.map_id']
  | cons s' rest ih =>
      rw [List.foldl_cons, ih, standing_markDestroyed, Option.map_map]
      refine congrArg (Option.map · _) (funext fun g => ?_)
      by_cases first : s = s' <;> by_cases later : s ∈ rest <;>
        simp [first, later, Segment.removed]

private theorem issued_markEach (handles : List (Handle .segment)) :
    (handles.foldl markDestroyed k).segments.Issued s ↔ k.segments.Issued s := by
  induction handles generalizing k with
  | nil => rfl
  | cons s' rest ih =>
      rw [List.foldl_cons, ih]
      cases found : k.segments.get? s' with
      | none =>
          simp only [markDestroyed, found]
          rfl
      | some g =>
          rw [← Slots.issued_map (f := Segment.standing), (agree_markDestroyed found).segments,
            Slots.issued_map]
          exact Slots.issued_set

/-- When a namespace ends, all its segments stand removed, whether the registry still listed them
or not: a segment that it no longer lists was removed before. -/
theorem standing_releaseAll (registered : k.Registered) (proper : k.Proper)
    (here : k.registries.get? r = some registry) :
    (k.releaseAll r).segments.map Segment.standing =
      (k.segments.map Segment.standing).map (Segment.revoked r) := by
  simp only [releaseAll, here]
  refine Slots.eq_of_get? (fun s => ?_) fun s => by simp [issued_markEach]
  rw [standing_markEach, Slots.get?_map, Slots.get?_map, Slots.get?_map]
  cases found : k.segments.get? s with
  | none => rfl
  | some g =>
      simp only [Option.map_some, Option.some.injEq]
      cases destroyed : g.destroyed with
      | true =>
          have doomed := (proper s g found).destroyed.mp destroyed
          have same : g.standing.removed = g.standing :=
            congrArg Segment.standing ((proper s g found).removed_eq doomed.1)
          simp only [Segment.revoked, same, ite_self]
      | false =>
          have listed : s ∈ registry.table.map (·.2) ↔ g.standing.registry = r := by
            rw [List.mem_map]
            constructor
            · intro member
              obtain ⟨entry, inside, same⟩ := member
              have own := (registered.listed here entry.1 entry.2).mp inside
              rw [same, listing?_of_alive found destroyed] at own
              exact congrArg Prod.fst (Option.some.inj own)
            · intro own
              refine ⟨(g.id, s), (registered.listed here g.id s).mpr ?_, rfl⟩
              rw [listing?_of_alive found destroyed, ← own]
              rfl
          simp only [Segment.revoked, listed]

/-- Kernels that agree do so after a namespace is collected in both. -/
theorem Agree.collectNamespace (agree : k.Agree k') (tasks : k'.tasks = k.tasks)
    (registered : k.Registered) (registered' : k'.Registered) (proper : k.Proper)
    (proper' : k'.Proper) (r : Handle .registry) :
    (k.collectNamespace r).Agree (k'.collectNamespace r) := by
  have seen := congrArg (·.get? r) agree.registries
  simp only [Slots.get?_map] at seen
  cases here : k.registries.get? r with
  | none =>
      rw [here, Option.map_none, Option.map_eq_none_iff] at seen
      simp only [Kernel.collectNamespace, here, seen]
      exact agree
  | some registry =>
      rw [here, Option.map_some] at seen
      obtain ⟨registry', here', frame⟩ := Option.map_eq_some_iff.mp seen
      have holder : registry'.holder = registry.holder := congrArg (·.holder) frame
      have peopled : k'.hasTaskIn r = k.hasTaskIn r := by rw [hasTaskIn, hasTaskIn, tasks]
      simp only [Kernel.collectNamespace, here, here', holder, peopled]
      by_cases unkept : registry.holder = .ipc false ∧ k.hasTaskIn r = false
      · rw [if_pos unkept, if_pos unkept]
        have framed : (k.releaseAll r).Framed (k'.releaseAll r) :=
          (framed_releaseAll r).symm.trans (agree.toFramed.trans (framed_releaseAll r))
        have segments : (k'.releaseAll r).segments.map Segment.standing =
            (k.releaseAll r).segments.map Segment.standing := by
          rw [standing_releaseAll registered proper here,
            standing_releaseAll registered' proper' here', agree.segments]
        refine ⟨⟨?_, framed.pools, framed.windows⟩, segments⟩
        simp only [eraseRegistry, Slots.map_erase, framed.registries]
      · rw [if_neg unkept, if_neg unkept]
        exact agree

/-- What segments note does not depend on the references. -/
theorem Agree.notes (agree : k.Agree k') :
    k'.segments.map Segment.notes = k.segments.map Segment.notes := by
  have standing (k : Kernel) :
      k.segments.map Segment.notes = (k.segments.map Segment.standing).map Segment.notes := by
    rw [Slots.map_map]
    rfl
  rw [standing k', agree.segments, ← standing]

/-- To collect a namespace leaves the notes on segments. -/
theorem notes_collectNamespace (registered : k.Registered) (proper : k.Proper)
    (r : Handle .registry) :
    (k.collectNamespace r).segments.map Segment.notes = k.segments.map Segment.notes := by
  unfold collectNamespace
  split
  case h_1 registry here =>
    split
    case isTrue =>
      have ended := congrArg (·.map Segment.notes) (standing_releaseAll registered proper here)
      simp only [Slots.map_map, Segment.notes_revoked] at ended
      exact ended
    case isFalse => rfl
  case h_2 => rfl

end Kernel

end SharedMemory
