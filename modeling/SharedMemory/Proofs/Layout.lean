import SharedMemory.Proofs.Evolution
import SharedMemory.Proofs.Frames

/-!
# Address spaces stay laid out

Every address space of the kernel is laid out as it is to be: its areas stand in order and do
not overlap, and they are whole pages within the range if the range starts a page. Backings of
segments are whole pages. Every turn of a course preserves this.
-/

namespace SharedMemory

/-- To establish pages changes nothing but the pages. -/
theorem AddressSpace.establishAll_eq (a : AddressSpace) (v : Area) (ls : List Location) :
    ∃ pages, a.establishAll v ls = { a with pages } := by
  induction ls generalizing a with
  | nil => exact ⟨a.pages, rfl⟩
  | cons l rest ih =>
      obtain ⟨pages, same⟩ := ih (a.establish v l)
      exact ⟨pages, same⟩

private theorem AddressSpace.Laid.establishAll {a : AddressSpace} (laid : a.Laid) (v : Area)
    (ls : List Location) : (a.establishAll v ls).Laid := by
  obtain ⟨pages, same⟩ := a.establishAll_eq v ls
  rw [same]
  exact laid.withPages pages

namespace Kernel

variable {k k' : Kernel} {refs refs' : Multiset Object} {may : Deed → Prop}

/-- The backing of a new segment is the size that was asked for, in whole pages. -/
theorem Creation.effectiveSize (c : Creation k) : c.segment.effectiveSize = c.length := by
  obtain ⟨_, aligned, first, _, backing, _⟩ := FramePool.allocate_eq_ok c.allocated
  have whole : c.length / pageSize * pageSize = c.length :=
    Nat.div_mul_cancel (Nat.dvd_of_mod_eq_zero aligned)
  change c.backing.size = c.length
  rw [backing, FramePool.run, Span.size_ofSize, whole]

/-- The address spaces and the backings are as they are to be. -/
structure Laid (k : Kernel) : Prop where
  spaces : ∀ {ref a}, k.space? ref = some a → a.Laid
  sizes : ∀ {s g}, k.segments.get? s = some g → PageAligned g.effectiveSize

/-- The layout depends on the holders and the segments alone. -/
theorem Laid.congr (laid : k.Laid) (holders : k'.holderPart = k.holderPart)
    (segments : k'.segments = k.segments) : k'.Laid where
  spaces := fun found => laid.spaces ((space?_congr holders _).symm.trans found)
  sizes := fun found => laid.sizes (segments ▸ found)

private theorem Change.sizes (change : Change may k refs k' refs')
    (sizes : ∀ {s g}, k.segments.get? s = some g → PageAligned g.effectiveSize)
    {s : Handle .segment} {g : Segment} (found : k'.segments.get? s = some g) :
    PageAligned g.effectiveSize := by
  refine change.forall_segments (fun g => PageAligned g.effectiveSize) ?_ ?_ sizes found
  · intro g g' evolves aligned
    rwa [evolves.effectiveSize]
  · intro c
    rw [c.effectiveSize]
    exact (pageUp?_eq_some_iff.mp c.rounded).2.1

/-- Replacing one address space by another that is laid out keeps all of them so. -/
theorem Laid.setSpace {ref : SpaceRef} {a a' : AddressSpace} (laid : k.Laid)
    (found : k.space? ref = some a) (placed : a'.Laid) : (k.setSpace a' ref).Laid where
  spaces := by
    intro ref' b found'
    rw [space?_setSpace found] at found'
    split at found'
    · cases found'
      exact placed
    · exact laid.spaces found'
  sizes := by
    intro s g present
    rw [segments_congr (objectPart_setSpace a' ref)] at present
    exact laid.sizes present

private theorem Origin.laid {ref : SpaceRef} {a : AddressSpace} (origin : Origin k k' ref a)
    (laid : k.Laid) : a.Laid := by
  cases origin with
  | same found => exact laid.spaces found
  | copy _ found => exact (laid.spaces found).withPages []
  | new _ upright bounded => exact AddressSpace.laid_empty upright bounded

/-- One turn keeps the layout. -/
theorem Turn.laid (turn : Turn may k refs k' refs') (laid : k.Laid) : k'.Laid := by
  cases turn with
  | change change =>
      refine ⟨fun found => ?_, change.sizes laid.sizes⟩
      rw [space?_congr change.holderPart] at found
      exact laid.spaces found
  | unmap found cut => exact laid.setSpace found ((laid.spaces found).unmap cut)
  | map found mappable =>
      exact laid.setSpace found
        ((laid.spaces found).map mappable.room mappable.nonempty mappable.below mappable.placed)
  | establish found => exact laid.setSpace found ((laid.spaces found).establishAll _ _)
  | rehold same _ origin =>
      refine ⟨fun found => (origin found).laid laid, fun found => ?_⟩
      rw [segments_congr same] at found
      exact laid.sizes found

/-- A course keeps the layout. -/
theorem Chain.laid (course : Course may k refs k' refs') (laid : k.Laid) : k'.Laid :=
  course.preserves (fun k _ => k.Laid) Turn.laid laid

end Kernel

end SharedMemory
