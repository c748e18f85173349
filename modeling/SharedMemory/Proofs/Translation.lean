import SharedMemory.Proofs.Backing
import SharedMemory.Proofs.Lifetimes

/-!
# What pages show

A page that is established in an address space shows a page of a segment: the page that the
area around it maps, with the rights of the area. As long as segments are mapped by system
calls only, in a range that starts a page, this holds of every page at all times. Since what is
mapped is referred to, the segment is not destroyed, and its frames are its own.
-/

namespace SharedMemory

namespace Area

variable {v w : Area} {address : Nat}

/-- An area that maps a segment from one of its pages on. -/
def Plain (v : Area) : Prop := (∃ s, v.object = .segment s) ∧ PageAligned v.offset

/-- The offset in the object that an address of the area maps. -/
def offsetAt (v : Area) (address : Nat) : Nat := v.offset + (address - v.span.start)

private theorem Plain.part (plain : v.Plain) (part : w.Part v) (whole : PageAligned v.span.start)
    (start : PageAligned w.span.start) : w.Plain := by
  obtain ⟨⟨s, object⟩, aligned⟩ := plain
  refine ⟨⟨s, part.object.trans object⟩, ?_⟩
  rw [part.offset]
  exact aligned.add (start.sub whole)

/-- A part of an area maps its addresses as the area does. -/
theorem Part.offsetAt (part : w.Part v) (inside : w.span.start ≤ address) :
    w.offsetAt address = v.offsetAt address := by
  have start := part.start
  rw [Area.offsetAt, Area.offsetAt, part.offset]
  omega

end Area

/-- An area that is mapped maps a segment from one of its pages on. -/
def Deed.Plain : Deed → Prop
  | .map _ _ v => v.Plain
  | _ => True

namespace Kernel

/-- A page shows, through an area, a page of the segment that the area maps. -/
structure Shows (k : Kernel) (v : Area) (address : Nat) (page : Page) : Prop where
  within : v.HasPage address
  aligned : PageAligned address
  perms : page.perms = v.perms
  located : ∃ s g, v.object = .segment s ∧ k.segments.get? s = some g ∧
    page.frame = g.backing.start + v.offsetAt address ∧
      v.offsetAt address + pageSize ≤ g.effectiveSize

/-- Areas map segments from one of their pages on, and every page shows one of theirs. -/
structure Depicts (k : Kernel) (a : AddressSpace) : Prop where
  plain : ∀ v ∈ a.areas, v.Plain
  shown : ∀ entry ∈ a.pages, ∃ v ∈ a.areas, k.Shows v entry.1 entry.2

/-- In every range that starts a page every page shows one of a segment. -/
def Faithful (k : Kernel) : Prop :=
  ∀ ref a, k.space? ref = some a → PageAligned a.range.start → k.Depicts a

/-- A task whose range starts a page has a page at an address that shows what a segment has at
an offset: the task's area around the page maps it there. -/
def Translates (k : Kernel) (t : Handle .task) (address : Nat) (page : Page)
    (s : Handle .segment) (offset : Nat) : Prop :=
  ∃ task v, k.tasks.get? t = some task ∧ PageAligned task.space.range.start ∧
    (address, page) ∈ task.space.pages ∧ v ∈ task.space.areas ∧ v.HasPage address ∧
      v.object = .segment s ∧ offset = v.offset + (address - v.span.start)

variable {k k' : Kernel} {refs refs' : Multiset Object} {a : AddressSpace} {v w : Area}
  {address : Nat} {page : Page} {span : Span} {ref : SpaceRef}

/-! ## Pages that are there -/

private theorem Shows.evolves (shows : k.Shows v address page) (evolves : k.Evolves k') :
    k'.Shows v address page := by
  obtain ⟨within, aligned, perms, s, g, object, found, frame, inside⟩ := shows
  obtain ⟨g', found', evolved⟩ := evolves found
  refine ⟨within, aligned, perms, s, g', object, found', ?_, ?_⟩
  · rw [evolved.backing]
    exact frame
  · rw [evolved.effectiveSize]
    exact inside

private theorem Depicts.evolves (depicts : k.Depicts a) (evolves : k.Evolves k') :
    k'.Depicts a where
  plain := depicts.plain
  shown := by
    intro entry member
    obtain ⟨v, inside, shows⟩ := depicts.shown entry member
    exact ⟨v, inside, shows.evolves evolves⟩

private theorem Shows.part (shows : k.Shows v address page) (part : w.Part v)
    (within : w.HasPage address) : k.Shows w address page := by
  obtain ⟨_, aligned, perms, s, g, object, found, frame, inside⟩ := shows
  refine ⟨within, aligned, perms.trans part.perms.symm, s, g, part.object.trans object, found, ?_⟩
  rw [part.offsetAt within.1]
  exact ⟨frame, inside⟩

/-- Pages that are not unmapped show what they showed, through what remains of their area. -/
theorem Depicts.unmap (depicts : k.Depicts a) (tidy : a.Tidy)
    (clean : ∀ v ∈ a.areas, v.CutCleanly span) : k.Depicts (a.unmap span) where
  plain := by
    intro w member
    obtain ⟨v, inside, remains⟩ := AddressSpace.mem_areas_unmap.mp member
    have part := Area.part_of_mem_without (tidy.nonempty v inside) remains
    exact (depicts.plain v inside).part part (tidy.aligned v inside).1
      (Area.aligned_of_mem_without (clean v inside) (tidy.aligned v inside) remains).1
  shown := by
    intro entry member
    obtain ⟨old, kept⟩ := List.mem_filter.mp member
    obtain ⟨v, inside, shows⟩ := depicts.shown entry old
    obtain ⟨w, remains, within⟩ := Area.exists_mem_without_of_hasPage (clean v inside)
      shows.within shows.aligned (of_decide_eq_true kept)
    exact ⟨w, AddressSpace.mem_areas_unmap.mpr ⟨v, inside, remains⟩,
      shows.part (Area.part_of_mem_without (tidy.nonempty v inside) remains) within⟩

private theorem Depicts.map (depicts : k.Depicts a) (ordered : a.Ordered) (mappable : Mappable a v)
    (plain : v.Plain) : k.Depicts (a.map v) := by
  have areas {w : Area} := ordered.mem_areas_map (w := w) mappable.room mappable.nonempty
  refine ⟨fun w member => ?_, fun entry member => ?_⟩
  · rcases areas.mp member with rfl | inside
    · exact plain
    · exact depicts.plain w inside
  · obtain ⟨w, inside, shows⟩ := depicts.shown entry member
    exact ⟨w, areas.mpr (.inr inside), shows⟩

/-! ## Pages that are established -/

/-- The pages of what a segment located show it. The part that is located ends with a page,
since the area, the backing and the offset do. -/
theorem shows_of_mem_pagesOf {l : Location} {entry : Nat × Page} (plain : v.Plain)
    (whole : PageAligned v.span.start ∧ PageAligned v.span.stop)
    (sizes : ∀ {s g}, k.segments.get? s = some g → PageAligned g.effectiveSize)
    (located : k.Locates v [l]) (member : entry ∈ v.pagesOf l) : k.Shows v entry.1 entry.2 := by
  obtain ⟨⟨s, object⟩, aligned⟩ := plain
  obtain ⟨g, found, source, place⟩ := located.segment l (List.mem_singleton_self l) s object
  obtain ⟨i, bound, rfl⟩ := List.mem_map.mp member
  have size := sizes found
  have start : l.source.start = v.offset := by
    simp [source, Span.inter, Area.mappedBytes, Span.ofSize]
  have stop : l.source.stop = max v.offset (min (v.offset + v.span.size) g.effectiveSize) := by
    simp [source, Span.inter, Area.mappedBytes, Span.ofSize]
  -- Both the area and the segment end at a page, so no page is shown in part.
  have room : i * pageSize + pageSize ≤ v.span.size ∧
      v.offset + (i * pageSize + pageSize) ≤ g.effectiveSize := by
    rw [List.mem_range, Location.pageCount, Span.size, start, stop] at bound
    simp only [Span.size, PageAligned, pageSize] at *
    omega
  have first : v.addressOf l = v.span.start := by
    rw [Area.addressOf, start, Nat.sub_self, Nat.add_zero]
  have offset : v.offsetAt (v.addressOf l + i * pageSize) = v.offset + i * pageSize := by
    rw [Area.offsetAt, first, Nat.add_sub_cancel_left]
  refine ⟨?_, ?_, rfl, s, g, object, found, ?_, ?_⟩
  · have upper := room.1
    rw [first]
    constructor
    · exact Nat.le_add_right _ _
    · simp only [Span.size, pageSize] at *
      omega
  · rw [first]
    exact whole.1.add (Nat.mul_mod_left _ _)
  · rw [offset, place, start, Nat.add_assoc]
  · rw [offset, Nat.add_assoc]
    exact room.2

/-- The pages that are established for an area show what it maps. -/
theorem Depicts.establishAll {ls : List Location} (depicts : k.Depicts a) (tidy : a.Tidy)
    (sizes : ∀ {s g}, k.segments.get? s = some g → PageAligned g.effectiveSize)
    (member : v ∈ a.areas) (located : k.Locates v ls) : k.Depicts (a.establishAll v ls) := by
  induction ls generalizing a with
  | nil => exact depicts
  | cons l rest ih =>
      have here : k.Locates v [l] := located.mono (by simp)
      have later : k.Locates v rest := located.mono (by simp)
      refine ih (a := a.establish v l) ⟨depicts.plain, fun entry inside => ?_⟩ ?_ member later
      · rcases List.mem_append.mp inside with new | old
        · exact ⟨v, member, shows_of_mem_pagesOf (depicts.plain v member) (tidy.aligned v member)
            sizes here new⟩
        · exact depicts.shown entry (List.mem_filter.mp old).1
      · exact ⟨⟨tidy.range, tidy.ascending, tidy.nonempty⟩, tidy.origin, tidy.aligned, tidy.inside⟩

/-! ## The invariant -/

private theorem Faithful.setSpace {a' : AddressSpace} (faithful : k.Faithful)
    (found : k.space? ref = some a)
    (depicts : PageAligned a'.range.start → k.Depicts a') : (k.setSpace a' ref).Faithful := by
  have same : (k.setSpace a' ref).segments = k.segments :=
    segments_congr (objectPart_setSpace a' ref)
  intro ref' b found' origin
  refine Depicts.evolves ?_ (segmentsEvolve_of_eq same).evolves
  rw [space?_setSpace found] at found'
  split at found'
  · cases found'
    exact depicts origin
  · exact faithful ref' b found' origin

private theorem Faithful.congr (faithful : k.Faithful) (holders : k'.holderPart = k.holderPart)
    (segments : k'.segments = k.segments) : k'.Faithful := by
  intro ref a found origin
  rw [space?_congr holders] at found
  exact (faithful ref a found origin).evolves (segmentsEvolve_of_eq segments).evolves

/-- One turn keeps pages faithful, if areas are mapped from one of their pages on. -/
theorem Turn.faithful (turn : Turn Deed.Plain k refs k' refs') (laid : k.Laid)
    (faithful : k.Faithful) : k'.Faithful := by
  cases turn with
  | change change =>
      intro ref a found origin
      rw [space?_congr change.holderPart] at found
      exact (faithful ref a found origin).evolves change.evolves
  | unmap found cut =>
      exact faithful.setSpace found fun origin =>
        (faithful _ _ found origin).unmap ((laid.spaces found).tidy origin) (cut.clean origin)
  | map found mappable plain =>
      exact faithful.setSpace found fun origin =>
        (faithful _ _ found origin).map (laid.spaces found).toOrdered mappable plain
  | @establish ref a v ls found member located =>
      obtain ⟨pages, same⟩ := a.establishAll_eq v ls
      refine faithful.setSpace found fun origin => ?_
      have origin : PageAligned a.range.start := by rwa [same] at origin
      exact (faithful _ _ found origin).establishAll ((laid.spaces found).tidy origin) laid.sizes
        member located
  | rehold same _ comes =>
      intro ref a found origin
      refine Depicts.evolves ?_ (segmentsEvolve_of_eq (segments_congr same)).evolves
      cases comes found with
      | same original => exact faithful _ _ original origin
      | copy _ original => exact ⟨(faithful _ _ original origin).plain, nofun⟩
      | new => exact ⟨nofun, nofun⟩

end Kernel

namespace World

open Kernel

variable {w w' : World}

/-- Without kept requests, every area is mapped from one of its pages on. -/
theorem suits_withoutKept : Suits withoutKept Deed.Plain := by
  refine suits_mapsWhole.mono fun d whole => ?_
  cases d with
  | map _ _ v =>
      obtain ⟨segment, start⟩ := whole
      refine ⟨segment, ?_⟩
      rw [start]
      rfl
  | _ => trivial

private theorem Step.faithful (step : Step Deed.Plain w w') (laid : w.kernel.Laid)
    (faithful : w.kernel.Faithful) : w'.kernel.Faithful :=
  step.kernel Faithful Turn.faithful
    (fun holders segments faithful => faithful.congr holders segments) laid faithful

/-- As long as segments are mapped by system calls only, pages show pages of segments. -/
theorem Reachable.faithful (reachable : Reachable withoutKept w) : w.kernel.Faithful := by
  have both := reachable.invariant suits_withoutKept (fun w => w.kernel.Laid ∧ w.kernel.Faithful)
    (fun step ⟨laid, faithful⟩ => ⟨step.laid laid, step.faithful laid faithful⟩)
    ⟨laid_start, fun ref a found => ?_⟩
  · exact both.2
  · rw [space?_start] at found
    cases found

/-! ## What follows for tasks -/

variable {t : Handle .task} {task : Task} {address offset : Nat} {page : Page}
  {s : Handle .segment} {g : Segment} {may : Deed → Prop} {allowed : Operation → Prop}

/-- What is mapped is not destroyed. -/
theorem Reachable.alive_of_mapped (suits : Suits allowed may) (reachable : Reachable allowed w)
    {ref : SpaceRef} {a : AddressSpace} {v : Area} (here : w.kernel.space? ref = some a)
    (member : v ∈ a.areas) (object : v.object = .segment s)
    (found : w.kernel.segments.get? s = some g) : g.destroyed = false := by
  have held : .segment s ∈ w.kernel.held + 0 :=
    mapped_subset_held here (Multiset.mem_coe.mpr (List.mem_map.mpr ⟨v, member, object⟩))
  rw [add_zero] at held
  obtain ⟨g', found', positive⟩ := (reachable.counted suits).segment held
  cases found.symm.trans found'
  refine (Bool.eq_false_or_eq_true _).resolve_left fun destroyed => ?_
  have none := ((reachable.proper suits s g found).destroyed.mp destroyed).2
  omega

/-- A page of a task shows a page of a segment that is not destroyed through one area. -/
theorem Reachable.shown (reachable : Reachable withoutKept w)
    (here : w.kernel.tasks.get? t = some task) (origin : PageAligned task.space.range.start)
    (member : (address, page) ∈ task.space.pages) :
    ∃ v s g, (∀ v', v' ∈ task.space.areas ∧ v'.HasPage address ↔ v' = v) ∧
      v.object = .segment s ∧ w.kernel.segments.get? s = some g ∧ g.destroyed = false ∧
      page.perms = v.perms ∧ page.frame = g.backing.start + v.offsetAt address ∧
      v.offsetAt address + pageSize ≤ g.effectiveSize := by
  have space := space?_ofTask here
  have ordered := ((reachable.laid suits_withoutKept).spaces space).toOrdered
  obtain ⟨v, inside, shows⟩ := (reachable.faithful _ _ space origin).shown _ member
  obtain ⟨within, _, perms, s, g, object, found, frame, size⟩ := shows
  have holds {v' : Area} (page : v'.HasPage address) : v'.span.Contains address :=
    ⟨page.1, Nat.lt_of_lt_of_le (Nat.lt_add_of_pos_right (by decide)) page.2⟩
  refine ⟨v, s, g, fun v' => ⟨?_, ?_⟩, object, found, ?_, perms, frame, size⟩
  · rintro ⟨inside', within'⟩
    exact ordered.area_unique address inside' (holds within') inside (holds within)
  · rintro rfl
    exact ⟨inside, within⟩
  · exact reachable.alive_of_mapped suits_withoutKept space inside object found

/-- A page that shows an offset of a segment is in the frame that the segment has there. -/
theorem Reachable.frame_of_translates (reachable : Reachable withoutKept w)
    (translates : w.kernel.Translates t address page s offset) :
    ∃ g, w.kernel.segments.get? s = some g ∧ g.destroyed = false ∧
      page.frame = g.backing.start + offset ∧ offset + pageSize ≤ g.effectiveSize := by
  obtain ⟨task, v, here, origin, member, inside, within, object, rfl⟩ := translates
  obtain ⟨v', s', g, unique, object', found, alive, _, frame, size⟩ :=
    reachable.shown here origin member
  obtain rfl := (unique v).mp ⟨inside, within⟩
  cases object.symm.trans object'
  exact ⟨g, found, alive, frame, size⟩

/-- Translations are sound. Every page of a task whose range starts a page lies in exactly one
area of the task. The area maps a segment that is not destroyed, the page has the rights of the
area, and it is the page of the segment's backing that the area maps there; the backing is still
allocated. So translations of a segment at the same offset agree, and translations into two
segments have no byte in common, if pools have none. -/
theorem translation_sound (reachable : w.Reachable withoutKept) :
    (∀ t task, w.kernel.tasks.get? t = some task → PageAligned task.space.range.start →
      ∀ address page, (address, page) ∈ task.space.pages →
        ∃ v s g, (∀ v', v' ∈ task.space.areas ∧ v'.HasPage address ↔ v' = v) ∧
          v.object = .segment s ∧ w.kernel.segments.get? s = some g ∧ g.destroyed = false ∧
          page.perms = v.perms ∧
          page.frame = g.backing.start + v.offset + (address - v.span.start) ∧
          g.backing.start ≤ page.frame ∧ page.frame + pageSize ≤ g.backing.stop ∧
          ∃ pool, w.kernel.pools.get? g.pool = some pool ∧ pool.IsRun g.backing ∧
            ∀ frame, g.backing.Contains (pool.addressOf frame) → pool.IsTaken frame) ∧
    (∀ t t' address address' page page' s offset,
      w.kernel.Translates t address page s offset →
      w.kernel.Translates t' address' page' s offset → page.frame = page'.frame) ∧
    (w.kernel.PoolsApart → ∀ t t' address address' page page' s s' offset offset',
      w.kernel.Translates t address page s offset →
      w.kernel.Translates t' address' page' s' offset' → s' ≠ s →
        ¬ (Span.ofSize page.frame pageSize).Meets (.ofSize page'.frame pageSize)) := by
  have backed := reachable.backed suits_withoutKept
  refine ⟨fun t task here origin address page member => ?_,
    fun t t' address address' page page' s offset first second => ?_,
    fun apart t t' address address' page page' s s' offset offset' first second other meets => ?_⟩
  · obtain ⟨v, s, g, unique, object, found, alive, perms, frame, size⟩ :=
      reachable.shown here origin member
    refine ⟨v, s, g, unique, object, found, alive, perms, ?_, ?_, ?_, backed.isTaken found alive⟩
    · rw [frame, Area.offsetAt, Nat.add_assoc]
    · omega
    · simp only [Segment.effectiveSize, Span.size, pageSize] at *
      omega
  · obtain ⟨g, found, _, frame, _⟩ := reachable.frame_of_translates first
    obtain ⟨g', found', _, frame', _⟩ := reachable.frame_of_translates second
    cases found.symm.trans found'
    rw [frame, frame']
  · obtain ⟨g, found, alive, frame, size⟩ := reachable.frame_of_translates first
    obtain ⟨g', found', alive', frame', size'⟩ := reachable.frame_of_translates second
    refine backed.apart apart found alive other found' alive' ?_
    simp only [Segment.effectiveSize, Span.size, Span.Meets, Span.ofSize] at *
    omega

/-- Parent and child touch the first page of the segment that they share at different addresses,
and the child touches another segment. -/
def touching : List Operation :=
  sharing ++ [.faultTask ⟨1⟩ 0x13000 .readOnly, .shmget ⟨0⟩ privateKey 1 ⟨0o600⟩,
    .shmat ⟨1⟩ 2 0 ⟨0⟩, .faultTask ⟨1⟩ 0x11000 .readOnly]

/-- The shared page is one frame, and the page of the other segment is another. -/
theorem translation_sound_touching :
    let w := ({} : World).follow touching
    w.Reachable withoutKept ∧ w.kernel.PoolsApart ∧ ∃ first second third : Page,
      w.kernel.Translates ⟨0⟩ 0x10000 first ⟨0⟩ 0 ∧ w.kernel.Translates ⟨1⟩ 0x13000 second ⟨0⟩ 0 ∧
      w.kernel.Translates ⟨1⟩ 0x11000 third ⟨1⟩ 0 ∧ first.frame = second.frame ∧
      ¬ (Span.ofSize first.frame pageSize).Meets (.ofSize third.frame pageSize) := by
  intro w
  have reachable : w.Reachable withoutKept := reachable_follow (by decide +kernel) (by decide +kernel)
  have apart : w.kernel.PoolsApart := by
    have single : w.kernel.pools.cells.length = 1 := by decide +kernel
    rintro ⟨i⟩ ⟨i'⟩ _ _ pooled pooled' other
    have first : i < w.kernel.pools.cells.length := Slots.issued_of_get? pooled
    have second : i' < w.kernel.pools.cells.length := Slots.issued_of_get? pooled'
    have same : i = i' := by omega
    exact absurd (congrArg Handle.mk same) other
  have translates (t : Handle .task) (address : Nat) (page : Page) (v : Area)
      (s : Handle .segment) (object : v.object = .segment s)
      (state : ∃ task ∈ w.kernel.tasks.get? t, PageAligned task.space.range.start ∧
        (address, page) ∈ task.space.pages ∧ v ∈ task.space.areas ∧ v.HasPage address) :
      w.kernel.Translates t address page s (v.offset + (address - v.span.start)) := by
    obtain ⟨task, here, origin, member, inside, within⟩ := state
    exact ⟨task, v, here, origin, member, inside, within, object, rfl⟩
  have first := translates ⟨0⟩ 0x10000 ⟨0, .readWrite⟩
    ⟨⟨0x10000, 0x11000⟩, 0, .readWrite, .all, .segment ⟨0⟩⟩ ⟨0⟩ rfl (by decide +kernel)
  have second := translates ⟨1⟩ 0x13000 ⟨0, .readWrite⟩
    ⟨⟨0x13000, 0x16000⟩, 0, .readWrite, .all, .segment ⟨0⟩⟩ ⟨0⟩ rfl (by decide +kernel)
  have third := translates ⟨1⟩ 0x11000 ⟨0x3000, .readWrite⟩
    ⟨⟨0x11000, 0x12000⟩, 0, .readWrite, .all, .segment ⟨1⟩⟩ ⟨1⟩ rfl (by decide +kernel)
  obtain ⟨_, agree, distinct⟩ := translation_sound reachable
  exact ⟨reachable, apart, _, _, _, first, second, third, agree _ _ _ _ _ _ _ _ first second,
    distinct apart _ _ _ _ _ _ _ _ _ _ first third (by decide)⟩

end World

end SharedMemory
