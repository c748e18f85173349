import SharedMemory.Proofs.Determination
import SharedMemory.Proofs.Lineage

/-!
# What goes without a fault

While references are counted, registries account for their segments and pools belong to them
(`World.Sound`), nothing goes wrong when references that exist are given back, when segments that
are there are removed, and when areas are unmapped that map segments at bytes that a word can
count (`Area.MapsSegment`). As long as segments are mapped by system calls only, every area is
such an area.
-/

namespace SharedMemory

namespace Area

variable {v w : Area} {s : Span}

/-- An area that maps a segment, at bytes that a word can count. -/
structure MapsSegment (v : Area) : Prop where
  segment : ∃ s, v.object = .segment s
  fits : v.mappedBytes.stop < wordSize

/-- The offset at which a span meets an area is one that the area maps. -/
theorem overlapOffset_le (meets : v.span.Meets s) (nonempty : v.span.start < v.span.stop) :
    v.overlapOffset s ≤ v.mappedBytes.stop := by
  have := meets.2
  simp only [overlapOffset, overlap, mappedBytes, Span.ofSize, Span.size]
  omega

/-- A part of an area starts at an offset that the area maps. -/
theorem Part.offset_le (part : w.Part v) : w.offset ≤ v.mappedBytes.stop := by
  have := part.start
  have := part.stop
  have := part.nonempty
  simp only [part.offset, mappedBytes, Span.ofSize, Span.size]
  omega

/-- An area that maps a segment at addresses no smaller than the offsets that they map. -/
structure Raised (v : Area) : Prop where
  segment : ∃ s, v.object = .segment s
  offset : v.offset ≤ v.span.start

private theorem Raised.part (raised : v.Raised) (part : w.Part v) : w.Raised where
  segment := by
    rw [part.object]
    exact raised.segment
  offset := by
    have := raised.offset
    have := part.start
    rw [part.offset]
    omega

private theorem Raised.mapsSegment (raised : v.Raised) (nonempty : v.span.start < v.span.stop)
    (below : v.span.stop < wordSize) : v.MapsSegment where
  segment := raised.segment
  fits := by
    have := raised.offset
    simp only [mappedBytes, Span.ofSize, Span.size]
    omega

end Area

/-- An area that is mapped is raised. -/
def Deed.Raised : Deed → Prop
  | .map _ _ v => v.Raised
  | _ => True

namespace Kernel

variable {k k' : Kernel} {refs refs' : Multiset Object}

/-- Every area is raised. -/
def Raised (k : Kernel) : Prop := ∀ ref a, k.space? ref = some a → ∀ v ∈ a.areas, v.Raised

private theorem Raised.congr (raised : k.Raised) (same : k'.holderPart = k.holderPart) :
    k'.Raised := by
  intro ref a found
  rw [space?_congr same] at found
  exact raised ref a found

/-- In a space that is laid out well, an area that is raised maps a segment. -/
theorem Raised.mapsSegment {ref : SpaceRef} {a : AddressSpace} {v : Area} (raised : k.Raised)
    (laid : k.Laid) (found : k.space? ref = some a) (member : v ∈ a.areas) : v.MapsSegment := by
  have laid := laid.spaces found
  exact (raised ref a found v member).mapsSegment (laid.nonempty v member)
    (Nat.lt_of_le_of_lt (laid.below v member) laid.bounded)

/-- One turn leaves every area raised, if those that are mapped are. -/
theorem Turn.raised (turn : Turn Deed.Raised k refs k' refs') (laid : k.Laid)
    (raised : k.Raised) : k'.Raised := by
  intro ref b found' v member
  cases turn.stems laid found' member with
  | kept found before part => exact (raised _ _ found _ before).part part
  | copied _ found before => exact raised _ _ found _ before
  | mapped permitted => exact permitted

end Kernel

namespace World

open Kernel

/-- References are counted, and registries and pools account for the segments. -/
structure Sound (w : World) (k : Kernel) (refs : Multiset Object) : Prop where
  counted : k.Counted refs
  registered : k.Registered
  accounted : k.Accounted
  backed : Backed { w with kernel := k }

variable {w : World} {k k' : Kernel} {refs refs' : Multiset Object} {s : Handle .segment}
  {g g' : Segment}

private theorem Sound.turn (sound : w.Sound k refs) (turn : Turn (fun _ => True) k refs k' refs') :
    w.Sound k' refs' := by
  have development := turn.development sound.counted
  have developed : Development { w with kernel := k } { w with kernel := k' } :=
    .objects development
  exact ⟨turn.counted sound.counted, development.registered sound.registered,
    development.accounted sound.registered sound.accounted, developed.backed sound.backed⟩

/-- A course keeps references counted and accounts right. -/
theorem Sound.course (sound : w.Sound k refs) (course : Course (fun _ => True) k refs k' refs') :
    w.Sound k' refs' :=
  Chain.preserves w.Sound (fun turn sound => sound.turn turn) course sound

/-- Changes keep references counted and accounts right. -/
theorem Sound.changes (sound : w.Sound k refs) (changes : Changes (fun _ => True) k refs k' refs') :
    w.Sound k' refs' :=
  sound.course changes.course

/-- In every world that is reached references are counted and accounts right. -/
theorem Reachable.sound (reachable : w.Reachable anything) :
    w.Sound w.kernel w.kernel.held :=
  ⟨reachable.counted suits_anything, reachable.registered suits_anything,
    reachable.accounted suits_anything, reachable.backed suits_anything⟩

/-! ## References that are given back -/

/-- A segment that is destroyed is counted by its registry, if that is there, and its pool is
there to take its frames. -/
theorem Sound.faults_settle (sound : w.Sound k refs) (found : k.segments.get? s = some g)
    (shift : g.Shift g') : (k.settle s g').faults = k.faults := by
  rcases settle_cases found g' with ⟨same, _⟩ | ⟨same, alive, _⟩ <;> rw [same]
  · rfl
  have counted {registry} (here : k.registries.get? g'.registry = some registry) :
      g'.pages ≤ registry.totalPages := by
    rw [shift.evolves.registry] at here
    rw [Segment.pages, shift.evolves.effectiveSize]
    exact sound.accounted.pages_le sound.registered found (shift.destroyed ▸ alive) here
  obtain ⟨pool, pooled⟩ : ∃ pool, k.pools.get? g'.pool = some pool := by
    rw [shift.evolves.pool]
    exact Option.isSome_iff_exists.mp (sound.backed.pooled found)
  generalize placed : (k.setSegment s { g' with destroyed := true }).emit
    (.segmentDestroyed g'.id g'.backing) = k₁
  have registries : k₁.registries = k.registries := by rw [← placed]; rfl
  have forgotten : (k₁.forgetSegment g').faults = k.faults := by
    have before : k₁.faults = k.faults := by rw [← placed]; rfl
    unfold forgetSegment
    split
    case h_1 registry here =>
      rw [registries] at here
      split
      · rw [require, if_pos (counted here)]
        exact before
      · exact before
    case h_2 => exact before
  have still : (k₁.forgetSegment g').pools.get? g'.pool = some pool := by
    rw [objects_forgetSegment.1, ← placed]
    exact pooled
  rw [retire, placed, releaseFrames, still]
  exact forgotten

/-- To give up a reference that is counted notes no fault. -/
theorem Sound.faults_release (sound : w.Sound k (.segment s ::ₘ refs)) :
    (k.release (.segment s)).faults = k.faults := by
  obtain ⟨g, found, positive⟩ := sound.counted.segment (Multiset.mem_cons_self _ _)
  rw [release, releaseSegment_eq_settle found positive]
  exact sound.faults_settle found (.release positive)

private theorem Sound.faults_releaseEach {objects : List Object}
    (sound : w.Sound k (Multiset.ofList objects + refs))
    (segments : ∀ object ∈ objects, ∃ s, object = .segment s) :
    (k.releaseEach objects).faults = k.faults := by
  induction objects generalizing k with
  | nil => rfl
  | cons object rest ih =>
      obtain ⟨s, rfl⟩ := segments object (List.mem_cons_self ..)
      rw [← Multiset.cons_coe, Multiset.cons_add] at sound
      have released : w.Sound (k.release (.segment s)) (Multiset.ofList rest + refs) :=
        sound.changes (.single (.release _))
      have others := ih released fun other member => segments other (List.mem_cons_of_mem _ member)
      exact others.trans sound.faults_release

/-- To drop an address space of segments notes no fault. -/
theorem Sound.faults_dropSpaceValue {a : AddressSpace} (sound : w.Sound k (a.mapped + refs))
    (segments : a.OfSegments) : (k.dropSpaceValue a).faults = k.faults := by
  unfold dropSpaceValue
  split
  · exact sound.faults_releaseEach segments.objects
  · have noted : w.Sound (k.emit (.spaceDropped a.areas.length)) (a.mapped + refs) :=
      sound.changes (.single (.emit _ rfl))
    exact noted.faults_releaseEach segments.objects

/-! ## Segments that are removed -/

/-- To mark segments that are there notes no fault. -/
theorem Sound.faults_markEach {handles : List (Handle .segment)} (sound : w.Sound k refs)
    (present : ∀ s ∈ handles, (k.segments.get? s).isSome) :
    (handles.foldl markDestroyed k).faults = k.faults := by
  induction handles generalizing k with
  | nil => rfl
  | cons s rest ih =>
      obtain ⟨g, found⟩ := Option.isSome_iff_exists.mp (present s (List.mem_cons_self ..))
      have marked : Changes (fun _ => True) k refs (k.markDestroyed s) refs :=
        .single (.markDestroyed s trivial)
      have others : ∀ s' ∈ rest, ((k.markDestroyed s).segments.get? s').isSome := by
        intro s' member
        obtain ⟨g', found'⟩ :=
          Option.isSome_iff_exists.mp (present s' (List.mem_cons_of_mem _ member))
        obtain ⟨g'', there, _⟩ := marked.course.evolves found'
        rw [there]
        rfl
      rw [List.foldl_cons, ih (sound.changes marked) others, markDestroyed_eq_settle found]
      exact sound.faults_settle found .remove

/-- To collect a namespace notes no fault. -/
theorem Sound.faults_collectNamespace (sound : w.Sound k refs) (r : Handle .registry) :
    (k.collectNamespace r).faults = k.faults := by
  unfold collectNamespace
  split
  case h_1 registry here =>
    split
    case isTrue =>
      have present : ∀ s ∈ registry.table.map (·.2), (k.segments.get? s).isSome := by
        intro s member
        obtain ⟨entry, listed, rfl⟩ := List.mem_map.mp member
        exact (sound.accounted.registries here).present entry listed
      have marked : (k.releaseAll r).faults = k.faults := by
        simp only [releaseAll, here]
        exact sound.faults_markEach present
      exact marked
    case isFalse => rfl
  case h_2 => rfl

/-- To drop the handle of a namespace notes no fault. -/
theorem Sound.faults_dropNamespace (sound : w.Sound k refs) (r : Handle .registry) :
    (k.dropNamespace r).faults = k.faults := by
  unfold dropNamespace
  split
  case h_1 registry here =>
    split
    · have unheld : w.Sound (k.setRegistry r { registry with holder := .ipc false }) refs :=
        sound.changes (.single (.unhold here trivial))
      exact unheld.faults_collectNamespace r
    · rfl
  case h_2 => rfl

/-! ## Areas that are unmapped -/

private theorem faults_notifyRemoved (found : k.segments.get? s = some g) (q : Requester)
    (span : Span)
    (offset : Nat) : (k.notifyRemoved q (.segment s) span offset).faults = k.faults := by
  simp only [notifyRemoved, found]
  split <;> rfl

/-- Pieces of a segment that is there take their references. -/
theorem faults_kept (q : Requester) {pieces : List Area} (found : k.segments.get? s = some g)
    (fits : ∀ piece ∈ pieces, piece.offset < wordSize) :
    ((pieces.map fun piece => Effect.kept (.segment s) piece.offset).foldl (perform q) k).faults =
      k.faults := by
  induction pieces generalizing k g with
  | nil => rfl
  | cons piece rest ih =>
      have first : perform q k (.kept (.segment s) piece.offset) =
          k.setSegment s { g with attachCount := g.attachCount + 1 } := by
        simp only [perform, require, fits piece (List.mem_cons_self ..), if_true, acquire, found]
      rw [List.map_cons, List.foldl_cons, first]
      exact ih (Slots.get?_set_self found _) fun other member =>
        fits other (List.mem_cons_of_mem _ member)

/-- An area is unmapped in part: its segment, which is there, is told, what remains takes
references, and the reference of the area is given back, which exists. -/
theorem Sound.faults_effects {v : Area} {span : Span} (sound : w.Sound k (v.object ::ₘ refs))
    (maps : v.MapsSegment) (nonempty : v.span.start < v.span.stop)
    (upright : span.start ≤ span.stop) (q : Requester) :
    ((v.effects span).foldl (perform q) k).faults = k.faults := by
  by_cases meets : v.span.Meets span
  case neg => rw [Area.effects, if_neg meets, List.foldl_nil]
  obtain ⟨⟨s, object⟩, fits⟩ := maps
  have ordered : (v.overlap span).start ≤ (v.overlap span).stop := by
    have := meets.1
    have := meets.2
    simp only [Area.overlap]
    omega
  have offset := Nat.lt_of_le_of_lt (Area.overlapOffset_le meets nonempty) fits
  have pieces : ∀ piece ∈ v.remains span, piece.offset < wordSize := by
    intro piece member
    have remains : piece ∈ v.without span := by rwa [Area.without, if_pos meets]
    exact Nat.lt_of_le_of_lt (Area.part_of_mem_without nonempty remains).offset_le fits
  rw [object] at sound
  obtain ⟨g, found, _⟩ := sound.counted.segment (Multiset.mem_cons_self _ _)
  -- The segment is told, and is still there.
  have told : Changes (fun _ => True) k (.segment s ::ₘ refs)
      (k.notifyRemoved q (.segment s) (v.overlap span) (v.overlapOffset span))
      (.segment s ::ₘ refs) := changes_notifyRemoved q _ _ _
  obtain ⟨g', found', _⟩ := told.course.evolves found
  have kept := faults_kept q found' pieces
  have taken : Changes (fun _ => True) _ _ _ _ :=
    told.trans (changes_kept q (v.remains span) (Multiset.mem_cons_self _ _))
  rw [Multiset.add_cons] at taken
  have last := (sound.changes (taken.tail (.emit (.unmapped (v.overlap span)) rfl))).faults_release
  rw [Area.effects, if_pos meets, object]
  simp only [List.cons_append, List.foldl_cons, List.foldl_append, List.foldl_nil, perform,
    require, if_pos (And.intro ordered offset)]
  exact last.trans (kept.trans (faults_notifyRemoved found q _ _))

private theorem Sound.faults_effectsEach {areas : List Area} {span : Span}
    (sound : w.Sound k (Multiset.ofList (areas.map (·.object)) + refs))
    (maps : ∀ v ∈ areas, v.MapsSegment) (nonempty : ∀ v ∈ areas, v.span.start < v.span.stop)
    (upright : span.start ≤ span.stop) (q : Requester) :
    ((areas.flatMap (·.effects span)).foldl (perform q) k).faults = k.faults := by
  induction areas generalizing k refs with
  | nil => rfl
  | cons v rest ih =>
      rw [List.map_cons, ← Multiset.cons_coe, Multiset.cons_add] at sound
      have first := sound.faults_effects (maps v (List.mem_cons_self ..))
        (nonempty v (List.mem_cons_self ..)) upright q
      have unmapped := sound.changes (changes_effects q v span)
      rw [add_left_comm] at unmapped
      have others := ih unmapped (fun w member => maps w (List.mem_cons_of_mem _ member))
        fun w member => nonempty w (List.mem_cons_of_mem _ member)
      rw [List.flatMap_cons, List.foldl_append]
      exact others.trans first

/-- A span is unmapped from an address space that maps segments. -/
theorem Sound.faults_unmapSpan {ref : SpaceRef} {a : AddressSpace} {span : Span}
    (sound : w.Sound k (k.held + refs)) (laid : k.Laid) (found : k.space? ref = some a)
    (cut : a.CleanCut span) (maps : ∀ v ∈ a.areas, v.MapsSegment) (q : Requester) :
    (k.unmapSpan ref q span).faults = k.faults := by
  obtain ⟨rest, held, _⟩ := held_setSpace found
  have unmapped : w.Sound (k.setSpace (a.unmap span) ref) (k.held + refs) :=
    sound.turn (.unmap found cut)
  have same : (k.setSpace (a.unmap span) ref).faults = k.faults :=
    congrArg (·.faults) (objectPart_setSpace _ _)
  have upright : k.require (span.start ≤ span.stop) .arithmetic = k := if_pos cut.upright
  rw [held, add_assoc] at unmapped
  simp only [unmapSpan, found, upright]
  rw [← same]
  exact unmapped.faults_effectsEach maps (laid.spaces found).nonempty cut.upright q

/-! ## Areas that system calls map -/

/-- Without kept requests, every area that is mapped is raised. -/
theorem suits_raised : Suits withoutKept Deed.Raised := by
  refine suits_mapsWhole.mono fun d whole => ?_
  cases d with
  | map _ _ v =>
      obtain ⟨segment, start⟩ := whole
      refine ⟨segment, ?_⟩
      rw [start]
      exact Nat.zero_le _
  | _ => trivial

private theorem Step.raised {w' : World} (step : Step Deed.Raised w w') (laid : w.kernel.Laid)
    (raised : w.kernel.Raised) : w'.kernel.Raised :=
  step.kernel Raised Turn.raised (fun holders _ raised => raised.congr holders) laid raised

/-- In every world that is reached without kept requests every area is raised. -/
theorem Reachable.raised (reachable : w.Reachable withoutKept) : w.kernel.Raised := by
  have both := reachable.invariant suits_raised (fun w => w.kernel.Laid ∧ w.kernel.Raised)
    (fun step ⟨laid, raised⟩ => ⟨step.laid laid, step.raised laid raised⟩)
    ⟨laid_start, fun ref a found => ?_⟩
  · exact both.2
  · rw [space?_start] at found
    cases found

/-- As long as segments are mapped by system calls only, all that is mapped are segments, at bytes
that a word can count. -/
theorem Reachable.mapsSegment (reachable : w.Reachable withoutKept) {ref : SpaceRef}
    {a : AddressSpace} (found : w.kernel.space? ref = some a) {v : Area} (member : v ∈ a.areas) :
    v.MapsSegment :=
  reachable.raised.mapsSegment (reachable.laid suits_raised) found member

end World

end SharedMemory
