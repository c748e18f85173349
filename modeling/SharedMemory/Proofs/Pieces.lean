import SharedMemory.Proofs.Detachment
import SharedMemory.Proofs.Unmapping

/-!
# Detaching piece by piece

A segment is detached in pieces: first the areas that map it within its size are looked up, then the
span of each is unmapped on its own. No span touches an area but the one that it was taken from,
whatever the spans before it have cut. So the pieces together shed what these areas had, as if they
were unmapped at once (`Kernel.unmapEach_overlaps`).
-/

namespace SharedMemory

/-! ## Areas and their pieces -/

namespace Area

variable {v w : Area} {s : Span}

private theorem overlap_overlap (v : Area) (s : Span) : v.overlap (v.overlap s) = v.overlap s := by
  simp only [overlap, Span.mk.injEq]
  omega

private theorem meets_overlap (nonempty : v.span.start < v.span.stop) (meets : v.span.Meets s) :
    v.span.Meets (v.overlap s) := by
  have := meets.1
  have := meets.2
  simp only [Span.Meets, overlap]
  omega

private theorem upright_overlap (nonempty : v.span.start < v.span.stop) (upright : s.start ≤ s.stop)
    (meets : v.span.Meets s) : (v.overlap s).start ≤ (v.overlap s).stop := by
  have := meets.1
  have := meets.2
  simp only [overlap]
  omega

/-- Areas that lie apart do not meet each other's pieces. -/
theorem not_meets_overlap (apart : w.span.stop ≤ v.span.start ∨ v.span.stop ≤ w.span.start)
    (s : Span) : ¬ w.span.Meets (v.overlap s) := by
  simp only [Span.Meets, overlap]
  omega

/-- An area is cut by its piece of a span as by the span. -/
theorem effects_overlap (nonempty : v.span.start < v.span.stop) (meets : v.span.Meets s) :
    v.effects (v.overlap s) = v.effects s := by
  simp only [effects, meets, meets_overlap nonempty meets, if_true, overlap_overlap, overlapOffset,
    remains]

private theorem without_overlap (nonempty : v.span.start < v.span.stop) (meets : v.span.Meets s) :
    v.without (v.overlap s) = v.remains s := by
  simp only [without, meets_overlap nonempty meets, if_true, remains, overlap_overlap]

end Area

namespace AddressSpace

variable {a : AddressSpace} {v w u : Area} {s : Span} {cut : List Area} {spans : List Span}

/-- When a piece of an area is unmapped, only the area is cut. -/
theorem Ordered.unmapEffects_overlap (ordered : a.Ordered) (member : v ∈ a.areas)
    (meets : v.span.Meets s) : a.unmapEffects (v.overlap s) = v.effects s := by
  obtain ⟨before, behind, areas⟩ := List.append_of_mem member
  have ascending := ordered.ascending
  rw [areas, List.pairwise_append] at ascending
  obtain ⟨_, ascending, earlier⟩ := ascending
  obtain ⟨later, _⟩ := List.pairwise_cons.mp ascending
  have first : before.flatMap (·.effects (v.overlap s)) = [] := by
    rw [List.flatMap_eq_nil_iff]
    intro w inside
    exact if_neg (Area.not_meets_overlap (.inl (earlier w inside v (List.mem_cons_self ..))) s)
  have last : behind.flatMap (·.effects (v.overlap s)) = [] := by
    rw [List.flatMap_eq_nil_iff]
    intro w inside
    exact if_neg (Area.not_meets_overlap (.inr (later w inside)) s)
  rw [unmapEffects, areas, List.flatMap_append, List.flatMap_cons, first, last, List.nil_append,
    List.append_nil, Area.effects_overlap (ordered.nonempty v member) meets]

private theorem mem_unmap (member : v ∈ a.areas) (spared : ¬ v.span.Meets s) :
    v ∈ (a.unmap s).areas := by
  have whole : v.without s = [v] := if_neg spared
  exact mem_areas_unmap.mpr ⟨v, member, whole ▸ List.mem_singleton.mpr rfl⟩

/-- An area that meets none of the spans that are unmapped stays. -/
theorem mem_foldl_unmap (member : v ∈ a.areas) (spared : ∀ s ∈ spans, ¬ v.span.Meets s) :
    v ∈ (spans.foldl unmap a).areas := by
  induction spans generalizing a with
  | nil => exact member
  | cons s rest ih =>
      exact ih (mem_unmap member (spared s (List.mem_cons_self ..)))
        fun s' later => spared s' (List.mem_cons_of_mem _ later)

/-- Whatever pieces of other areas are unmapped, what remains of an area beside its own piece are
areas. -/
theorem Ordered.remains_foldl_unmap (ordered : a.Ordered) (upright : s.start ≤ s.stop)
    (among : ∀ v ∈ cut, v ∈ a.areas) (apart : cut.Pairwise (·.span.stop ≤ ·.span.start))
    (meets : ∀ v ∈ cut, v.span.Meets s) (member : v ∈ cut) (remains : u ∈ v.remains s) :
    u ∈ ((cut.map (·.overlap s)).foldl AddressSpace.unmap a).areas := by
  induction cut generalizing a with
  | nil => cases member
  | cons w rest ih =>
      have inside := among w (List.mem_cons_self ..)
      have nonempty := ordered.nonempty w inside
      have cutting := meets w (List.mem_cons_self ..)
      obtain ⟨later, apart⟩ := List.pairwise_cons.mp apart
      rw [List.map_cons, List.foldl_cons]
      rcases List.mem_cons.mp member with rfl | member
      · rw [← Area.without_overlap nonempty cutting] at remains
        have part := Area.part_of_mem_without nonempty remains
        refine mem_foldl_unmap (mem_areas_unmap.mpr ⟨v, inside, remains⟩) fun piece other => ?_
        obtain ⟨x, among, rfl⟩ := List.mem_map.mp other
        exact Area.not_meets_overlap (.inl (Nat.le_trans part.stop (later x among))) s
      · refine ih (ordered.unmap (Area.upright_overlap nonempty upright cutting))
          (fun x among' => mem_unmap (among x (List.mem_cons_of_mem _ among')) ?_) apart
          (fun x among' => meets x (List.mem_cons_of_mem _ among')) member
        exact Area.not_meets_overlap (.inr (later x among')) s

/-- The areas that map an object and meet a span. -/
def areasWithin (a : AddressSpace) (object : Object) (s : Span) : List Area :=
  a.areas.filter fun v => v.object = object ∧ v.span.Meets s

/-- The areas within a span are those that map the object and meet it. -/
theorem mem_areasWithin {object : Object} :
    v ∈ a.areasWithin object s ↔ v ∈ a.areas ∧ v.object = object ∧ v.span.Meets s := by
  simp only [areasWithin, List.mem_filter, decide_eq_true_eq]

/-- From an address where an area starts on, an area meets a span if and only if it starts there. -/
theorem Ordered.meets_iff (ordered : a.Ordered) (member : v ∈ a.areas)
    (start : v.span.start = s.start) (inside : w ∈ a.areas) :
    w.span.Meets s ↔ s.Contains w.span.start := by
  have nonempty := ordered.nonempty w inside
  constructor
  · intro meets
    have holds : w.span.Contains (max w.span.start s.start) :=
      ⟨Nat.le_max_left _ _, Nat.max_lt.mpr ⟨nonempty, meets.2⟩⟩
    have behind := ordered.start_le member inside holds (start ▸ Nat.le_max_right _ _)
    exact ⟨start ▸ behind, meets.1⟩
  · intro within
    exact ⟨within.2, Nat.lt_of_le_of_lt within.1 nonempty⟩

/-- The spans that detaching unmaps are the pieces of the areas that map the segment. -/
theorem Ordered.piecesWithin_eq {object : Object} (ordered : a.Ordered) (member : v ∈ a.areas)
    (start : v.span.start = s.start) :
    a.piecesWithin object s = (a.areasWithin object s).map (·.overlap s) := by
  have same : a.areasWithin object s =
      a.areas.filter fun w => s.Contains w.span.start ∧ w.object = object := by
    refine List.filter_congr fun w inside => ?_
    rw [decide_eq_decide, ordered.meets_iff member start inside, and_comm]
  rw [same, piecesWithin]
  refine List.map_congr_left fun w taken => ?_
  have behind := (of_decide_eq_true (List.mem_filter.mp taken).2).1.1
  rw [Area.overlap, Nat.max_eq_left behind]

end AddressSpace

namespace Kernel

open KernelM

variable {k k' : Kernel} {ref : SpaceRef} {a b : AddressSpace} {q : Requester}

/-! ## The objects apart from their holders -/

/-- A kernel is its objects and its holders. -/
theorem eq_of_parts (objects : k'.objectPart = k.objectPart)
    (holders : k'.holderPart = k.holderPart) : k' = k := by
  cases k
  cases k'
  simp only [objectPart, holderPart, mk.injEq] at objects holders
  simp only [mk.injEq]
  tauto

@[simp] theorem objectPart_emit (e : Event) : (k.emit e).objectPart = k.objectPart.emit e := rfl

@[simp] theorem objectPart_halt (cause : Fault) :
    (k.halt cause).objectPart = k.objectPart.halt cause := rfl

@[simp] theorem objectPart_setSegment (s : Handle .segment) (g : Segment) :
    (k.setSegment s g).objectPart = k.objectPart.setSegment s g := rfl

@[simp] theorem objectPart_setRegistry (r : Handle .registry) (registry : Registry) :
    (k.setRegistry r registry).objectPart = k.objectPart.setRegistry r registry := rfl

@[simp] theorem objectPart_setWindow (w : Handle .window) (window : Window) :
    (k.setWindow w window).objectPart = k.objectPart.setWindow w window := rfl

@[simp] theorem objectPart_setPool (p : Handle .pool) (pool : FramePool) :
    (k.setPool p pool).objectPart = k.objectPart.setPool p pool := rfl

@[simp] theorem objectPart_require (condition : Prop) [Decidable condition] (cause : Fault) :
    (k.require condition cause).objectPart = k.objectPart.require condition cause := by
  unfold require
  split <;> rfl

@[simp] theorem objectPart_releaseFrames (p : Handle .pool) (span : Span) :
    (k.releaseFrames p span).objectPart = k.objectPart.releaseFrames p span := by
  have same : k.objectPart.pools = k.pools := rfl
  simp only [releaseFrames, same]
  split <;> rfl

@[simp] theorem objectPart_forgetSegment (g : Segment) :
    (k.forgetSegment g).objectPart = k.objectPart.forgetSegment g := by
  have same : k.objectPart.registries = k.registries := rfl
  simp only [forgetSegment, same]
  split
  · split <;> simp
  · rfl

@[simp] theorem objectPart_destroy (s : Handle .segment) :
    (k.destroy s).objectPart = k.objectPart.destroy s := by
  have same : k.objectPart.segments = k.segments := rfl
  simp only [destroy, same]
  split
  · split <;> simp
  · rfl

@[simp] theorem objectPart_acquire (object : Object) :
    (k.acquire object).objectPart = k.objectPart.acquire object := by
  have segments : k.objectPart.segments = k.segments := rfl
  have windows : k.objectPart.windows = k.windows := rfl
  cases object <;> simp only [acquire, segments, windows] <;> split <;> rfl

@[simp] theorem objectPart_release (object : Object) :
    (k.release object).objectPart = k.objectPart.release object := by
  cases object with
  | segment s =>
      have same : k.objectPart.segments = k.segments := rfl
      simp only [release, releaseSegment, same]
      split
      · split <;> simp
      · rfl
  | window w =>
      have same : k.objectPart.windows = k.windows := rfl
      simp only [release, same]
      split <;> simp

@[simp] theorem objectPart_notifyRemoved (q : Requester) (object : Object) (span : Span)
    (offset : Nat) :
    (k.notifyRemoved q object span offset).objectPart =
      k.objectPart.notifyRemoved q object span offset := by
  cases object with
  | segment s =>
      have same : k.objectPart.segments = k.segments := rfl
      simp only [notifyRemoved, same]
      split
      · split <;> rfl
      · rfl
  | window w =>
      have same : k.objectPart.windows = k.windows := rfl
      simp only [notifyRemoved, same]
      split <;> rfl

private theorem objectPart_perform (q : Requester) (k : Kernel) (e : Effect) :
    (perform q k e).objectPart = perform q k.objectPart e := by
  cases e <;> simp [perform]

private theorem holderPart_perform (q : Requester) (k : Kernel) (e : Effect) :
    (perform q k e).holderPart = k.holderPart := by
  cases e with
  | removed object span offset =>
      have told : Changes idle _ 0 _ 0 := changes_notifyRemoved q object span offset
        (k := k.require (span.start ≤ span.stop ∧ offset < wordSize) .arithmetic)
      exact told.holderPart.trans (holderPart_require _ _)
  | kept object offset => simp [perform]
  | unmapped span => rfl
  | dropped object => simp [perform]

/-- To put an address space in place concerns the holders alone. -/
theorem holderPart_setSpace (b : AddressSpace) (ref : SpaceRef) :
    (k.setSpace b ref).holderPart = k.holderPart.setSpace b ref := by
  have same : k.holderPart.tasks = k.tasks := rfl
  cases ref with
  | alone id => rfl
  | ofTask t =>
      simp only [setSpace, same]
      split <;> rfl

/-- It makes no difference whether an address space is replaced before or after something happens
to the objects. -/
theorem setSpace_perform (q : Requester) (k : Kernel) (e : Effect) (b : AddressSpace)
    (ref : SpaceRef) : (perform q k e).setSpace b ref = perform q (k.setSpace b ref) e := by
  apply eq_of_parts
  · rw [objectPart_setSpace, objectPart_perform, objectPart_perform, objectPart_setSpace]
  · rw [holderPart_setSpace, holderPart_perform, holderPart_perform, holderPart_setSpace]

private theorem setSpace_performEach (q : Requester) (k : Kernel) (effects : List Effect)
    (b : AddressSpace) (ref : SpaceRef) : (effects.foldl (perform q) k).setSpace b ref =
    effects.foldl (perform q) (k.setSpace b ref) := by
  induction effects generalizing k with
  | nil => rfl
  | cons e rest ih => rw [List.foldl_cons, List.foldl_cons, ih, setSpace_perform]

/-- To put an address space where it is changes nothing. -/
theorem setSpace_self (found : k.space? ref = some a) : k.setSpace a ref = k := by
  cases ref with
  | alone id =>
      have same : k.spaces.set id a = k.spaces := Slots.set_self found
      simp only [setSpace, same]
  | ofTask t =>
      obtain ⟨task, here, rfl⟩ := Option.map_eq_some_iff.mp found
      have same : k.tasks.set t task = k.tasks := Slots.set_self here
      simp only [setSpace, here, setTask, same]

private theorem setSpace_setSpace (found : k.space? ref = some a) (b c : AddressSpace) :
    (k.setSpace b ref).setSpace c ref = k.setSpace c ref := by
  cases ref with
  | alone id => simp only [setSpace, Slots.set_set found]
  | ofTask t =>
      obtain ⟨task, here, rfl⟩ := Option.map_eq_some_iff.mp found
      simp only [setSpace, here, setTask, Slots.get?_set_self here, Slots.set_set here]

/-! ## Pieces that are unmapped one after the other -/

variable {cut : List Area} {s : Span}

/-- Areas whose pieces of a span are unmapped one after the other shed them as if they were unmapped
at once. -/
theorem unmapEach_overlaps (found : k.space? ref = some a) (ordered : a.Ordered)
    (upright : s.start ≤ s.stop) (among : ∀ v ∈ cut, v ∈ a.areas)
    (apart : cut.Pairwise (·.span.stop ≤ ·.span.start)) (meets : ∀ v ∈ cut, v.span.Meets s)
    (q : Requester) :
    k.unmapEach ref q (cut.map (·.overlap s)) =
      (cut.flatMap (·.effects s)).foldl (perform q)
        (k.setSpace ((cut.map (·.overlap s)).foldl AddressSpace.unmap a) ref) := by
  induction cut generalizing k a with
  | nil => exact (setSpace_self found).symm
  | cons v rest ih =>
      have member := among v (List.mem_cons_self ..)
      have cutting := meets v (List.mem_cons_self ..)
      obtain ⟨later, apart⟩ := List.pairwise_cons.mp apart
      have upright' := Area.upright_overlap (ordered.nonempty v member) upright cutting
      have required : k.require ((v.overlap s).start ≤ (v.overlap s).stop) .arithmetic = k :=
        if_pos upright'
      have first : k.unmapSpan ref q (v.overlap s) =
          (v.effects s).foldl (perform q) (k.setSpace (a.unmap (v.overlap s)) ref) := by
        simp only [unmapSpan, found, required, ordered.unmapEffects_overlap member cutting]
      -- The other areas are still whole when the piece of the first one is gone.
      have others : ∀ w ∈ rest, w ∈ (a.unmap (v.overlap s)).areas := by
        intro w inside
        exact AddressSpace.mem_unmap (among w (List.mem_cons_of_mem _ inside))
          (Area.not_meets_overlap (.inr (later w inside)) s)
      let left := (rest.map (·.overlap s)).foldl AddressSpace.unmap (a.unmap (v.overlap s))
      calc k.unmapEach ref q ((v :: rest).map (·.overlap s))
          = (k.unmapSpan ref q (v.overlap s)).unmapEach ref q (rest.map (·.overlap s)) := rfl
        _ = (rest.flatMap (·.effects s)).foldl (perform q)
              ((k.unmapSpan ref q (v.overlap s)).setSpace left ref) :=
            ih (space?_unmapSpan found q (v.overlap s)) (ordered.unmap upright') others apart
              fun w inside => meets w (List.mem_cons_of_mem _ inside)
        _ = (rest.flatMap (·.effects s)).foldl (perform q)
              ((v.effects s).foldl (perform q) (k.setSpace left ref)) := by
            rw [first, setSpace_performEach, setSpace_setSpace found]
        _ = ((v :: rest).flatMap (·.effects s)).foldl (perform q) (k.setSpace left ref) := by
            rw [List.flatMap_cons, List.foldl_append]

/-! ## Detaching -/

/-- Effects on a segment reach no window. -/
theorem windows_perform {e : Effect} (segment : e.OfSegment) (q : Requester) (k : Kernel) :
    (perform q k e).windows = k.windows := by
  cases e with
  | removed object span offset =>
      obtain ⟨h, rfl⟩ := segment
      simp only [perform, notifyRemoved]
      split
      · split <;> exact (objects_require _ _).2.2.2.1
      · exact (objects_require _ _).2.2.2.1
  | kept object offset =>
      obtain ⟨h, rfl⟩ := segment
      exact (agree_acquire h).windows.trans (agree_require _ _).windows
  | unmapped span => rfl
  | dropped object =>
      obtain ⟨h, rfl⟩ := segment
      exact (agree_release h).windows

private theorem windows_performEach {effects : List Effect} (segments : ∀ e ∈ effects, e.OfSegment)
    (q : Requester) (k : Kernel) : (effects.foldl (perform q) k).windows = k.windows := by
  induction effects generalizing k with
  | nil => rfl
  | cons e rest ih =>
      rw [List.foldl_cons, ih fun e' later => segments e' (List.mem_cons_of_mem _ later),
        windows_perform (segments e (List.mem_cons_self ..))]

/-- Nothing that is done to one segment reaches another one. -/
theorem immune_others (r : Handle .registry) {s h : Handle .segment} (other : h ≠ s) (g : Segment) :
    Immune r (· = .segment s) (fun k => k.segments.get? h = some g) where
  emit := id
  halt := id
  segment := by
    intro k s' g₁ g₂ own _ _ there
    cases own
    exact (Slots.get?_set_of_ne other.symm _ _).trans there
  registry := fun _ _ _ _ => id
  pool := fun _ _ => id
  window := id
  added := by
    intro k registry g' pages _ _ there
    exact (Slots.get?_insert_of_ne (Slots.ne_fresh there) _).trans there
  space := by
    intro k ref a a' _ _ there
    rw [segments_setSpace]
    exact there
  task := fun _ _ => id

/-- A segment is severed from an extent of an address space, and another address space is left. -/
structure Severs (k : Kernel) (ref : SpaceRef) (q : Requester) (a : AddressSpace)
    (s : Handle .segment) (extent : Span) (b : AddressSpace) (k' : Kernel) : Prop where
  /-- The addresses of the extent that map the segment lose all that they show, and no others do. -/
  loses : a.Loses (fun address => extent.Contains address ∧ a.MapsAt (.segment s) address) b
  sheds : k.Sheds ref q (a.areasWithin (.segment s) extent) extent b k'
  /-- Where an area of the segment reaches out of the extent, the rest of it stays. -/
  remainders : ∀ v ∈ a.areasWithin (.segment s) extent, ∀ u ∈ v.remains extent, u ∈ b.areas
  windows : k'.windows = k.windows
  segments : ∀ h g, h ≠ s → k.segments.get? h = some g → k'.segments.get? h = some g

private theorem detach_of_attached {address : Nat} {h : Handle .segment} {g : Segment}
    (found : k.space? ref = some a) (attached : attachedFrom? a address = some h)
    (present : k.segments.get? h = some g) (q : Requester) :
    detach ref q address k = .ok () (k.unmapEach ref q
      (a.piecesWithin (.segment h) ⟨address, addSaturating address g.effectiveSize⟩)) := by
  apply Ends.eq_ok
  simp [detach, found, attached, present]

private theorem detach_of_unattached {address : Nat} (found : k.space? ref = some a)
    (unattached : attachedFrom? a address = none) (q : Requester) :
    detach ref q address k = .error .einval k := by
  apply Ends.eq_error
  simp [detach, found, unattached]

/-- What an area maps is there. -/
theorem Counted.segment_of_mapped {v : Area} {h : Handle .segment} {others : Multiset Object}
    (counted : k.Counted (a.mapped + others)) (member : v ∈ a.areas)
    (object : v.object = .segment h) : ∃ g, k.segments.get? h = some g := by
  have mapped : .segment h ∈ a.mapped := List.mem_map.mpr ⟨v, member, object⟩
  obtain ⟨rest, refs⟩ := Multiset.exists_cons_of_mem (Multiset.mem_add.mpr (.inl mapped))
  rw [refs] at counted
  obtain ⟨g, present, _⟩ := Option.map_eq_some_iff.mp counted.exists_succ
  exact ⟨g, present⟩

/-- To unmap the pieces that a segment has in an extent severs it from the extent. -/
theorem unmapEach_severs {v : Area} {h : Handle .segment} {extent : Span}
    {others : Multiset Object} (found : k.space? ref = some a) (ordered : a.Ordered)
    (counted : k.Counted (a.mapped + others)) (member : v ∈ a.areas)
    (start : v.span.start = extent.start) (upright : extent.start ≤ extent.stop) (q : Requester) :
    k.Severs ref q a h extent
      ((a.piecesWithin (.segment h) extent).foldl AddressSpace.unmap a)
      (k.unmapEach ref q (a.piecesWithin (.segment h) extent)) := by
  have among : (a.areasWithin (.segment h) extent).Sublist a.areas := List.filter_sublist
  have apart := ordered.ascending.sublist among
  have own : ∀ w ∈ a.areasWithin (.segment h) extent, w.object = .segment h :=
    fun w taken => (AddressSpace.mem_areasWithin.mp taken).2.1
  have meets : ∀ w ∈ a.areasWithin (.segment h) extent, w.span.Meets extent :=
    fun w taken => (AddressSpace.mem_areasWithin.mp taken).2.2
  have pieces : a.piecesWithin (.segment h) extent =
      (a.areasWithin (.segment h) extent).map (·.overlap extent) :=
    ordered.piecesWithin_eq member start
  have performed := unmapEach_overlaps found ordered upright (fun _ => (among.subset ·)) apart
    meets q
  rw [← pieces] at performed
  constructor
  case loses =>
    have cuts : ∀ piece ∈ a.piecesWithin (.segment h) extent, piece.start ≤ piece.stop :=
      fun _ piece => upright_of_mem_piecesWithin ordered piece
    have loses := ordered.loses_foldl_unmap cuts
    exact ⟨fun within => loses.gone ((ordered.exists_piece_iff member start).mpr within),
      fun spared => loses.kept (mt (ordered.exists_piece_iff member start).mp spared)⟩
  case sheds =>
    rw [performed]
    exact sheds_performed found ordered counted among meets upright q _
  case remainders =>
    intro w taken u remains
    rw [pieces]
    exact ordered.remains_foldl_unmap upright (fun _ => (among.subset ·)) apart meets taken remains
  case windows =>
    rw [performed, windows_performEach (fun e member => ?_), windows_setSpace]
    obtain ⟨w, taken, effect⟩ := List.mem_flatMap.mp member
    exact Area.ofSegment_of_mem_effects ⟨h, own w taken⟩ effect
  case segments =>
    intro h' g other present
    rw [performed]
    refine (immune_others ⟨0⟩ other g).performEach q (fun e member => ?_) ?_
    · obtain ⟨w, taken, effect⟩ := List.mem_flatMap.mp member
      exact Area.concerns_of_mem_effects (own w taken) effect
    · rw [segments_setSpace]
      exact present

/-- Detaching succeeds where an area starts that maps a segment from its start on, and there only.
It severs the segment from its size of addresses, cut off at the end of the word. Where nothing is
attached, nothing happens. -/
theorem detaches_exactly {others : Multiset Object} (found : k.space? ref = some a)
    (ordered : a.Ordered) (counted : k.Counted (a.mapped + others)) (q : Requester)
    {address : Nat} (word : address < wordSize) :
    (∀ v ∈ a.areas, ∀ h, v.span.start = address → v.offset = 0 → v.object = .segment h →
      ∃ g b k', k.segments.get? h = some g ∧ detach ref q address k = .ok () k' ∧
        k.Severs ref q a h ⟨address, addSaturating address g.effectiveSize⟩ b k') ∧
    ((¬ ∃ v ∈ a.areas, v.span.start = address ∧ v.offset = 0 ∧ ∃ h, v.object = .segment h) →
      detach ref q address k = .error .einval k) := by
  constructor
  · rintro v member h rfl first object
    obtain ⟨g, present⟩ := counted.segment_of_mapped member object
    have attached := ordered.attachedFrom? member first object
    let extent : Span := ⟨v.span.start, addSaturating v.span.start g.effectiveSize⟩
    have start : v.span.start = extent.start := rfl
    have upright : extent.start ≤ extent.stop := by
      simp only [extent, addSaturating, maxWord]
      omega
    exact ⟨g, _, _, present, detach_of_attached found attached present q,
      unmapEach_severs found ordered counted member start upright q⟩
  · intro nothing
    apply detach_of_unattached found
    apply Option.eq_none_iff_forall_not_mem.mpr
    intro h attached
    obtain ⟨v, member, start, object, first⟩ := attachedFrom?_eq_some attached
    exact nothing ⟨v, member, start, first, h, object⟩

end Kernel

namespace World

/-- A segment is attached, its second page gives way to a window, and its last page to another
attachment of the same segment. -/
def interleaving : List Operation :=
  [.makePool 0 16, .makeRegistry .initial ⟨0⟩ {} (.ipc true), .makeClock ⟨0⟩,
    .makeTask 1 (.superuser .initial) ⟨0⟩ ⟨0⟩ ⟨0x10000, 0x40000⟩,
    .shmget ⟨0⟩ privateKey 0x4000 ⟨0o600⟩, .shmat ⟨0⟩ 1 0x10000 ⟨0⟩,
    .munmap (.ofTask ⟨0⟩) ⟨.superuser .initial, none, none⟩ 0x11000 0x1000,
    .makeWindow ⟨"buffer", 0x80000, 0x1000, true, false, none, 0, []⟩, .requestWindow ⟨0⟩,
    .mmap (.ofTask ⟨0⟩) ⟨.superuser .initial, none, none⟩ ⟨0⟩, .shmat ⟨0⟩ 1 0x13000 ⟨0o40000⟩]

/-- Three pieces are severed around the window, and the second attachment keeps its tail. -/
theorem detaches_exactly_interleaving :
    let w := ({} : World).follow interleaving
    let q : Requester := ⟨.superuser .initial, some 1, none⟩
    let extent : Span := ⟨0x10000, 0x14000⟩
    w.Reachable anything ∧ ∃ a b k', w.kernel.space? (.ofTask ⟨0⟩) = some a ∧
      a.areas.map (fun v => (v.span.start, v.span.stop, v.offset, v.object)) =
        [(0x10000, 0x11000, 0, .segment ⟨0⟩), (0x11000, 0x12000, 0, .window ⟨0⟩),
          (0x12000, 0x13000, 0x2000, .segment ⟨0⟩), (0x13000, 0x17000, 0, .segment ⟨0⟩)] ∧
      Kernel.detach (.ofTask ⟨0⟩) q 0x10000 w.kernel = .ok () k' ∧
      w.kernel.Severs (.ofTask ⟨0⟩) q a ⟨0⟩ extent b k' ∧
      (a.areasWithin (.segment ⟨0⟩) extent).map (·.removal extent) =
        [⟨.segment ⟨0⟩, ⟨0x10000, 0x11000⟩, 0⟩, ⟨.segment ⟨0⟩, ⟨0x12000, 0x13000⟩, 0x2000⟩,
          ⟨.segment ⟨0⟩, ⟨0x13000, 0x14000⟩, 0⟩] ∧
      (a.areasWithin (.segment ⟨0⟩) extent).flatMap (fun v =>
        (v.remains extent).map fun u => (u.span.start, u.span.stop, u.offset)) =
          [(0x14000, 0x17000, 0x1000)] := by
  intro w q extent
  have reachable : w.Reachable anything :=
    reachable_follow (by decide +kernel) fun _ _ => trivial
  have state : ∃ a ∈ w.kernel.space? (.ofTask ⟨0⟩),
      (a.areas.map (fun v => (v.span.start, v.span.stop, v.offset, v.object)) =
        [(0x10000, 0x11000, 0, .segment ⟨0⟩), (0x11000, 0x12000, 0, .window ⟨0⟩),
          (0x12000, 0x13000, 0x2000, .segment ⟨0⟩), (0x13000, 0x17000, 0, .segment ⟨0⟩)]) ∧
      (a.areasWithin (.segment ⟨0⟩) extent).map (·.removal extent) =
        [⟨.segment ⟨0⟩, ⟨0x10000, 0x11000⟩, 0⟩, ⟨.segment ⟨0⟩, ⟨0x12000, 0x13000⟩, 0x2000⟩,
          ⟨.segment ⟨0⟩, ⟨0x13000, 0x14000⟩, 0⟩] ∧
      (a.areasWithin (.segment ⟨0⟩) extent).flatMap (fun v =>
        (v.remains extent).map fun u => (u.span.start, u.span.stop, u.offset)) =
          [(0x14000, 0x17000, 0x1000)] ∧
      ∃ v ∈ a.areas, v.span.start = 0x10000 ∧ v.offset = 0 ∧ v.object = .segment ⟨0⟩ := by
    decide +kernel
  have sizes : ∀ g ∈ w.kernel.segments.get? ⟨0⟩, g.effectiveSize = 0x4000 := by decide +kernel
  obtain ⟨a, found, areas, removals, tail, v, member, start, first, object⟩ := state
  obtain ⟨others, counted⟩ := reachable.counted_mapped found
  have ordered := ((reachable.laid suits_anything).spaces found).toOrdered
  obtain ⟨g, b, k', present, done, severs⟩ :=
    (Kernel.detaches_exactly found ordered counted q (by decide)).1 v member ⟨0⟩ start first object
  rw [sizes g present] at severs
  exact ⟨reachable, a, b, k', found, areas, done, severs, removals, tail⟩

end World

end SharedMemory
