import Mathlib.Data.List.TakeWhile
import SharedMemory.Proofs.Lineage

/-!
# What addresses map

Seen from outside, an address space says of each address what it maps
(`AddressSpace.mapping?`) and which page is established there. Unmapping a span takes both from
the addresses of the span and leaves all others alone, however areas are cut for it. Mapping an
area where there is room gives its addresses a mapping and leaves all others alone.
-/

namespace SharedMemory

/-- What an address maps: a place in an object, and what may be done there. -/
structure Mapping where
  object : Object
  offset : Nat
  perms : Access
deriving DecidableEq

namespace Area

variable {v w : Area} {address : Nat}

/-- What an address of an area maps. -/
def mappingAt (v : Area) (address : Nat) : Mapping := ⟨v.object, v.offsetAt address, v.perms⟩

/-- A part of an area maps its addresses as the area does. -/
theorem Part.mappingAt (part : w.Part v) (inside : w.span.start ≤ address) :
    w.mappingAt address = v.mappingAt address := by
  rw [Area.mappingAt, Area.mappingAt, part.object, part.offsetAt inside, part.perms]

/-- The addresses of a part belong to the area. -/
theorem Part.contains (part : w.Part v) (holds : w.span.Contains address) :
    v.span.Contains address :=
  ⟨Nat.le_trans part.start holds.1, Nat.lt_of_lt_of_le holds.2 part.stop⟩

end Area

namespace AddressSpace

variable {a : AddressSpace} {s : Span} {spans : List Span} {v : Area} {address : Nat} {m : Mapping}

/-- What an address maps, if it maps anything. -/
def mapping? (a : AddressSpace) (address : Nat) : Option Mapping :=
  (a.areaAt? address).map (·.mappingAt address)

/-- The area before an address is the one that holds it, if any does. -/
theorem Ordered.areaAt?_eq_some_iff (ordered : a.Ordered) :
    a.areaAt? address = some v ↔ v ∈ a.areas ∧ v.span.Contains address := by
  refine ⟨areaAt?_eq_some, fun ⟨member, holds⟩ => ?_⟩
  have before : v ∈ a.areas.takeWhile (·.span.start ≤ address) := by
    simpa only [Nat.lt_succ_iff] using mem_takeWhile_start ordered.ascending ordered.nonempty member
      (Nat.lt_succ_of_le holds.1)
  have earlier := List.takeWhile_sublist (l := a.areas) (·.span.start ≤ address)
  obtain ⟨last, ends⟩ : ∃ last, (a.areas.takeWhile (·.span.start ≤ address)).getLast? = some last :=
    ⟨_, List.getLast?_eq_some_getLast (List.ne_nil_of_mem before)⟩
  have inside := List.mem_of_getLast? ends
  have reaches := stop_le_getLast (ordered.ascending.sublist earlier)
    (fun w among => ordered.nonempty w (earlier.subset among)) ends before
  have starts : last.span.start ≤ address := by simpa using List.mem_takeWhile_imp inside
  have holds' : last.span.Contains address := ⟨starts, Nat.lt_of_lt_of_le holds.2 reaches⟩
  have same : v = last :=
    ordered.area_unique address member holds (earlier.subset inside) holds'
  rw [areaAt?, lastFrom?, ends, same, Option.filter_some, if_pos (decide_eq_true holds')]

/-- No area is found at an address that none holds. -/
theorem Ordered.areaAt?_eq_none_iff (ordered : a.Ordered) :
    a.areaAt? address = none ↔ ∀ v ∈ a.areas, ¬ v.span.Contains address := by
  rw [Option.eq_none_iff_forall_not_mem]
  simp only [Option.mem_def, ordered.areaAt?_eq_some_iff, not_and]

/-- An address maps what an area that holds it maps there. -/
theorem Ordered.mapping?_eq_some_iff (ordered : a.Ordered) :
    a.mapping? address = some m ↔
      ∃ v ∈ a.areas, v.span.Contains address ∧ v.mappingAt address = m := by
  simp only [mapping?, Option.map_eq_some_iff, ordered.areaAt?_eq_some_iff, and_assoc]

/-- An address maps nothing that no area holds. -/
theorem Ordered.mapping?_eq_none_iff (ordered : a.Ordered) :
    a.mapping? address = none ↔ ∀ v ∈ a.areas, ¬ v.span.Contains address := by
  rw [mapping?, Option.map_eq_none_iff, ordered.areaAt?_eq_none_iff]

/-! ## Unmapping -/

/-- What parts of an area show as the area does, unmapping a span takes from the addresses of the
span and from no other. -/
theorem Ordered.areaAt?_unmap {α : Type} (view : Area → α) (ordered : a.Ordered)
    (upright : s.start ≤ s.stop)
    (alike : ∀ {v w : Area}, w.Part v → w.span.Contains address → view w = view v) :
    ((a.unmap s).areaAt? address).map view =
      if s.Contains address then none else (a.areaAt? address).map view := by
  apply Option.ext
  intro shown
  simp only [Option.ite_none_left_eq_some, Option.map_eq_some_iff,
    (ordered.unmap upright).areaAt?_eq_some_iff, ordered.areaAt?_eq_some_iff]
  constructor
  · rintro ⟨w, ⟨member, holds⟩, rfl⟩
    obtain ⟨v, before, remains⟩ := mem_areas_unmap.mp member
    have part := Area.part_of_mem_without (ordered.nonempty v before) remains
    refine ⟨fun within => ?_, v, ⟨before, part.contains holds⟩, (alike part holds).symm⟩
    exact not_meets_of_mem_unmap member ⟨Nat.lt_of_le_of_lt holds.1 within.2,
      Nat.lt_of_le_of_lt within.1 holds.2⟩
  · rintro ⟨kept, v, ⟨before, holds⟩, rfl⟩
    obtain ⟨w, remains, holds'⟩ := Area.exists_mem_without_of_contains holds kept
    have part := Area.part_of_mem_without (ordered.nonempty v before) remains
    exact ⟨w, ⟨mem_areas_unmap.mpr ⟨v, before, remains⟩, holds'⟩, alike part holds'⟩

/-- Once a span is unmapped its addresses map nothing, and the others what they did. -/
theorem Ordered.mapping?_unmap (ordered : a.Ordered) (upright : s.start ≤ s.stop) (address : Nat) :
    (a.unmap s).mapping? address = if s.Contains address then none else a.mapping? address :=
  ordered.areaAt?_unmap (·.mappingAt address) upright fun part holds => part.mappingAt holds.1

/-- A page that is found is established. -/
theorem mem_pages_of_page? {page : Page} (established : a.page? address = some page) :
    (address, page) ∈ a.pages := by
  obtain ⟨entry, found, rfl⟩ := Option.map_eq_some_iff.mp established
  obtain rfl : entry.1 = address := by simpa using List.find?_some found
  exact List.mem_of_find?_eq_some found

/-- Once a span is unmapped its addresses have no page, and the others what they had. -/
theorem page?_unmap (a : AddressSpace) (s : Span) (address : Nat) :
    (a.unmap s).page? address = if s.Contains address then none else a.page? address := by
  simp only [page?, unmap, List.find?_filter]
  split
  case isTrue within =>
    rw [List.find?_eq_none.mpr, Option.map_none]
    intro entry _
    simp only [decide_eq_true_eq, not_and]
    rintro outside rfl
    exact outside within
  case isFalse kept =>
    congr 2
    funext entry
    by_cases here : entry.1 = address
    · subst here
      simp [kept]
    · simp [here]

/-- Whatever each unmapping takes from the addresses of its span, and from no other, all of them
take from the addresses of all spans. -/
theorem foldl_unmap_eq {α : Type} (view : AddressSpace → α) (nothing : α)
    (valid : AddressSpace → Prop) (step : ∀ {a s}, valid a → s ∈ spans →
      valid (a.unmap s) ∧ view (a.unmap s) = if s.Contains address then nothing else view a)
    (start : valid a) :
    view (spans.foldl unmap a) = if ∃ s ∈ spans, s.Contains address then nothing else view a := by
  induction spans generalizing a with
  | nil => simp
  | cons s rest ih =>
      obtain ⟨valid', first⟩ := step start (List.mem_cons_self ..)
      have others := ih (fun holds member => step holds (List.mem_cons_of_mem _ member)) valid'
      rw [List.foldl_cons, others, first]
      simp only [List.exists_mem_cons_iff]
      by_cases here : s.Contains address <;> simp [here]

/-- Once spans are unmapped their addresses map nothing, and the others what they did. -/
theorem Ordered.mapping?_foldl_unmap (ordered : a.Ordered)
    (upright : ∀ s ∈ spans, s.start ≤ s.stop) (address : Nat) :
    (spans.foldl AddressSpace.unmap a).mapping? address =
      if ∃ s ∈ spans, s.Contains address then none else a.mapping? address :=
  foldl_unmap_eq (·.mapping? address) none Ordered
    (fun ordered member => ⟨ordered.unmap (upright _ member),
      ordered.mapping?_unmap (upright _ member) address⟩) ordered

/-- Once spans are unmapped their addresses have no page, and the others what they had. -/
theorem page?_foldl_unmap (a : AddressSpace) (spans : List Span) (address : Nat) :
    (spans.foldl unmap a).page? address =
      if ∃ s ∈ spans, s.Contains address then none else a.page? address :=
  foldl_unmap_eq (·.page? address) none (fun _ => True)
    (fun _ _ => ⟨trivial, page?_unmap _ _ address⟩) trivial

/-! ## Mapping -/

/-- An area that is mapped where there is room is found at its addresses, and the others as
before. -/
theorem Ordered.areaAt?_map (ordered : a.Ordered) (room : a.HasRoom v.span)
    (nonempty : v.span.start < v.span.stop) (address : Nat) :
    (a.map v).areaAt? address = if v.span.Contains address then some v else a.areaAt? address := by
  have ordered' := ordered.map room nonempty
  split
  case isTrue holds =>
    exact ordered'.areaAt?_eq_some_iff.mpr
      ⟨(ordered.mem_areas_map room nonempty).mpr (.inl rfl), holds⟩
  case isFalse outside =>
    apply Option.ext
    intro w
    rw [ordered'.areaAt?_eq_some_iff, ordered.areaAt?_eq_some_iff,
      ordered.mem_areas_map room nonempty]
    constructor
    · rintro ⟨rfl | before, holds⟩
      · exact (outside holds).elim
      · exact ⟨before, holds⟩
    · rintro ⟨before, holds⟩
      exact ⟨.inr before, holds⟩

/-- An area that is mapped where there is room shows at its addresses, and the others map what they
did. -/
theorem Ordered.mapping?_map (ordered : a.Ordered) (room : a.HasRoom v.span)
    (nonempty : v.span.start < v.span.stop) (address : Nat) :
    (a.map v).mapping? address =
      if v.span.Contains address then some (v.mappingAt address) else a.mapping? address := by
  rw [mapping?, ordered.areaAt?_map room nonempty, mapping?]
  split <;> rfl

/-- A page is established only where something is mapped. -/
theorem Covered.page?_eq_none (covered : a.Covered) (ordered : a.Ordered)
    (unmapped : a.mapping? address = none) : a.page? address = none := by
  rw [page?, Option.map_eq_none_iff, List.find?_eq_none]
  intro entry member here
  obtain ⟨v, inside, holds, _⟩ := covered.mapped entry member
  rw [of_decide_eq_true here] at holds
  exact ordered.mapping?_eq_none_iff.mp unmapped v inside holds

/-! ## Detaching -/

/-- What lies behind the start of an area starts there or later. -/
theorem Ordered.start_le {w : Area} (ordered : a.Ordered) (member : v ∈ a.areas)
    (inside : w ∈ a.areas) (holds : w.span.Contains address) (behind : v.span.start ≤ address) :
    v.span.start ≤ w.span.start := by
  by_contra early
  have nonempty := ordered.nonempty v member
  -- Both areas would hold the start of `v`.
  have same := ordered.area_unique v.span.start member ⟨Nat.le_refl _, nonempty⟩ inside
    ⟨by omega, Nat.lt_of_le_of_lt behind holds.2⟩
  subst same
  omega

/-- From an address where an area starts on, what is detached of an object are its addresses in the
window. -/
theorem Ordered.exists_piece_iff {object : Object} {window : Span} (ordered : a.Ordered)
    (member : v ∈ a.areas) (start : v.span.start = window.start) :
    (∃ piece ∈ a.piecesWithin object window, piece.Contains address) ↔
      window.Contains address ∧ ∃ m, a.mapping? address = some m ∧ m.object = object := by
  simp only [piecesWithin, List.mem_map, List.mem_filter, decide_eq_true_eq]
  constructor
  · rintro ⟨_, ⟨w, ⟨inside, within, rfl⟩, rfl⟩, lower, upper⟩
    have upper' := Nat.lt_min.mp upper
    have behind := within.1
    exact ⟨⟨Nat.le_trans behind lower, upper'.2⟩, w.mappingAt address,
      ordered.mapping?_eq_some_iff.mpr ⟨w, inside, ⟨lower, upper'.1⟩, rfl⟩, rfl⟩
  · rintro ⟨within, m, mapped, rfl⟩
    obtain ⟨w, inside, holds, rfl⟩ := ordered.mapping?_eq_some_iff.mp mapped
    have behind : window.start ≤ w.span.start := by
      rw [← start]
      exact ordered.start_le member inside holds (Nat.le_trans (Nat.le_of_eq start) within.1)
    refine ⟨_, ⟨w, ⟨inside, ⟨behind, Nat.lt_of_le_of_lt holds.1 within.2⟩, rfl⟩, rfl⟩, holds.1, ?_⟩
    exact Nat.lt_min.mpr ⟨holds.2, within.2⟩

end AddressSpace

end SharedMemory
