import SharedMemory.Proofs.Translation

/-!
# What a page fault establishes

A page fault asks the object of the area at fault where its bytes are, and the answer decides
whether the access may go on and which pages are established. Pages are counted from the start of
the area; addresses are looked up by pages of the address space. So a page that is established is
found only if the area starts a page (`Kernel.touch?_segment`).
-/

namespace SharedMemory

namespace AddressSpace

variable {a : AddressSpace} {v : Area} {l : Location} {address i : Nat}

/-- A page that is established is found at its address. -/
theorem page?_establish (inside : i < l.pageCount) :
    (a.establish v l).page? (v.addressOf l + i * pageSize) =
      some ⟨l.address + i * pageSize, v.perms⟩ := by
  have first : (v.pagesOf l).find? (·.1 = v.addressOf l + i * pageSize) =
      some (v.addressOf l + i * pageSize, ⟨l.address + i * pageSize, v.perms⟩) := by
    apply List.find?_eq_some_iff_getElem.mpr
    refine ⟨decide_eq_true rfl, i, by simpa [Area.pagesOf] using inside, by simp [Area.pagesOf], ?_⟩
    intro j before
    simp only [Area.pagesOf, List.getElem_map, List.getElem_range, pageSize]
    simp only [Bool.not_eq_true', decide_eq_false_iff_not]
    omega
  rw [page?, establish, List.find?_append, first]
  rfl

/-- To establish pages leaves those at other addresses. -/
theorem page?_establish_of_not (outside : ¬ v.Establishes l address) :
    (a.establish v l).page? address = a.page? address := by
  have none : (v.pagesOf l).find? (·.1 = address) = none := by
    rw [List.find?_eq_none]
    intro entry member here
    obtain ⟨i, inside, rfl⟩ := List.mem_map.mp member
    obtain rfl := of_decide_eq_true here
    have bound := List.mem_range.mp inside
    refine outside ⟨Nat.le_add_right _ _, ?_, ?_⟩
    · simp only [pageSize]
      omega
    · simp only [Nat.add_sub_cancel_left, Nat.mul_mod_left]
  rw [page?, establish, List.find?_append, none, Option.none_or, List.find?_filter, page?]
  congr 2
  funext entry
  by_cases here : entry.1 = address
  · subst here
    simp [outside]
  · simp [here]

end AddressSpace

/-- What a segment has of an area, as it is established. -/
def Area.showing (v : Area) (g : Segment) : Location :=
  ⟨v.mappedBytes.inter ⟨0, g.effectiveSize⟩, g.backing, g.backing.start + v.offset⟩

namespace Area

variable {v : Area} {g : Segment} {address : Nat}

/-- What a segment has of an area, in bytes of the segment. -/
theorem source_showing (v : Area) (g : Segment) : (v.showing g).source =
    ⟨v.offset, max v.offset (min (v.offset + v.span.size) g.effectiveSize)⟩ := by
  simp [showing, mappedBytes, Span.inter, Span.ofSize]

/-- What a segment has of an area shows from the start of the area on. -/
theorem addressOf_showing (v : Area) (g : Segment) : v.addressOf (v.showing g) = v.span.start := by
  rw [addressOf, source_showing, Nat.sub_self, Nat.add_zero]

/-- A segment that has the page of an address of the area has one part of the area. -/
theorem locations_segment (holds : v.span.Contains address)
    (enough : (v.requiredAt address).stop ≤ g.effectiveSize) :
    (g.locate (v.requiredAt address) v.mappedBytes).locations = [v.showing g] := by
  have nonempty : (v.showing g).source.isEmpty = false := by
    rw [source_showing]
    simp only [Span.Contains, requiredAt, Span.ofSize, Span.isEmpty, Span.size, pageSize,
      beq_eq_false_iff_ne] at *
    omega
  have start : (v.mappedBytes.inter ⟨0, g.effectiveSize⟩).start = v.offset :=
    congrArg Span.start (source_showing v g)
  have source : (v.mappedBytes.inter ⟨0, g.effectiveSize⟩).isEmpty = false := nonempty
  simp only [Segment.locate, source, start, Bool.false_eq_true, if_false]
  rfl

end Area

namespace AddressSpace

/-- Pages are established from the start of the area on. So the page of an address is among them
if the area starts a page, and is none of them otherwise. -/
theorem resolve?_establish_showing {v : Area} {g : Segment} {address : Nat} (a : AddressSpace)
    (holds : v.span.Contains address)
    (enough : (v.requiredAt address).stop ≤ g.effectiveSize) :
    (a.establish v (v.showing g)).resolve? address =
      if PageAligned v.span.start then some (g.backing.start + v.offsetAt address)
      else a.resolve? address := by
  have start := v.addressOf_showing g
  have below := pageDown_le address
  have page := pageAligned_pageDown address
  split
  case isTrue origin =>
    obtain ⟨i, turn⟩ : ∃ i, pageDown address = v.span.start + i * pageSize := by
      refine ⟨(pageDown address - v.span.start) / pageSize, ?_⟩
      simp only [Span.Contains, PageAligned, pageDown, pageSize] at *
      omega
    have inside : i < (v.showing g).pageCount := by
      rw [Location.pageCount, Area.source_showing]
      simp only [Span.Contains, Area.requiredAt, Span.ofSize, Span.size, pageSize] at *
      omega
    have established := a.page?_establish (v := v) inside
    rw [start, ← turn] at established
    rw [resolve?, established, Option.map_some, Area.offsetAt, Area.showing]
    congr 1
    simp only
    omega
  case isFalse slanted =>
    have outside : ¬ v.Establishes (v.showing g) (pageDown address) := by
      rw [Area.Establishes, start]
      simp only [PageAligned, pageSize] at *
      omega
    rw [resolve?, page?_establish_of_not outside, resolve?]

end AddressSpace

namespace Kernel

variable {k : Kernel} {ref : SpaceRef} {a : AddressSpace} {v : Area} {s : Handle .segment}
  {g : Segment} {address : Nat} {access : Access}

/-- The memory at an address after a page fault there. -/
def touch? (k : Kernel) (ref : SpaceRef) (address : Nat) (access : Access) : Option Nat :=
  ((k.faultSpace ref address access).2.space? ref).bind (·.resolve? address)

private theorem locate_require (condition : Prop) [Decidable condition] (cause : Fault)
    (object : Object) (required optional : Span) :
    ((k.require condition cause).locate object required optional access).1 =
    (k.locate object required optional access).1 := by
  obtain ⟨_, segments, _, windows, _⟩ := objects_require (k := k) condition cause
  cases object with
  | segment s =>
      simp only [locate, segments]
      split <;> rfl
  | window w =>
      simp only [locate, windows]
      split <;> rfl

/-- A fault outside the areas, or one that the area does not allow, does nothing. -/
theorem faultSpace_of_none (found : k.space? ref = some a)
    (forbidden : a.faultingArea? address access = none) :
    k.faultSpace ref address access = (false, k) := by
  simp only [faultSpace, found, forbidden]

/-- A fault in an area goes as its object says. -/
theorem faultSpace_of_some (found : k.space? ref = some a)
    (faulting : a.faultingArea? address access = some v) :
    (k.faultSpace ref address access).1 =
        (k.locate v.object (v.requiredAt address) v.mappedBytes access).1.failure.isNone ∧
      (k.faultSpace ref address access).2.space? ref = some (a.establishAll v
        (k.locate v.object (v.requiredAt address) v.mappedBytes access).1.locations) := by
  have told : Changes idle k 0 ((k.require (FaultFits v address) .arithmetic).locate v.object
      (v.requiredAt address) v.mappedBytes access).2 0 :=
    (changes_require _ (.inl rfl)).trans (changes_locate _ _ _ _)
  rw [← locate_require (FaultFits v address) .arithmetic]
  simp only [faultSpace, found, faulting]
  generalize (k.require (FaultFits v address) .arithmetic).locate v.object (v.requiredAt address)
    v.mappedBytes access = answer at told ⊢
  obtain ⟨resolution, asked⟩ := answer
  have here : (asked.require (∀ l ∈ resolution.locations, LocationFits v l)
      .arithmetic).space? ref = some a := by
    rw [space?_congr (holderPart_require _ _), space?_congr told.holderPart, found]
  have placed := space?_setSpace here (a.establishAll v resolution.locations) ref
  rw [if_pos rfl] at placed
  cases failure : resolution.failure with
  | none => exact ⟨rfl, placed⟩
  | some cause => exact ⟨rfl, placed⟩

/-- An address of a segment's area whose page the segment has is found after a fault, if the area
starts a page; if it does not, the fault changes nothing about the address. -/
theorem touch?_segment (found : k.space? ref = some a)
    (faulting : a.faultingArea? address access = some v) (object : v.object = .segment s)
    (present : k.segments.get? s = some g)
    (resolved : (k.faultSpace ref address access).1 = true) :
    k.touch? ref address access =
      if PageAligned v.span.start then some (g.backing.start + v.offsetAt address)
      else a.resolve? address := by
  obtain ⟨went, placed⟩ := faultSpace_of_some found faulting
  have located : (k.locate v.object (v.requiredAt address) v.mappedBytes access).1 =
      g.locate (v.requiredAt address) v.mappedBytes := by
    simp only [object, locate, present]
  rw [located] at went placed
  obtain ⟨_, holds⟩ :=
    AddressSpace.areaAt?_eq_some (Option.filter_eq_some_iff.mp faulting).1
  have enough : (v.requiredAt address).stop ≤ g.effectiveSize := by
    by_contra less
    rw [went, Segment.locate, if_pos (Nat.lt_of_not_le less)] at resolved
    cases resolved
  rw [v.locations_segment holds enough] at placed
  rw [touch?, placed, Option.bind_some]
  exact a.resolve?_establish_showing holds enough

end Kernel

end SharedMemory
