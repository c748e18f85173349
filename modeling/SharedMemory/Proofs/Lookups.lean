import SharedMemory.Proofs.Placement

/-!
# Looking areas up

Whether a span is occupied, and which area holds an address, is read off one area: the last one
that starts before the end of the span, or not behind the address. Since areas are in order and do
not overlap, no other area could say anything else, and the answers are those that a search of all
areas gives. A span of a given length that would leave the word ends with the largest word, and no
area reaches further.
-/

namespace SharedMemory

namespace AddressSpace

variable {a : AddressSpace} {s : Span}

private theorem Ordered.isFree_iff_hasRoom (ordered : a.Ordered) :
    a.isFree s = true ↔ a.HasRoom s :=
  ⟨ordered.hasRoom_of_isFree, isFree_of_hasRoom⟩

/-- Bytes from an address on are occupied if some area meets them. -/
theorem Ordered.overlaps_iff_meets (ordered : a.Ordered) (address length : Nat) :
    a.overlaps address length = true ↔
      ∃ v ∈ a.areas, v.span.Meets ⟨address, addSaturating address length⟩ := by
  rw [overlaps, Bool.not_eq_true', ← Bool.not_eq_true, ordered.isFree_iff_hasRoom]
  simp only [HasRoom, not_forall, not_not, exists_prop]

/-- An area meets bytes from an address on if it has one of them, also where they are cut off at the
end of the word. -/
theorem meets_saturated_iff {v : Area} {address length : Nat}
    (nonempty : v.span.start < v.span.stop) (word : v.span.stop < wordSize) (positive : 0 < length) :
    v.span.Meets ⟨address, addSaturating address length⟩ ↔
      ∃ x, v.span.Contains x ∧ address ≤ x ∧ x < min (address + length) 0xffffffffffffffff := by
  have largest : maxWord = 0xffffffffffffffff := rfl
  rcases Nat.lt_or_ge address maxWord with inside | outside
  · have proper : address < addSaturating address length := by
      rw [addSaturating]
      omega
    rw [Span.meets_iff_exists nonempty proper]
    rfl
  · -- From the largest word on there are no bytes, and no area comes so far.
    constructor
    · intro meets
      have late := meets.2
      simp only [maxWord] at outside late
      omega
    · rintro ⟨x, _, lower, upper⟩
      omega

/-- The areas before an address tell all. Let the areas of an address space be in order, without
overlap and within the word. Then so many bytes from an address on, cut off at the end of the word,
are occupied exactly if some area has one of them. The area at an address is the one that
holds it, which is the only one, and there is none exactly if no area holds it. -/
theorem lookups_exact (ordered : a.Ordered) (word : ∀ v ∈ a.areas, v.span.stop < wordSize)
    (address length : Nat) (positive : 0 < length) :
    (a.overlaps address length = true ↔
      ∃ v ∈ a.areas, ∃ x, v.span.Contains x ∧
        address ≤ x ∧ x < min (address + length) 0xffffffffffffffff) ∧
    (∀ span, (a.areaAt? address).map (·.span) = some span ↔
      ∃ v ∈ a.areas, v.span = span ∧ v.span.Contains address ∧
        ∀ w ∈ a.areas, w.span.Contains address → w = v) ∧
    ((a.areaAt? address).map (·.span) = none ↔ ∀ v ∈ a.areas, ¬ v.span.Contains address) := by
  refine ⟨?_, fun span => ?_, ?_⟩
  · rw [ordered.overlaps_iff_meets]
    apply exists_congr
    intro v
    apply and_congr_right
    intro member
    exact meets_saturated_iff (ordered.nonempty v member) (word v member) positive
  · simp only [Option.map_eq_some_iff, ordered.areaAt?_eq_some_iff]
    constructor
    · rintro ⟨v, ⟨member, holds⟩, rfl⟩
      exact ⟨v, member, rfl, holds, fun w member' holds' =>
        ordered.area_unique address member' holds' member holds⟩
    · rintro ⟨v, member, rfl, holds, _⟩
      exact ⟨v, ⟨member, holds⟩, rfl⟩
  · rw [Option.map_eq_none_iff, ordered.areaAt?_eq_none_iff]

end AddressSpace

namespace World

/-- A task attaches a segment of two pages three times, twice without a gap in between and once
where its range ends with the word. -/
def bordering : List Operation :=
  [.makePool 0x80000000 16, .makeRegistry .initial ⟨0⟩ {} (.ipc true), .makeClock ⟨0⟩,
    .makeTask 1 (.superuser .initial) ⟨0⟩ ⟨0⟩ ⟨0x10000, maxWord⟩,
    .shmget ⟨0⟩ privateKey 0x2000 ⟨0o600⟩, .shmat ⟨0⟩ 1 0x10000 ⟨0⟩, .shmat ⟨0⟩ 1 0x12000 ⟨0⟩,
    .shmat ⟨0⟩ 1 0xffffffffffffd000 ⟨0⟩]

/-- The second area holds the address where the first one ends, and nothing holds the address where
the second one ends. From there to the end of the word something is occupied, and from the end of
the last area nothing is. -/
theorem lookups_exact_bordering :
    ∃ a ∈ (({} : World).follow bordering).kernel.space? (.ofTask ⟨0⟩),
      (a.areaAt? 0x12000).map (·.span) = some ⟨0x12000, 0x14000⟩ ∧
      (a.areaAt? 0x14000).map (·.span) = none ∧ a.overlaps 0x14000 maxWord = true ∧
      a.overlaps 0xfffffffffffff000 maxWord = false := by
  have reachable : (({} : World).follow bordering).Reachable anything :=
    reachable_follow (by decide +kernel) fun _ _ => trivial
  have state : ∃ a ∈ (({} : World).follow bordering).kernel.space? (.ofTask ⟨0⟩),
      a.areas.map (·.span) = [⟨0x10000, 0x12000⟩, ⟨0x12000, 0x14000⟩,
        ⟨0xffffffffffffd000, 0xfffffffffffff000⟩] := by decide +kernel
  obtain ⟨a, found, spans⟩ := state
  have laid := (reachable.laid suits_anything).spaces found
  have ordered := laid.toOrdered
  have word : ∀ v ∈ a.areas, v.span.stop < wordSize :=
    fun v member => (laid.below v member).trans_lt laid.bounded
  have span_of {v : Area} (member : v ∈ a.areas) : v.span = ⟨0x10000, 0x12000⟩ ∨
      v.span = ⟨0x12000, 0x14000⟩ ∨ v.span = ⟨0xffffffffffffd000, 0xfffffffffffff000⟩ := by
    have listed := List.mem_map_of_mem (f := (·.span)) member
    rw [spans] at listed
    simpa using listed
  obtain ⟨second, inside, extent⟩ : ∃ v ∈ a.areas, v.span = ⟨0x12000, 0x14000⟩ :=
    List.mem_map.mp (by simp [spans])
  obtain ⟨third, inside', extent'⟩ :
      ∃ v ∈ a.areas, v.span = ⟨0xffffffffffffd000, 0xfffffffffffff000⟩ :=
    List.mem_map.mp (by simp [spans])
  have looked := AddressSpace.lookups_exact ordered word
  refine ⟨a, found, ?_, ?_, ?_, ?_⟩
  · have holds : second.span.Contains 0x12000 := by simp [extent, Span.Contains]
    exact ((looked 0x12000 1 Nat.one_pos).2.1 _).mpr ⟨second, inside, extent, holds,
      fun w member holds' => ordered.area_unique 0x12000 member holds' inside holds⟩
  · refine (looked 0x14000 1 Nat.one_pos).2.2.mpr fun v member holds => ?_
    rcases span_of member with same | same | same <;> simp [same, Span.Contains] at holds
  · refine (looked 0x14000 maxWord (by decide)).1.mpr ⟨third, inside', 0xffffffffffffd000, ?_⟩
    simp [extent', Span.Contains, maxWord, wordSize]
  · rw [Bool.eq_false_iff, ne_eq, (looked 0xfffffffffffff000 maxWord (by decide)).1]
    rintro ⟨v, member, x, holds, lower, _⟩
    rcases span_of member with same | same | same <;> simp [same, Span.Contains] at holds <;> omega

end World

end SharedMemory
