import SharedMemory.Proofs.Attachment

/-!
# Where mappings go

A mapping that may go anywhere goes to its hint if that starts a page and enough of the range is
free behind it, and otherwise to the lowest address of the range behind which enough is free
(`AddressSpace.Gap`). It is refused for want of room only if there is no such address. Wherever it
goes, only its own addresses change what they map, and where it is refused no address does.
-/

namespace SharedMemory

/-- A size that is not zero is not zero in pages. -/
theorem pageUp?_pos {size length : Nat} (rounded : pageUp? size = some length)
    (nonzero : size ≠ 0) : 0 < length :=
  (Nat.pos_of_ne_zero nonzero).trans_le (pageUp?_eq_some_iff.mp rounded).2.2.1

/-- Spans that are not empty meet where they have an address in common, such as the later of their
starts. -/
theorem Span.meets_iff_exists {s t : Span} (proper : s.start < s.stop) (proper' : t.start < t.stop) :
    s.Meets t ↔ ∃ address, s.Contains address ∧ t.Contains address := by
  constructor
  · intro meets
    obtain ⟨early, late⟩ := meets
    exact ⟨max s.start t.start, ⟨by omega, by omega⟩, ⟨by omega, by omega⟩⟩
  · rintro ⟨address, holds, holds'⟩
    exact Span.meets_of_contains holds holds'

namespace AddressSpace

variable {a b : AddressSpace} {s : Span} {v : Area} {hint length start : Nat}

/-- So many bytes of the range from an address on that map nothing. -/
structure Gap (a : AddressSpace) (length start : Nat) : Prop where
  lower : a.range.start ≤ start
  upper : start + length ≤ a.range.stop
  free : ∀ {address}, (Span.ofSize start length).Contains address → a.mapping? address = none

/-- A hint that serves: the start of a page from which enough is free. -/
def Serves (a : AddressSpace) (hint length : Nat) : Prop :=
  hint ≠ 0 ∧ PageAligned hint ∧ a.Gap length hint

/-- An area is mapped where nothing was: its addresses show what it maps, and no other address shows
anything else than before. -/
structure Gains (a : AddressSpace) (v : Area) (b : AddressSpace) : Prop where
  vacant : ∀ {address}, v.span.Contains address → a.sight address = (none, none, none)
  gained : ∀ {address}, v.span.Contains address →
    b.sight address = (some (v.mappingAt address), some v.maxPerms, none)
  kept : ∀ {address}, ¬ v.span.Contains address → b.sight address = a.sight address

/-! ## Gaps -/

/-- There is room for a span where its addresses map nothing. -/
theorem Ordered.hasRoom_iff (ordered : a.Ordered) (proper : s.start < s.stop) :
    a.HasRoom s ↔ ∀ {address}, s.Contains address → a.mapping? address = none := by
  have meets {w : Area} (member : w ∈ a.areas) :
      w.span.Meets s ↔ ∃ address, w.span.Contains address ∧ s.Contains address :=
    Span.meets_iff_exists (ordered.nonempty w member) proper
  constructor
  · intro room address within
    apply ordered.mapping?_eq_none_iff.mpr
    intro w member holds
    exact room w member ((meets member).mpr ⟨address, holds, within⟩)
  · intro free w member met
    obtain ⟨address, holds, within⟩ := (meets member).mp met
    exact ordered.mapping?_eq_none_iff.mp (free within) w member holds

private theorem Ordered.gap_iff (ordered : a.Ordered) (positive : 0 < length) : a.Gap length start ↔
    a.range.start ≤ start ∧ start + length ≤ a.range.stop ∧ a.HasRoom (.ofSize start length) := by
  have proper : (Span.ofSize start length).start < (Span.ofSize start length).stop :=
    Nat.lt_add_of_pos_right positive
  rw [ordered.hasRoom_iff proper]
  constructor
  · intro gap
    exact ⟨gap.lower, gap.upper, gap.free⟩
  · intro conditions
    exact ⟨conditions.1, conditions.2.1, conditions.2.2⟩

/-- A span that meets no area is found to be free. -/
theorem isFree_of_hasRoom (room : a.HasRoom s) : a.isFree s = true := by
  unfold isFree
  rw [Option.all_eq_true]
  intro last ends
  have inside := List.mem_of_getLast? ends
  have early : last.span.start < s.stop := by simpa using List.mem_takeWhile_imp inside
  have apart := room last ((List.takeWhile_sublist _).subset inside)
  rw [decide_eq_true_eq]
  exact Nat.le_of_not_lt fun late => apart ⟨early, late⟩

/-- A hint is taken exactly if it serves. -/
theorem Laid.takesHint_iff (laid : a.Laid) (positive : 0 < length) :
    a.TakesHint hint length ↔ a.Serves hint length := by
  unfold TakesHint Serves
  rw [laid.toOrdered.gap_iff positive]
  constructor
  · intro ⟨nonzero, aligned, _, lower, upper, free⟩
    exact ⟨nonzero, aligned, lower, upper, laid.toOrdered.hasRoom_of_isFree free⟩
  · intro ⟨nonzero, aligned, lower, upper, room⟩
    exact ⟨nonzero, aligned, Nat.lt_of_le_of_lt upper laid.bounded, lower, upper,
      isFree_of_hasRoom room⟩

/-- The search for a gap passes none: it ends no later than at any address behind the cursor from
which on enough is free. -/
theorem lowestGap?_le {limit cursor free : Nat} {areas : List Area} (positive : 0 < length)
    (behind : cursor ≤ free) (below : free + length ≤ limit)
    (room : ∀ w ∈ areas, ¬ w.span.Meets (.ofSize free length)) :
    ∃ start, lowestGap? length limit cursor areas = some start ∧ start ≤ free := by
  induction areas generalizing cursor with
  | nil =>
      have fits : length ≤ limit - cursor := by omega
      exact ⟨cursor, by rw [lowestGap?, if_pos fits], behind⟩
  | cons w rest ih =>
      have apart := room w (List.mem_cons_self ..)
      unfold lowestGap?
      split
      case isTrue => exact ⟨cursor, rfl, behind⟩
      case isFalse crowded =>
        -- The free bytes cannot lie before the area, so they lie behind it.
        have passed : w.span.stop ≤ free := by
          simp only [Span.Meets, Span.ofSize] at apart
          omega
        exact ih (Nat.max_le.mpr ⟨behind, passed⟩) fun w' member =>
          room w' (List.mem_cons_of_mem _ member)

private theorem Ordered.exists_lowestGap? {free : Nat} (ordered : a.Ordered) (positive : 0 < length)
    (gap : a.Gap length free) :
    ∃ start, lowestGap? length a.range.stop a.range.start a.areas = some start ∧ start ≤ free := by
  obtain ⟨lower, upper, room⟩ := (ordered.gap_iff positive).mp gap
  exact lowestGap?_le positive lower upper room

private theorem Laid.gap_of_lowestGap? (laid : a.Laid) (positive : 0 < length)
    (found : lowestGap? length a.range.stop a.range.start a.areas = some start) :
    a.Gap length start := by
  obtain ⟨lower, room⟩ := lowestGap?_room laid.ascending laid.nonempty found
  have upper := lowestGap?_below positive
    (fun v member => ⟨laid.nonempty v member, laid.below v member⟩) found
  exact (laid.toOrdered.gap_iff positive).mpr ⟨lower, upper, room⟩

private theorem Laid.place?_of_serves (laid : a.Laid) (positive : 0 < length)
    (serves : a.Serves hint length) : a.place? hint length = some hint := by
  rw [place?, if_pos ((laid.takesHint_iff positive).mpr serves)]

private theorem Laid.place?_of_isLeast (laid : a.Laid) (positive : 0 < length)
    (useless : ¬ a.Serves hint length) (least : IsLeast {start | a.Gap length start} start) :
    a.place? hint length = some start := by
  obtain ⟨start', found, before⟩ := laid.toOrdered.exists_lowestGap? positive least.1
  have behind : start ≤ start' := least.2 (laid.gap_of_lowestGap? positive found)
  rw [place?, if_neg (mt (laid.takesHint_iff positive).mp useless), found,
    Nat.le_antisymm before behind]

/-- What is placed is placed in a gap. -/
theorem Laid.gap_of_place? (laid : a.Laid) (positive : 0 < length)
    (placed : a.place? hint length = some start) : a.Gap length start := by
  unfold place? at placed
  split at placed
  case isTrue taken =>
    cases placed
    exact ((laid.takesHint_iff positive).mp taken).2.2
  case isFalse => exact laid.gap_of_lowestGap? positive placed

/-- A mapping finds no place only if there is no gap. -/
theorem Laid.place?_eq_none_iff (laid : a.Laid) (hint : Nat) (positive : 0 < length) :
    a.place? hint length = none ↔ ¬ ∃ start, a.Gap length start := by
  constructor
  · intro nowhere ⟨free, gap⟩
    obtain ⟨start, found, _⟩ := laid.toOrdered.exists_lowestGap? positive gap
    unfold place? at nowhere
    split at nowhere
    · cases nowhere
    · cases found.symm.trans nowhere
  · intro none
    rw [Option.eq_none_iff_forall_ne_some]
    intro start placed
    exact none ⟨start, laid.gap_of_place? positive placed⟩

private theorem Ordered.gains_map (ordered : a.Ordered) (covered : a.Covered)
    (room : a.HasRoom v.span) (proper : v.span.start < v.span.stop) : a.Gains v (a.map v) where
  vacant := by
    intro address within
    have unmapped := (ordered.hasRoom_iff proper).mp room within
    have nothing : a.areaAt? address = none := Option.map_eq_none_iff.mp unmapped
    rw [sight, unmapped, maxPerms?, nothing, covered.page?_eq_none ordered unmapped,
      Option.map_none]
  gained := fun within => (ordered.sight_map covered room proper _).trans (if_pos within)
  kept := fun outside => (ordered.sight_map covered room proper _).trans (if_neg outside)

end AddressSpace

namespace Kernel

open KernelM

variable {k k' : Kernel} {ref : SpaceRef} {a : AddressSpace} {q : Requester} {m : MapRequest}
  {length start : Nat}

/-! ## Mapping where there is room -/

/-- The object of a request was mapped from an address on, and no other address space changed. -/
structure Houses (k : Kernel) (ref : SpaceRef) (a : AddressSpace) (m : MapRequest)
    (length start : Nat) (k' : Kernel) : Prop where
  gains : ∃ b, k'.space? ref = some b ∧ a.Gains (m.areaAt (.ofSize start length)) b
  others : ∀ ref', ref' ≠ ref → k'.space? ref' = k.space? ref'

/-- What is told that it is mapped is there. -/
theorem identity?_of_notifyAdded {object : Object} {span : Span} {offset : Nat}
    (told : notifyAdded q object span offset k = .ok () k') :
    ∃ identity, k'.identity? object = some identity := by
  have known : (notifyAdded q object span offset).Ends k
      (fun _ k' => (k'.identity? object).isSome) (fun _ _ => True) := by
    cases object with
    | segment s =>
        simp only [notifyAdded, ends_bind, ends_get, ends_orStuck, ends_set, ends_ite, ends_modify,
          ends_pure, identity?]
        refine ⟨fun g found => ?_, fun _ => trivial⟩
        have there : ((k.segments.set s (g.noteAttach q)).get? s).isSome := by
          rw [Slots.get?_set_self found, Option.isSome_some]
        simpa [setSegment, emit] using there
    | window w =>
        unfold notifyAdded
        refine .get_bind (.orStuck_bind trivial fun window found => .set_bind ?_)
        refine ends_check.mpr ⟨fun accepts => ?_, fun refuses => trivial⟩
        rw [identity?]
        rw [setWindow, Slots.get?_set_self found, Option.map_some, Option.isSome_some]
  exact Option.isSome_iff_exists.mp (known.ok told)

private theorem holderPart_notifyAdded {object : Object} {span : Span} {offset : Nat} :
    (notifyAdded q object span offset).Ends k (fun _ k' => k'.holderPart = k.holderPart)
      (fun _ k' => k'.holderPart = k.holderPart) :=
  (@notifyAdded_ends k 0 idle q object span offset).mono
    (fun _ _ changes => changes.holderPart) fun _ _ changes => changes.holderPart

/-- A request that may be placed anywhere is refused without a change to any holder. -/
theorem install_refused (loose : m.fixed = false) :
    (install ref q m).Ends k (fun _ _ => True) (fun _ k' => k'.holderPart = k.holderPart) := by
  simp only [install, placeRequest, loose, placeAnywhere, ends_bind, ends_check, ends_orRefuse,
    ends_orStuck, ends_get, ends_modify, Bool.false_eq_true, if_false, implies_true, and_true,
    holderPart_halt]
  intro _ _ length _ a _ start _
  refine holderPart_notifyAdded.mono (fun _ k' same => ?_) fun _ k' same => ?_
  · simp only [ends_set, ends_pure, implies_true, true_and, same, holderPart_require]
  · rw [same, holderPart_require]

/-- A request that may be placed anywhere and is welcome is mapped where there is a place for it,
and refused if there is none. -/
theorem install_placed (found : k.space? ref = some a) (laid : a.Laid) (loose : m.fixed = false)
    (rounded : pageUp? m.length = some length) (nonzero : m.length ≠ 0)
    (allowed : m.maxPerms.allows m.perms = true)
    (welcome : ∀ span, ∃ k', notifyAdded q m.object span m.offset k = .ok () k')
    (placed : a.place? m.address length = some start) :
    ∃ k', install ref q m k = .ok start k' ∧
      k'.holderPart = (k.setSpace (a.map (m.areaAt (.ofSize start length))) ref).holderPart := by
  have positive := pageUp?_pos rounded nonzero
  have fits : (Span.ofSize start length).stop < wordSize :=
    Nat.lt_of_le_of_lt (laid.gap_of_place? positive placed).upper laid.bounded
  obtain ⟨k', told⟩ := welcome (.ofSize start length)
  obtain ⟨identity, known⟩ := identity?_of_notifyAdded told
  have same : k'.holderPart = k.holderPart := holderPart_notifyAdded.ok told
  have still : k'.space? ref = some a := (space?_congr same ref).trans found
  have done : install ref q m k = .ok start
      (((k'.emit (.mapped (.ofSize start length) identity.name m.perms)).setSpace
        (a.map (m.areaAt (.ofSize start length))) ref).acquire m.object) := by
    apply Ends.eq_ok
    simp only [install, placeRequest, loose, placeAnywhere, ends_bind, ends_get, ends_modify,
      ends_set, ends_pure, check, if_pos nonzero, if_pos allowed, orRefuse, rounded, orStuck, found,
      placed, require, if_pos fits, ends_iff_of_ok told, known, still, Bool.false_eq_true, if_false]
    exact ⟨trivial, rfl⟩
  refine ⟨_, done, ?_⟩
  rw [holderPart_acquire, holderPart_setSpace, holderPart_emit, same, holderPart_setSpace]

private theorem install_unplaced (found : k.space? ref = some a) (loose : m.fixed = false)
    (rounded : pageUp? m.length = some length) (nonzero : m.length ≠ 0)
    (allowed : m.maxPerms.allows m.perms = true) (nowhere : a.place? m.address length = none) :
    install ref q m k = .error .enomem k := by
  apply Ends.eq_error
  simp only [install, placeRequest, loose, placeAnywhere, ends_bind, ends_get, ends_pure,
    ends_throw, check, if_pos nonzero, if_pos allowed, orRefuse, rounded, orStuck, found, nowhere,
    Bool.false_eq_true, if_false, and_self]

/-- A request that its object welcomes is mapped where it is placed. -/
theorem mmap_placed (found : k.space? ref = some a) (laid : a.Laid) (covered : a.Covered)
    (loose : m.fixed = false) (rounded : pageUp? m.length = some length) (nonzero : m.length ≠ 0)
    (allowed : m.maxPerms.allows m.perms = true)
    (welcome : ∀ span, ∃ k', notifyAdded q m.object span m.offset k = .ok () k')
    (placed : a.place? m.address length = some start) :
    ∃ k', mmap ref q m k = .ok start k' ∧ k.Houses ref a m length start k' := by
  have positive := pageUp?_pos rounded nonzero
  have room := laid.toOrdered.hasRoom_of_place? placed
  have proper : (Span.ofSize start length).start < (Span.ofSize start length).stop :=
    Nat.lt_add_of_pos_right positive
  obtain ⟨k', done, holders⟩ :=
    install_placed found laid loose rounded nonzero allowed welcome placed
  have spaces (ref' : SpaceRef) : (k'.release m.object).space? ref' =
      if ref' = ref then some (a.map (m.areaAt (.ofSize start length))) else k.space? ref' := by
    rw [space?_congr ((holderPart_release _).trans holders), space?_setSpace found]
  refine ⟨k'.release m.object, by simp only [mmap, done], ?_, fun ref' other => ?_⟩
  · exact ⟨_, (spaces ref).trans (if_pos rfl), laid.toOrdered.gains_map covered room proper⟩
  · rw [spaces, if_neg other]

/-- A mapping that may go anywhere goes to its hint if that serves and otherwise to the lowest gap,
and is refused for want of room exactly if there is no gap. Where it goes, its addresses show what
it maps, and no other address shows anything else than before; where it is refused, for whatever
reason, no address space changes. -/
theorem placed_rightly (found : k.space? ref = some a) (laid : a.Laid) (covered : a.Covered)
    (loose : m.fixed = false) (q : Requester) :
    (∀ cause k', mmap ref q m k = .error cause k' → ∀ ref', k'.space? ref' = k.space? ref') ∧
    ∀ {length}, m.length ≠ 0 → pageUp? m.length = some length →
      m.maxPerms.allows m.perms = true →
      (∀ span, ∃ k', notifyAdded q m.object span m.offset k = .ok () k') →
      (a.Serves m.address length →
        ∃ k', mmap ref q m k = .ok m.address k' ∧ k.Houses ref a m length m.address k') ∧
      (¬ a.Serves m.address length → ∀ start, IsLeast {start | a.Gap length start} start →
        ∃ k', mmap ref q m k = .ok start k' ∧ k.Houses ref a m length start k') ∧
      ((∃ k', mmap ref q m k = .error .enomem k') ↔ ¬ ∃ start, a.Gap length start) := by
  constructor
  · intro cause k' refused ref'
    cases result : install ref q m k with
    | ok start k'' => simp [mmap, result] at refused
    | error cause' k'' =>
        simp only [mmap, result, EStateM.Result.error.injEq] at refused
        rw [← refused.2, space?_congr (holderPart_release _),
          space?_congr ((install_refused loose).error result)]
  · intro length nonzero rounded allowed welcome
    have positive := pageUp?_pos rounded nonzero
    have houses {start : Nat} (placed : a.place? m.address length = some start) :=
      mmap_placed found laid covered loose rounded nonzero allowed welcome placed
    refine ⟨fun serves => houses (laid.place?_of_serves positive serves), fun useless start least =>
      houses (laid.place?_of_isLeast positive useless least), ?_⟩
    rw [← laid.place?_eq_none_iff m.address positive]
    constructor
    · intro fails
      obtain ⟨k', refused⟩ := fails
      rw [Option.eq_none_iff_forall_ne_some]
      intro start placed
      obtain ⟨k'', done, _⟩ := houses placed
      cases refused.symm.trans done
    · intro nowhere
      have refused := install_unplaced (q := q) found loose rounded nonzero allowed nowhere
      exact ⟨k.release m.object, by simp only [mmap, refused]⟩

end Kernel

namespace World

open Kernel

/-- A request for two pages whose hint is taken goes to the gap between two attachments. -/
theorem placed_rightly_spacing :
    let w := ({} : World).follow spacing
    let q : Requester := ⟨.superuser .initial, some 7, none⟩
    let m : MapRequest := ⟨.segment ⟨0⟩, 0x1800, 0, 0x15000, false, .readOnly, .all⟩
    w.Reachable anything ∧ ∃ a k', w.kernel.space? (.ofTask ⟨0⟩) = some a ∧
      a.areas.map (fun v => (v.span.start, v.span.stop)) =
        [(0x10000, 0x12000), (0x14000, 0x16000)] ∧
      mmap (.ofTask ⟨0⟩) q m w.kernel = .ok 0x12000 k' ∧
      w.kernel.Houses (.ofTask ⟨0⟩) a m 0x2000 0x12000 k' := by
  intro w q m
  have reachable : w.Reachable anything :=
    reachable_follow (by decide +kernel) fun _ _ => trivial
  have state : ∃ a ∈ w.kernel.space? (.ofTask ⟨0⟩),
      a.areas.map (fun v => (v.span.start, v.span.stop)) =
        [(0x10000, 0x12000), (0x14000, 0x16000)] ∧
      ¬ a.TakesHint 0x15000 0x2000 ∧
      AddressSpace.lowestGap? 0x2000 a.range.stop a.range.start a.areas = some 0x12000 ∧
      (w.kernel.segments.get? ⟨0⟩).isSome := by
    decide +kernel
  obtain ⟨a, found, areas, taken, lowest, present⟩ := state
  obtain ⟨g, present⟩ := Option.isSome_iff_exists.mp present
  have laid := (reachable.laid suits_anything).spaces found
  have covered := reachable.covered suits_anything _ a found
  have positive : 0 < 0x2000 := by decide
  have least : IsLeast {start | a.Gap 0x2000 start} 0x12000 := by
    refine ⟨laid.gap_of_lowestGap? positive lowest, fun free gap => ?_⟩
    obtain ⟨start, found', before⟩ := laid.toOrdered.exists_lowestGap? positive gap
    cases lowest.symm.trans found'
    exact before
  have welcome : ∀ span, ∃ k', notifyAdded q m.object span m.offset w.kernel = .ok () k' := by
    intro span
    cases result : notifyAdded q m.object span m.offset w.kernel with
    | ok _ k' => exact ⟨k', rfl⟩
    | error cause k' => exact ((notifyAdded_of_present present q span m.offset).error result).elim
  obtain ⟨k', done, houses⟩ := ((placed_rightly found laid covered rfl q).2 (by decide) (by decide)
    (by decide) welcome).2.1 (mt (laid.takesHint_iff positive).mpr taken) 0x12000 least
  exact ⟨reachable, a, k', found, areas, done, houses⟩

end World

end SharedMemory
