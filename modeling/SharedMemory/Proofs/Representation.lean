import SharedMemory.Proofs.Tables
import SharedMemory.Proofs.World

/-!
# How address spaces are represented

In an address space whose range starts a page, every area is stored where it starts, is made of
whole pages of the range and is apart from the others. Every page that is established starts a
page, lies in an area and has its rights (`AddressSpace.WellFormed`). That a page lies in an area
and has its rights is true in other ranges too (`AddressSpace.Covered`): what an object located for
an area is mapped by it, and a page whose area is cut is unmapped or lies in what remains.

An operation on an address space changes the table of its areas step by step, and never stores an
area where another is stored (`Kernel.NeverOverwrites`).
-/

namespace SharedMemory

/-- An address of an area that is not unmapped is in what remains. -/
theorem Area.exists_mem_without_of_contains {v : Area} {s : Span} {address : Nat}
    (holds : v.span.Contains address) (kept : ¬ s.Contains address) :
    ∃ w ∈ v.without s, w.span.Contains address := by
  by_cases meets : v.span.Meets s
  · rcases Nat.lt_or_ge address s.start with before | behind
    · have early : v.span.start < s.start := Nat.lt_of_le_of_lt holds.1 before
      exact ⟨_, mem_without.mpr (.inr (.inl ⟨meets, early, rfl⟩)), holds.1, before⟩
    · have after : s.stop ≤ address := Nat.le_of_not_lt fun inside => kept ⟨behind, inside⟩
      have late : s.stop < v.span.stop := Nat.lt_of_le_of_lt after holds.2
      exact ⟨_, mem_without.mpr (.inr (.inr ⟨meets, late, rfl⟩)), after, holds.2⟩
  · exact ⟨v, mem_without.mpr (.inl ⟨meets, rfl⟩), holds⟩

/-- The pages of what an object located for an area lie in it, a whole number of pages behind its
start. -/
theorem Kernel.Spans.mem_pagesOf {v : Area} {l : Location} {entry : Nat × Page} (spans : Spans v l)
    (nonempty : v.span.start < v.span.stop) (member : entry ∈ v.pagesOf l) :
    v.span.Contains entry.1 ∧ PageAligned (entry.1 - v.span.start) ∧ entry.2.perms = v.perms := by
  obtain ⟨start, aligned, stop⟩ := spans
  obtain ⟨i, bound, rfl⟩ := List.mem_map.mp member
  rw [List.mem_range, Location.pageCount] at bound
  have inside : i * pageSize < l.source.size := by
    simp only [pageSize] at *
    omega
  have whole : PageAligned (i * pageSize) := Nat.mul_mod_left _ _
  have offset : v.addressOf l + i * pageSize - v.span.start =
      (l.source.start - v.offset) + i * pageSize := by
    rw [Area.addressOf]
    omega
  simp only [Area.mappedBytes, Span.ofSize, Span.size] at stop inside
  refine ⟨⟨?_, ?_⟩, ?_, rfl⟩
  · simp only [Area.addressOf]
    omega
  · simp only [Area.addressOf]
    omega
  · rw [offset]
    exact aligned.add whole

namespace AddressSpace

variable {a : AddressSpace} {s : Span} {v : Area}

/-- Every page lies in an area and has its rights, and starts a page if the range does. -/
structure Covered (a : AddressSpace) : Prop where
  mapped : ∀ entry ∈ a.pages, ∃ v ∈ a.areas, v.span.Contains entry.1 ∧ entry.2.perms = v.perms
  aligned : PageAligned a.range.start → ∀ entry ∈ a.pages, PageAligned entry.1

private theorem covered_of_pages_nil (none : a.pages = []) : a.Covered := by
  constructor
  · rw [none]
    nofun
  · rw [none]
    nofun

/-- To unmap a span leaves every page covered. -/
theorem Covered.unmap (covered : a.Covered) (ordered : a.Ordered) : (a.unmap s).Covered where
  mapped := by
    intro entry member
    obtain ⟨old, kept⟩ := List.mem_filter.mp member
    obtain ⟨v, inside, holds, perms⟩ := covered.mapped entry old
    obtain ⟨w, remains, holds'⟩ :=
      Area.exists_mem_without_of_contains holds (of_decide_eq_true kept)
    have part := Area.part_of_mem_without (ordered.nonempty v inside) remains
    exact ⟨w, mem_areas_unmap.mpr ⟨v, inside, remains⟩, holds', perms.trans part.perms.symm⟩
  aligned := by
    intro origin entry member
    exact covered.aligned origin entry (List.mem_filter.mp member).1

/-- To map an area leaves every page covered. -/
theorem Covered.map (covered : a.Covered) (ordered : a.Ordered) (room : a.HasRoom v.span)
    (nonempty : v.span.start < v.span.stop) : (a.map v).Covered where
  mapped := by
    intro entry member
    obtain ⟨w, inside, holds⟩ := covered.mapped entry member
    exact ⟨w, (ordered.mem_areas_map room nonempty).mpr (.inr inside), holds⟩
  aligned := covered.aligned

private theorem Covered.establish {l : Location} (covered : a.Covered) (laid : a.Laid)
    (member : v ∈ a.areas) (spans : Kernel.Spans v l) : (a.establish v l).Covered where
  mapped := by
    intro entry inside
    rcases List.mem_append.mp inside with new | old
    · obtain ⟨holds, _, perms⟩ := spans.mem_pagesOf (laid.nonempty v member) new
      exact ⟨v, member, holds, perms⟩
    · exact covered.mapped entry (List.mem_filter.mp old).1
  aligned := by
    intro origin entry inside
    rcases List.mem_append.mp inside with new | old
    · obtain ⟨holds, whole, _⟩ := spans.mem_pagesOf (laid.nonempty v member) new
      have start := ((laid.tidy origin).aligned v member).1
      have sum : entry.1 = v.span.start + (entry.1 - v.span.start) := by
        have := holds.1
        omega
      rw [sum]
      exact start.add whole
    · exact covered.aligned origin entry (List.mem_filter.mp old).1

/-- The pages that are established for an area are covered by it. -/
theorem Covered.establishAll {ls : List Location} (covered : a.Covered) (laid : a.Laid)
    (member : v ∈ a.areas) (spans : ∀ l ∈ ls, Kernel.Spans v l) : (a.establishAll v ls).Covered := by
  induction ls generalizing a with
  | nil => exact covered
  | cons l rest ih =>
      have first := covered.establish laid member (spans l (List.mem_cons_self ..))
      exact ih first (laid.withPages _) member fun l' later => spans l' (List.mem_cons_of_mem _ later)

/-- The areas and the pages of an address space whose range starts a page are as they are to be. -/
structure WellFormed (a : AddressSpace) : Prop where
  stored : ∀ v ∈ a.areas, a.areaFrom? v.span.start = some v
  nonempty : ∀ v ∈ a.areas, v.span.start < v.span.stop
  aligned : ∀ v ∈ a.areas, PageAligned v.span.start ∧ PageAligned v.span.stop
  inside : ∀ v ∈ a.areas, a.range.start ≤ v.span.start ∧ v.span.stop ≤ a.range.stop
  apart : a.areas.Pairwise fun v w => ¬ v.span.Meets w.span
  pages : ∀ entry ∈ a.pages, PageAligned entry.1 ∧
    ∃ v ∈ a.areas, v.span.Contains entry.1 ∧ entry.2.perms = v.perms

/-- An area is found where it starts. -/
theorem Ordered.areaFrom? (ordered : a.Ordered) (member : v ∈ a.areas) :
    a.areaFrom? v.span.start = some v := by
  have proper := ordered.nonempty v member
  cases found : a.areaFrom? v.span.start with
  | none =>
      have missing := List.find?_eq_none.mp found v member
      exact (missing (decide_eq_true rfl)).elim
  | some w =>
      obtain ⟨inside, start⟩ := areaFrom?_eq_some found
      have proper' := ordered.nonempty w inside
      have same := ordered.area_unique v.span.start inside ⟨by omega, by omega⟩ member
        ⟨Nat.le_refl _, proper⟩
      rw [same]

private theorem Tidy.wellFormed (tidy : a.Tidy) (covered : a.Covered) : a.WellFormed where
  stored := fun _ => tidy.toOrdered.areaFrom?
  nonempty := tidy.nonempty
  aligned := tidy.aligned
  inside := tidy.inside
  apart := tidy.ascending.imp fun before meets => by
    have := meets.2
    omega
  pages := fun entry member => ⟨covered.aligned tidy.origin entry member, covered.mapped entry member⟩

end AddressSpace

namespace Kernel

open KernelM

variable {k k' : Kernel} {refs refs' extra : Multiset Object} {may : Deed → Prop} {ref : SpaceRef}
  {a : AddressSpace} {spans : List Span}

/-! ## Pages -/

/-- What is true of all address spaces is still so when one is replaced by another of which it is
true. -/
theorem forall_setSpace {property : SpaceRef → AddressSpace → Prop} {a' : AddressSpace}
    (found : k.space? ref = some a) (all : ∀ ref a, k.space? ref = some a → property ref a)
    (here : property ref a') :
    ∀ ref' b, (k.setSpace a' ref).space? ref' = some b → property ref' b := by
  intro ref' b found'
  rw [space?_setSpace found] at found'
  split at found'
  case isTrue same =>
    cases found'
    exact same ▸ here
  case isFalse => exact all ref' b found'

/-- Every page lies in an area and has its rights. -/
def Covered (k : Kernel) : Prop := ∀ ref a, k.space? ref = some a → a.Covered

/-- One turn leaves every page covered. -/
theorem Turn.covered (turn : Turn may k refs k' refs') (laid : k.Laid) (covered : k.Covered) :
    k'.Covered := by
  cases turn with
  | change change =>
      intro ref a found
      rw [space?_congr change.holderPart] at found
      exact covered ref a found
  | unmap found =>
      exact forall_setSpace found covered ((covered _ _ found).unmap (laid.spaces found).toOrdered)
  | map found mappable =>
      exact forall_setSpace found covered
        ((covered _ _ found).map (laid.spaces found).toOrdered mappable.room mappable.nonempty)
  | establish found member located =>
      exact forall_setSpace found covered
        ((covered _ _ found).establishAll (laid.spaces found) member located.spans)
  | rehold _ _ origin =>
      intro ref a found
      cases origin found with
      | same original => exact covered _ _ original
      | copy => exact AddressSpace.covered_of_pages_nil rfl
      | new => exact AddressSpace.covered_of_pages_nil rfl

/-! ## Tables -/

/-- Spans are cut out of the table of areas one after the other, and no area is overwritten. -/
def Cuts (k : Kernel) (ref : SpaceRef) (spans : List Span) (k' : Kernel) : Prop :=
  ∃ a a', k.space? ref = some a ∧ k'.space? ref = some a' ∧
    spans.foldlM Table.unmap? a.table = some a'.table

/-- After spans were cut out, an area is stored in the table of areas, and no other is
overwritten. -/
def Stores (k : Kernel) (ref : SpaceRef) (spans : List Span) (v : Area) (k' : Kernel) : Prop :=
  ∃ a t a', k.space? ref = some a ∧ k'.space? ref = some a' ∧
    spans.foldlM Table.unmap? a.table = some t ∧ t.insert? v.span.start v = some a'.table

/-- Whatever is done with an address space, no area is overwritten in the table of its areas. -/
structure NeverOverwrites (k : Kernel) (ref : SpaceRef) (a : AddressSpace) : Prop where
  munmap : ∀ q address length, (munmap ref q address length).Ends k
    (fun _ k' => ∃ rounded, pageUp? length = some rounded ∧
      Cuts k ref [.ofSize address rounded] k')
    (fun _ k' => Cuts k ref [] k')
  detach : ∀ q address, (detach ref q address).Ends k
    (fun _ k' => ∃ s g, attachedFrom? a address = some s ∧ k.segments.get? s = some g ∧
      Cuts k ref (a.piecesWithin (.segment s) ⟨address, addSaturating address g.effectiveSize⟩) k')
    (fun _ k' => Cuts k ref [] k')
  unmapAll : ∀ q, Cuts k ref [a.range] (k.unmapAll ref q)
  mmap : ∀ q m, (mmap ref q m).Ends k
    (fun start k' => ∃ span : Span, span.start = start ∧
      (Stores k ref [] (m.areaAt span) k' ∨ Stores k ref [span] (m.areaAt span) k'))
    (fun _ k' => ∃ spans, Cuts k ref spans k')
  /-- A copy that is refused midway has stored the first of the areas. -/
  copy : (forkSpaceValue a).Ends k (fun child _ => a.table.copy? = some child.table)
    (fun _ _ => a.table.copy?.isSome)
  fault : ∀ address access, Cuts k ref [] (k.faultSpace ref address access).2

private theorem cuts_of_foldl (found : k.space? ref = some a) (ordered : a.Ordered)
    (upright : ∀ s ∈ spans, s.start ≤ s.stop)
    (left : k'.space? ref = some (spans.foldl AddressSpace.unmap a)) : Cuts k ref spans k' :=
  ⟨a, _, found, left, ordered.foldlM_unmap?_table upright⟩

private theorem cuts_nil (found : k.space? ref = some a) (same : k'.space? ref = k.space? ref) :
    Cuts k ref [] k' :=
  ⟨a, a, found, same.trans found, rfl⟩

private theorem munmap_cuts (found : k.space? ref = some a) (ordered : a.Ordered) (q : Requester)
    (address length : Nat) : (munmap ref q address length).Ends k
    (fun _ k' => ∃ rounded, pageUp? length = some rounded ∧ Cuts k ref [.ofSize address rounded] k')
    (fun _ k' => Cuts k ref [] k') := by
  have unchanged : Cuts k ref [] k := cuts_nil found rfl
  unfold Kernel.munmap
  refine .check_bind unchanged fun asked => .orRefuse_bind unchanged fun stop within => ?_
  refine ends_modify.mpr ?_
  obtain ⟨rounded, whole, sum⟩ := Option.bind_eq_some_iff.mp within
  obtain ⟨rfl, _⟩ := addWord?_eq_some_iff.mp sum
  refine ⟨rounded, whole, cuts_of_foldl found ordered ?_ (space?_unmapSpan found q _)⟩
  intro s member
  rw [List.mem_singleton.mp member]
  exact Nat.le_add_right _ _

/-- The pieces that an object has in a window are not turned around. -/
theorem upright_of_mem_piecesWithin {object : Object} {window s : Span} (ordered : a.Ordered)
    (piece : s ∈ a.piecesWithin object window) : s.start ≤ s.stop := by
  simp only [AddressSpace.piecesWithin, List.mem_map, List.mem_filter, decide_eq_true_eq] at piece
  obtain ⟨v, ⟨member, holds, _⟩, rfl⟩ := piece
  exact Nat.le_min.mpr ⟨Nat.le_of_lt (ordered.nonempty v member), Nat.le_of_lt holds.2⟩

private theorem detach_cuts (found : k.space? ref = some a) (ordered : a.Ordered) (q : Requester)
    (address : Nat) :
    (detach ref q address).Ends k
      (fun _ k' => ∃ s g, attachedFrom? a address = some s ∧ k.segments.get? s = some g ∧
        Cuts k ref (a.piecesWithin (.segment s) ⟨address, addSaturating address g.effectiveSize⟩) k')
      (fun _ k' => Cuts k ref [] k') := by
  have stuck : Cuts k ref [] (k.halt .dangling) := cuts_nil found (space?_congr rfl ref)
  unfold Kernel.detach
  refine .get_bind (.found_bind found (.orRefuse_bind (cuts_nil found rfl) fun s attached => ?_))
  refine .orStuck_bind stuck fun g present => ends_modify.mpr ?_
  exact ⟨s, g, attached, present, cuts_of_foldl found ordered
    (fun t piece => upright_of_mem_piecesWithin ordered piece) (space?_unmapEach q _ found)⟩

private theorem mmap_stores (laid : k.Laid) (found : k.space? ref = some a) (q : Requester)
    (m : MapRequest) :
    (mmap ref q m).Ends k
      (fun start k' => ∃ span : Span, span.start = start ∧
        (Stores k ref [] (m.areaAt span) k' ∨ Stores k ref [span] (m.areaAt span) k'))
      (fun _ k' => ∃ spans, Cuts k ref spans k') := by
  have ordered := (laid.spaces found).toOrdered
  have ends : (Kernel.mmap ref q m).Ends k
      (fun start k' => Carried k ref m (m.object ::ₘ 0) start k' 0)
      (fun _ k' => Passage idle k (m.object ::ₘ 0) k' 0 ∧ Pared k ref k') := mmap_ends laid ref q m
  refine ends.mono ?_ ?_
  · rintro start k' ⟨span, here, ⟨a', cleared, found', clears, nonempty, mapped⟩, _⟩
    cases found.symm.trans found'
    refine ⟨span, here, ?_⟩
    rcases clears.origin with rfl | rfl
    · exact .inl ⟨cleared, cleared.table, _, found, mapped, rfl,
        ordered.insert?_table clears.room nonempty⟩
    · have cut : [span].foldlM Table.unmap? a.table = some (a.unmap span).table := by
        refine ordered.foldlM_unmap?_table fun s member => ?_
        rw [List.mem_singleton.mp member]
        exact Nat.le_of_lt nonempty
      exact .inr ⟨a, (a.unmap span).table, _, found, mapped, cut,
        (ordered.unmap (Nat.le_of_lt nonempty)).insert?_table clears.room nonempty⟩
  · rintro _ k' ⟨_, pared⟩
    obtain ⟨spans, upright, left⟩ := pared a found
    exact ⟨spans, cuts_of_foldl found ordered upright left⟩

/-- A fault changes nothing but pages. -/
theorem space?_faultSpace (found : k.space? ref = some a) (address : Nat) (access : Access) :
    ∃ pages, (k.faultSpace ref address access).2.space? ref = some { a with pages } := by
  simp only [faultSpace, found]
  split
  case h_1 => exact ⟨a.pages, found⟩
  case h_2 v _ =>
    have asked : Changes idle k 0 ((k.require (FaultFits v address) .arithmetic).locate v.object
        (v.requiredAt address) v.mappedBytes access).2 0 :=
      (changes_require _ (.inl rfl)).trans (changes_locate _ _ _ _)
    generalize (k.require (FaultFits v address) .arithmetic).locate v.object (v.requiredAt address)
      v.mappedBytes access = found' at asked ⊢
    have checked := asked.trans
      (changes_require (∀ l ∈ found'.1.locations, LocationFits v l) (.inl rfl))
    have here := (space?_congr checked.holderPart ref).trans found
    obtain ⟨pages, same⟩ := a.establishAll_eq v found'.1.locations
    have placed := (space?_setSpace here (a.establishAll v found'.1.locations) ref).trans (if_pos rfl)
    rw [same] at placed
    refine ⟨pages, ?_⟩
    rw [same]
    split
    · exact placed
    · exact (space?_congr rfl ref).trans placed

private theorem faultSpace_cuts (found : k.space? ref = some a) (address : Nat) (access : Access) :
    Cuts k ref [] (k.faultSpace ref address access).2 := by
  obtain ⟨pages, left⟩ := space?_faultSpace found address access
  exact ⟨a, _, found, left, rfl⟩

private theorem neverOverwrites (laid : k.Laid) (found : k.space? ref = some a) :
    k.NeverOverwrites ref a where
  munmap := munmap_cuts found (laid.spaces found).toOrdered
  detach := detach_cuts found (laid.spaces found).toOrdered
  unmapAll := by
    intro q
    have ordered := (laid.spaces found).toOrdered
    refine cuts_of_foldl found ordered ?_ ?_
    · intro s member
      rw [List.mem_singleton.mp member]
      exact ordered.range
    · simp only [Kernel.unmapAll, found]
      exact space?_unmapSpan found q a.range
  mmap := mmap_stores laid found
  copy := by
    have stored := (laid.spaces found).toOrdered.copy?_table
    have ends : (forkSpaceValue a).Ends k
        (fun child k' => child = { a with pages := [] } ∧
          Changes idle k (k.held + 0) k' (a.mapped + (k.held + 0)))
        (fun _ k' => Changes idle k (k.held + 0) k' (k.held + 0)) :=
      forkSpaceValue_ends a (mapped_subset_held found)
    refine ends.mono ?_ ?_
    · rintro _ _ ⟨rfl, _⟩
      exact stored
    · intro _ _ _
      rw [stored]
      rfl
  fault := faultSpace_cuts found

end Kernel

namespace World

open Kernel

variable {w w' : World} {may : Deed → Prop} {allowed : Operation → Prop} {ref : SpaceRef}
  {a : AddressSpace}

private theorem Step.covered (step : Step may w w') (laid : w.kernel.Laid)
    (covered : w.kernel.Covered) : w'.kernel.Covered := by
  refine step.kernel Covered Turn.covered ?_ laid covered
  intro k k' holders _ covered ref a found
  rw [space?_congr holders] at found
  exact covered ref a found

/-- In every world that is reached every page is covered. -/
theorem Reachable.covered (suits : Suits allowed may) (reachable : Reachable allowed w) :
    w.kernel.Covered := by
  have both := reachable.invariant suits (fun w => w.kernel.Laid ∧ w.kernel.Covered)
    (fun step ⟨laid, covered⟩ => ⟨step.laid laid, step.covered laid covered⟩)
    ⟨laid_start, fun ref a found => ?_⟩
  · exact both.2
  · rw [space?_start] at found
    cases found

/-- Address spaces are represented as they are to be. After any operations, in every address space
whose range starts a page, each area is stored under its start, is not empty and is made of whole
pages of the range, no two areas meet, and each page starts a page and has the rights of the area
that it lies in. Whatever is done next, no area that is stored is overwritten. -/
theorem representation (reachable : w.Reachable anything) (found : w.kernel.space? ref = some a)
    (origin : PageAligned a.range.start) : a.WellFormed ∧ w.kernel.NeverOverwrites ref a := by
  have laid := reachable.laid suits_anything
  have covered := reachable.covered suits_anything
  exact ⟨((laid.spaces found).tidy origin).wellFormed (covered ref a found),
    neverOverwrites laid found⟩

/-- A window is mapped and touched, a segment replaces its middle, and a part of the segment is
unmapped again. -/
def patching : List Operation :=
  [.makePool 0 16, .makeRegistry .initial ⟨0⟩ {} (.ipc true), .makeClock ⟨0⟩,
    .makeTask 1 (.superuser .initial) ⟨0⟩ ⟨0⟩ ⟨0x10000, 0x40000⟩,
    .makeWindow ⟨"buffer", 0x80000, 0x5000, true, false, none, 0, []⟩, .requestWindow ⟨0⟩,
    .mmap (.ofTask ⟨0⟩) ⟨.superuser .initial, none, none⟩ ⟨0⟩, .faultTask ⟨0⟩ 0x12345 .readOnly,
    .shmget ⟨0⟩ privateKey 0x3000 ⟨0o600⟩, .shmat ⟨0⟩ 1 0x11000 ⟨0o50000⟩,
    .faultTask ⟨0⟩ 0x12345 .readOnly,
    .munmap (.ofTask ⟨0⟩) ⟨.superuser .initial, none, none⟩ 0x12000 0x1000, .forkTask ⟨0⟩ 2]

/-- Four areas remain with a page in each of them. -/
theorem representation_patching :
    let w := ({} : World).follow patching
    w.Reachable anything ∧ ∃ a ∈ w.kernel.space? (.ofTask ⟨0⟩), PageAligned a.range.start ∧
      a.areas.map (fun v => (v.span.start, v.span.stop)) =
        [(0x10000, 0x11000), (0x11000, 0x12000), (0x13000, 0x14000), (0x14000, 0x15000)] ∧
      a.pages.length = 4 ∧ a.WellFormed ∧ w.kernel.NeverOverwrites (.ofTask ⟨0⟩) a := by
  intro w
  have reachable : w.Reachable anything :=
    reachable_follow (by decide +kernel) fun _ _ => trivial
  have state : ∃ a ∈ w.kernel.space? (.ofTask ⟨0⟩), PageAligned a.range.start ∧
      a.areas.map (fun v => (v.span.start, v.span.stop)) =
        [(0x10000, 0x11000), (0x11000, 0x12000), (0x13000, 0x14000), (0x14000, 0x15000)] ∧
      a.pages.length = 4 := by decide +kernel
  obtain ⟨a, found, origin, areas, pages⟩ := state
  obtain ⟨wellFormed, spared⟩ := representation reachable found origin
  exact ⟨reachable, a, found, origin, areas, pages, wellFormed, spared⟩

end World

end SharedMemory
