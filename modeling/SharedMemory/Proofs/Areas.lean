import Mathlib.Data.List.Basic
import SharedMemory.AddressSpace.Fault

/-!
# Areas in order

The areas of an address space are not empty, do not overlap and stand in ascending order.
Unmapping keeps them so, and so does mapping where there is room; the two ways to find
room, to unmap what is there and to search for a gap, both find it. If the addresses at
which areas are cut and placed start pages, the areas remain whole pages.
-/

namespace SharedMemory

/-- A sum of multiples of the page size is one. -/
theorem PageAligned.add {a b : Nat} (first : PageAligned a) (second : PageAligned b) :
    PageAligned (a + b) := by
  simp only [PageAligned, pageSize] at *
  omega

/-- A difference of multiples of the page size is one. -/
theorem PageAligned.sub {a b : Nat} (first : PageAligned a) (second : PageAligned b) :
    PageAligned (a - b) := by
  simp only [PageAligned, pageSize] at *
  omega

namespace Area

/-- A part of an area: some of its addresses, mapped as before. -/
structure Part (w v : Area) : Prop where
  object : w.object = v.object
  perms : w.perms = v.perms
  maxPerms : w.maxPerms = v.maxPerms
  start : v.span.start ≤ w.span.start
  stop : w.span.stop ≤ v.span.stop
  offset : w.offset = v.offset + (w.span.start - v.span.start)
  nonempty : w.span.start < w.span.stop

/-- An area that is not empty is part of itself. -/
theorem Part.refl {v : Area} (nonempty : v.span.start < v.span.stop) : v.Part v :=
  ⟨rfl, rfl, rfl, Nat.le_refl _, Nat.le_refl _, by simp, nonempty⟩

/-- A part of a part is a part. -/
theorem Part.trans {u v w : Area} (first : w.Part v) (second : v.Part u) : w.Part u where
  object := first.object.trans second.object
  perms := first.perms.trans second.perms
  maxPerms := first.maxPerms.trans second.maxPerms
  start := Nat.le_trans second.start first.start
  stop := Nat.le_trans first.stop second.stop
  offset := by
    have := first.start
    have := second.start
    rw [first.offset, second.offset]
    omega
  nonempty := first.nonempty

/-- What remains of an area: all of it, or what lies before or after the span. -/
theorem mem_without {v w : Area} {s : Span} :
    w ∈ v.without s ↔
      (¬ v.span.Meets s ∧ w = v) ∨
        (v.span.Meets s ∧ v.span.start < s.start ∧ w = v.slice v.span.start s.start) ∨
          (v.span.Meets s ∧ s.stop < v.span.stop ∧ w = v.slice s.stop v.span.stop) := by
  by_cases meets : v.span.Meets s
  · have before : v.span.start < max v.span.start s.start ↔ v.span.start < s.start := by omega
    have behind : min v.span.stop s.stop < v.span.stop ↔ s.stop < v.span.stop := by omega
    simp only [without, meets, remains, overlap, before, behind, if_true, List.mem_append]
    constructor
    · rintro (left | right)
      · split at left
        case isTrue early =>
          rw [Nat.max_eq_right (Nat.le_of_lt early)] at left
          exact .inr (.inl ⟨trivial, early, List.mem_singleton.mp left⟩)
        case isFalse => cases left
      · split at right
        case isTrue late =>
          rw [Nat.min_eq_right (Nat.le_of_lt late)] at right
          exact .inr (.inr ⟨trivial, late, List.mem_singleton.mp right⟩)
        case isFalse => cases right
    · rintro (⟨apart, _⟩ | ⟨_, early, rfl⟩ | ⟨_, late, rfl⟩)
      · exact (apart trivial).elim
      · rw [if_pos early, Nat.max_eq_right (Nat.le_of_lt early)]
        exact .inl (List.mem_singleton.mpr rfl)
      · rw [if_pos late, Nat.min_eq_right (Nat.le_of_lt late)]
        exact .inr (List.mem_singleton.mpr rfl)
  · simp [without, meets]

/-- What is left of an area after a cut is part of it. -/
theorem part_of_mem_without {v w : Area} {s : Span} (nonempty : v.span.start < v.span.stop)
    (member : w ∈ v.without s) : w.Part v := by
  rcases mem_without.mp member with ⟨_, rfl⟩ | ⟨meets, early, rfl⟩ | ⟨meets, late, rfl⟩
  · exact .refl nonempty
  · exact ⟨rfl, rfl, rfl, Nat.le_refl _, Nat.le_of_lt meets.2, rfl, early⟩
  · exact ⟨rfl, rfl, rfl, Nat.le_of_lt meets.1, Nat.le_refl _, rfl, late⟩

/-- What is left of an area after a cut does not meet what was cut out. -/
theorem not_meets_of_mem_without {v w : Area} {s : Span} (member : w ∈ v.without s) :
    ¬ w.span.Meets s := by
  rcases mem_without.mp member with ⟨apart, rfl⟩ | ⟨_, _, rfl⟩ | ⟨_, _, rfl⟩
  · exact apart
  · exact fun meets => Nat.lt_irrefl _ meets.2
  · exact fun meets => Nat.lt_irrefl _ meets.1

/-- What remains before a span lies before what remains behind it. -/
theorem pairwise_without (v : Area) {s : Span} (upright : s.start ≤ s.stop) :
    (v.without s).Pairwise fun w w' => w.span.stop ≤ w'.span.start := by
  unfold without
  split
  case isFalse => exact List.pairwise_singleton _ _
  case isTrue meets =>
    unfold remains
    refine List.pairwise_append.mpr ⟨?_, ?_, ?_⟩
    · split <;> simp
    · split <;> simp
    · intro w left w' right
      split at left <;> split at right <;> simp only [List.mem_singleton, List.not_mem_nil] at *
      subst left right
      have first := meets.1
      have second := meets.2
      simp only [slice, overlap] at *
      omega

/-- Where a span cuts an area, it cuts at the start of a page. -/
def CutCleanly (v : Area) (s : Span) : Prop :=
  v.span.Meets s →
    (v.span.start < s.start → PageAligned s.start) ∧ (s.stop < v.span.stop → PageAligned s.stop)

/-- An area that holds the whole page from an address on. -/
def HasPage (v : Area) (address : Nat) : Prop :=
  v.span.start ≤ address ∧ address + pageSize ≤ v.span.stop

instance (v : Area) (address : Nat) : Decidable (v.HasPage address) :=
  inferInstanceAs (Decidable (_ ∧ _))

/-- A clean cut leaves whole pages. -/
theorem aligned_of_mem_without {v w : Area} {s : Span} (clean : v.CutCleanly s)
    (aligned : PageAligned v.span.start ∧ PageAligned v.span.stop) (member : w ∈ v.without s) :
    PageAligned w.span.start ∧ PageAligned w.span.stop := by
  rcases mem_without.mp member with ⟨_, rfl⟩ | ⟨meets, early, rfl⟩ | ⟨meets, late, rfl⟩
  · exact aligned
  · exact ⟨aligned.1, (clean meets).1 early⟩
  · exact ⟨(clean meets).2 late, aligned.2⟩

/-- A page of an area that a clean cut does not take away is in what remains. -/
theorem exists_mem_without_of_hasPage {v : Area} {s : Span} {address : Nat}
    (clean : v.CutCleanly s) (page : v.HasPage address) (aligned : PageAligned address)
    (kept : ¬ s.Contains address) : ∃ w ∈ v.without s, w.HasPage address := by
  obtain ⟨lower, upper⟩ := page
  by_cases meets : v.span.Meets s
  · rcases Nat.lt_or_ge address s.start with before | behind
    · have early : v.span.start < s.start := Nat.lt_of_le_of_lt lower before
      have start := (clean meets).1 early
      refine ⟨_, mem_without.mpr (.inr (.inl ⟨meets, early, rfl⟩)), lower, ?_⟩
      simp only [slice, PageAligned, pageSize] at *
      omega
    · have after : s.stop ≤ address := Nat.le_of_not_lt fun inside => kept ⟨behind, inside⟩
      have late : s.stop < v.span.stop := by
        simp only [pageSize] at upper
        omega
      exact ⟨_, mem_without.mpr (.inr (.inr ⟨meets, late, rfl⟩)), after, upper⟩
  · exact ⟨v, mem_without.mpr (.inl ⟨meets, rfl⟩), lower, upper⟩

end Area

namespace AddressSpace

/-- The areas are not empty, do not overlap and stand in ascending order. -/
structure Ordered (a : AddressSpace) : Prop where
  range : a.range.start ≤ a.range.stop
  ascending : a.areas.Pairwise fun v w => v.span.stop ≤ w.span.start
  nonempty : ∀ v ∈ a.areas, v.span.start < v.span.stop

variable {a : AddressSpace} {s : Span}

private theorem ordered_empty {range : Span} (upright : range.start ≤ range.stop) :
    (empty range).Ordered :=
  ⟨upright, List.Pairwise.nil, nofun⟩

/-- The areas after a range is unmapped are what is left of those before. -/
theorem mem_areas_unmap {w : Area} : w ∈ (a.unmap s).areas ↔ ∃ v ∈ a.areas, w ∈ v.without s :=
  List.mem_flatMap

/-- Areas stay in order when a range is unmapped. -/
theorem Ordered.unmap (ordered : a.Ordered) (upright : s.start ≤ s.stop) :
    (a.unmap s).Ordered where
  range := ordered.range
  ascending := by
    refine List.pairwise_flatMap.mpr ⟨fun v _ => v.pairwise_without upright, ?_⟩
    have together := List.Pairwise.and_mem.mp ordered.ascending
    refine together.imp fun ⟨inside, inside', before⟩ v' member w' member' => ?_
    have first := Area.part_of_mem_without (ordered.nonempty _ inside) member
    have second := Area.part_of_mem_without (ordered.nonempty _ inside') member'
    exact Nat.le_trans first.stop (Nat.le_trans before second.start)
  nonempty := by
    intro w member
    obtain ⟨v, inside, remains⟩ := mem_areas_unmap.mp member
    exact (Area.part_of_mem_without (ordered.nonempty v inside) remains).nonempty

/-- No area meets a range after it is unmapped. -/
theorem not_meets_of_mem_unmap {w : Area} (member : w ∈ (a.unmap s).areas) :
    ¬ w.span.Meets s := by
  obtain ⟨v, _, remains⟩ := mem_areas_unmap.mp member
  exact Area.not_meets_of_mem_without remains

/-! ## Room -/

/-- A span that meets no area. -/
def HasRoom (a : AddressSpace) (s : Span) : Prop := ∀ w ∈ a.areas, ¬ w.span.Meets s

/-- An area that is put where there is room is added to the others. -/
theorem perm_insertArea {v : Area} {areas : List Area}
    (room : ∀ w ∈ areas, w.span.start ≠ v.span.start) :
    (insertArea v areas).Perm (v :: areas) := by
  induction areas with
  | nil => exact List.Perm.refl _
  | cons w rest ih =>
      unfold insertArea
      split
      · exact List.Perm.refl _
      · split
        case isTrue same => exact (room w (List.mem_cons_self ..) same.symm).elim
        case isFalse =>
          have rest := ih fun w' member => room w' (List.mem_cons_of_mem _ member)
          exact (rest.cons w).trans (List.Perm.swap v w _)

/-- An area that is inserted is there. -/
theorem mem_insertArea_self (v : Area) (areas : List Area) : v ∈ insertArea v areas := by
  induction areas with
  | nil => exact List.mem_singleton_self v
  | cons w rest ih =>
      unfold insertArea
      split
      · exact List.mem_cons_self ..
      · split
        · exact List.mem_cons_self ..
        · exact List.mem_cons_of_mem w ih

/-- An area for which there is room starts where no other does. -/
theorem Ordered.start_ne {v : Area} (ordered : a.Ordered) (room : a.HasRoom v.span)
    (nonempty : v.span.start < v.span.stop) : ∀ w ∈ a.areas, w.span.start ≠ v.span.start := by
  intro w member same
  have := ordered.nonempty w member
  exact room w member ⟨by omega, by omega⟩

/-- After an area is mapped where there is room, there are it and those before. -/
theorem Ordered.mem_areas_map {v w : Area} (ordered : a.Ordered) (room : a.HasRoom v.span)
    (nonempty : v.span.start < v.span.stop) : w ∈ (a.map v).areas ↔ w = v ∨ w ∈ a.areas := by
  simp only [AddressSpace.map, (perm_insertArea (ordered.start_ne room nonempty)).mem_iff,
    List.mem_cons]

private theorem pairwise_insertArea {v : Area} {areas : List Area}
    (ascending : areas.Pairwise fun w w' => w.span.stop ≤ w'.span.start)
    (nonempty : ∀ w ∈ areas, w.span.start < w.span.stop)
    (apart : ∀ w ∈ areas, ¬ w.span.Meets v.span) (proper : v.span.start < v.span.stop) :
    (insertArea v areas).Pairwise fun w w' => w.span.stop ≤ w'.span.start := by
  induction areas with
  | nil => exact List.pairwise_singleton _ _
  | cons w rest ih =>
      obtain ⟨first, others⟩ := List.pairwise_cons.mp ascending
      have wProper := nonempty w (List.mem_cons_self ..)
      have wApart := apart w (List.mem_cons_self ..)
      have restNonempty : ∀ w' ∈ rest, w'.span.start < w'.span.stop :=
        fun w' member => nonempty w' (List.mem_cons_of_mem _ member)
      have restApart : ∀ w' ∈ rest, ¬ w'.span.Meets v.span :=
        fun w' member => apart w' (List.mem_cons_of_mem _ member)
      unfold Span.Meets at wApart
      unfold insertArea
      split
      case isTrue before =>
        refine List.pairwise_cons.mpr ⟨fun w' member => ?_, ascending⟩
        rcases List.mem_cons.mp member with rfl | member
        · omega
        · have := first w' member
          omega
      case isFalse =>
        split
        case isTrue same => omega
        case isFalse =>
          have keys : ∀ w' ∈ rest, w'.span.start ≠ v.span.start := by
            intro w' member same
            have := restNonempty w' member
            exact restApart w' member ⟨by omega, by omega⟩
          refine List.pairwise_cons.mpr ⟨fun w' member => ?_, ih others restNonempty restApart⟩
          rcases List.mem_cons.mp ((perm_insertArea keys).mem_iff.mp member) with rfl | member
          · omega
          · exact first w' member

/-- Areas stay in order when one is mapped where there is room. -/
theorem Ordered.map {v : Area} (ordered : a.Ordered) (room : a.HasRoom v.span)
    (nonempty : v.span.start < v.span.stop) : (a.map v).Ordered where
  range := ordered.range
  ascending := pairwise_insertArea ordered.ascending ordered.nonempty room nonempty
  nonempty := by
    intro w member
    rcases (ordered.mem_areas_map room nonempty).mp member with rfl | member
    · exact nonempty
    · exact ordered.nonempty w member

/-! ## Gaps -/

/-- A gap that the search finds starts at the cursor or behind it, ends before the next
area, and starts behind every area that it passed. -/
theorem lowestGap?_room {length limit cursor start : Nat} {areas : List Area}
    (ascending : areas.Pairwise fun w w' => w.span.stop ≤ w'.span.start)
    (nonempty : ∀ w ∈ areas, w.span.start < w.span.stop)
    (found : lowestGap? length limit cursor areas = some start) :
    cursor ≤ start ∧ ∀ w ∈ areas, ¬ w.span.Meets (.ofSize start length) := by
  induction areas generalizing cursor with
  | nil =>
      unfold lowestGap? at found
      split at found
      · cases found
        exact ⟨Nat.le_refl _, nofun⟩
      · cases found
  | cons w rest ih =>
      obtain ⟨first, others⟩ := List.pairwise_cons.mp ascending
      have restNonempty : ∀ w' ∈ rest, w'.span.start < w'.span.stop :=
        fun w' member => nonempty w' (List.mem_cons_of_mem _ member)
      unfold lowestGap? at found
      split at found
      case isTrue fits =>
        cases found
        refine ⟨Nat.le_refl _, fun w' member meets => ?_⟩
        have early : w'.span.start < start + length := meets.1
        rcases List.mem_cons.mp member with rfl | member
        · omega
        · have := first w' member
          have := nonempty w (List.mem_cons_self ..)
          omega
      case isFalse =>
        obtain ⟨behind, clear⟩ := ih others restNonempty found
        refine ⟨by omega, fun w' member => ?_⟩
        rcases List.mem_cons.mp member with rfl | member
        · intro meets
          have late : start < w'.span.stop := meets.2
          omega
        · exact clear w' member

/-- In ascending order, the areas that start early come first. -/
theorem mem_takeWhile_start {areas : List Area} {bound : Nat}
    (ascending : areas.Pairwise fun w w' => w.span.stop ≤ w'.span.start)
    (nonempty : ∀ w ∈ areas, w.span.start < w.span.stop) {w : Area} (member : w ∈ areas)
    (early : w.span.start < bound) : w ∈ areas.takeWhile (·.span.start < bound) := by
  induction areas with
  | nil => cases member
  | cons w' rest ih =>
      obtain ⟨first, others⟩ := List.pairwise_cons.mp ascending
      have proper := nonempty w' (List.mem_cons_self ..)
      rcases List.mem_cons.mp member with rfl | member
      · simp [early]
      · have := first w member
        have head : w'.span.start < bound := by omega
        simp only [List.takeWhile_cons, head, decide_true, if_true, List.mem_cons]
        exact .inr (ih others (fun w'' inside => nonempty w'' (List.mem_cons_of_mem _ inside)) member)

/-- In ascending order, no area stops behind the last. -/
theorem stop_le_getLast {areas : List Area} {last w : Area}
    (ascending : areas.Pairwise fun w w' => w.span.stop ≤ w'.span.start)
    (nonempty : ∀ w ∈ areas, w.span.start < w.span.stop) (ends : areas.getLast? = some last)
    (member : w ∈ areas) : w.span.stop ≤ last.span.stop := by
  obtain ⟨before, rfl⟩ := List.getLast?_eq_some_iff.mp ends
  rcases List.mem_append.mp member with earlier | same
  · have ordered := (List.pairwise_append.mp ascending).2.2 w earlier last (List.mem_singleton.mpr rfl)
    have := nonempty last (List.mem_append_right _ (List.mem_singleton.mpr rfl))
    omega
  · exact Nat.le_of_eq (congrArg (·.span.stop) (List.mem_singleton.mp same))

/-- A span that is free by the area before its end has room. -/
theorem Ordered.hasRoom_of_isFree (ordered : a.Ordered) (free : a.isFree s = true) :
    a.HasRoom s := by
  intro w member meets
  have early := mem_takeWhile_start ordered.ascending ordered.nonempty member meets.1
  have ascending := ordered.ascending.sublist (List.takeWhile_sublist (·.span.start < s.stop))
  have nonempty : ∀ v ∈ a.areas.takeWhile (·.span.start < s.stop), v.span.start < v.span.stop :=
    fun v inside => ordered.nonempty v ((List.takeWhile_sublist _).subset inside)
  unfold isFree at free
  cases ends : (a.areas.takeWhile (·.span.start < s.stop)).getLast? with
  | none =>
      rw [List.getLast?_eq_none_iff] at ends
      rw [ends] at early
      cases early
  | some last =>
      simp only [ends, Option.all_some, decide_eq_true_eq] at free
      have := stop_le_getLast ascending nonempty ends early
      have := meets.2
      omega

/-- Where a mapping is placed there is room for it. -/
theorem Ordered.hasRoom_of_place? {hint length start : Nat} (ordered : a.Ordered)
    (placed : a.place? hint length = some start) : a.HasRoom (.ofSize start length) := by
  unfold place? at placed
  split at placed
  case isTrue taken =>
    cases placed
    exact ordered.hasRoom_of_isFree taken.2.2.2.2.2
  case isFalse => exact (lowestGap?_room ordered.ascending ordered.nonempty placed).2

/-! ## Whole pages -/

/-- The areas are in order, within the range, and made of whole pages. -/
structure Tidy (a : AddressSpace) : Prop extends a.Ordered where
  origin : PageAligned a.range.start
  aligned : ∀ v ∈ a.areas, PageAligned v.span.start ∧ PageAligned v.span.stop
  inside : ∀ v ∈ a.areas, a.range.start ≤ v.span.start ∧ v.span.stop ≤ a.range.stop

private theorem tidy_empty {range : Span} (upright : range.start ≤ range.stop)
    (origin : PageAligned range.start) : (empty range).Tidy :=
  ⟨ordered_empty upright, origin, nofun, nofun⟩

private theorem Tidy.unmap (tidy : a.Tidy) (upright : s.start ≤ s.stop)
    (clean : ∀ v ∈ a.areas, v.CutCleanly s) : (a.unmap s).Tidy where
  toOrdered := tidy.toOrdered.unmap upright
  origin := tidy.origin
  aligned := by
    intro w member
    obtain ⟨v, inside, remains⟩ := mem_areas_unmap.mp member
    exact Area.aligned_of_mem_without (clean v inside) (tidy.aligned v inside) remains
  inside := by
    intro w member
    obtain ⟨v, inside, remains⟩ := mem_areas_unmap.mp member
    have part := Area.part_of_mem_without (tidy.nonempty v inside) remains
    have bounds := tidy.inside v inside
    exact ⟨Nat.le_trans bounds.1 part.start, Nat.le_trans part.stop bounds.2⟩

private theorem Tidy.map {v : Area} (tidy : a.Tidy) (room : a.HasRoom v.span)
    (nonempty : v.span.start < v.span.stop)
    (aligned : PageAligned v.span.start ∧ PageAligned v.span.stop)
    (inside : a.range.start ≤ v.span.start ∧ v.span.stop ≤ a.range.stop) : (a.map v).Tidy where
  toOrdered := tidy.toOrdered.map room nonempty
  origin := tidy.origin
  aligned := by
    intro w member
    rcases (tidy.toOrdered.mem_areas_map room nonempty).mp member with rfl | member
    · exact aligned
    · exact tidy.aligned w member
  inside := by
    intro w member
    rcases (tidy.toOrdered.mem_areas_map room nonempty).mp member with rfl | member
    · exact inside
    · exact tidy.inside w member

/-- The lowest gap ends before the limit, if areas do. -/
theorem lowestGap?_below {length limit cursor start : Nat} {areas : List Area}
    (positive : 0 < length)
    (inside : ∀ v ∈ areas, v.span.start < v.span.stop ∧ v.span.stop ≤ limit)
    (found : lowestGap? length limit cursor areas = some start) : start + length ≤ limit := by
  induction areas generalizing cursor with
  | nil =>
      unfold lowestGap? at found
      split at found
      · cases found
        omega
      · cases found
  | cons w rest ih =>
      have bounds := inside w (List.mem_cons_self ..)
      unfold lowestGap? at found
      split at found
      · cases found
        omega
      · exact ih (fun v member => inside v (List.mem_cons_of_mem _ member)) found

/-- The lowest gap among areas of whole pages starts a page. -/
theorem lowestGap?_aligned {length limit cursor start : Nat} {areas : List Area}
    (origin : PageAligned cursor) (aligned : ∀ v ∈ areas, PageAligned v.span.stop)
    (found : lowestGap? length limit cursor areas = some start) : PageAligned start := by
  induction areas generalizing cursor with
  | nil =>
      unfold lowestGap? at found
      split at found
      · cases found
        exact origin
      · cases found
  | cons w rest ih =>
      unfold lowestGap? at found
      split at found
      · cases found
        exact origin
      · refine ih ?_ (fun v member => aligned v (List.mem_cons_of_mem _ member)) found
        rcases Nat.le_total cursor w.span.stop with before | behind
        · rw [Nat.max_eq_right before]
          exact aligned w (List.mem_cons_self ..)
        · rw [Nat.max_eq_left behind]
          exact origin

/-- A mapping is placed before the end of the range, if areas are. -/
theorem Ordered.place?_below {hint length start : Nat} (ordered : a.Ordered)
    (below : ∀ v ∈ a.areas, v.span.stop ≤ a.range.stop) (positive : 0 < length)
    (placed : a.place? hint length = some start) : start + length ≤ a.range.stop := by
  unfold AddressSpace.place? at placed
  split at placed
  case isTrue taken =>
    cases placed
    exact taken.2.2.2.2.1
  case isFalse =>
    exact lowestGap?_below positive
      (fun v member => ⟨ordered.nonempty v member, below v member⟩) placed

/-- In a tidy address space a mapping is placed at the start of a page and in the range. -/
theorem Tidy.place? {hint length start : Nat} (tidy : a.Tidy)
    (placed : a.place? hint length = some start) :
    PageAligned start ∧ a.range.start ≤ start := by
  unfold AddressSpace.place? at placed
  split at placed
  case isTrue taken =>
    cases placed
    exact ⟨taken.2.1, taken.2.2.2.1⟩
  case isFalse =>
    have behind := (lowestGap?_room tidy.ascending tidy.nonempty placed).1
    have aligned := lowestGap?_aligned tidy.origin (fun v member => (tidy.aligned v member).2) placed
    exact ⟨aligned, behind⟩

/-! ## Layout -/

/-- A span that is cut out of the areas at starts of pages, if the range starts one. -/
structure CleanCut (a : AddressSpace) (s : Span) : Prop where
  upright : s.start ≤ s.stop
  clean : PageAligned a.range.start → ∀ v ∈ a.areas, v.CutCleanly s

/-- A range of whole pages cuts every area cleanly. -/
theorem cleanCut_of_aligned (upright : s.start ≤ s.stop) (start : PageAligned s.start)
    (stop : PageAligned s.stop) : a.CleanCut s :=
  ⟨upright, fun _ _ _ _ => ⟨fun _ => start, fun _ => stop⟩⟩

/-- The pages of so many bytes from the start of a page on are a clean cut. -/
theorem cleanCut_of_sum {address length stop : Nat} (aligned : PageAligned address)
    (within : (pageUp? length).bind (addWord? address) = some stop) :
    a.CleanCut ⟨address, stop⟩ := by
  obtain ⟨rounded, whole, sum⟩ := Option.bind_eq_some_iff.mp within
  obtain ⟨rfl, _⟩ := addWord?_eq_some_iff.mp sum
  exact cleanCut_of_aligned (Nat.le_add_right _ _) aligned
    (aligned.add (pageUp?_eq_some_iff.mp whole).2.1)

/-- A cut that is clean stays so when another range is unmapped first. -/
theorem CleanCut.unmap (cut : a.CleanCut s) (ordered : a.Ordered) (t : Span) :
    (a.unmap t).CleanCut s where
  upright := cut.upright
  clean := by
    intro origin w member meets
    obtain ⟨v, inside, remains⟩ := mem_areas_unmap.mp member
    have part := Area.part_of_mem_without (ordered.nonempty v inside) remains
    have whole : v.span.Meets s :=
      ⟨Nat.lt_of_le_of_lt part.start meets.1, Nat.lt_of_lt_of_le meets.2 part.stop⟩
    obtain ⟨before, behind⟩ := cut.clean origin v inside whole
    exact ⟨fun early => before (Nat.lt_of_le_of_lt part.start early),
      fun late => behind (Nat.lt_of_lt_of_le late part.stop)⟩

/-- An address space as it is to be: in order, of machine words, mapped before the end of its range,
and tidy if the range starts a page. -/
structure Laid (a : AddressSpace) : Prop extends a.Ordered where
  bounded : a.range.stop < wordSize
  below : ∀ v ∈ a.areas, v.span.stop ≤ a.range.stop
  tidy : PageAligned a.range.start → a.Tidy

/-- A new space is laid out well. -/
theorem laid_empty {range : Span} (upright : range.start ≤ range.stop)
    (bounded : range.stop < wordSize) : (empty range).Laid :=
  ⟨ordered_empty upright, bounded, nofun, tidy_empty upright⟩

/-- The layout does not depend on the pages that are established. -/
theorem Laid.withPages (laid : a.Laid) (pages : List (Nat × Page)) :
    ({ a with pages } : AddressSpace).Laid := by
  obtain ⟨⟨range, ascending, nonempty⟩, bounded, below, tidy⟩ := laid
  exact ⟨⟨range, ascending, nonempty⟩, bounded, below, fun origin =>
    ⟨⟨range, ascending, nonempty⟩, origin, (tidy origin).aligned, (tidy origin).inside⟩⟩

/-- A clean cut leaves a space that is laid out well. -/
theorem Laid.unmap (laid : a.Laid) (cut : a.CleanCut s) : (a.unmap s).Laid where
  toOrdered := laid.toOrdered.unmap cut.upright
  bounded := laid.bounded
  below := by
    intro w member
    obtain ⟨v, inside, remains⟩ := mem_areas_unmap.mp member
    have part := Area.part_of_mem_without (laid.nonempty v inside) remains
    exact Nat.le_trans part.stop (laid.below v inside)
  tidy := fun origin => (laid.tidy origin).unmap cut.upright (cut.clean origin)

/-- A space stays laid out well when an area is mapped where there is room. -/
theorem Laid.map {v : Area} (laid : a.Laid) (room : a.HasRoom v.span)
    (nonempty : v.span.start < v.span.stop) (below : v.span.stop ≤ a.range.stop)
    (placed : PageAligned a.range.start → (PageAligned v.span.start ∧ PageAligned v.span.stop) ∧
      a.range.start ≤ v.span.start) : (a.map v).Laid where
  toOrdered := laid.toOrdered.map room nonempty
  bounded := laid.bounded
  below := by
    intro w member
    rcases (laid.toOrdered.mem_areas_map room nonempty).mp member with rfl | member
    · exact below
    · exact laid.below w member
  tidy := fun origin =>
    (laid.tidy origin).map room nonempty (placed origin).1 ⟨(placed origin).2, below⟩

/-- An area starts within the word. -/
theorem Laid.start_lt {v : Area} (laid : a.Laid) (member : v ∈ a.areas) : v.span.start < wordSize := by
  have := laid.nonempty v member
  have := laid.below v member
  have := laid.bounded
  omega

/-- The whole range cuts no area in two. -/
theorem Laid.cleanCut_range (laid : a.Laid) : a.CleanCut a.range where
  upright := laid.range
  clean := by
    intro origin v member _
    have bounds := (laid.tidy origin).inside v member
    exact ⟨fun early => by omega, fun late => by omega⟩

/-! ## Lookup -/

/-- At most one area holds an address. -/
theorem Ordered.area_unique {v w : Area} (ordered : a.Ordered) (address : Nat) (member : v ∈ a.areas)
    (holds : v.span.Contains address) (member' : w ∈ a.areas) (holds' : w.span.Contains address) :
    v = w := by
  have apart : ∀ {v w : Area}, v.span.stop ≤ w.span.start → v.span.Contains address →
      ¬ w.span.Contains address := by
    intro v w before holds holds'
    have := holds.2
    have := holds'.1
    omega
  refine List.Pairwise.forall_of_forall_of_flip
    (R := fun v w => v.span.Contains address → w.span.Contains address → v = w)
    (fun _ _ _ _ => rfl) ?_ ?_ member member' holds holds'
  · exact ordered.ascending.imp fun before first second => (apart before first second).elim
  · exact ordered.ascending.imp fun before first second => (apart before second first).elim

/-- An area that lies where another one does is the other one. -/
theorem Ordered.eq_of_inside {v w : Area} (ordered : a.Ordered) (member : v ∈ a.areas)
    (member' : w ∈ a.areas) (inside : v.span.start ≤ w.span.start ∧ w.span.stop ≤ v.span.stop) :
    w = v := by
  have proper := ordered.nonempty w member'
  exact ordered.area_unique w.span.start member' ⟨Nat.le_refl _, proper⟩ member
    ⟨inside.1, Nat.lt_of_lt_of_le proper inside.2⟩

/-- The area that is found at an address is there and holds it. -/
theorem areaAt?_eq_some {v : Area} {address : Nat} (found : a.areaAt? address = some v) :
    v ∈ a.areas ∧ v.span.Contains address := by
  simp only [areaAt?, lastFrom?, Option.filter_eq_some_iff, decide_eq_true_eq] at found
  obtain ⟨last, holds⟩ := found
  exact ⟨(List.takeWhile_sublist _).subset (List.mem_of_getLast? last), holds⟩

/-- The area that is found from an address is there and starts at it. -/
theorem areaFrom?_eq_some {v : Area} {start : Nat} (found : a.areaFrom? start = some v) :
    v ∈ a.areas ∧ v.span.start = start :=
  ⟨List.mem_of_find?_eq_some found, by simpa using List.find?_some found⟩

/-- In a laid out address space what is detached of an object is a clean cut: it starts with an
area, and ends with it or a whole number of pages behind the start of another. -/
theorem Laid.cleanCut_piece {object : Object} {first : Area} {length : Nat} (laid : a.Laid)
    (member : first ∈ a.areas) (whole : PageAligned length)
    (piece : s ∈ a.piecesWithin object ⟨first.span.start, addSaturating first.span.start length⟩) :
    a.CleanCut s := by
  simp only [piecesWithin, List.mem_map, List.mem_filter, decide_eq_true_eq] at piece
  obtain ⟨v, ⟨inside, holds, _⟩, rfl⟩ := piece
  have proper := laid.nonempty v inside
  refine ⟨Nat.le_min.mpr ⟨Nat.le_of_lt proper, Nat.le_of_lt holds.2⟩, fun origin w inside' meets => ?_⟩
  have same : v = w := by
    obtain ⟨early, late⟩ := meets
    have proper' := laid.nonempty w inside'
    refine laid.area_unique (max v.span.start w.span.start) inside ⟨?_, ?_⟩ inside' ⟨?_, ?_⟩
      <;> simp only at * <;> omega
  subst same
  refine ⟨fun early => absurd early (Nat.lt_irrefl _), fun late => ?_⟩
  have bounds := (laid.tidy origin).inside v inside
  have bounded := laid.bounded
  -- The window cannot be capped at the largest word: the area ends behind it.
  have stop : min v.span.stop (addSaturating first.span.start length) = first.span.start + length := by
    simp only [addSaturating, maxWord] at *
    omega
  simp only [stop]
  exact ((laid.tidy origin).aligned first member).1.add whole

end AddressSpace

end SharedMemory
