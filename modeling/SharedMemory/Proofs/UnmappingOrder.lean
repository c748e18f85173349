import SharedMemory.Proofs.Unmapping

/-!
# Unmapping in any order

What unmapping leaves depends on which addresses are unmapped, and not on how they are divided
among calls or in which order the calls come. An area keeps its largest parts that avoid these
addresses (`Area.Remnant`), so the areas are the same, and with them the references. The
references decide what becomes of the objects, up to what the objects noted of the calls
(`Kernel.unnoted`).
-/

namespace SharedMemory

/-! ## What is left of areas -/

namespace Area

variable {u v w : Area} {s : Span} {taken : Nat → Prop}

/-- A largest part of an area that avoids some addresses: on either side it ends where the area
does, or where such an address is. -/
structure Remnant (v : Area) (taken : Nat → Prop) (w : Area) : Prop where
  part : w.Part v
  clear : ∀ {address}, w.span.Contains address → ¬ taken address
  left : w.span.start = v.span.start ∨ ∃ address, address + 1 = w.span.start ∧ taken address
  right : w.span.stop = v.span.stop ∨ taken w.span.stop

private theorem Part.eq_of_ends (part : w.Part v) (start : w.span.start = v.span.start)
    (stop : w.span.stop = v.span.stop) : w = v := by
  obtain ⟨object, perms, maxPerms, _, _, offset, _⟩ := part
  obtain ⟨⟨vStart, vStop⟩, _⟩ := v
  obtain ⟨⟨wStart, wStop⟩, _⟩ := w
  simp only at *
  subst object perms maxPerms start stop
  rw [offset, Nat.sub_self, Nat.add_zero]

/-- Where nothing is unmapped, an area is left as it is. -/
theorem remnant_of_none (nonempty : v.span.start < v.span.stop)
    (none : ∀ address, ¬ taken address) : v.Remnant taken w ↔ w = v := by
  constructor
  · intro remnant
    apply remnant.part.eq_of_ends
    · apply remnant.left.resolve_right
      intro before
      obtain ⟨address, _, gone⟩ := before
      exact none address gone
    · exact remnant.right.resolve_right (none _)
  · intro same
    subst same
    exact ⟨.refl nonempty, fun _ => none _, .inl rfl, .inl rfl⟩

/-- A part of an area that avoids a span is a part of one of the pieces that the span leaves. -/
theorem Part.exists_mem_without (part : w.Part v) (proper : s.start < s.stop)
    (clear : ∀ {address}, w.span.Contains address → ¬ s.Contains address) :
    ∃ u ∈ v.without s, w.Part u := by
  have nonempty := part.nonempty
  have whole : v.span.start < v.span.stop :=
    Nat.lt_of_le_of_lt part.start (Nat.lt_of_lt_of_le nonempty part.stop)
  have first : w.span.Contains w.span.start := ⟨Nat.le_refl _, nonempty⟩
  obtain ⟨u, remains, holds⟩ :=
    exists_mem_without_of_contains (part.contains first) (clear first)
  have piece := part_of_mem_without whole remains
  have stop : w.span.stop ≤ u.span.stop := by
    rcases mem_without.mp remains with ⟨_, rfl⟩ | ⟨_, _, rfl⟩ | ⟨_, _, rfl⟩
    · exact part.stop
    · -- Otherwise the part would have the first address of the span.
      by_contra beyond
      exact clear ⟨Nat.le_of_lt holds.2, Nat.lt_of_not_le beyond⟩ ⟨Nat.le_refl _, proper⟩
    · exact part.stop
  refine ⟨u, remains, part.object.trans piece.object.symm, part.perms.trans piece.perms.symm,
    part.maxPerms.trans piece.maxPerms.symm, holds.1, stop, ?_, nonempty⟩
  have := piece.start
  have := holds.1
  rw [part.offset, piece.offset]
  omega

/-- What is left of an area after a span and then other addresses were unmapped is what is left of
it when all of them are unmapped at once. -/
theorem exists_remnant_without (nonempty : v.span.start < v.span.stop) (proper : s.start < s.stop) :
    (∃ u ∈ v.without s, u.Remnant taken w) ↔
      v.Remnant (fun address => s.Contains address ∨ taken address) w := by
  constructor
  · intro ⟨u, remains, remnant⟩
    have piece := part_of_mem_without nonempty remains
    have avoids := not_meets_of_mem_without remains
    refine ⟨remnant.part.trans piece, ?clear, ?left, ?right⟩
    case clear =>
      intro address holds gone
      rcases gone with within | gone
      · have holds' := remnant.part.contains holds
        exact avoids ⟨Nat.lt_of_le_of_lt holds'.1 within.2, Nat.lt_of_le_of_lt within.1 holds'.2⟩
      · exact remnant.clear holds gone
    case left =>
      rcases remnant.left with same | ⟨address, before, gone⟩
      · rw [same]
        rcases mem_without.mp remains with ⟨_, rfl⟩ | ⟨_, _, rfl⟩ | ⟨_, _, rfl⟩
        · exact .inl rfl
        · exact .inl rfl
        · have last : s.stop - 1 + 1 = s.stop := by omega
          exact .inr ⟨s.stop - 1, last, .inl ⟨by omega, by omega⟩⟩
      · exact .inr ⟨address, before, .inr gone⟩
    case right =>
      rcases remnant.right with same | gone
      · rw [same]
        rcases mem_without.mp remains with ⟨_, rfl⟩ | ⟨_, _, rfl⟩ | ⟨_, _, rfl⟩
        · exact .inl rfl
        · exact .inr (.inl ⟨Nat.le_refl _, proper⟩)
        · exact .inl rfl
      · exact .inr (.inr gone)
  · intro remnant
    obtain ⟨u, remains, part⟩ :=
      remnant.part.exists_mem_without proper fun holds within => remnant.clear holds (.inl within)
    have piece := part_of_mem_without nonempty remains
    have avoids := not_meets_of_mem_without remains
    have lower := part.start
    have upper := part.stop
    have proper' := part.nonempty
    simp only [Span.Meets] at avoids
    refine ⟨u, remains, part, fun holds gone => remnant.clear holds (.inr gone), ?left, ?right⟩
    case left =>
      rcases remnant.left with same | ⟨address, before, within | gone⟩
      · have := piece.start
        exact .inl (by omega)
      · have := within.1
        have := within.2
        exact .inl (by omega)
      · exact .inr ⟨address, before, gone⟩
    case right =>
      rcases remnant.right with same | within | gone
      · have := piece.stop
        exact .inl (by omega)
      · have := within.1
        have := within.2
        exact .inl (by omega)
      · exact .inr gone

end Area

namespace AddressSpace

variable {a : AddressSpace} {spans spans' : List Span} {w : Area}

/-- The areas that spans leave when they are unmapped one after the other. -/
theorem Ordered.mem_areas_foldl_unmap (ordered : a.Ordered)
    (proper : ∀ s ∈ spans, s.start < s.stop) :
    w ∈ (spans.foldl AddressSpace.unmap a).areas ↔
      ∃ v ∈ a.areas, v.Remnant (fun address => ∃ s ∈ spans, s.Contains address) w := by
  induction spans generalizing a with
  | nil =>
      have untouched : ∀ v ∈ a.areas,
          v.Remnant (fun address => ∃ s ∈ [], Span.Contains s address) w ↔ w = v := by
        intro v member
        exact Area.remnant_of_none (ordered.nonempty v member) fun address => by simp
      simp only [List.foldl_nil]
      constructor
      · intro member
        exact ⟨w, member, (untouched w member).mpr rfl⟩
      · intro ⟨v, member, remnant⟩
        rwa [(untouched v member).mp remnant]
  | cons s rest ih =>
      have first := proper s (List.mem_cons_self ..)
      have others : ∀ t ∈ rest, t.start < t.stop :=
        fun t member => proper t (List.mem_cons_of_mem _ member)
      have step : ∀ v ∈ a.areas,
          (∃ u ∈ v.without s, u.Remnant (fun address => ∃ t ∈ rest, t.Contains address) w) ↔
            v.Remnant (fun address => ∃ t ∈ s :: rest, t.Contains address) w := by
        intro v member
        simp only [List.exists_mem_cons_iff]
        exact Area.exists_remnant_without (ordered.nonempty v member) first
      rw [List.foldl_cons, ih (ordered.unmap (Nat.le_of_lt first)) others]
      simp only [mem_areas_unmap]
      constructor
      · intro ⟨u, ⟨v, member, remains⟩, remnant⟩
        exact ⟨v, member, (step v member).mp ⟨u, remains, remnant⟩⟩
      · intro ⟨v, member, remnant⟩
        obtain ⟨u, remains, remnant⟩ := (step v member).mpr remnant
        exact ⟨u, ⟨v, member, remains⟩, remnant⟩

private theorem Ordered.foldl_unmap (ordered : a.Ordered) (upright : ∀ s ∈ spans, s.start ≤ s.stop)
    : (spans.foldl AddressSpace.unmap a).Ordered := by
  induction spans generalizing a with
  | nil => exact ordered
  | cons s rest ih =>
      apply ih (ordered.unmap (upright s (List.mem_cons_self ..)))
      exact fun t member => upright t (List.mem_cons_of_mem _ member)

/-- Areas in order are told by which areas they are. -/
theorem Ordered.areas_eq {b : AddressSpace} (ordered : a.Ordered) (ordered' : b.Ordered)
    (same : ∀ v, v ∈ b.areas ↔ v ∈ a.areas) : b.areas = a.areas := by
  have ascending {c : AddressSpace} (ordered : c.Ordered) :
      c.areas.Pairwise (·.span.start < ·.span.start) :=
    ordered.ascending.imp_of_mem fun member _ before =>
      Nat.lt_of_lt_of_le (ordered.nonempty _ member) before
  have : Std.Irrefl fun v w : Area => v.span.start < w.span.start :=
    ⟨fun v => Nat.lt_irrefl v.span.start⟩
  have : Std.Antisymm fun v w : Area => v.span.start < w.span.start :=
    ⟨fun _ _ before behind => absurd behind (Nat.lt_asymm before)⟩
  exact (ascending ordered').eq_of_mem_iff (ascending ordered) same

private theorem pages_foldl_unmap (a : AddressSpace) (spans : List Span) :
    (spans.foldl unmap a).pages =
      a.pages.filter fun entry => ¬ ∃ s ∈ spans, s.Contains entry.1 := by
  induction spans generalizing a with
  | nil => simp
  | cons s rest ih =>
      rw [List.foldl_cons, ih, unmap, List.filter_filter]
      refine List.filter_congr fun entry _ => ?_
      simp only [List.exists_mem_cons_iff]
      by_cases here : s.Contains entry.1 <;> simp [here]

private theorem range_foldl_unmap (a : AddressSpace) (spans : List Span) :
    (spans.foldl unmap a).range = a.range := by
  induction spans generalizing a with
  | nil => rfl
  | cons s rest ih => exact ih (a.unmap s)

/-- Spans that have the same addresses leave the same when they are unmapped. -/
theorem Ordered.foldl_unmap_congr (ordered : a.Ordered) (proper : ∀ s ∈ spans, s.start < s.stop)
    (proper' : ∀ s ∈ spans', s.start < s.stop)
    (union : ∀ address, (∃ s ∈ spans', s.Contains address) ↔ ∃ s ∈ spans, s.Contains address) :
    spans'.foldl AddressSpace.unmap a = spans.foldl AddressSpace.unmap a := by
  have areas : (spans'.foldl AddressSpace.unmap a).areas =
      (spans.foldl AddressSpace.unmap a).areas := by
    apply Ordered.areas_eq
    · exact ordered.foldl_unmap fun s member => Nat.le_of_lt (proper s member)
    · exact ordered.foldl_unmap fun s member => Nat.le_of_lt (proper' s member)
    · intro w
      rw [ordered.mem_areas_foldl_unmap proper, ordered.mem_areas_foldl_unmap proper']
      simp only [union]
  have pages : (spans'.foldl AddressSpace.unmap a).pages =
      (spans.foldl AddressSpace.unmap a).pages := by
    rw [pages_foldl_unmap, pages_foldl_unmap]
    simp only [union]
  have range := (range_foldl_unmap a spans').trans (range_foldl_unmap a spans).symm
  calc spans'.foldl AddressSpace.unmap a
      = ⟨(spans'.foldl AddressSpace.unmap a).range, (spans'.foldl AddressSpace.unmap a).areas,
          (spans'.foldl AddressSpace.unmap a).pages⟩ := rfl
    _ = spans.foldl AddressSpace.unmap a := by rw [range, areas, pages]

end AddressSpace

/-- A window without what it was told and asked, and without what that uses up. -/
def Window.unnoted (window : Window) : Window := { window with copies := none, journal := [] }

namespace Kernel

variable {k k' : Kernel} {refs : Multiset Object} {ref : SpaceRef} {a : AddressSpace}

/-! ## What neither references nor notes decide -/

/-- The kernel without what its objects noted of who used them. -/
def unnoted (k : Kernel) : Kernel :=
  { k with
    segments := k.segments.map Segment.unnoted, windows := k.windows.map Window.unnoted }

private theorem alike_unnoted (k : Kernel) : k.Alike k.unnoted where
  holders := rfl
  pools := rfl
  segments := Slots.map_map ..
  registries := rfl
  windows := Slots.map_map ..
  released := rfl
  faults := fun _ => .inl

/-- What the objects of a kernel are, apart from what references and notes decide. -/
structure Outline where
  segments : Slots .segment Segment
  registries : Slots .registry Registry
  pools : Slots .pool Span
  windows : Slots .window Window

def outline (k : Kernel) : Outline where
  segments := k.segments.map fun g => g.standing.unnoted
  registries := k.registries.map Registry.frame
  pools := k.pools.map FramePool.region
  windows := k.windows.map fun window => { window.unnoted with references := 0 }

/-- Kernels that agree have the same outline. -/
theorem Agree.outline (agree : k.Agree k') : k'.outline = k.outline := by
  have segments := congrArg (·.map Segment.unnoted) agree.segments
  rw [Slots.map_map, Slots.map_map] at segments
  rw [Kernel.outline, segments, agree.registries, agree.pools, agree.windows, Kernel.outline]

private theorem outline_setSegment {s : Handle .segment} {g g' : Segment}
    (found : k.segments.get? s = some g) (same : g'.standing.unnoted = g.standing.unnoted) :
    (k.setSegment s g').outline = k.outline := by
  have segments : (k.setSegment s g').segments.map (fun g => g.standing.unnoted) =
      k.segments.map fun g => g.standing.unnoted := Slots.map_set_of_eq found same
  rw [outline, segments, outline]
  rfl

/-- A window may be replaced in outline that differs in its notes and references only. -/
theorem outline_setWindow {w : Handle .window} {window window' : Window}
    (found : k.windows.get? w = some window)
    (same : { window'.unnoted with references := 0 } = { window.unnoted with references := 0 }) :
    (k.setWindow w window').outline = k.outline := by
  have windows : (k.setWindow w window').windows.map
        (fun window => { window.unnoted with references := 0 }) =
      k.windows.map fun window => { window.unnoted with references := 0 } :=
    Slots.map_set_of_eq found same
  rw [outline, windows, outline]
  rfl

/-- To take a reference leaves the outline. -/
theorem outline_acquire (object : Object) : (k.acquire object).outline = k.outline := by
  cases object with
  | segment s => exact (agree_acquire s).outline
  | window w =>
      simp only [acquire]
      split
      case h_1 window found =>
        apply outline_setWindow found
        rfl
      case h_2 => exact (agree_halt _).outline

/-- To give up a reference leaves the outline. -/
theorem outline_release (object : Object) : (k.release object).outline = k.outline := by
  cases object with
  | segment s => exact (agree_release s).outline
  | window w =>
      simp only [release]
      split
      case h_1 window found =>
        have required := agree_require (k := k) (0 < window.references) .overdrawn
        rw [outline_setWindow ((congrArg (·.get? w) required.windows).trans found),
          required.outline]
        rfl
      case h_2 => exact (agree_halt _).outline

private theorem outline_notifyRemoved (q : Requester) (object : Object) (span : Span) (offset : Nat)
    : (k.notifyRemoved q object span offset).outline = k.outline := by
  cases object with
  | segment s =>
      simp only [notifyRemoved]
      split
      case h_1 g found =>
        have noted : (k.setSegment s (g.noteDetach q)).outline = k.outline :=
          outline_setSegment found rfl
        split
        · exact (agree_emit _).outline.trans noted
        · exact noted
      case h_2 => exact (agree_halt _).outline
  | window w =>
      simp only [notifyRemoved]
      split
      case h_1 window found =>
        apply outline_setWindow found
        rfl
      case h_2 => exact (agree_halt _).outline

private theorem outline_perform (q : Requester) (e : Effect) :
    (perform q k e).outline = k.outline := by
  cases e with
  | removed object span offset =>
      exact (outline_notifyRemoved q object span offset).trans (agree_require _ _).outline
  | kept object offset => exact (outline_acquire object).trans (agree_require _ _).outline
  | unmapped span => exact (agree_emit _).outline
  | dropped object => exact outline_release object

/-- To unmap a span leaves the outline. -/
theorem outline_unmapSpan (found : k.space? ref = some a) (q : Requester) (s : Span) :
    (k.unmapSpan ref q s).outline = k.outline := by
  have performed (effects : List Effect) (k : Kernel) :
      (effects.foldl (perform q) k).outline = k.outline := by
    induction effects generalizing k with
    | nil => rfl
    | cons e rest ih => exact (ih _).trans (outline_perform q e)
  have placed (k : Kernel) (b : AddressSpace) : (k.setSpace b ref).outline = k.outline := by
    change (k.setSpace b ref).objectPart.outline = k.objectPart.outline
    rw [objectPart_setSpace]
  simp only [unmapSpan, found]
  rw [performed, placed, (agree_require _ _).outline]

/-- Kernels with the same outline and the same references agree, up to notes. -/
theorem agree_unnoted (outline : k'.outline = k.outline) (counted : k.Counted refs)
    (counted' : k'.Counted refs) : k.unnoted.Agree k'.unnoted where
  registries := congrArg (·.registries) outline
  pools := congrArg (·.pools) outline
  windows := by
    have same := congrArg (·.windows) outline
    refine Slots.eq_of_map_eq (f := fun window : Window => { window with references := 0 }) ?_ ?_
    · simp only [unnoted, Slots.map_map]
      exact same
    · intro w window window' found found' alike
      have counts := counted.counts (.window w)
      have counts' := counted'.counts (.window w)
      rw [← (alike_unnoted k).referenceCount?] at counts
      rw [← (alike_unnoted k').referenceCount?, ← counts] at counts'
      simp only [referenceCount?, found, found', Option.map_some, Option.getD_some] at counts'
      calc window' = { ({ window' with references := 0 } : Window) with
              references := window'.references } := rfl
        _ = window := by rw [alike, counts']
  segments := by
    simp only [unnoted, Slots.map_map]
    exact congrArg (·.segments) outline

/-- In kernels with one outline objects that count the same references have the same counts. -/
theorem referenceCount?_eq (outline : k'.outline = k.outline) (counted : k.Counted refs)
    (counted' : k'.Counted refs) (object : Object) :
    k'.referenceCount? object = k.referenceCount? object := by
  have agree := agree_unnoted outline counted counted'
  rw [← (alike_unnoted k).referenceCount?, ← (alike_unnoted k').referenceCount?]
  cases object with
  | segment s =>
      have same := congrArg (·.get? s) agree.segments
      have counts := (counted'.counts (.segment s)).trans (counted.counts (.segment s)).symm
      rw [← (alike_unnoted k).referenceCount?, ← (alike_unnoted k').referenceCount?] at counts
      simp only [Slots.get?_map, referenceCount?] at same counts ⊢
      cases found : k.unnoted.segments.get? s <;> cases found' : k'.unnoted.segments.get? s <;>
        simp_all
  | window w => rw [referenceCount?, agree.windows, referenceCount?]

/-! ## Calls one after the other -/

/-- A call that unmaps pages: who makes it, and the bytes that it names. -/
structure UnmapCall where
  requester : Requester
  address : Nat
  length : Nat

namespace UnmapCall

/-- The pages of the bytes that a call names, if the first starts a page. -/
def pages (c : UnmapCall) : Span :=
  ⟨c.address, c.address + pageDown (c.length + (pageSize - 1))⟩

/-- A call that is accepted: it names bytes, from the start of a page on and in pages that a word
can count. -/
def Accepted (c : UnmapCall) : Prop :=
  c.length ≠ 0 ∧ PageAligned c.address ∧ c.pages.stop < wordSize

def run (ref : SpaceRef) (c : UnmapCall) : KernelM Unit :=
  munmap ref c.requester c.address c.length

variable {c : UnmapCall}

private theorem isLeast_stop (aligned : PageAligned c.address) :
    IsLeast {n | PageAligned n ∧ c.address + c.length ≤ n} c.pages.stop := by
  simp only [pages, pageDown, PageAligned, pageSize] at aligned ⊢
  constructor
  · constructor <;> omega
  · intro n holds
    obtain ⟨whole, enough⟩ := holds
    omega

private theorem run_of_accepted (accepted : c.Accepted) (ref : SpaceRef) (k : Kernel) :
    c.run ref k = .ok () (k.unmapSpan ref c.requester c.pages) :=
  munmap_accepted accepted.1 accepted.2.1 (isLeast_stop accepted.2.1) accepted.2.2 ref c.requester

private theorem accepted_of_run (done : c.run ref k = .ok () k') : c.Accepted := by
  by_contra refused
  by_cases aligned : PageAligned c.address
  · have failed := munmap_refused (k := k) (isLeast_stop aligned) refused ref c.requester
    cases failed.symm.trans done
  · have failed : c.run ref k = .error .einval k := by
      apply KernelM.Ends.eq_error
      simp [run, munmap, aligned]
    cases failed.symm.trans done

private theorem proper_pages (accepted : c.Accepted) : c.pages.start < c.pages.stop := by
  have := accepted.1
  simp only [pages, pageDown, pageSize]
  omega

private theorem proper_pagesEach {calls : List UnmapCall} (accepted : ∀ c ∈ calls, c.Accepted) :
    ∀ s ∈ calls.map (·.pages), s.start < s.stop := by
  intro s member
  obtain ⟨c, inside, rfl⟩ := List.mem_map.mp member
  exact proper_pages (accepted c inside)

private theorem cleanCut_pages (accepted : c.Accepted) : a.CleanCut c.pages := by
  apply AddressSpace.cleanCut_of_aligned (Nat.le_of_lt (proper_pages accepted)) accepted.2.1
  exact (isLeast_stop accepted.2.1).1.1

end UnmapCall

/-- Makes calls one after the other. -/
def munmapEach (ref : SpaceRef) : List UnmapCall → KernelM Unit
  | [] => pure ()
  | c :: others => do
      c.run ref
      munmapEach ref others

variable {calls calls' : List UnmapCall} {rest : Multiset Object} {may : Deed → Prop}

/-- A course leaves every segment proper. -/
theorem Proper.course {refs' : Multiset Object} (proper : k.Proper) (counted : k.Counted refs)
    (course : Course may k refs k' refs') : k'.Proper := by
  have both := Chain.preserves (fun k refs => k.Counted refs ∧ k.Proper)
    (fun turn both => ⟨turn.counted both.1, (turn.development both.1).proper both.2⟩) course
    ⟨counted, proper⟩
  exact both.2

private theorem course_unmapSpan {s : Span} (found : k.space? ref = some a) (cut : a.CleanCut s)
    (q : Requester) :
    Course may k (a.mapped + rest) (k.unmapSpan ref q s) ((a.unmap s).mapped + rest) := by
  have upright : k.require (s.start ≤ s.stop) .arithmetic = k := if_pos cut.upright
  simp only [unmapSpan, found, upright]
  exact (Chain.single (.unmap found cut)).trans (changes_unmapEffects q a s).course

/-- Calls that are accepted unmap their pages one after the other. The references of the areas
are traded for those of what is left, and nothing else becomes of the objects. -/
theorem munmapEach_spec (may : Deed → Prop) (rest : Multiset Object) (found : k.space? ref = some a)
    (accepted : ∀ c ∈ calls, c.Accepted) :
    ∃ k', munmapEach ref calls k = .ok () k' ∧
      k'.space? ref = some ((calls.map (·.pages)).foldl AddressSpace.unmap a) ∧
      k'.outline = k.outline ∧
      Course may k (a.mapped + rest) k'
        (((calls.map (·.pages)).foldl AddressSpace.unmap a).mapped + rest) := by
  induction calls generalizing k a with
  | nil => exact ⟨k, rfl, found, rfl, .refl⟩
  | cons c others ih =>
      have first := accepted c (List.mem_cons_self ..)
      have cut : a.CleanCut c.pages := UnmapCall.cleanCut_pages first
      obtain ⟨k', done, found', outline, course⟩ := ih (space?_unmapSpan found c.requester c.pages)
        fun c' member => accepted c' (List.mem_cons_of_mem _ member)
      refine ⟨k', ?_, found', outline.trans (outline_unmapSpan found _ _),
        (course_unmapSpan found cut _).trans course⟩
      have start := UnmapCall.run_of_accepted first ref k
      apply KernelM.Ends.eq_ok
      unfold munmapEach
      rw [KernelM.ends_bind, KernelM.ends_iff_of_ok start]
      exact (KernelM.ends_iff_of_ok done).mpr ⟨rfl, rfl⟩

end Kernel

namespace World

open Kernel

variable {w : World} {k k' : Kernel} {refs : Multiset Object}

/-- The references of an address space are among those that are counted. -/
theorem Reachable.sound_mapped {ref : SpaceRef} {a : AddressSpace}
    (reachable : w.Reachable anything) (found : w.kernel.space? ref = some a) :
    ∃ rest, w.Sound w.kernel (a.mapped + rest) := by
  obtain ⟨rest, held, _⟩ := held_setSpace found
  exact ⟨rest, held ▸ reachable.sound⟩

/-- The references decide what the objects are, up to notes. -/
theorem Sound.objects_eq (sound : w.Sound k refs) (sound' : w.Sound k' refs) (proper : k.Proper)
    (proper' : k'.Proper) (outline : k'.outline = k.outline) :
    k'.segments.map Segment.unnoted = k.segments.map Segment.unnoted ∧
      k'.registries = k.registries ∧ k'.pools = k.pools := by
  have unnoted {k : Kernel} (sound : w.Sound k refs) (proper : k.Proper) :
      w.Sound k.unnoted refs ∧ k.unnoted.Proper := by
    have change : Change (fun _ => True) k refs k.unnoted refs := .note (alike_unnoted k)
    exact ⟨sound.changes (.single change), (change.development sound.counted).proper proper⟩
  have agree := agree_unnoted outline sound.counted sound'.counted
  obtain ⟨sound, proper⟩ := unnoted sound proper
  obtain ⟨sound', proper'⟩ := unnoted sound' proper'
  have segments := agree.segments_eq sound.counted sound'.counted proper proper'
  refine ⟨segments, ?_, ?_⟩
  · exact agree.registries_eq segments sound.registered sound'.registered sound.accounted
      sound'.accounted
  · exact sound.backed.pools_eq sound'.backed agree.pools segments rfl

end World

namespace Kernel

variable {k : Kernel} {ref : SpaceRef} {a : AddressSpace} {calls calls' : List UnmapCall}

/-- Calls that are accepted and name the same pages together leave the same areas, pages and
references, however they divide the pages among them and in whatever order they come: all that the
pages showed is gone, and nothing else. Where registries and pools account for the segments, these
are the same as well, and so is which segments are destroyed. -/
theorem unmapping_order_irrelevant {rest : Multiset Object} (found : k.space? ref = some a)
    (ordered : a.Ordered) (counted : k.Counted (a.mapped + rest))
    (accepted : ∀ c ∈ calls ++ calls', ∃ k', c.run ref k = .ok () k')
    (union : ∀ address, (∃ c ∈ calls', c.pages.Contains address) ↔
      ∃ c ∈ calls, c.pages.Contains address) :
    ∃ b k₁ k₂, munmapEach ref calls k = .ok () k₁ ∧ munmapEach ref calls' k = .ok () k₂ ∧
      a.Loses (fun address => ∃ c ∈ calls, c.pages.Contains address) b ∧
      k₁.space? ref = some b ∧ k₂.space? ref = some b ∧
      (∀ object, k₂.referenceCount? object = k₁.referenceCount? object) ∧
      ∀ w : World, w.Sound k (a.mapped + rest) → k.Proper →
        k₂.segments.map Segment.unnoted = k₁.segments.map Segment.unnoted ∧
          k₂.registries = k₁.registries ∧ k₂.pools = k₁.pools := by
  have accepted (c : UnmapCall) (member : c ∈ calls ++ calls') : c.Accepted := by
    obtain ⟨k', done⟩ := accepted c member
    exact UnmapCall.accepted_of_run done
  have first : ∀ c ∈ calls, c.Accepted := fun c member =>
    accepted c (List.mem_append_left _ member)
  have second : ∀ c ∈ calls', c.Accepted := fun c member =>
    accepted c (List.mem_append_right _ member)
  obtain ⟨k₁, done, left, outline, course⟩ :=
    munmapEach_spec (fun _ => True) rest found first
  obtain ⟨k₂, done', left', outline', course'⟩ :=
    munmapEach_spec (fun _ => True) rest found second
  have named (calls : List UnmapCall) (address : Nat) :
      (∃ s ∈ calls.map (·.pages), s.Contains address) ↔ ∃ c ∈ calls, c.pages.Contains address := by
    simp
  have same : (calls'.map (·.pages)).foldl AddressSpace.unmap a =
      (calls.map (·.pages)).foldl AddressSpace.unmap a := by
    apply ordered.foldl_unmap_congr (UnmapCall.proper_pagesEach first)
      (UnmapCall.proper_pagesEach second)
    intro address
    rw [named, named, union]
  have loses := ordered.loses_foldl_unmap fun s member =>
    Nat.le_of_lt (UnmapCall.proper_pagesEach first s member)
  simp only [named] at loses
  rw [same] at left' course'
  have counted₁ := Chain.preserves Counted Turn.counted course counted
  have counted₂ := Chain.preserves Counted Turn.counted course' counted
  have outlines := outline'.trans outline.symm
  refine ⟨_, k₁, k₂, done, done', loses, left, left',
    referenceCount?_eq outlines counted₁ counted₂, fun w sound proper => ?_⟩
  exact (sound.course course).objects_eq (sound.course course') (proper.course counted course)
    (proper.course counted course') outlines

end Kernel

namespace World

open Kernel

/-- Two segments are attached side by side and then removed. -/
def waning : List Operation :=
  [.makePool 0 16, .makeRegistry .initial ⟨0⟩ {} (.ipc true), .makeClock ⟨0⟩,
    .makeTask 1 (.superuser .initial) ⟨0⟩ ⟨0⟩ ⟨0x10000, 0x40000⟩,
    .shmget ⟨0⟩ privateKey 0x3000 ⟨0o600⟩, .shmget ⟨0⟩ privateKey 0x1000 ⟨0o600⟩,
    .shmat ⟨0⟩ 1 0x10000 ⟨0⟩, .shmat ⟨0⟩ 2 0x13000 ⟨0⟩, .faultTask ⟨0⟩ 0x12000 .readOnly,
    .shmctl ⟨0⟩ 1 0 .null, .shmctl ⟨0⟩ 2 0 .null]

/-- Two calls by different requesters, the second of which comes before the first by its addresses
and names a page that the first has unmapped, do the same as one call for all the pages: the second
segment is destroyed, and the first keeps its first page. -/
theorem unmapping_order_irrelevant_waning :
    let w := ({} : World).follow waning
    let calls : List UnmapCall := [⟨⟨.superuser .initial, some 7, none⟩, 0x12000, 0x2000⟩,
      ⟨⟨.superuser .initial, none, none⟩, 0x11000, 0x1001⟩]
    let calls' : List UnmapCall := [⟨⟨.superuser .initial, none, none⟩, 0x11000, 0x3000⟩]
    w.Reachable anything ∧ ∃ b k₁ k₂,
      munmapEach (.ofTask ⟨0⟩) calls w.kernel = .ok () k₁ ∧
      munmapEach (.ofTask ⟨0⟩) calls' w.kernel = .ok () k₂ ∧
      k₁.space? (.ofTask ⟨0⟩) = some b ∧ k₂.space? (.ofTask ⟨0⟩) = some b ∧
      k₂.segments.map Segment.unnoted = k₁.segments.map Segment.unnoted ∧
      k₂.registries = k₁.registries ∧ k₂.pools = k₁.pools ∧
      b.areas.map (fun v => (v.span.start, v.span.stop)) = [(0x10000, 0x11000)] ∧
      ∃ g, k₂.segments.get? ⟨1⟩ = some g ∧ g.destroyed = true := by
  intro w calls calls'
  have reachable : w.Reachable anything :=
    reachable_follow (by decide +kernel) fun _ _ => trivial
  have after : ∃ b ∈ ((munmapEach (.ofTask ⟨0⟩) calls').after w.kernel).space? (.ofTask ⟨0⟩),
      b.areas.map (fun v => (v.span.start, v.span.stop)) = [(0x10000, 0x11000)] ∧
      ∃ g ∈ ((munmapEach (.ofTask ⟨0⟩) calls').after w.kernel).segments.get? ⟨1⟩,
        g.destroyed = true := by
    decide +kernel
  have task : (w.kernel.space? (.ofTask ⟨0⟩)).isSome := by decide +kernel
  obtain ⟨a, found⟩ := Option.isSome_iff_exists.mp task
  obtain ⟨rest, sound⟩ := reachable.sound_mapped found
  have ordered := ((reachable.laid suits_anything).spaces found).toOrdered
  have accepted : ∀ c ∈ calls ++ calls', ∃ k', c.run (.ofTask ⟨0⟩) w.kernel = .ok () k' := by
    decide +kernel
  have union : ∀ address, (∃ c ∈ calls', c.pages.Contains address) ↔
      ∃ c ∈ calls, c.pages.Contains address := by
    intro address
    simp only [calls, calls', UnmapCall.pages, Span.Contains, pageDown, pageSize,
      List.exists_mem_cons_iff, List.not_mem_nil, false_and, exists_false, or_false]
    omega
  obtain ⟨b, k₁, k₂, done, done', _, left, left', _, objects⟩ :=
    unmapping_order_irrelevant found ordered sound.counted accepted union
  obtain ⟨segments, registries, pools⟩ :=
    objects w sound (reachable.proper suits_anything)
  rw [KernelM.after_of_ok done'] at after
  obtain ⟨b', found', areas, g, there, destroyed⟩ := after
  cases left'.symm.trans found'
  exact ⟨reachable, b, k₁, k₂, done, done', left, left', segments, registries, pools, areas, g,
    there, destroyed⟩

end World

end SharedMemory
