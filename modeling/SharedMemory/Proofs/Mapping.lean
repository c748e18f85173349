import SharedMemory.Proofs.Passages

/-!
# Mapping, copying and faults as passages

A mapping is placed where there is room, and the area takes a reference of its own beside the
one that the request carries. A copy of an address space takes a reference for every area, and
gives them all back if it fails midway. A fault establishes pages and touches no reference.
-/

namespace SharedMemory

/-- Mapping where there is room adds a reference. -/
theorem AddressSpace.Ordered.mapped_map {a : AddressSpace} {v : Area} (ordered : a.Ordered)
    (room : a.HasRoom v.span) (nonempty : v.span.start < v.span.stop) :
    (a.map v).mapped = v.object ::ₘ a.mapped := by
  have added := (perm_insertArea (ordered.start_ne room nonempty)).map (·.object)
  exact Multiset.coe_eq_coe.mpr added

/-- The area that a request maps at a span. -/
def MapRequest.areaAt (m : MapRequest) (span : Span) : Area :=
  ⟨span, m.offset, m.perms, m.maxPerms, m.object⟩

namespace Kernel

open KernelM

variable {k k' : Kernel} {refs extra : Multiset Object} {may : Deed → Prop} {ref : SpaceRef}
  {a : AddressSpace}

/-! ## Mapping -/

/-- An address space with room for a span: as it is, or after the span was unmapped. -/
structure Clears (a : AddressSpace) (s : Span) (cleared : AddressSpace) : Prop where
  origin : cleared = a ∨ cleared = a.unmap s
  room : cleared.HasRoom s

/-- There is room for a mapping, and in a range that starts a page it is placed well. -/
structure Placed (k : Kernel) (ref : SpaceRef) (start length : Nat) (a cleared : AddressSpace)
    (k' : Kernel) : Prop where
  before : k.space? ref = some a
  after : k'.space? ref = some cleared
  clears : Clears a (.ofSize start length) cleared
  below : start + length ≤ cleared.range.stop
  fitting : PageAligned cleared.range.start → PageAligned start ∧ cleared.range.start ≤ start
  bearer : k'.bearer? ref = k.bearer? ref

/-- An area is mapped into an address space where there is room for it. -/
def Installed (k : Kernel) (ref : SpaceRef) (v : Area) (k' : Kernel) : Prop :=
  ∃ a cleared, k.space? ref = some a ∧ Clears a v.span cleared ∧ v.span.start < v.span.stop ∧
    k'.space? ref = some (cleared.map v)

/-- Whether an area was installed depends on the two address spaces alone. -/
theorem Installed.congr {k₁ k₁' : Kernel} {v : Area} (installed : Installed k ref v k')
    (before : k₁.space? ref = k.space? ref) (after : k₁'.space? ref = k'.space? ref) :
    Installed k₁ ref v k₁' := by
  unfold Installed
  rw [before, after]
  exact installed

/-- An area that was installed is there. -/
theorem Installed.mem {v : Area} (installed : Installed k ref v k') :
    ∃ b, k'.space? ref = some b ∧ v ∈ b.areas := by
  obtain ⟨_, cleared, _, _, _, mapped⟩ := installed
  exact ⟨cleared.map v, mapped, AddressSpace.mem_insertArea_self v cleared.areas⟩

/-- Of an address space at most some spans were unmapped. -/
def Pared (k : Kernel) (ref : SpaceRef) (k' : Kernel) : Prop :=
  ∀ a, k.space? ref = some a → ∃ spans : List Span, (∀ s ∈ spans, s.start ≤ s.stop) ∧
    k'.space? ref = some (spans.foldl AddressSpace.unmap a)

private theorem pared_of_eq (same : k'.space? ref = k.space? ref) : Pared k ref k' :=
  fun _ found => ⟨[], nofun, same.trans found⟩

private theorem Pared.congr {k'' : Kernel} (pared : Pared k ref k')
    (same : k''.space? ref = k'.space? ref) : Pared k ref k'' := by
  unfold Pared
  rwa [same]

private theorem Placed.pared {start length : Nat} {cleared : AddressSpace}
    (placed : Placed k ref start length a cleared k') : Pared k ref k' := by
  intro b found
  cases placed.before.symm.trans found
  rcases placed.clears.origin with rfl | rfl
  · exact ⟨[], nofun, placed.after⟩
  · refine ⟨[.ofSize start length], fun s member => ?_, placed.after⟩
    rw [List.mem_singleton.mp member]
    exact Nat.le_add_right _ _

private theorem Placed.mappable {start length : Nat} {cleared : AddressSpace}
    (placed : Placed k ref start length a cleared k') (whole : PageAligned length)
    (positive : 0 < length) (m : MapRequest) :
    Mappable cleared (m.areaAt (.ofSize start length)) := by
  refine ⟨placed.clears.room, Nat.lt_add_of_pos_right positive, placed.below, fun origin => ?_⟩
  obtain ⟨aligned, inside⟩ := placed.fitting origin
  exact ⟨⟨aligned, aligned.add whole⟩, inside⟩

private theorem placeFixed_ends (ref : SpaceRef) (q : Requester) (address : Nat) {length : Nat}
    (whole : PageAligned length) :
    (placeFixed ref q address length).Ends k
      (fun start k' => Passage may k extra k' extra ∧
        ∃ a cleared, Placed k ref start length a cleared k')
      (fun _ k' => Passage may k extra k' extra ∧ Pared k ref k') := by
  have unchanged : Passage may k extra k extra ∧ Pared k ref k := ⟨.refl k extra, pared_of_eq rfl⟩
  have stuck : Passage may k extra (k.halt .dangling) extra ∧ Pared k ref (k.halt .dangling) :=
    ⟨passage_halt, pared_of_eq (space?_congr rfl ref)⟩
  unfold placeFixed
  refine .get_bind (.orStuck_bind stuck fun a found => .check_bind unchanged fun aligned => ?_)
  refine .orRefuse_bind unchanged fun stop sum => .check_bind unchanged fun inside => ?_
  refine .modify_bind (ends_pure.mpr ?_)
  obtain ⟨rfl, _⟩ := addWord?_eq_some_iff.mp sum
  have cut : a.CleanCut ⟨address, address + length⟩ :=
    AddressSpace.cleanCut_of_aligned (Nat.le_add_right _ _) aligned (aligned.add whole)
  obtain ⟨passage, left⟩ := unmapSpan_spec found cut q
  have room : (a.unmap _).HasRoom ⟨address, address + length⟩ :=
    fun w => AddressSpace.not_meets_of_mem_unmap
  exact ⟨passage, a, a.unmap _, found, left, ⟨.inr rfl, room⟩, inside.2,
    fun _ => ⟨aligned, inside.1⟩, bearer?_unmapSpan ref q _⟩

private theorem placeAnywhere_ends (laid : k.Laid) (ref : SpaceRef) (hint : Nat) {length : Nat}
    (positive : 0 < length) :
    (placeAnywhere ref hint length).Ends k
      (fun start k' => Passage may k extra k' extra ∧
        ∃ a cleared, Placed k ref start length a cleared k')
      (fun _ k' => Passage may k extra k' extra ∧ Pared k ref k') := by
  have stuck : Passage may k extra (k.halt .dangling) extra ∧ Pared k ref (k.halt .dangling) :=
    ⟨passage_halt, pared_of_eq (space?_congr rfl ref)⟩
  unfold placeAnywhere
  refine .get_bind (.orStuck_bind stuck fun a found => ?_)
  refine ends_orRefuse.mpr ⟨fun start placed => ?_, fun cramped => ?_⟩
  · have spaced := laid.spaces found
    refine ⟨.refl k extra, a, a, found, found, ⟨.inl rfl, spaced.hasRoom_of_place? placed⟩,
      spaced.place?_below spaced.below positive placed, fun origin => ?_, rfl⟩
    exact (spaced.tidy origin).place? placed
  · exact ⟨.refl k extra, pared_of_eq rfl⟩

/-- Room for a request is found or made, and otherwise the address space is pared at most. -/
theorem placeRequest_ends (laid : k.Laid) (ref : SpaceRef) (q : Requester) (m : MapRequest)
    {length : Nat} (whole : PageAligned length) (positive : 0 < length) :
    (placeRequest ref q m length).Ends k
      (fun start k' => Passage may k extra k' extra ∧
        ∃ a cleared, Placed k ref start length a cleared k')
      (fun _ k' => Passage may k extra k' extra ∧ Pared k ref k') :=
  ends_ite.mpr ⟨fun _ => placeFixed_ends ref q m.address whole,
    fun _ => placeAnywhere_ends laid ref m.address positive⟩

/-- An area is mapped and takes a reference beside one that is in flight. -/
theorem passage_map {v : Area} (found : k.space? ref = some a) (ordered : a.Ordered)
    (mappable : Mappable a v) (permitted : may (.map ref (k.bearer? ref) v))
    (carried : v.object ∈ extra) :
    Passage may k extra ((k.setSpace (a.map v) ref).acquire v.object) extra := by
  obtain ⟨rest, before, after⟩ := held_setSpace found
  have mapped : Course may k (k.held + extra) (k.setSpace (a.map v) ref) (k.held + extra) :=
    .single (.map found mappable permitted)
  have taken : Changes may (k.setSpace (a.map v) ref) (k.held + extra)
      ((k.setSpace (a.map v) ref).acquire v.object) (v.object ::ₘ (k.held + extra)) :=
    .single (.acquire v.object (.inl (Multiset.mem_add.mpr (.inr carried))))
  refine (mapped.trans taken.course).recount rfl ?_
  rw [taken.held, after, ordered.mapped_map mappable.room mappable.nonempty, before,
    Multiset.cons_add, Multiset.cons_add]

/-- The object of a request is mapped at the address in the answer, and nothing else is mapped. -/
def Carried (k : Kernel) (ref : SpaceRef) (m : MapRequest) (extra : Multiset Object) (start : Nat)
    (k' : Kernel) (extra' : Multiset Object) : Prop :=
  ∃ span : Span, span.start = start ∧ Installed k ref (m.areaAt span) k' ∧
    Passage (· = .map ref (k.bearer? ref) (m.areaAt span)) k extra k' extra'

/-- The object of a request in flight is mapped, and otherwise the address space is pared at
most. -/
theorem install_ends (laid : k.Laid) (ref : SpaceRef) (q : Requester) {m : MapRequest}
    (carried : m.object ∈ extra) :
    (install ref q m).Ends k (fun start k' => Carried k ref m extra start k' extra)
      (fun _ k' => Passage may k extra k' extra ∧ Pared k ref k') := by
  have unchanged : Passage may k extra k extra ∧ Pared k ref k := ⟨.refl k extra, pared_of_eq rfl⟩
  unfold install
  refine .check_bind unchanged fun nonzero => .check_bind unchanged fun allowed => ?_
  refine .orRefuse_bind unchanged fun length rounded => ?_
  simp only [ends_bind]
  obtain ⟨_, whole, enough, _⟩ := pageUp?_eq_some_iff.mp rounded
  have positive : 0 < length := by omega
  -- Up to the mapping nothing is done that is a deed, and after it nothing fails.
  have placing : (placeRequest ref q m length).Ends k
      (fun start k' => Passage idle k extra k' extra ∧
        ∃ a cleared, Placed k ref start length a cleared k')
      (fun _ k' => Passage idle k extra k' extra ∧ Pared k ref k') :=
    placeRequest_ends laid ref q m whole positive
  refine placing.mono (fun start k' reached => ?_) fun _ _ refused => ⟨refused.1.of_idle, refused.2⟩
  obtain ⟨passage, a, cleared, placed⟩ := reached
  simp only [ends_modify]
  have fitting : Changes idle k' (k'.held + extra) _ (k'.held + extra) :=
    changes_require ((Span.ofSize start length).stop < wordSize) (.inl rfl)
  generalize k'.require ((Span.ofSize start length).stop < wordSize) .arithmetic = k₁ at fitting ⊢
  have telling : (notifyAdded q m.object (.ofSize start length) m.offset).Ends k₁
      (fun _ k'' => Changes idle k₁ (k'.held + extra) k'' (k'.held + extra))
      (fun _ k'' => Changes idle k₁ (k'.held + extra) k'' (k'.held + extra)) :=
    notifyAdded_ends q m.object _ m.offset
  have pared {k'' : Kernel} (same : k''.holderPart = k'.holderPart) : Pared k ref k'' :=
    placed.pared.congr (space?_congr same ref)
  refine telling.mono (fun _ k'' told => ?_) fun _ k'' told =>
    ⟨(passage.trans (fitting.trans told).passage).of_idle, pared (fitting.trans told).holderPart⟩
  have noted := passage.trans (fitting.trans told).passage
  have same : k''.holderPart = k'.holderPart := (fitting.trans told).holderPart
  have here : k''.space? ref = some cleared := (space?_congr same ref).trans placed.after
  have stuck : Passage may k extra (k''.halt .dangling) extra ∧ Pared k ref (k''.halt .dangling) :=
    ⟨(noted.trans passage_halt).of_idle, pared same⟩
  simp only [ends_get, ends_orStuck, ends_set, ends_pure]
  refine ⟨fun identity named => ?_, fun nameless => stuck⟩
  refine ⟨fun a' there => ?_, fun missing => stuck⟩
  cases here.symm.trans there
  have mappable := placed.mappable whole positive m
  have emitted : Passage idle k'' extra (k''.emit (.mapped (.ofSize start length) identity.name
      m.perms)) extra := (Chain.single (.emit _ rfl)).passage
  have bearer : (k''.emit (.mapped (.ofSize start length) identity.name m.perms)).bearer? ref =
      k.bearer? ref := (bearer?_congr same ref).trans placed.bearer
  refine ⟨.ofSize start length, rfl,
    ⟨a, cleared, placed.before, placed.clears, mappable.nonempty, ?_⟩, ?_⟩
  · rw [space?_congr (holderPart_acquire _)]
    exact (space?_setSpace (k := k''.emit _) here _ ref).trans (if_pos rfl)
  · refine (noted.trans emitted).of_idle.trans (passage_map here
      ((noted.laid laid).spaces here).toOrdered mappable ?_ carried)
    rw [bearer]
    rfl

/-- The reference that a request carries is used up, also when the request is refused. -/
theorem mmap_ends (laid : k.Laid) (ref : SpaceRef) (q : Requester) (m : MapRequest) :
    (mmap ref q m).Ends k (fun start k' => Carried k ref m (m.object ::ₘ extra) start k' extra)
      (fun _ k' => Passage may k (m.object ::ₘ extra) k' extra ∧ Pared k ref k') := by
  have installed : (install ref q m).Ends k
      (fun start k' => Carried k ref m (m.object ::ₘ extra) start k' (m.object ::ₘ extra))
      (fun _ k' => Passage may k (m.object ::ₘ extra) k' (m.object ::ₘ extra) ∧ Pared k ref k') :=
    install_ends laid ref q (Multiset.mem_cons_self _ _)
  cases result : install ref q m k with
  | ok start k' =>
      have same : mmap ref q m k = .ok start (k'.release m.object) := by simp only [mmap, result]
      obtain ⟨span, here, mapped, passage⟩ := installed.ok result
      exact (ends_iff_of_ok same).mpr ⟨span, here,
        mapped.congr rfl (space?_congr (holderPart_release _) ref),
        passage.trans (passage_release m.object)⟩
  | error cause k' =>
      have same : mmap ref q m k = .error cause (k'.release m.object) := by
        simp only [mmap, result]
      obtain ⟨passage, pared⟩ := installed.error result
      exact (ends_iff_of_error same).mpr ⟨passage.trans (passage_release m.object),
        pared.congr (space?_congr (holderPart_release _) ref)⟩

/-! ## Copying and dropping -/

/-- Every area that is copied takes a reference. -/
theorem changes_copyAreas (areas : List Area) (owned : ∀ v ∈ areas, v.object ∈ refs) :
    Changes may k refs (copyAreas areas k).2
        (Multiset.ofList ((copyAreas areas k).1.1.map (·.object)) + refs) ∧
      ((copyAreas areas k).1.2 = none → (copyAreas areas k).1.1 = areas) := by
  induction areas generalizing k refs with
  | nil => exact ⟨by simpa [copyAreas] using Chain.refl, fun _ => rfl⟩
  | cons v rest ih =>
      have told : (notifyCopied v.object v.span v.offset).Ends k
          (fun _ k' => Changes may k refs k' refs) (fun _ k' => Changes may k refs k' refs) :=
        notifyCopied_ends _ _ _
      cases result : notifyCopied v.object v.span v.offset k with
      | error cause k' =>
          simp only [copyAreas, result]
          exact ⟨by simpa using told.error result, nofun⟩
      | ok _ k' =>
          simp only [copyAreas, result]
          have taken : Changes may k refs (k'.acquire v.object) (v.object ::ₘ refs) :=
            (told.ok result).tail (.acquire v.object (.inl (owned v (List.mem_cons_self ..))))
          obtain ⟨others, complete⟩ := ih (k := k'.acquire v.object) fun w member =>
            Multiset.mem_cons_of_mem (owned w (List.mem_cons_of_mem _ member))
          refine ⟨(taken.trans others).recount rfl ?_, fun succeeded => ?_⟩
          · rw [List.map_cons, ← Multiset.cons_coe, Multiset.cons_add, Multiset.add_cons]
          · exact congrArg (v :: ·) (complete succeeded)

/-- Dropping an address space gives the references of its areas back. -/
theorem changes_dropSpaceValue (a : AddressSpace) :
    Changes may k (a.mapped + refs) (k.dropSpaceValue a) refs := by
  unfold dropSpaceValue
  split
  · exact changes_releaseEach _
  · exact (Chain.single (.emit _ rfl)).trans (changes_releaseEach _)

/-- A copy maps what the original maps and takes as many references. -/
theorem forkSpaceValue_ends (a : AddressSpace) (owned : a.mapped ⊆ refs) :
    (forkSpaceValue a).Ends k
      (fun child k' => child = { a with pages := [] } ∧ Changes may k refs k' (a.mapped + refs))
      (fun _ k' => Changes may k refs k' refs) := by
  obtain ⟨copied, complete⟩ := changes_copyAreas (k := k) a.areas fun v member =>
    owned (Multiset.mem_coe.mpr (List.mem_map_of_mem member))
  rcases result : copyAreas a.areas k with ⟨⟨areas, failure⟩, k'⟩
  rw [result] at copied complete
  cases failure with
  | none =>
      have same : forkSpaceValue a k = .ok ⟨a.range, areas, []⟩ k' := by
        simp only [forkSpaceValue, result]
      cases complete rfl
      exact (ends_iff_of_ok same).mpr ⟨rfl, copied⟩
  | some cause =>
      have same : forkSpaceValue a k = .error cause (k'.dropSpaceValue ⟨a.range, areas, []⟩) := by
        simp only [forkSpaceValue, result]
      exact (ends_iff_of_error same).mpr (copied.trans (changes_dropSpaceValue ⟨a.range, areas, []⟩))

/-! ## Address spaces that stand alone -/

/-- A new address space comes with the references in flight that it holds. -/
theorem passage_insertSpace (origin : Origin k { k with spaces := k.spaces.insert a }
      (.alone k.spaces.fresh) a) :
    Passage may k (a.mapped + extra) { k with spaces := k.spaces.insert a } extra := by
  refine passage_rehold rfl (fun {ref} made => ?_) (fun {ref b} found => ?_)
    (fun {t task} here => .inl ⟨task, here, rfl⟩) ?_
  · cases ref with
    | alone id => exact Slots.Issued.insert made a
    | ofTask id => exact made
  · cases ref with
    | alone id =>
        have found : (k.spaces.insert a).get? id = some b := found
        rcases Slots.get?_of_insert found with ⟨rfl, rfl⟩ | before
        · exact origin
        · exact .same before rfl
    | ofTask id => exact .same found rfl
  · simp only [held, Slots.total_insert]
    simp only [add_assoc, add_left_comm]

/-- An address space goes and leaves its references in flight. -/
theorem passage_eraseSpace {id : Handle .space} (found : k.spaces.get? id = some a) :
    Passage may k extra { k with spaces := k.spaces.erase id } (a.mapped + extra) := by
  refine passage_rehold rfl (fun {ref} made => ?_) (fun {ref b} found' => ?_)
    (fun {t task} here => .inl ⟨task, here, rfl⟩) ?_
  · cases ref with
    | alone id' => exact Slots.issued_erase.mpr made
    | ofTask id' => exact made
  · cases ref with
    | alone id' =>
        have found' : (k.spaces.erase id).get? id' = some b := found'
        exact .same (Slots.get?_of_erase found') rfl
    | ofTask id' => exact .same found' rfl
  · simp only [held, Slots.total_erase found (·.mapped)]
    simp only [add_assoc, add_left_comm]

/-- To make an address space is a passage that needs no deed. -/
theorem passage_makeSpace {range : Span} (upright : range.start ≤ range.stop)
    (bounded : range.stop < wordSize) : Passage may k extra (k.makeSpace range).2 extra := by
  have fits' : k.require (range.stop < wordSize) .arithmetic = k := if_pos bounded
  simp only [makeSpace, fits']
  have inserted : Passage may k ((AddressSpace.empty range).mapped + extra) _ extra :=
    passage_insertSpace (.new (Slots.not_issued_fresh _) upright bounded)
  rwa [show (AddressSpace.empty range).mapped = 0 from rfl, zero_add] at inserted

/-- The objects that an address space maps are held. -/
theorem mapped_subset_held (found : k.space? ref = some a) : a.mapped ⊆ k.held + extra := by
  obtain ⟨rest, before, _⟩ := held_setSpace found
  intro object member
  rw [before, add_assoc]
  exact Multiset.mem_add.mpr (.inl member)

/-- To fork an address space is a passage that needs no deed, whether or not it is refused. -/
theorem forkSpace_ends (ref : SpaceRef) :
    (forkSpace ref).Ends k (fun _ k' => Passage may k extra k' extra)
      (fun _ k' => Passage may k extra k' extra) := by
  simp only [forkSpace, ends_bind, ends_get, ends_orStuck, ends_set, ends_pure]
  refine ⟨fun a found => ?_, fun _ => passage_halt⟩
  refine (forkSpaceValue_ends a (mapped_subset_held found)).mono ?_ fun _ _ refused => refused.passage
  rintro child k' ⟨rfl, copied⟩
  have copied : Passage may k extra k' (a.mapped + extra) :=
    (copied.recount rfl (add_left_comm _ _ _)).passage
  have still : k'.space? ref = some a := by
    rw [space?_congr (Chain.holderPart ‹Changes may k _ k' _›)]
    exact found
  exact copied.trans (passage_insertSpace (.copy (Slots.not_issued_fresh _) still (.inl rfl)))

/-- To drop an address space is a passage that needs no deed. -/
theorem passage_dropSpace (id : Handle .space) : Passage may k extra (k.dropSpace id) extra := by
  unfold dropSpace
  split
  case h_1 a found =>
    refine (passage_eraseSpace found).trans (Chain.passage ?_)
    exact (changes_dropSpaceValue a).recount (add_left_comm _ _ _) rfl
  case h_2 => exact .refl k extra

/-! ## Page faults -/

/-- A span that lies in the bytes that an area maps. -/
theorem spans_of_inter {v : Area} {source : Span} {size i : Nat} {l : Location}
    (inside : source = v.mappedBytes.inter ⟨0, size⟩)
    (start : l.source.start = source.start + i * pageSize) (stop : l.source.stop ≤ source.stop) :
    Spans v l := by
  have first : source.start = v.offset := by
    simp [inside, Span.inter, Area.mappedBytes, Span.ofSize]
  have last : source.stop ≤ v.mappedBytes.stop := by
    simp only [inside, Span.inter, Area.mappedBytes, Span.ofSize]
    omega
  refine ⟨?_, ?_, stop.trans last⟩
  · rw [start, first]
    exact Nat.le_add_right _ _
  · rw [start, first, Nat.add_sub_cancel_left]
    exact Nat.mul_mod_left _ _

private theorem spans_of_mem_window {v : Area} {window : Window} {required : Span} {l : Location}
    (member : l ∈ (window.locate required v.mappedBytes).locations) : Spans v l := by
  simp only [Window.locate, List.mem_map] at member
  obtain ⟨part, inside, rfl⟩ := member
  split at inside
  case isTrue =>
    obtain ⟨i, bound, rfl⟩ := List.mem_map.mp inside
    exact spans_of_inter rfl rfl (Nat.min_le_right _ _)
  case isFalse =>
    split at inside
    · cases inside
    · cases List.mem_singleton.mp inside
      exact spans_of_inter (i := 0) rfl (by simp) (Nat.le_refl _)

private theorem mem_locations_segment {g : Segment} {required optional : Span} {l : Location}
    (member : l ∈ (g.locate required optional).locations) :
    l.source = optional.inter ⟨0, g.effectiveSize⟩ ∧ l.address = g.backing.start + l.source.start := by
  simp only [Segment.locate] at member
  split at member
  · cases member
  · rw [List.mem_singleton.mp member]
    exact ⟨rfl, rfl⟩

/-- What is located for an area is mapped by it, and a segment locates what it has. -/
theorem locates_locate {v : Area} (required : Span) (access : Access) :
    k.Locates v (k.locate v.object required v.mappedBytes access).1.locations := by
  constructor
  · intro l member
    cases object : v.object with
    | segment s =>
        simp only [object, locate] at member
        split at member
        case h_1 g found =>
          obtain ⟨source, _⟩ := mem_locations_segment member
          exact spans_of_inter (i := 0) source (by simp) (Nat.le_refl _)
        case h_2 => cases member
    | window w =>
        simp only [object, locate] at member
        split at member
        case h_1 window found => exact spans_of_mem_window member
        case h_2 => cases member
  · intro l member s segment
    simp only [segment, locate] at member
    split at member
    case h_1 g found => exact ⟨g, found, mem_locations_segment member⟩
    case h_2 => cases member

private theorem segments_locate (object : Object) (required optional : Span) (access : Access) :
    (k.locate object required optional access).2.segments = k.segments := by
  cases object <;> simp only [locate] <;> split <;> rfl

/-- What was located for an area may be established in part. -/
theorem Locates.mono {v : Area} {ls ls' : List Location} (located : k.Locates v ls)
    (fewer : ls' ⊆ ls) : k.Locates v ls' :=
  ⟨fun l member => located.spans l (fewer member), fun l member =>
    located.segment l (fewer member)⟩

private theorem Locates.congr {v : Area} {ls : List Location} (located : k.Locates v ls)
    (same : k'.segments = k.segments) : k'.Locates v ls := by
  refine ⟨located.spans, ?_⟩
  rw [same]
  exact located.segment

private theorem passage_establish {v : Area} {ls : List Location} (found : k.space? ref = some a)
    (member : v ∈ a.areas) (located : k.Locates v ls) :
    Passage may k extra (k.setSpace (a.establishAll v ls) ref) extra := by
  obtain ⟨rest, before, after⟩ := held_setSpace found
  obtain ⟨pages, same⟩ := a.establishAll_eq v ls
  have established : Course may k (k.held + extra) (k.setSpace (a.establishAll v ls) ref)
      (k.held + extra) := .single (.establish found member located)
  refine established.recount rfl ?_
  rw [after, same, before]
  rfl

/-- A page fault is a passage that needs no deed, whether or not the access may go on. -/
theorem passage_faultSpace (ref : SpaceRef) (address : Nat) (access : Access) :
    Passage may k extra (k.faultSpace ref address access).2 extra := by
  unfold faultSpace
  split
  case h_1 => exact passage_halt
  case h_2 a found =>
    split
    case h_1 => exact .refl k extra
    case h_2 v faulting =>
      have member : v ∈ a.areas :=
        (AddressSpace.areaAt?_eq_some (Option.filter_eq_some_iff.mp faulting).1).1
      split
      case h_1 resolution asked asking =>
        have asked_eq : asked = _ := (congrArg Prod.snd asking).symm
        have told : Changes may k (k.held + extra) asked (k.held + extra) := by
          rw [asked_eq]
          exact (changes_require _ (.inl rfl)).trans (changes_locate _ _ _ _)
        have checked : Changes may k (k.held + extra) (asked.require
            (∀ l ∈ resolution.locations, LocationFits v l) .arithmetic) (k.held + extra) :=
          told.trans (changes_require _ (.inl rfl))
        have here := (space?_congr checked.holderPart ref).trans found
        have located : (asked.require (∀ l ∈ resolution.locations, LocationFits v l)
            .arithmetic).Locates v resolution.locations := by
          have before := locates_locate (k := k.require (FaultFits v address) .arithmetic) (v := v)
            (v.requiredAt address) access
          rw [asking] at before
          refine before.congr ?_
          rw [(objects_require _ _).2.1, asked_eq, segments_locate]
        have established : Passage may k extra _ extra :=
          checked.passage.trans (passage_establish here member located)
        split
        · exact established
        · exact established.trans (Chain.single (.emit _ rfl)).passage

end Kernel

end SharedMemory
