import SharedMemory.Proofs.Resolution
import SharedMemory.Proofs.UnmappingOrder

/-!
# Forking an address space

A fork goes through the areas in ascending order: the object of each is told that it is copied, and
the copy takes a reference (`Kernel.Copies`). If all objects agree, the copies make up the child. If
one refuses (`Kernel.Balks`), the references that were taken so far go back, and since the parent
still refers to every object that it maps, none of them was the last.

Parent and child map the same, so a page fault goes the same way in both.
-/

namespace SharedMemory

/-- What a window is told when an area is copied. -/
def Area.copyTo? (v : Area) (w : Handle .window) : Option WindowCall :=
  if v.object = .window w then some (.copied v.span v.offset) else none

/-- Segments that are the same apart from notes and have the same notes are the same. -/
theorem Segment.eq_of_unnoted {g g' : Segment} (same : g'.unnoted = g.unnoted)
    (notes : g'.notes = g.notes) : g' = g := by
  obtain ⟨attach, detach, _, pid⟩ := (by simpa [Segment.notes] using notes :
    g'.attachTime = g.attachTime ∧ g'.detachTime = g.detachTime ∧
      g'.changeTime = g.changeTime ∧ g'.lastPid = g.lastPid)
  calc g' = { g'.unnoted with
          attachTime := g'.attachTime, detachTime := g'.detachTime, lastPid := g'.lastPid } := rfl
    _ = g := by rw [same, attach, detach, pid]; rfl

namespace Kernel

open KernelM

/-- The object of an area was told that the area is copied: a window has it in its journal, and
nothing else changed that has to do with references. -/
structure Told (k : Kernel) (v : Area) (k' : Kernel) : Prop where
  holders : k'.holderPart = k.holderPart
  segments : k'.segments = k.segments
  registries : k'.registries = k.registries
  pools : k'.pools = k.pools
  outline : k'.outline = k.outline
  counts : ∀ object, k'.referenceCount? object = k.referenceCount? object
  journals : ∀ w, k'.journal? w = (k.journal? w).map (· ++ (v.copyTo? w).toList)

/-- The objects of areas agree, one after the other, to be copied, and every copy takes a
reference. -/
inductive Copies : Kernel → List Area → Kernel → Prop
  | nil {k} : Copies k [] k
  | cons {k k₁ k' v rest} (told : notifyCopied v.object v.span v.offset k = .ok () k₁)
      (others : Copies (k₁.acquire v.object) rest k') : Copies k (v :: rest) k'

/-- Areas are copied, and then the object of another one refuses. -/
def Balks (k : Kernel) (done : List Area) (v : Area) (cause : Errno) (k' : Kernel) : Prop :=
  ∃ k₁, Copies k done k₁ ∧ notifyCopied v.object v.span v.offset k₁ = .error cause k'

/-- What copies of areas leave: each counts as a reference, every window was told of the copies of
its areas in their order, and nothing else changed but what windows use up. -/
structure Spread (k : Kernel) (areas : List Area) (k' : Kernel) : Prop where
  holders : k'.holderPart = k.holderPart
  registries : k'.registries = k.registries
  pools : k'.pools = k.pools
  outline : k'.outline = k.outline
  notes : ∀ s, k'.notes? s = k.notes? s
  counts : ∀ object, k'.referenceCount? object =
    (k.referenceCount? object).map (· + areas.countP (·.object = object))
  journals : ∀ w, k'.journal? w = (k.journal? w).map (· ++ areas.filterMap (·.copyTo? w))

variable {k k' : Kernel} {v : Area} {areas : List Area} {a : AddressSpace}

/-! ## Objects that are told of copies -/

private theorem told_setWindow {w : Handle .window} {window window' : Window}
    (object : v.object = .window w) (found : k.windows.get? w = some window)
    (same : window'.unnoted = window.unnoted)
    (recorded : window'.journal = window.journal ++ [.copied v.span v.offset]) :
    k.Told v (k.setWindow w window') where
  holders := rfl
  segments := rfl
  registries := rfl
  pools := rfl
  outline := outline_setWindow found
    (congrArg (fun window : Window => { window with references := 0 }) same)
  counts := by
    have references : window'.unnoted.references = window.unnoted.references :=
      congrArg Window.references same
    intro object'
    rw [referenceCount?_setWindow found]
    split
    case isTrue here =>
      rw [here, referenceCount?, found, Option.map_some]
      exact congrArg some references
    case isFalse => rfl
  journals := by
    intro w'
    rw [journal?_setWindow found, Area.copyTo?, object]
    by_cases here : w = w'
    · subst here
      simp [journal?, found, recorded]
    · simp [here]

private theorem notifyCopied_told (v : Area) : (notifyCopied v.object v.span v.offset).Ends k
    (fun _ k' => k.Told v k') (fun _ k' => k.Told v k') := by
  cases object : v.object with
  | segment s =>
      simp only [notifyCopied, ends_bind, ends_get, ends_pure]
      refine ⟨rfl, rfl, rfl, rfl, rfl, fun _ => rfl, fun w => ?_⟩
      simp [Area.copyTo?, object]
  | window w =>
      simp only [notifyCopied, ends_bind, ends_get, ends_orStuck]
      refine ⟨fun window found => ?_, fun missing => ?_⟩
      · rcases window.copies with _ | _ | left
        all_goals
          simp only [ends_bind, ends_set, ends_throw]
          exact told_setWindow object found rfl rfl
      · refine ⟨rfl, rfl, rfl, rfl, (agree_halt _).outline, fun _ => rfl, fun w' => ?_⟩
        by_cases here : w = w'
        · subst here
          simp [journal?, missing, halt]
        · simp [Area.copyTo?, object, here, journal?, halt, Function.comp_def]

private theorem referenceCount?_acquire (object other : Object) : (k.acquire object).referenceCount?
    other = (k.referenceCount? other).map (· + if object = other then 1 else 0) := by
  cases found : k.referenceCount? object with
  | some count =>
      rw [(acquire_spec found).1]
      by_cases same : other = object
      · subst same
        simp [found]
      · simp [same, Ne.symm same]
  | none =>
      have halted : k.acquire object = k.halt .dangling := by
        cases object with
        | segment s =>
            have missing := Option.map_eq_none_iff.mp found
            simp only [acquire, missing]
        | window w =>
            have missing := Option.map_eq_none_iff.mp found
            simp only [acquire, missing]
      have same : (k.halt .dangling).referenceCount? other = k.referenceCount? other :=
        referenceCount?_congr rfl rfl other
      rw [halted, same]
      by_cases here : object = other
      · subst here
        simp [found]
      · simp [here]

private theorem objects_acquire (object : Object) :
    (k.acquire object).registries = k.registries ∧ (k.acquire object).pools = k.pools := by
  cases object <;> simp only [acquire] <;> split <;> exact ⟨rfl, rfl⟩

/-- Copies of areas leave nothing but references and what windows were told. -/
theorem Copies.spread (copies : Copies k areas k') : k.Spread areas k' := by
  induction copies with
  | nil => exact ⟨rfl, rfl, rfl, rfl, fun _ => rfl, by simp, by simp⟩
  | @cons k k₁ k' v rest told _ ih =>
      have first := (notifyCopied_told v).ok told
      obtain ⟨registries, pools⟩ := objects_acquire (k := k₁) v.object
      constructor
      case holders => rw [ih.holders, holderPart_acquire, first.holders]
      case registries => rw [ih.registries, registries, first.registries]
      case pools => rw [ih.pools, pools, first.pools]
      case outline => rw [ih.outline, outline_acquire, first.outline]
      case notes =>
        intro s
        rw [ih.notes, notes?_acquire, notes?, first.segments, notes?]
      case counts =>
        intro object
        rw [ih.counts, referenceCount?_acquire, first.counts, Option.map_map, List.countP_cons]
        congr 1
        funext count
        by_cases same : v.object = object
        · simp only [same, Function.comp_apply, if_true, decide_true]
          omega
        · simp [same]
      case journals =>
        intro w
        rw [ih.journals, journal?_acquire, first.journals, Option.map_map, List.filterMap_cons]
        congr 1
        funext journal
        cases v.copyTo? w <;> simp

/-! ## Copies that are made, and copies that are given up -/

private theorem Copies.copyAreas_append {done : List Area} (copies : Copies k done k')
    (more : List Area) : copyAreas (done ++ more) k =
    ((done ++ (copyAreas more k').1.1, (copyAreas more k').1.2), (copyAreas more k').2) := by
  induction copies with
  | nil => rfl
  | cons told _ ih => simp only [List.cons_append, copyAreas, told, ih]

private theorem forkSpaceValue_of_copies (copies : Copies k a.areas k') :
    forkSpaceValue a k = .ok ⟨a.range, a.areas, []⟩ k' := by
  have all := copies.copyAreas_append []
  rw [List.append_nil, copyAreas, List.append_nil] at all
  simp only [forkSpaceValue, all]

private theorem forkSpaceValue_of_balks {done later : List Area} {cause : Errno}
    (here : a.areas = done ++ v :: later) (balks : k.Balks done v cause k') :
    forkSpaceValue a k = .error cause (k'.dropSpaceValue ⟨a.range, done, []⟩) := by
  obtain ⟨k₁, copies, refused⟩ := balks
  have some := copies.copyAreas_append (v :: later)
  rw [← here] at some
  simp only [copyAreas, refused, List.append_nil] at some
  simp only [forkSpaceValue, some]

/-- Either all areas are copied, or one of them is the first whose object refuses. -/
theorem copies_or_balks (areas : List Area) (k : Kernel) :
    (∃ k', Copies k areas k') ∨ ∃ done v later cause k', areas = done ++ v :: later ∧
      k.Balks done v cause k' := by
  induction areas generalizing k with
  | nil => exact .inl ⟨k, .nil⟩
  | cons v rest ih =>
      cases told : notifyCopied v.object v.span v.offset k with
      | error cause k' => exact .inr ⟨[], v, rest, cause, k', rfl, k, .nil, told⟩
      | ok _ k₁ =>
          rcases ih (k₁.acquire v.object) with ⟨k', copies⟩ | balked
          · exact .inl ⟨k', .cons told copies⟩
          · obtain ⟨done, u, later, cause, k', here, k₂, copies, refused⟩ := balked
            exact .inr ⟨v :: done, u, later, cause, k', by rw [here, List.cons_append], k₂,
              .cons told copies, refused⟩

/-- Dropping an address space keeps whatever neither the log nor the references decide. -/
theorem dropSpaceValue_view {α : Type} (view : Kernel → α)
    (emitted : ∀ k e, view (k.emit e) = view k)
    (released : ∀ k object, view (k.release object) = view k) (a : AddressSpace) :
    view (k.dropSpaceValue a) = view k := by
  have each (objects : List Object) (k : Kernel) : view (k.releaseEach objects) = view k := by
    induction objects generalizing k with
    | nil => rfl
    | cons object rest ih => exact (ih _).trans (released k object)
  unfold dropSpaceValue
  rw [each]
  split
  · rfl
  · exact emitted k _

/-- A fork is carried out if every object agrees. -/
theorem forkSpace_of_copies {ref : SpaceRef} (found : k.space? ref = some a)
    (copies : Copies k a.areas k') :
    forkSpace ref k =
      .ok k.spaces.fresh { k' with spaces := k.spaces.insert ⟨a.range, a.areas, []⟩ } := by
  have spaces : k'.spaces = k.spaces := congrArg (·.spaces) copies.spread.holders
  apply Ends.eq_ok
  simp only [forkSpace, ends_bind, ends_get, found, orStuck, ends_pure,
    ends_iff_of_ok (forkSpaceValue_of_copies copies), ends_set, spaces]
  trivial

/-- A fork is refused if an object balks, and the copies until then are dropped. -/
theorem forkSpace_of_balks {ref : SpaceRef} {done later : List Area} {cause : Errno}
    (found : k.space? ref = some a) (here : a.areas = done ++ v :: later)
    (balks : k.Balks done v cause k') :
    forkSpace ref k = .error cause (k'.dropSpaceValue ⟨a.range, done, []⟩) := by
  apply Ends.eq_error
  simp only [forkSpace, ends_bind, ends_get, found, orStuck, ends_pure,
    ends_iff_of_error (forkSpaceValue_of_balks here balks)]
  trivial

/-! ## What a fork leaves -/

/-- An address space was forked: the child has the range and the areas of its parent and no page,
every area was copied in ascending order, and all that has changed is that windows were told and
that references were taken. -/
structure Duplicated (k : Kernel) (ref : SpaceRef) (a : AddressSpace) (c : Handle .space)
    (k' : Kernel) : Prop where
  child : k'.space? (.alone c) = some ⟨a.range, a.areas, []⟩
  parent : k'.space? ref = some a
  holders : k'.holderPart =
    { k with spaces := k.spaces.insert ⟨a.range, a.areas, []⟩ }.holderPart
  ascending : a.areas.Pairwise fun v w => v.span.stop ≤ w.span.start
  copies : ∃ k₁, Copies k a.areas k₁ ∧
    k' = { k₁ with spaces := k.spaces.insert ⟨a.range, a.areas, []⟩ }
  journals : ∀ w, k'.journal? w = (k.journal? w).map (· ++ a.areas.filterMap (·.copyTo? w))
  counts : ∀ object, k'.referenceCount? object =
    (k.referenceCount? object).map (· + a.areasOf object)
  notes : ∀ s, k'.notes? s = k.notes? s
  registries : k'.registries = k.registries
  pools : k'.pools = k.pools

/-- A fork was given up: windows were told of the areas that were copied, and of the one that was
not, and nothing else is left of it. -/
structure GivenUp (k : Kernel) (done : List Area) (v : Area) (k' : Kernel) : Prop where
  holders : k'.holderPart = k.holderPart
  segments : k'.segments = k.segments
  registries : k'.registries = k.registries
  pools : k'.pools = k.pools
  counts : ∀ object, k'.referenceCount? object = k.referenceCount? object
  journals : ∀ w, k'.journal? w =
    (k.journal? w).map (· ++ (done ++ [v]).filterMap (·.copyTo? w))

/-- Where every object agrees, the address space is duplicated. -/
theorem Copies.duplicated {ref : SpaceRef} (copies : Copies k a.areas k') (ordered : a.Ordered)
    (found : k.space? ref = some a) :
    k.Duplicated ref a k.spaces.fresh
      { k' with spaces := k.spaces.insert ⟨a.range, a.areas, []⟩ } := by
  have spread := copies.spread
  constructor
  case child => exact Slots.get?_insert_fresh _ _
  case parent =>
    cases ref with
    | alone id => exact (Slots.get?_insert_of_ne (Slots.ne_fresh found) _).trans found
    | ofTask t =>
        have same := space?_congr spread.holders (.ofTask t)
        exact same.trans found
  case holders =>
    exact congrArg (fun holders : Kernel =>
      { holders with spaces := k.spaces.insert ⟨a.range, a.areas, []⟩ }) spread.holders
  case ascending => exact ordered.ascending
  case copies => exact ⟨k', copies, rfl⟩
  case journals => exact spread.journals
  case counts => exact spread.counts
  case notes => exact spread.notes
  case registries => exact spread.registries
  case pools => exact spread.pools

/-- Areas that are the same fault the same way. -/
theorem Duplicated.faultSpace {ref : SpaceRef} {c : Handle .space}
    (forked : k.Duplicated ref a c k') (address : Nat) (access : Access) :
    (k'.faultSpace (.alone c) address access).1 = (k'.faultSpace ref address access).1 := by
  have alike : AddressSpace.faultingArea? ⟨a.range, a.areas, []⟩ address access =
      a.faultingArea? address access := rfl
  cases faulting : a.faultingArea? address access with
  | none =>
      rw [faultSpace_of_none forked.parent faulting,
        faultSpace_of_none forked.child (alike.trans faulting)]
  | some v =>
      rw [(faultSpace_of_some forked.parent faulting).1,
        (faultSpace_of_some forked.child (alike.trans faulting)).1]

/-- A fault that is resolved in a segment's area leads parent and child to the same memory, if the
area starts a page. If it does not, it leads the child nowhere and the parent to where it was. -/
theorem Duplicated.touch? {ref : SpaceRef} {c : Handle .space} {address : Nat} {access : Access}
    {s : Handle .segment} (forked : k.Duplicated ref a c k') (inside : a.areaAt? address = some v)
    (object : v.object = .segment s) (resolved : (k'.faultSpace ref address access).1 = true) :
    ∃ g, k'.segments.get? s = some g ∧
      (PageAligned v.span.start →
        k'.touch? (.alone c) address access = some (g.backing.start + v.offsetAt address) ∧
        k'.touch? ref address access = some (g.backing.start + v.offsetAt address)) ∧
      (¬ PageAligned v.span.start →
        k'.touch? (.alone c) address access = none ∧
        k'.touch? ref address access = a.resolve? address) := by
  have faulting : a.faultingArea? address access = some v := by
    cases faulting : a.faultingArea? address access with
    | none =>
        rw [faultSpace_of_none forked.parent faulting] at resolved
        cases resolved
    | some u =>
        have same := (Option.filter_eq_some_iff.mp faulting).1
        rw [inside] at same
        exact same.symm
  obtain ⟨g, present⟩ : ∃ g, k'.segments.get? s = some g := by
    apply Option.ne_none_iff_exists'.mp
    intro missing
    rw [(faultSpace_of_some forked.parent faulting).1] at resolved
    simp only [object, locate, missing, Option.isNone_some, Bool.false_eq_true] at resolved
  have resolved' := (forked.faultSpace address access).trans resolved
  rw [touch?_segment forked.parent faulting object present resolved,
    touch?_segment forked.child faulting object present resolved']
  refine ⟨g, present, fun origin => ?_, fun slanted => ?_⟩
  · simp only [if_pos origin, and_self]
  · simp only [if_neg slanted]
    exact ⟨rfl, trivial⟩

end Kernel

namespace World

open Kernel

variable {w : World} {k k' : Kernel} {ref : SpaceRef} {a : AddressSpace} {rest : Multiset Object}

/-- The references that a fork took before it was given up were not the last ones, so giving them
back destroys nothing. -/
theorem Sound.givenUp {done later : List Area} {v : Area} {cause : Errno}
    (sound : w.Sound k (a.mapped + rest)) (proper : k.Proper)
    (here : a.areas = done ++ v :: later) (balks : k.Balks done v cause k') :
    k.GivenUp done v (k'.dropSpaceValue ⟨a.range, done, []⟩) := by
  have changes : Changes (fun _ => True) k (a.mapped + rest)
      (k'.dropSpaceValue ⟨a.range, done, []⟩) (a.mapped + rest) :=
    (forkSpaceValue_ends a fun _ member => Multiset.mem_add.mpr (.inl member)).error
      (forkSpaceValue_of_balks here balks)
  obtain ⟨k₁, copies, refused⟩ := balks
  have spread := copies.spread
  have told := (notifyCopied_told v).error refused
  have outline : (k'.dropSpaceValue ⟨a.range, done, []⟩).outline = k.outline := by
    rw [dropSpaceValue_view Kernel.outline (fun _ _ => rfl) fun _ => outline_release, told.outline,
      spread.outline]
  have notes (s : Handle .segment) :
      (k'.dropSpaceValue ⟨a.range, done, []⟩).notes? s = k.notes? s := by
    rw [dropSpaceValue_view (·.notes? s) (fun _ _ => rfl) fun _ object => notes?_release object s,
      notes?, told.segments, ← notes?, spread.notes]
  have sound' := sound.changes changes
  obtain ⟨segments, registries, pools⟩ := sound.objects_eq sound' proper
    (proper.course sound.counted changes.course) outline
  constructor
  case holders => exact changes.holderPart
  case segments =>
    apply Slots.eq_of_map_eq segments
    intro s g g' found found' same
    have noted := notes s
    rw [notes?, notes?, found, found', Option.map_some, Option.map_some] at noted
    exact Segment.eq_of_unnoted same (Option.some.inj noted)
  case registries => exact registries
  case pools => exact pools
  case counts => exact referenceCount?_eq outline sound.counted sound'.counted
  case journals =>
    intro x
    rw [dropSpaceValue_view (·.journal? x) (fun _ _ => rfl)
      fun _ object => journal?_release object x, told.journals, spread.journals, Option.map_map,
      List.filterMap_append]
    congr 1
    funext journal
    cases called : v.copyTo? x <;> simp [called]

/-- A fork copies every mapping or leaves no trace. If it goes well, the child maps exactly what its
parent maps, every area is told of once and counted, and a page fault goes the same way in both. A
fault that is resolved in a segment's area leads both to the same memory if the area starts a page,
as all areas do if the range does; otherwise it leads the child nowhere and leaves the parent with
the page that it had. If the object of an area refuses, the fork ends with its error: no area behind
it is told of, and nothing but what windows were told is left. There is no other error. -/
theorem forked_or_given_up (reachable : w.Reachable anything)
    (found : w.kernel.space? ref = some a) :
    (∀ c k', forkSpace ref w.kernel = .ok c k' → w.kernel.Duplicated ref a c k' ∧
      ∀ address access,
        (k'.faultSpace (.alone c) address access).1 = (k'.faultSpace ref address access).1 ∧
        ∀ v s, a.areaAt? address = some v → v.object = .segment s →
          (k'.faultSpace ref address access).1 = true →
          ∃ g, k'.segments.get? s = some g ∧
            (PageAligned v.span.start →
              k'.touch? (.alone c) address access = some (g.backing.start + v.offsetAt address) ∧
              k'.touch? ref address access = some (g.backing.start + v.offsetAt address)) ∧
            (¬ PageAligned v.span.start →
              k'.touch? (.alone c) address access = none ∧
              k'.touch? ref address access = a.resolve? address)) ∧
    (∀ done v later cause k₁, a.areas = done ++ v :: later → w.kernel.Balks done v cause k₁ →
      ∃ k', forkSpace ref w.kernel = .error cause k' ∧ w.kernel.GivenUp done v k') ∧
    (∀ cause k', forkSpace ref w.kernel = .error cause k' →
      ∃ done v later k₁, a.areas = done ++ v :: later ∧ w.kernel.Balks done v cause k₁) ∧
    (PageAligned a.range.start → ∀ v ∈ a.areas, PageAligned v.span.start) := by
  have laid := (reachable.laid suits_anything).spaces found
  obtain ⟨rest, sound⟩ := reachable.sound_mapped found
  have proper := reachable.proper suits_anything
  have given {done v later cause k₁} (here : a.areas = done ++ v :: later)
      (balks : w.kernel.Balks done v cause k₁) := forkSpace_of_balks found here balks
  refine ⟨fun c k' forked => ?_, fun done v later cause k₁ here balks => ?_,
    fun cause k' refused => ?_, fun origin v member => ((laid.tidy origin).aligned v member).1⟩
  · rcases copies_or_balks a.areas w.kernel with ⟨k₁, copies⟩ | balked
    · have made := forkSpace_of_copies found copies
      rw [made] at forked
      cases forked
      have forked := copies.duplicated laid.toOrdered found
      exact ⟨forked, fun address access => ⟨forked.faultSpace address access,
        fun v s inside object resolved => forked.touch? inside object resolved⟩⟩
    · obtain ⟨done, v, later, cause, k₁, here, balks⟩ := balked
      cases (given here balks).symm.trans forked
  · exact ⟨_, given here balks, sound.givenUp proper here balks⟩
  · rcases copies_or_balks a.areas w.kernel with ⟨k₁, copies⟩ | balked
    · cases (forkSpace_of_copies found copies).symm.trans refused
    · obtain ⟨done, v, later, cause', k₁, here, balks⟩ := balked
      cases (given here balks).symm.trans refused
      exact ⟨done, v, later, k₁, here, balks⟩

/-- A segment of two pages and a window behind it that may be copied once are mapped in an address
space. -/
def spawning : List Operation :=
  let root : Requester := ⟨.superuser .initial, none, none⟩
  [.makePool 0 16, .makeRegistry .initial ⟨0⟩ {} .handle,
    .findOrCreate ⟨0⟩ root ⟨privateKey, 0x2000, 0o600, true, false, false⟩,
    .makeWindow ⟨"buffer", 0x80000, 0x1000, false, false, some 1, 0, []⟩,
    .makeSpace ⟨0x10000, 0x40000⟩, .attach ⟨0⟩ root 0 ⟨false, false, false⟩,
    .mmap (.alone ⟨0⟩) root ⟨0⟩, .requestWindow ⟨0⟩, .mmap (.alone ⟨0⟩) root ⟨1⟩]

/-- The first fork goes well, and both address spaces find the same memory in the segment. The
second is refused by the window, and the copy of the segment's area is given up. -/
theorem forked_or_given_up_spawning :
    let w := ({} : World).follow spawning
    let w' := ({} : World).follow (spawning ++ [.forkSpace (.alone ⟨0⟩)])
    w.Reachable anything ∧ w'.Reachable anything ∧ ∃ a, w.kernel.space? (.alone ⟨0⟩) = some a ∧
      (∃ k', forkSpace (.alone ⟨0⟩) w.kernel = .ok ⟨1⟩ k' ∧
        w.kernel.Duplicated (.alone ⟨0⟩) a ⟨1⟩ k' ∧
        k'.touch? (.alone ⟨1⟩) 0x11234 .readOnly = k'.touch? (.alone ⟨0⟩) 0x11234 .readOnly ∧
        (k'.touch? (.alone ⟨0⟩) 0x11234 .readOnly).isSome) ∧
      ∃ k' done v later, forkSpace (.alone ⟨0⟩) w'.kernel = .error .enomem k' ∧
        a.areas = done ++ v :: later ∧ w'.kernel.GivenUp done v k' := by
  intro w w'
  have reachable : w.Reachable anything :=
    reachable_follow (by decide +kernel) fun _ _ => trivial
  have reachable' : w'.Reachable anything :=
    reachable_follow (by decide +kernel) fun _ _ => trivial
  let segment : Area := ⟨⟨0x10000, 0x12000⟩, 0, .readWrite, .all, .segment ⟨0⟩⟩
  let window : Area := ⟨⟨0x12000, 0x13000⟩, 0, .readWrite, .all, .window ⟨0⟩⟩
  have state : ∃ a ∈ w.kernel.space? (.alone ⟨0⟩), a.areas = [segment, window] := by
    decide +kernel
  have state' : ∃ a ∈ w'.kernel.space? (.alone ⟨0⟩), a.areas = [segment, window] := by
    decide +kernel
  have forked : ∃ k', forkSpace (.alone ⟨0⟩) w.kernel = .ok ⟨1⟩ k' := by decide +kernel
  have resolved : (((forkSpace (.alone ⟨0⟩)).after w.kernel).faultSpace (.alone ⟨0⟩) 0x11234
      .readOnly).1 = true := by decide +kernel
  have refused : ∃ k', forkSpace (.alone ⟨0⟩) w'.kernel = .error .enomem k' := by decide +kernel
  obtain ⟨a, found, areas⟩ := state
  obtain ⟨a', found', areas'⟩ := state'
  obtain ⟨k₁, forked⟩ := forked
  obtain ⟨k₂, refused⟩ := refused
  rw [KernelM.after_of_ok forked] at resolved
  have inside : a.areaAt? 0x11234 = some segment := by
    have here : AddressSpace.areaAt? ⟨a.range, [segment, window], a.pages⟩ 0x11234 =
        some segment := rfl
    rwa [← areas] at here
  obtain ⟨duplicated, faults⟩ := (forked_or_given_up reachable found).1 ⟨1⟩ k₁ forked
  obtain ⟨g, _, alike, _⟩ := (faults 0x11234 .readOnly).2 segment ⟨0⟩ inside rfl resolved
  obtain ⟨child, parent⟩ := alike (by decide)
  obtain ⟨done, v, later, k₃, here, balks⟩ :=
    (forked_or_given_up reachable' found').2.2.1 .enomem k₂ refused
  obtain ⟨k₄, refused', givenUp⟩ :=
    (forked_or_given_up reachable' found').2.1 done v later .enomem k₃ here balks
  refine ⟨reachable, reachable', a, found, ⟨k₁, forked, duplicated, child.trans parent.symm, ?_⟩,
    k₄, done, v, later, refused', (areas.trans areas'.symm).trans here, givenUp⟩
  rw [parent, Option.isSome_some]

/-- A segment of three pages is mapped twice in an address space that does not start a page, the
first time in part. A page is cut out where the two mappings meet, the second mapping is touched,
and the first one is detached along with what it reaches of the second. -/
def slanting : List Operation :=
  let root : Requester := ⟨.superuser .initial, none, none⟩
  [.makePool 0 16, .makeRegistry .initial ⟨0⟩ {} .handle,
    .findOrCreate ⟨0⟩ root ⟨privateKey, 0x3000, 0o600, true, false, false⟩,
    .makeSpace ⟨0x10800, 0x40000⟩, .attach ⟨0⟩ root 0 ⟨false, false, false⟩,
    .editRequest ⟨0⟩ ⟨.segment ⟨0⟩, 0x2000, 0, 0, false, .readWrite, .all⟩,
    .mmap (.alone ⟨0⟩) root ⟨0⟩, .attach ⟨0⟩ root 0 ⟨false, false, false⟩,
    .mmap (.alone ⟨0⟩) root ⟨1⟩, .munmap (.alone ⟨0⟩) root 0x12000 0x1000,
    .faultSpace (.alone ⟨0⟩) 0x14000 .readOnly, .detach (.alone ⟨0⟩) root 0x10800]

/-- What is left is one area that does not start a page and maps the segment from a page of it on.
A fault in it is resolved in the parent and in the child. The parent still has the page there from
before the area was cut, and the child has none. -/
theorem slanting_fork_differs :
    let w := ({} : World).follow slanting
    w.Reachable anything ∧
      (∃ a ∈ w.kernel.space? (.alone ⟨0⟩), a.areas =
        [⟨⟨0x13800, 0x15800⟩, 0x1000, .readWrite, .all, .segment ⟨0⟩⟩]) ∧
      ∃ k', forkSpace (.alone ⟨0⟩) w.kernel = .ok ⟨1⟩ k' ∧
        (k'.faultSpace (.alone ⟨0⟩) 0x14000 .readOnly).1 = true ∧
        (k'.faultSpace (.alone ⟨1⟩) 0x14000 .readOnly).1 = true ∧
        k'.touch? (.alone ⟨0⟩) 0x14000 .readOnly = some 0x1800 ∧
        k'.touch? (.alone ⟨1⟩) 0x14000 .readOnly = none := by
  intro w
  have reachable : w.Reachable anything :=
    reachable_follow (by decide +kernel) fun _ _ => trivial
  have forked : ∃ k', forkSpace (.alone ⟨0⟩) w.kernel = .ok ⟨1⟩ k' := by decide +kernel
  obtain ⟨k', forked⟩ := forked
  refine ⟨reachable, by decide +kernel, k', forked, ?_⟩
  rw [← KernelM.after_of_ok forked]
  decide +kernel

end World

end SharedMemory
