import Mathlib.Order.Bounds.Basic
import SharedMemory.Proofs.Exit
import SharedMemory.Proofs.Mappings

/-!
# What unmapping does as a whole

Unmapping has two sides. Seen from the addresses, those that are unmapped lose all that they show,
and no other loses anything (`AddressSpace.Loses`). Seen from the objects, each area that is cut has
its object told once what is gone, takes a reference for every piece that remains and gives its
own back (`Kernel.Sheds`). The sides are apart: what happens to the objects does not depend on the
address space that is put in place.
-/

namespace SharedMemory

/-! ## What addresses lose -/

namespace AddressSpace

variable {a b : AddressSpace} {s : Span} {spans : List Span} {address : Nat}

/-- The most that may be allowed at an address, if it maps anything. -/
def maxPerms? (a : AddressSpace) (address : Nat) : Option Access :=
  (a.areaAt? address).map (·.maxPerms)

/-- All that an address shows: what it maps, the most that may be allowed there, and its page. -/
def sight (a : AddressSpace) (address : Nat) : Option Mapping × Option Access × Option Page :=
  (a.mapping? address, a.maxPerms? address, a.page? address)

/-- Some addresses lose all that they show, and no other address loses anything. -/
structure Loses (a : AddressSpace) (taken : Nat → Prop) (b : AddressSpace) : Prop where
  gone : ∀ {address}, taken address → b.sight address = (none, none, none)
  kept : ∀ {address}, ¬ taken address → b.sight address = a.sight address

/-- Once a span is unmapped its addresses show nothing, and the others what they did. -/
theorem Ordered.sight_unmap (ordered : a.Ordered) (upright : s.start ≤ s.stop) (address : Nat) :
    (a.unmap s).sight address =
      if s.Contains address then (none, none, none) else a.sight address := by
  have maxPerms : (a.unmap s).maxPerms? address =
      if s.Contains address then none else a.maxPerms? address :=
    ordered.areaAt?_unmap (·.maxPerms) upright fun part _ => part.maxPerms
  rw [sight, ordered.mapping?_unmap upright, maxPerms, page?_unmap]
  split <;> rfl

/-- Once spans are unmapped their addresses lose all that they showed. -/
theorem Ordered.loses_foldl_unmap (ordered : a.Ordered)
    (upright : ∀ s ∈ spans, s.start ≤ s.stop) :
    a.Loses (fun address => ∃ s ∈ spans, s.Contains address)
      (spans.foldl AddressSpace.unmap a) := by
  have seen (address : Nat) := foldl_unmap_eq (·.sight address) (none, none, none) Ordered
    (fun ordered member => ⟨ordered.unmap (upright _ member),
      ordered.sight_unmap (upright _ member) address⟩) ordered
  exact ⟨fun taken => (seen _).trans (if_pos taken), fun untaken => (seen _).trans (if_neg untaken)⟩

/-- Once a span is unmapped its addresses lose all that they showed. -/
theorem Ordered.loses_unmap (ordered : a.Ordered) (upright : s.start ≤ s.stop) :
    a.Loses s.Contains (a.unmap s) where
  gone := fun within => (ordered.sight_unmap upright _).trans (if_pos within)
  kept := fun outside => (ordered.sight_unmap upright _).trans (if_neg outside)

/-- Only areas that meet the span have a part in unmapping it. -/
theorem unmapEffects_eq (a : AddressSpace) (s : Span) :
    a.unmapEffects s = (a.areas.filter (·.span.Meets s)).flatMap (·.effects s) := by
  unfold unmapEffects
  induction a.areas with
  | nil => rfl
  | cons v rest ih =>
      rw [List.flatMap_cons, ih, List.filter_cons]
      by_cases meets : v.span.Meets s
      · simp only [meets, decide_true, if_true, List.flatMap_cons]
      · have unaffected : v.effects s = [] := if_neg meets
        simp only [meets, decide_false, Bool.false_eq_true, if_false, unaffected, List.nil_append]

end AddressSpace

/-! ## What objects are told -/

/-- What an object is told when addresses no longer map it: which, and the offset that the first
of them mapped. -/
structure Removal where
  object : Object
  span : Span
  offset : Nat
deriving DecidableEq

/-- What an effect tells an object, if it tells anything. -/
def Effect.removal? : Effect → Option Removal
  | .removed object span offset => some ⟨object, span, offset⟩
  | .kept _ _ | .unmapped _ | .dropped _ => none

/-- The call that a removal is to a window, if it concerns the window. -/
def Removal.callTo? (r : Removal) (w : Handle .window) : Option WindowCall :=
  if r.object = .window w then some (.removed r.span r.offset) else none

/-- The arithmetic of an effect stays within the word and does not fall below zero. -/
def Effect.Fits : Effect → Prop
  | .removed _ span offset => span.start ≤ span.stop ∧ offset < wordSize
  | .kept _ offset => offset < wordSize
  | .unmapped _ | .dropped _ => True

/-- What is noted of a segment after somebody detached it. -/
def Requester.parting (q : Requester) (notes : Instant × Instant × Instant × Pid) :
    Instant × Instant × Instant × Pid :=
  (notes.1, q.now.getD notes.2.1, notes.2.2.1, q.pid.getD notes.2.2.2)

private theorem Requester.parting_parting (q : Requester)
    (notes : Instant × Instant × Instant × Pid) :
    q.parting (q.parting notes) = q.parting notes := by
  cases now : q.now <;> cases pid : q.pid <;> simp [parting, now, pid]

private theorem Segment.notes_noteDetach (g : Segment) (q : Requester) :
    (g.noteDetach q).notes = q.parting g.notes := rfl

namespace Area

variable {v : Area} {s : Span} {cut : List Area}

/-- What the object of an area is told when a span is unmapped that the area meets: the addresses
that both have, and the offset of the first of them. -/
def removal (v : Area) (s : Span) : Removal := ⟨v.object, v.overlap s, v.overlapOffset s⟩

private theorem removals_effects (meets : v.span.Meets s) :
    (v.effects s).filterMap Effect.removal? = [v.removal s] := by
  have kept : (Effect.removal? ∘ fun piece : Area => Effect.kept v.object piece.offset) =
      fun _ => none := rfl
  simp [effects, meets, Effect.removal?, removal, List.filterMap_map, kept]

/-- An area that is cut is told of once, as the areas come. -/
theorem removals_effectsEach (meets : ∀ v ∈ cut, v.span.Meets s) :
    (cut.flatMap (·.effects s)).filterMap Effect.removal? = cut.map (·.removal s) := by
  induction cut with
  | nil => rfl
  | cons v rest ih =>
      have first := removals_effects (meets v (List.mem_cons_self ..))
      have others := ih fun w member => meets w (List.mem_cons_of_mem _ member)
      rw [List.flatMap_cons, List.filterMap_append, first, others, List.map_cons,
        List.singleton_append]

private theorem fits_of_mem_effects {e : Effect} (nonempty : v.span.start < v.span.stop)
    (upright : s.start ≤ s.stop) (fits : v.mappedBytes.stop < wordSize) (member : e ∈ v.effects s) :
    e.Fits := by
  unfold effects at member
  split at member
  case isTrue meets =>
    simp only [List.cons_append, List.mem_cons, List.mem_append, List.mem_map, List.not_mem_nil,
      or_false] at member
    rcases member with rfl | ⟨piece, inside, rfl⟩ | rfl | rfl
    · refine ⟨?_, Nat.lt_of_le_of_lt (overlapOffset_le meets nonempty) fits⟩
      have := meets.1
      have := meets.2
      simp only [overlap]
      omega
    · have remains : piece ∈ v.without s := by rwa [without, if_pos meets]
      exact Nat.lt_of_le_of_lt (part_of_mem_without nonempty remains).offset_le fits
    · trivial
    · trivial
  case isFalse => cases member

/-- What remains of areas that are cut, counted by object. -/
theorem count_without (meets : ∀ v ∈ cut, v.span.Meets s) (object : Object) :
    ((cut.flatMap (·.without s)).map (·.object)).count object =
      ((cut.filter (·.object = object)).flatMap (·.remains s)).length := by
  induction cut with
  | nil => rfl
  | cons v rest ih =>
      have remains : v.without s = v.remains s := if_pos (meets v (List.mem_cons_self ..))
      rw [List.flatMap_cons, List.map_append, List.count_append,
        ih fun w member => meets w (List.mem_cons_of_mem _ member), remains,
        Kernel.map_object_remains, List.count_replicate, List.filter_cons]
      by_cases same : v.object = object <;> simp [same]

/-- Counting up and down for each area is counting what remains and what was there. -/
theorem foldl_remains (cut : List Area) (s : Span) (count : Int) :
    cut.foldl (fun count v => count + ((v.remains s).length - 1 : Int)) count =
      count + (cut.flatMap (·.remains s)).length - cut.length := by
  induction cut generalizing count with
  | nil => simp
  | cons v rest ih =>
      rw [List.foldl_cons, ih, List.flatMap_cons, List.length_append, List.length_cons]
      push_cast
      omega

end Area

namespace Kernel

open KernelM

variable {k k' : Kernel} {ref : SpaceRef} {a b : AddressSpace} {s : Span} {q : Requester}
  {cut : List Area} {effects : List Effect}

/-! ## What objects know of it -/

/-- What a window was told and asked. -/
def journal? (k : Kernel) (w : Handle .window) : Option (List WindowCall) :=
  (k.windows.get? w).map (·.journal)

/-- What a segment notes. -/
def notes? (k : Kernel) (h : Handle .segment) : Option (Instant × Instant × Instant × Pid) :=
  (k.segments.get? h).map Segment.notes

private theorem Agree.journal? (agree : k.Agree k') (w : Handle .window) :
    k'.journal? w = k.journal? w := by
  rw [Kernel.journal?, agree.windows, Kernel.journal?]

private theorem Agree.notes? (agree : k.Agree k') (h : Handle .segment) :
    k'.notes? h = k.notes? h := by
  simpa only [Slots.get?_map, Kernel.notes?] using congrArg (·.get? h) agree.notes

/-- A window that replaces another has its own journal, and the others keep theirs. -/
theorem journal?_setWindow {w : Handle .window} {window : Window}
    (found : k.windows.get? w = some window) (window' : Window) (w' : Handle .window) :
    (k.setWindow w window').journal? w' =
      if w = w' then some window'.journal else k.journal? w' := by
  rw [journal?, setWindow, Slots.get?_set]
  split
  case isTrue same =>
    subst same
    rw [found, Option.map_some, Option.map_some]
  case isFalse => rfl

private theorem journal?_setWindow_of_eq {w : Handle .window} {window window' : Window}
    (found : k.windows.get? w = some window) (same : window'.journal = window.journal)
    (w' : Handle .window) : (k.setWindow w window').journal? w' = k.journal? w' := by
  rw [journal?_setWindow found]
  split
  case isTrue here => rw [← here, journal?, found, Option.map_some, same]
  case isFalse => rfl

/-- References come and go without the windows being told. -/
theorem journal?_acquire (object : Object) (w : Handle .window) :
    (k.acquire object).journal? w = k.journal? w := by
  cases object with
  | segment h => exact (agree_acquire h).journal? w
  | window w' =>
      simp only [acquire]
      split
      case h_1 window found =>
        refine journal?_setWindow_of_eq found ?_ w
        rfl
      case h_2 => rfl

/-- To give up a reference tells no window anything. -/
theorem journal?_release (object : Object) (w : Handle .window) :
    (k.release object).journal? w = k.journal? w := by
  cases object with
  | segment h => exact (agree_release h).journal? w
  | window w' =>
      simp only [release]
      split
      case h_1 window found =>
        have required := agree_require (k := k) (0 < window.references) .overdrawn
        have found' := (congrArg (·.get? w') required.windows).trans found
        refine (journal?_setWindow_of_eq found' ?_ w).trans (required.journal? w)
        rfl
      case h_2 => rfl

private theorem journal?_notifyRemoved (q : Requester) (object : Object) (span : Span)
    (offset : Nat) (w : Handle .window) : (k.notifyRemoved q object span offset).journal? w =
    (k.journal? w).map (· ++ ((⟨object, span, offset⟩ : Removal).callTo? w).toList) := by
  cases object with
  | segment h =>
      have windows : (k.notifyRemoved q (.segment h) span offset).windows = k.windows := by
        simp only [notifyRemoved]
        split
        · split <;> rfl
        · rfl
      simp [journal?, windows, Removal.callTo?, Function.comp_def]
  | window w' =>
      simp only [notifyRemoved]
      split
      case h_1 window found =>
        rw [journal?_setWindow found]
        by_cases same : w' = w
        · subst same
          simp [Removal.callTo?, journal?, found, Window.record]
        · simp [Removal.callTo?, same]
      case h_2 missing =>
        by_cases same : w' = w
        · subst same
          simp [journal?, missing, halt]
        · simp [Removal.callTo?, same, journal?, halt, Function.comp_def]

private theorem journal?_perform (q : Requester) (e : Effect) (w : Handle .window) :
    (perform q k e).journal? w =
      (k.journal? w).map (· ++ (e.removal?.bind (·.callTo? w)).toList) := by
  cases e with
  | removed object span offset =>
      simp only [perform, Effect.removal?, Option.bind_some]
      rw [journal?_notifyRemoved, (agree_require _ _).journal?]
  | kept object offset =>
      simp only [perform, Effect.removal?, Option.bind_none, Option.toList_none, List.append_nil,
        Option.map_id']
      rw [journal?_acquire, (agree_require _ _).journal?]
  | unmapped span =>
      simp only [perform, Effect.removal?, Option.bind_none, Option.toList_none, List.append_nil,
        Option.map_id']
      rfl
  | dropped object =>
      simp only [perform, Effect.removal?, Option.bind_none, Option.toList_none, List.append_nil,
        Option.map_id']
      exact journal?_release object w

/-- A window finds in its journal what it is told, call by call. -/
theorem journal?_performEach (q : Requester) (effects : List Effect) (w : Handle .window) :
    (effects.foldl (perform q) k).journal? w =
      (k.journal? w).map (· ++ (effects.filterMap Effect.removal?).filterMap (·.callTo? w)) := by
  induction effects generalizing k with
  | nil => simp
  | cons e rest ih =>
      rw [List.foldl_cons, ih, journal?_perform, Option.map_map]
      congr 1
      funext journal
      cases told : e.removal? with
      | none => simp [told]
      | some removal => cases called : removal.callTo? w <;> simp [told, called]

private theorem notes?_setSegment {h : Handle .segment} {g : Segment}
    (found : k.segments.get? h = some g) (g' : Segment) (h' : Handle .segment) :
    (k.setSegment h g').notes? h' = if h = h' then some g'.notes else k.notes? h' := by
  rw [notes?, setSegment, Slots.get?_set]
  split
  case isTrue same =>
    subst same
    rw [found, Option.map_some, Option.map_some]
  case isFalse => rfl

/-- To take a reference is not noted. -/
theorem notes?_acquire (object : Object) (h : Handle .segment) :
    (k.acquire object).notes? h = k.notes? h := by
  cases object with
  | segment h' => exact (agree_acquire h').notes? h
  | window w =>
      simp only [acquire]
      split <;> rfl

/-- To give up a reference is not noted. -/
theorem notes?_release (object : Object) (h : Handle .segment) :
    (k.release object).notes? h = k.notes? h := by
  cases object with
  | segment h' => exact (agree_release h').notes? h
  | window w =>
      simp only [release]
      split
      case h_1 window _ => exact (agree_require (0 < window.references) .overdrawn).notes? h
      case h_2 => rfl

private theorem notes?_notifyRemoved (q : Requester) (object : Object) (span : Span) (offset : Nat)
    (h : Handle .segment) : (k.notifyRemoved q object span offset).notes? h = if object = .segment h
    then (k.notes? h).map q.parting else k.notes? h := by
  cases object with
  | segment h' =>
      simp only [notifyRemoved]
      split
      case h_1 g found =>
        have noted : (k.setSegment h' (g.noteDetach q)).notes? h =
            if Object.segment h' = .segment h then (k.notes? h).map q.parting else k.notes? h := by
          rw [notes?_setSegment found, Segment.notes_noteDetach]
          by_cases same : h' = h
          · subst same
            simp [notes?, found]
          · simp [same]
        split <;> exact noted
      case h_2 missing =>
        rw [(agree_halt _).notes?]
        by_cases same : h' = h
        · subst same
          simp [notes?, missing]
        · simp [same]
  | window w =>
      simp only [notifyRemoved]
      split <;> rfl

private theorem notes?_perform (q : Requester) (e : Effect) (h : Handle .segment) :
    (perform q k e).notes? h = if e.removal?.any (·.object = .segment h) then (k.notes? h).map
    q.parting else k.notes? h := by
  cases e with
  | removed object span offset =>
      simp only [perform, Effect.removal?, Option.any_some, decide_eq_true_eq]
      rw [notes?_notifyRemoved, (agree_require _ _).notes?]
  | kept object offset =>
      simp only [perform, Effect.removal?, Option.any_none, Bool.false_eq_true, if_false]
      rw [notes?_acquire, (agree_require _ _).notes?]
  | unmapped span =>
      simp only [perform, Effect.removal?, Option.any_none, Bool.false_eq_true, if_false]
      rfl
  | dropped object =>
      simp only [perform, Effect.removal?, Option.any_none, Bool.false_eq_true, if_false]
      exact notes?_release object h

/-- A segment notes who took leave of it last and when, however often it is told. -/
theorem notes?_performEach (q : Requester) (effects : List Effect) (h : Handle .segment) :
    (effects.foldl (perform q) k).notes? h =
      if (effects.filterMap Effect.removal?).any (·.object = .segment h) then
        (k.notes? h).map q.parting
      else k.notes? h := by
  induction effects generalizing k with
  | nil => simp
  | cons e rest ih =>
      have again : ((k.notes? h).map q.parting).map q.parting = (k.notes? h).map q.parting := by
        simp only [Option.map_map, Function.comp_def, q.parting_parting]
      rw [List.foldl_cons, ih, notes?_perform]
      cases told : e.removal? with
      | none => rw [List.filterMap_cons_none told, Option.any_none, if_neg Bool.false_ne_true]
      | some removal =>
          rw [List.filterMap_cons_some told, List.any_cons, Option.any_some]
          by_cases same : removal.object = .segment h <;> simp [same, again]

/-! ## Arithmetic -/

private theorem faults_of_acquire {object : Object} {cause : Fault}
    (member : cause ∈ (k.acquire object).faults) : cause ∈ k.faults ∨ cause = .dangling := by
  cases object with
  | segment h =>
      simp only [acquire] at member
      split at member
      · exact .inl member
      · exact (List.mem_cons.mp member).symm
  | window w =>
      simp only [acquire] at member
      split at member
      · exact .inl member
      · exact (List.mem_cons.mp member).symm

private theorem faults_of_notifyRemoved {object : Object} {span : Span} {offset : Nat}
    {cause : Fault} (member : cause ∈ (k.notifyRemoved q object span offset).faults) : cause ∈
    k.faults ∨ cause = .dangling := by
  cases object with
  | segment h =>
      simp only [notifyRemoved] at member
      split at member
      · split at member <;> exact .inl member
      · exact (List.mem_cons.mp member).symm
  | window w =>
      simp only [notifyRemoved] at member
      split at member
      · exact .inl member
      · exact (List.mem_cons.mp member).symm

private theorem faults_of_destroy {h : Handle .segment} {cause : Fault}
    (member : cause ∈ (k.destroy h).faults) :
    cause ∈ k.faults ∨ cause = .uncounted ∨ cause = .dangling := by
  unfold destroy at member
  split at member
  · split at member
    · exact .inl member
    · rcases faults_releaseFrames member with member | gone
      · exact (faults_forgetSegment member).imp id .inl
      · exact .inr (.inr gone)
  · exact (List.mem_cons.mp member).symm.imp_right .inr

private theorem arithmetic_of_require {condition : Prop} [Decidable condition]
    (member : Fault.arithmetic ∈ (k.require condition .overdrawn).faults) :
    Fault.arithmetic ∈ k.faults := by
  unfold require at member
  split at member
  · exact member
  · exact (List.mem_cons.mp member).resolve_left (by decide)

private theorem arithmetic_of_release {object : Object}
    (member : Fault.arithmetic ∈ (k.release object).faults) : Fault.arithmetic ∈ k.faults := by
  cases object with
  | segment h =>
      simp only [release, releaseSegment] at member
      split at member
      · split at member
        · exact arithmetic_of_require ((faults_of_destroy member).resolve_right (by decide))
        · exact arithmetic_of_require member
      · exact (List.mem_cons.mp member).resolve_left (by decide)
  | window w =>
      simp only [release] at member
      split at member
      · exact arithmetic_of_require member
      · exact (List.mem_cons.mp member).resolve_left (by decide)

private theorem arithmetic_of_perform {e : Effect} (fits : e.Fits)
    (member : Fault.arithmetic ∈ (perform q k e).faults) : Fault.arithmetic ∈ k.faults := by
  cases e with
  | removed object span offset =>
      have required : k.require (span.start ≤ span.stop ∧ offset < wordSize) .arithmetic = k :=
        if_pos fits
      simp only [perform, required] at member
      exact (faults_of_notifyRemoved member).resolve_right (by decide)
  | kept object offset =>
      have required : k.require (offset < wordSize) .arithmetic = k := if_pos fits
      simp only [perform, required] at member
      exact (faults_of_acquire member).resolve_right (by decide)
  | unmapped span => exact member
  | dropped object => exact arithmetic_of_release member

private theorem arithmetic_of_performEach (fits : ∀ e ∈ effects, e.Fits)
    (member : Fault.arithmetic ∈ (effects.foldl (perform q) k).faults) :
    Fault.arithmetic ∈ k.faults := by
  induction effects generalizing k with
  | nil => exact member
  | cons e rest ih =>
      exact arithmetic_of_perform (fits e (List.mem_cons_self ..))
        (ih (fun e' among => fits e' (List.mem_cons_of_mem _ among)) member)

/-! ## Areas that are cut -/

/-- Areas of an address space are unmapped where they meet a span, in somebody's name, and another
address space takes its place. -/
structure Sheds (k : Kernel) (ref : SpaceRef) (q : Requester) (cut : List Area) (s : Span)
    (b : AddressSpace) (k' : Kernel) : Prop where
  /-- What happens to the objects are the effects of the areas, one after the other. -/
  performed : k' = (cut.flatMap (·.effects s)).foldl (perform q) (k.setSpace b ref)
  /-- For each area its object is told once, of the addresses that the area and the span have. -/
  told : (cut.flatMap (·.effects s)).filterMap Effect.removal? = cut.map (·.removal s)
  ascending : (cut.map (·.removal s)).Pairwise (·.span.stop ≤ ·.span.start)
  /-- Windows write down what they are told, and nothing else. -/
  journals : ∀ w, k'.journal? w =
    (k.journal? w).map (· ++ (cut.map (·.removal s)).filterMap (·.callTo? w))
  /-- Segments that are told note when and by whom they were detached, and no others do. -/
  notes : ∀ h, k'.notes? h =
    if cut.any (·.object = .segment h) then
      (k.segments.get? h).map fun g => (g.noteDetach q).notes
    else k.notes? h
  /-- Each area changes the count of its object by the number of pieces that remain, less one. -/
  counts : ∀ object, ((k'.referenceCount? object).getD 0 : Int) =
    (cut.filter (·.object = object)).foldl
      (fun count v => count + ((v.remains s).length - 1 : Int))
      ((k.referenceCount? object).getD 0 : Int)
  spaces : ∀ ref', k'.space? ref' = if ref' = ref then some b else k.space? ref'
  /-- No reference is given back that was never taken. -/
  sound : Fault.overdrawn ∉ k'.faults
  /-- No arithmetic goes wrong if the areas map bytes that a word can count. -/
  fits : (∀ v ∈ cut, v.mappedBytes.stop < wordSize) →
    Fault.arithmetic ∈ k'.faults → Fault.arithmetic ∈ k.faults

/-- To put an address space in place leaves the segments. -/
theorem segments_setSpace (b : AddressSpace) (ref : SpaceRef) :
    (k.setSpace b ref).segments = k.segments :=
  congrArg (·.segments) (objectPart_setSpace b ref)

/-- To put an address space in place leaves the windows. -/
theorem windows_setSpace (b : AddressSpace) (ref : SpaceRef) :
    (k.setSpace b ref).windows = k.windows :=
  congrArg (·.windows) (objectPart_setSpace b ref)

private theorem counted_setSpace {refs : Multiset Object} (counted : k.Counted refs)
    (b : AddressSpace) (ref : SpaceRef) : (k.setSpace b ref).Counted refs := by
  have faults : (k.setSpace b ref).faults = k.faults :=
    congrArg (·.faults) (objectPart_setSpace b ref)
  exact counted.congr (segments_setSpace b ref) (windows_setSpace b ref)
    fun cause member => .inl (faults ▸ member)

/-- The references of some areas are among those of all. -/
theorem exists_mapped_eq (among : cut.Sublist a.areas) :
    ∃ others, a.mapped = Multiset.ofList (cut.map (·.object)) + others := by
  have less : Multiset.ofList (cut.map (·.object)) ≤ a.mapped :=
    Multiset.coe_le.mpr (among.map _).subperm
  exact Multiset.le_iff_exists_add.mp less

private theorem count_objects (cut : List Area) (object : Object) :
    (cut.map (·.object)).count object = (cut.filter (·.object = object)).length := by
  rw [List.count, List.countP_map, List.countP_eq_length_filter]
  rfl

private theorem ascending_removals (ordered : a.Ordered) (among : cut.Sublist a.areas) (s : Span) :
    (cut.map (·.removal s)).Pairwise (·.span.stop ≤ ·.span.start) := by
  rw [List.pairwise_map]
  refine (ordered.ascending.sublist among).imp fun {v w} before => ?_
  calc (v.overlap s).stop ≤ v.span.stop := Nat.min_le_left _ _
    _ ≤ w.span.start := before
    _ ≤ (w.overlap s).start := Nat.le_max_left _ _

/-- Areas that are cut shed what they had, whatever address space takes the place of theirs. -/
theorem sheds_performed {rest : Multiset Object} (found : k.space? ref = some a)
    (ordered : a.Ordered) (counted : k.Counted (a.mapped + rest)) (among : cut.Sublist a.areas)
    (meets : ∀ v ∈ cut, v.span.Meets s) (upright : s.start ≤ s.stop) (q : Requester)
    (b : AddressSpace) :
    k.Sheds ref q cut s b ((cut.flatMap (·.effects s)).foldl (perform q) (k.setSpace b ref)) := by
  have faults : (k.setSpace b ref).faults = k.faults :=
    congrArg (·.faults) (objectPart_setSpace b ref)
  have told := Area.removals_effectsEach meets
  -- The references of the areas that are cut are traded for those of what remains of them.
  obtain ⟨others, apart⟩ := exists_mapped_eq among
  have changes : Changes (fun _ => True) (k.setSpace b ref) _ _ _ :=
    changes_effectsEach q cut s (others + rest)
  have before : (k.setSpace b ref).Counted
      (Multiset.ofList (cut.map (·.object)) + (others + rest)) := by
    rw [← add_assoc, ← apart]
    exact counted_setSpace counted b ref
  have counted' := Chain.preserves Counted (fun change counted => change.counted counted) changes
    before
  refine ⟨rfl, told, ascending_removals ordered among s, fun w => ?_, fun h => ?_, fun object => ?_,
    fun ref' => ?_, counted'.sound, fun fits member => ?_⟩
  · rw [journal?_performEach, told, journal?, windows_setSpace, journal?]
  · rw [notes?_performEach, told, notes?, segments_setSpace, List.any_map, notes?, Option.map_map]
    rfl
  · rw [Area.foldl_remains, counted'.counts, counted.counts, apart]
    simp only [Multiset.count_add, Multiset.coe_count, Area.count_without meets, count_objects]
    push_cast
    omega
  · rw [space?_congr changes.holderPart, space?_setSpace found]
  · rw [← faults]
    refine arithmetic_of_performEach (fun e effect => ?_) member
    obtain ⟨v, inside, effect⟩ := List.mem_flatMap.mp effect
    exact Area.fits_of_mem_effects (ordered.nonempty v (among.subset inside)) upright
      (fits v inside) effect

/-! ## Unmapping a run of pages -/

/-- To unmap a span is to put what is left in place and to carry out the effects on each area that
it meets. -/
theorem unmapSpan_eq (found : k.space? ref = some a) (upright : s.start ≤ s.stop) (q : Requester) :
    k.unmapSpan ref q s =
      ((a.areas.filter (·.span.Meets s)).flatMap (·.effects s)).foldl (perform q)
        (k.setSpace (a.unmap s) ref) := by
  have required : k.require (s.start ≤ s.stop) .arithmetic = k := if_pos upright
  simp only [unmapSpan, found, required]
  rw [AddressSpace.unmapEffects_eq]

/-- From the start of a page on, the end of the last page that is asked for is computed as it should
be, as long as it is a word. -/
theorem pagesEnd_eq_some_iff {address length stop : Nat} (aligned : PageAligned address) :
    (pageUp? length).bind (addWord? address) = some stop ↔
      IsLeast {n | PageAligned n ∧ address + length ≤ n} stop ∧ stop < wordSize := by
  simp only [Option.bind_eq_some_iff, pageUp?_eq_some_iff, addWord?_eq_some_iff]
  constructor
  · rintro ⟨rounded, ⟨_, whole, enough, tight⟩, rfl, word⟩
    refine ⟨⟨⟨aligned.add whole, by omega⟩, fun n ⟨whole', enough'⟩ => ?_⟩, word⟩
    simp only [PageAligned, pageSize] at aligned whole whole' tight
    omega
  · rintro ⟨⟨⟨whole, enough⟩, least⟩, word⟩
    have tight : stop < address + length + pageSize := by
      by_contra far
      have lower : PageAligned (stop - pageSize) ∧ address + length ≤ stop - pageSize := by
        simp only [PageAligned, pageSize] at whole far ⊢
        omega
      have := least lower
      simp only [pageSize] at far this
      omega
    refine ⟨stop - address, ?_⟩
    simp only [PageAligned, pageSize, wordSize] at aligned whole tight word ⊢
    omega

/-- A call to unmap is accepted that starts a page, names some bytes and ends within the word. -/
theorem munmap_accepted {address length stop : Nat} (nonzero : length ≠ 0)
    (aligned : PageAligned address) (ends : IsLeast {n | PageAligned n ∧ address + length ≤ n} stop)
    (word : stop < wordSize) (ref : SpaceRef) (q : Requester) :
    munmap ref q address length k = .ok () (k.unmapSpan ref q ⟨address, stop⟩) := by
  have within := (pagesEnd_eq_some_iff aligned).mpr ⟨ends, word⟩
  apply Ends.eq_ok
  simp [munmap, nonzero, aligned, within]

/-- Any other call to unmap is refused without a change. -/
theorem munmap_refused {address length stop : Nat}
    (ends : IsLeast {n | PageAligned n ∧ address + length ≤ n} stop)
    (refused : ¬ (length ≠ 0 ∧ PageAligned address ∧ stop < wordSize)) (ref : SpaceRef)
    (q : Requester) : munmap ref q address length k = .error .einval k := by
  apply Ends.eq_error
  simp only [munmap, ends_bind, ends_check, ends_orRefuse, and_self, implies_true, and_true]
  intro asked stop' within
  obtain ⟨ends', word⟩ := (pagesEnd_eq_some_iff asked.2).mp within
  have same : stop' = stop := ends'.unique ends
  exact (refused ⟨asked.1, asked.2, same ▸ word⟩).elim

/-- A run of bytes from the start of a page on is unmapped up to the end of its last page: its
addresses lose all that they show and no others do, and the areas that meet it shed what they had
there, each once and in order. A run that is empty, starts within a page or ends behind the last
page of the word is refused, and nothing happens. -/
theorem unmaps_exactly {rest : Multiset Object} (found : k.space? ref = some a)
    (ordered : a.Ordered) (counted : k.Counted (a.mapped + rest)) (q : Requester)
    {address length stop : Nat} (ends : IsLeast {n | PageAligned n ∧ address + length ≤ n} stop) :
    (length ≠ 0 ∧ PageAligned address ∧ stop < wordSize →
      ∃ b k', munmap ref q address length k = .ok () k' ∧
        a.Loses (Span.mk address stop).Contains b ∧
        k.Sheds ref q (a.areas.filter (·.span.Meets ⟨address, stop⟩)) ⟨address, stop⟩ b k') ∧
    (¬ (length ≠ 0 ∧ PageAligned address ∧ stop < wordSize) →
      munmap ref q address length k = .error .einval k) := by
  refine ⟨fun ⟨nonzero, aligned, word⟩ => ?_, fun refused => munmap_refused ends refused ref q⟩
  have upright : address ≤ stop := Nat.le_trans (Nat.le_add_right _ _) ends.1.2
  refine ⟨a.unmap ⟨address, stop⟩, k.unmapSpan ref q ⟨address, stop⟩,
    munmap_accepted nonzero aligned ends word ref q, ordered.loses_unmap upright, ?_⟩
  rw [unmapSpan_eq found upright]
  refine sheds_performed found ordered counted List.filter_sublist (fun v member => ?_) upright q _
  exact of_decide_eq_true (List.mem_filter.mp member).2

end Kernel

namespace World

variable {w : World} {ref : SpaceRef} {a : AddressSpace}

/-- Objects count the references of every address space. -/
theorem Reachable.counted_mapped (reachable : w.Reachable anything)
    (found : w.kernel.space? ref = some a) :
    ∃ rest, w.kernel.Counted (a.mapped + rest) := by
  obtain ⟨rest, held, _⟩ := Kernel.held_setSpace found
  exact ⟨rest, held ▸ reachable.counted suits_anything⟩

/-- A run of bytes cuts the tail of a segment off and takes what is left of a window behind it. The
window is told of its last page only. -/
theorem unmaps_exactly_patching :
    let w := ({} : World).follow (patching.take 11)
    let q : Requester := ⟨.superuser .initial, some 7, none⟩
    w.Reachable anything ∧ ∃ a b k', w.kernel.space? (.ofTask ⟨0⟩) = some a ∧
      a.areas.map (fun v => (v.span.start, v.span.stop)) =
        [(0x10000, 0x11000), (0x11000, 0x14000), (0x14000, 0x15000)] ∧
      Kernel.munmap (.ofTask ⟨0⟩) q 0x12000 0x2001 w.kernel = .ok () k' ∧
      a.Loses (Span.mk 0x12000 0x15000).Contains b ∧
      w.kernel.Sheds (.ofTask ⟨0⟩) q (a.areas.filter (·.span.Meets ⟨0x12000, 0x15000⟩))
        ⟨0x12000, 0x15000⟩ b k' ∧
      (a.areas.filter (·.span.Meets ⟨0x12000, 0x15000⟩)).map (·.removal ⟨0x12000, 0x15000⟩) =
        [⟨.segment ⟨0⟩, ⟨0x12000, 0x14000⟩, 0x1000⟩,
          ⟨.window ⟨0⟩, ⟨0x14000, 0x15000⟩, 0x4000⟩] := by
  intro w q
  have reachable : w.Reachable anything :=
    reachable_follow (by decide +kernel) fun _ _ => trivial
  have state : ∃ a ∈ w.kernel.space? (.ofTask ⟨0⟩),
      a.areas.map (fun v => (v.span.start, v.span.stop)) =
        [(0x10000, 0x11000), (0x11000, 0x14000), (0x14000, 0x15000)] ∧
      (a.areas.filter (·.span.Meets ⟨0x12000, 0x15000⟩)).map (·.removal ⟨0x12000, 0x15000⟩) =
        [⟨.segment ⟨0⟩, ⟨0x12000, 0x14000⟩, 0x1000⟩,
          ⟨.window ⟨0⟩, ⟨0x14000, 0x15000⟩, 0x4000⟩] := by
    decide +kernel
  obtain ⟨a, found, areas, removals⟩ := state
  obtain ⟨rest, counted⟩ := reachable.counted_mapped found
  have ends : IsLeast {n | PageAligned n ∧ 0x12000 + 0x2001 ≤ n} 0x15000 :=
    ((Kernel.pagesEnd_eq_some_iff (by decide)).mp (by decide)).1
  have ordered := ((reachable.laid suits_anything).spaces found).toOrdered
  obtain ⟨b, k', done, loses, sheds⟩ :=
    (Kernel.unmaps_exactly found ordered counted q ends).1 (by decide)
  exact ⟨reachable, a, b, k', found, areas, done, loses, sheds, removals⟩

end World

end SharedMemory
