import SharedMemory.Proofs.Layout

/-!
# Operations on address spaces as courses

An operation passes from one kernel to another by a course that accounts for every reference:
those that are held, and those in flight between the operations of which a larger one is made
(`Kernel.Passage`). This module takes the operations on address spaces apart.
-/

namespace SharedMemory

namespace Kernel

open KernelM

variable {k k' k'' : Kernel} {refs extra extra' extra'' : Multiset Object} {may : Deed → Prop}
  {ref : SpaceRef} {a : AddressSpace} {s : Span}

/-- A course between kernels during which the references in flight go from `extra` to
`extra'`. -/
def Passage (may : Deed → Prop) (k : Kernel) (extra : Multiset Object) (k' : Kernel)
    (extra' : Multiset Object) : Prop :=
  Course may k (k.held + extra) k' (k'.held + extra')

/-- Nothing at all is a passage. -/
theorem Passage.refl (k : Kernel) (extra : Multiset Object) : Passage may k extra k extra :=
  Chain.refl

/-- Passages may be joined. -/
theorem Passage.trans (first : Passage may k extra k' extra')
    (second : Passage may k' extra' k'' extra'') : Passage may k extra k'' extra'' :=
  Chain.trans first second

/-- A passage keeps the layout. -/
theorem Passage.laid (passage : Passage may k extra k' extra') (laid : k.Laid) : k'.Laid :=
  Chain.laid passage laid

/-- What few deeds permit, more permit. -/
theorem Passage.mono {may' : Deed → Prop} (weaker : ∀ d, may d → may' d)
    (passage : Passage may k extra k' extra') : Passage may' k extra k' extra' :=
  Chain.mono (Turn.mono weaker) passage

/-- No deed at all. -/
def idle (_ : Deed) : Prop := False

/-- A passage that needs no deed may be made under any. -/
theorem Passage.of_idle (passage : Passage idle k extra k' extra') : Passage may k extra k' extra' :=
  passage.mono fun _ => False.elim

/-- Changes of the objects are a passage. -/
theorem Chain.passage (changes : Changes may k (k.held + extra) k' (k.held + extra')) :
    Passage may k extra k' extra' := by
  unfold Passage
  rw [changes.held]
  exact changes.course

/-- To halt for want of an object is a passage. -/
theorem passage_halt : Passage may k extra (k.halt .dangling) extra :=
  (Chain.single (.halt .dangling (.inr rfl))).passage

/-- Holders that come and go with their references are a passage. -/
theorem passage_rehold (same : k'.objectPart = k.objectPart)
    (made : ∀ {ref}, k.Made ref → k'.Made ref)
    (origin : ∀ {ref a}, k'.space? ref = some a → Origin k k' ref a)
    (settled : ∀ {t task}, k.tasks.get? t = some task →
      (∃ task', k'.tasks.get? t = some task' ∧ task'.ipc = task.ipc) ∨ may (.forsake task.ipc))
    (accounted : k'.held + extra' = k.held + extra) : Passage may k extra k' extra' := by
  unfold Passage
  rw [accounted]
  exact .single (.rehold same made origin settled)

/-- Requests and references come and go beside the address spaces. -/
theorem passage_besides (same : k'.objectPart = k.objectPart) (spaces : k'.spaces = k.spaces)
    (tasks : k'.tasks = k.tasks) (accounted : k'.held + extra' = k.held + extra) :
    Passage may k extra k' extra' := by
  refine passage_rehold same (fun {ref} made => ?_) (fun {ref a} found => .same ?_ ?_)
    (fun {t task} here => .inl ⟨task, by rwa [tasks], rfl⟩) accounted
  · cases ref <;> simpa only [Made, spaces, tasks] using made
  · cases ref <;> simpa only [space?, spaces, tasks] using found
  · cases ref <;> simp only [bearer?, tasks]

/-- Another reference may be taken to what is held. -/
theorem passage_acquire {object : Object} (member : object ∈ k.held) :
    Passage may k extra (k.acquire object) (object ::ₘ extra) := by
  refine Chain.passage ?_
  rw [Multiset.add_cons]
  exact .single (.acquire object (.inl (Multiset.mem_add.mpr (.inl member))))

/-- A reference in flight may be given up. -/
theorem passage_release (object : Object) :
    Passage may k (object ::ₘ extra) (k.release object) extra := by
  refine Chain.passage ?_
  rw [Multiset.add_cons]
  exact .single (.release object)

/-! ## Unmapping -/

/-- Every piece that remains takes a reference. -/
theorem changes_kept (q : Requester) {object : Object} (pieces : List Area)
    (member : object ∈ refs) :
    Changes may k refs ((pieces.map fun piece => Effect.kept object piece.offset).foldl (perform q) k)
      (Multiset.replicate pieces.length object + refs) := by
  induction pieces generalizing k refs with
  | nil => simpa using Chain.refl
  | cons piece rest ih =>
      have first : Changes may k refs (perform q k (.kept object piece.offset)) (object ::ₘ refs) :=
        (changes_require _ (.inl rfl)).tail (.acquire object (.inl member))
      have others := ih (k := perform q k (.kept object piece.offset))
        (Multiset.mem_cons_self object refs)
      refine (first.trans others).recount rfl ?_
      rw [Multiset.add_cons, ← Multiset.cons_add, ← Multiset.replicate_succ, List.length_cons]

/-- What remains of an area maps the same object. -/
theorem map_object_remains (v : Area) (s : Span) :
    (v.remains s).map (·.object) = List.replicate (v.remains s).length v.object := by
  rw [List.eq_replicate_iff]
  refine ⟨by simp, fun object member => ?_⟩
  obtain ⟨w, inside, rfl⟩ := List.mem_map.mp member
  simp only [Area.remains, List.mem_append] at inside
  rcases inside with left | right
  · split at left
    · rw [List.mem_singleton.mp left]
      rfl
    · cases left
  · split at right
    · rw [List.mem_singleton.mp right]
      rfl
    · cases right

/-- Unmapping a span of one area trades its reference for those of what remains. -/
theorem changes_effects (q : Requester) (v : Area) (s : Span) :
    Changes may k (v.object ::ₘ refs) ((v.effects s).foldl (perform q) k)
      (Multiset.ofList ((v.without s).map (·.object)) + refs) := by
  by_cases meets : v.span.Meets s
  · simp only [Area.effects, Area.without, meets, if_true, List.cons_append, List.foldl_cons,
      List.foldl_append, List.foldl_nil, map_object_remains]
    rw [Multiset.coe_replicate]
    have told : Changes may k (v.object ::ₘ refs)
        (perform q k (.removed v.object (v.overlap s) (v.overlapOffset s))) (v.object ::ₘ refs) :=
      (changes_require _ (.inl rfl)).trans (changes_notifyRemoved q _ _ _)
    have kept : Changes may _ _ _ _ :=
      changes_kept (k := perform q k (.removed v.object (v.overlap s) (v.overlapOffset s)))
        q (v.remains s) (Multiset.mem_cons_self v.object refs)
    rw [Multiset.add_cons] at kept
    exact ((told.trans kept).tail (.emit _ rfl)).tail (.release v.object)
  · simp only [Area.effects, Area.without, meets, if_false, List.foldl_nil]
    exact Chain.refl

/-- The effects of cutting a span out of areas turn the references that these hold into those that
what is left of them holds. -/
theorem changes_effectsEach (q : Requester) (areas : List Area) (s : Span) (refs : Multiset Object) :
    Changes may k (Multiset.ofList (areas.map (·.object)) + refs)
      ((areas.flatMap (·.effects s)).foldl (perform q) k)
      (Multiset.ofList ((areas.flatMap (·.without s)).map (·.object)) + refs) := by
  induction areas generalizing k refs with
  | nil => exact Chain.refl
  | cons v rest ih =>
      simp only [List.map_cons, List.flatMap_cons, List.foldl_append, List.map_append]
      rw [← Multiset.cons_coe, ← Multiset.coe_add, Multiset.cons_add]
      have others := ih (k := (v.effects s).foldl (perform q) k)
        (Multiset.ofList ((v.without s).map (·.object)) + refs)
      refine ((changes_effects q v s).trans (others.recount ?_ rfl)).recount rfl ?_
      · rw [add_left_comm]
      · rw [add_left_comm, add_assoc]

/-- Unmapping a span trades the references of the areas for those of what remains. -/
theorem changes_unmapEffects (q : Requester) (a : AddressSpace) (s : Span) :
    Changes may k (a.mapped + refs) ((a.unmapEffects s).foldl (perform q) k)
      ((a.unmap s).mapped + refs) :=
  changes_effectsEach q a.areas s refs

/-- The space after a span is unmapped in it. -/
theorem space?_unmapSpan (found : k.space? ref = some a) (q : Requester) (s : Span) :
    (k.unmapSpan ref q s).space? ref = some (a.unmap s) := by
  have effects : Changes (fun _ => True) _ (a.mapped + 0) _ _ :=
    changes_unmapEffects (k := (k.require (s.start ≤ s.stop) .arithmetic).setSpace (a.unmap s) ref)
      q a s
  have still := (space?_congr (holderPart_require (k := k) (s.start ≤ s.stop) .arithmetic) ref).trans
    found
  simp only [unmapSpan, found]
  rw [space?_congr effects.holderPart, space?_setSpace still, if_pos rfl]

/-- Spans are unmapped one after the other. -/
theorem space?_unmapEach (q : Requester) (spans : List Span) (found : k.space? ref = some a) :
    (k.unmapEach ref q spans).space? ref = some (spans.foldl AddressSpace.unmap a) := by
  induction spans generalizing k a with
  | nil => exact found
  | cons s rest ih => exact ih (space?_unmapSpan found q s)

/-- The kernel after a span was unmapped, and how it came about. -/
theorem unmapSpan_spec (found : k.space? ref = some a) (cut : a.CleanCut s) (q : Requester) :
    Passage may k extra (k.unmapSpan ref q s) extra ∧
      (k.unmapSpan ref q s).space? ref = some (a.unmap s) := by
  refine ⟨?_, space?_unmapSpan found q s⟩
  obtain ⟨rest, before, after⟩ := held_setSpace found
  have upright : k.require (s.start ≤ s.stop) .arithmetic = k := if_pos cut.upright
  simp only [unmapSpan, found, upright]
  have effects : Changes may (k.setSpace (a.unmap s) ref) (a.mapped + (rest + extra)) _ _ :=
    changes_unmapEffects q a s
  have unmapped : Course may k (k.held + extra) (k.setSpace (a.unmap s) ref) (k.held + extra) :=
    .single (.unmap found cut)
  refine (unmapped.trans (effects.course.recount ?_ rfl)).recount rfl ?_
  · rw [before, add_assoc]
  · rw [effects.held, after, add_assoc]

/-- To unmap a span changes nothing about whom a space belongs to. -/
theorem bearer?_unmapSpan (ref : SpaceRef) (q : Requester) (s : Span) {ref' : SpaceRef} :
    (k.unmapSpan ref q s).bearer? ref' = k.bearer? ref' := by
  unfold unmapSpan
  split
  case h_1 a found =>
    have effects : Changes (fun _ => True) _ (a.mapped + 0) _ _ :=
      changes_unmapEffects (k := (k.require (s.start ≤ s.stop) .arithmetic).setSpace (a.unmap s) ref)
        q a s
    rw [bearer?_congr effects.holderPart, bearer?_setSpace, bearer?_congr (holderPart_require _ _)]
  case h_2 => rfl

private theorem passage_unmapSpan (cut : ∀ {a}, k.space? ref = some a → a.CleanCut s)
    (q : Requester) : Passage may k extra (k.unmapSpan ref q s) extra := by
  cases found : k.space? ref with
  | none =>
      simp only [unmapSpan, found]
      exact passage_halt
  | some a => exact (unmapSpan_spec found (cut found) q).1

/-- Spans that are clean cuts are unmapped one after the other. -/
theorem passage_unmapEach (q : Requester) (spans : List Span) (found : k.space? ref = some a)
    (ordered : a.Ordered) (cuts : ∀ s ∈ spans, a.CleanCut s) :
    Passage may k extra (k.unmapEach ref q spans) extra := by
  induction spans generalizing k a with
  | nil => exact .refl k extra
  | cons s rest ih =>
      have cut := cuts s (List.mem_cons_self ..)
      obtain ⟨first, left⟩ : Passage may k extra (k.unmapSpan ref q s) extra ∧ _ :=
        unmapSpan_spec found cut q
      -- What was a clean cut before `s` was unmapped still is one.
      have others := ih left (ordered.unmap cut.upright) fun t member =>
        (cuts t (List.mem_cons_of_mem _ member)).unmap ordered s
      exact first.trans others

/-- To unmap everything is a passage that needs no deed. -/
theorem passage_unmapAll (laid : k.Laid) (ref : SpaceRef) (q : Requester) :
    Passage may k extra (k.unmapAll ref q) extra := by
  unfold unmapAll
  split
  case h_1 a found => exact (unmapSpan_spec found (laid.spaces found).cleanCut_range q).1
  case h_2 => exact passage_halt

/-- To unmap bytes is a passage that needs no deed, whether or not it is refused. -/
theorem munmap_ends (ref : SpaceRef) (q : Requester) (address length : Nat) :
    (munmap ref q address length).Ends k (fun _ k' => Passage may k extra k' extra)
      (fun _ k' => Passage may k extra k' extra) := by
  have unchanged : Passage may k extra k extra := .refl k extra
  unfold munmap
  refine .check_bind unchanged fun asked => .orRefuse_bind unchanged fun stop within => ?_
  refine ends_modify.mpr ?_
  exact passage_unmapSpan (fun _ => AddressSpace.cleanCut_of_sum asked.2 within) q

/-- A segment that is found attached from an address is mapped there from its start on. -/
theorem attachedFrom?_eq_some {address : Nat} {s : Handle .segment}
    (found : attachedFrom? a address = some s) :
    ∃ v ∈ a.areas, v.span.start = address ∧ v.object = .segment s ∧ v.offset = 0 := by
  unfold attachedFrom? at found
  split at found
  case h_1 span perms maxPerms s' first =>
    cases found
    obtain ⟨member, start⟩ := AddressSpace.areaFrom?_eq_some first
    exact ⟨_, member, start, rfl, rfl⟩
  case h_2 => cases found

/-- To detach is a passage that needs no deed, whether or not it is refused. -/
theorem detach_ends (laid : k.Laid) (ref : SpaceRef) (q : Requester) (address : Nat) :
    (detach ref q address).Ends k (fun _ k' => Passage may k extra k' extra)
      (fun _ k' => Passage may k extra k' extra) := by
  unfold detach
  refine .get_bind (.orStuck_bind passage_halt fun a found => ?_)
  refine .orRefuse_bind (.refl k extra) fun s attached => ?_
  refine .orStuck_bind passage_halt fun g present => ends_modify.mpr ?_
  obtain ⟨v, member, rfl, _⟩ := attachedFrom?_eq_some attached
  exact passage_unmapEach q _ found (laid.spaces found).toOrdered fun t piece =>
    (laid.spaces found).cleanCut_piece member (laid.sizes present) piece

end Kernel

end SharedMemory
