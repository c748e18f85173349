import SharedMemory.Proofs.Rotation

/-!
# The search for an identifier

A registry that looks for a free identifier starts behind the one that it handed out last and goes
through the identifiers in rotation until one is free or it is back where it started.
`Registry.Seeks` is that search without a bound on its steps. It never comes to more identifiers
than there are (`Registry.exists_seeks`), so the bound of `Registry.nextFreeId?` makes no
difference, and what it ends with is the first free identifier, if there is one.

A search that ends in vain has seen every identifier in use. So it takes as many segments as there
are identifiers, and a registry that does not allow so many has refused before
(`Kernel.findOrCreate_unexhausted`).
-/

namespace SharedMemory

namespace Registry

/-- A search that nothing bounds. From an identifier it comes to the next one in rotation. There it
ends if that one is free, or is the one handed out last, and otherwise goes on. The identifiers that
it comes to are listed in order. -/
inductive Seeks (registry : Registry) : Int → List Int → Option Int → Prop
  | free {start} (unused : registry.find? (succId registry.limits.maxId start) = none) :
      Seeks registry start [succId registry.limits.maxId start]
        (some (succId registry.limits.maxId start))
  | round {start} (used : (registry.find? (succId registry.limits.maxId start)).isSome)
      (last : succId registry.limits.maxId start = registry.lastId) :
      Seeks registry start [succId registry.limits.maxId start] none
  | onward {start seen found}
      (used : (registry.find? (succId registry.limits.maxId start)).isSome)
      (other : succId registry.limits.maxId start ≠ registry.lastId)
      (rest : Seeks registry (succId registry.limits.maxId start) seen found) :
      Seeks registry start (succId registry.limits.maxId start :: seen) found

variable {registry : Registry} {start : Int} {seen seen' : List Int} {found found' : Option Int}

/-- There is one way for a search to go. -/
theorem Seeks.unique (seeks : registry.Seeks start seen found)
    (seeks' : registry.Seeks start seen' found') : seen' = seen ∧ found' = found := by
  induction seeks generalizing seen' with
  | free unused =>
      cases seeks' with
      | free => exact ⟨rfl, rfl⟩
      | round used => simp [unused] at used
      | onward used => simp [unused] at used
  | round used last =>
      cases seeks' with
      | free unused => simp [unused] at used
      | round => exact ⟨rfl, rfl⟩
      | onward _ other => exact absurd last other
  | onward used other _ ih =>
      cases seeks' with
      | free unused => simp [unused] at used
      | round _ last => exact absurd last other
      | onward _ _ rest =>
          obtain ⟨rfl, rfl⟩ := ih rest
          exact ⟨rfl, rfl⟩

/-- A search comes to identifiers only. -/
theorem Seeks.inside (seeks : registry.Seeks start seen found)
    (inside : 0 ≤ start ∧ start ≤ registry.limits.maxId) :
    ∀ id ∈ seen, 0 ≤ id ∧ id ≤ registry.limits.maxId := by
  have next := succId_inside inside
  induction seeks with
  | free => exact List.forall_mem_singleton.mpr next
  | round => exact List.forall_mem_singleton.mpr next
  | onward _ _ _ ih => exact List.forall_mem_cons.mpr ⟨next, ih next (succId_inside next)⟩

/-- A search that may take as many steps as it is to the identifier handed out last ends as one
that nothing bounds, and no later. -/
theorem exists_seeks {steps : Nat} (inside : 0 ≤ start ∧ start ≤ registry.limits.maxId)
    (issued : 0 ≤ registry.lastId ∧ registry.lastId ≤ registry.limits.maxId)
    (enough : registry.untilLast start ≤ steps) :
    ∃ seen, registry.Seeks start seen (registry.searchId steps start) ∧
      seen.length ≤ registry.untilLast start := by
  have positive := untilLast_pos inside.2 issued.1
  induction steps generalizing start with
  | zero => omega
  | succ steps ih =>
      simp only [searchId]
      split
      case isTrue unused =>
        exact ⟨_, .free (Option.isNone_iff_eq_none.mp unused), positive⟩
      case isFalse taken =>
        have used : (registry.find? (succId registry.limits.maxId start)).isSome := by
          simpa [Option.isSome_iff_ne_none] using taken
        split
        case isTrue round => exact ⟨_, .round used round, positive⟩
        case isFalse onward =>
          have next := succId_inside inside
          have less := untilLast_succId inside issued onward
          obtain ⟨seen, seeks, short⟩ := ih next (by omega) (untilLast_pos next.2 issued.1)
          refine ⟨_, .onward used onward seeks, ?_⟩
          rw [List.length_cons]
          omega

/-- It takes as many segments as there are identifiers to use them all. -/
theorem lt_length_of_isSome
    (used : ∀ j, 0 ≤ j → j ≤ registry.limits.maxId → (registry.find? j).isSome) :
    registry.limits.maxId < registry.table.length := by
  have listed : (List.range (registry.limits.maxId + 1).toNat).map Int.ofNat ⊆
      registry.table.map (·.1) := by
    intro j member
    obtain ⟨n, below, rfl⟩ := List.mem_map.mp member
    rw [List.mem_range] at below
    have present := used n (Int.natCast_nonneg n) (by omega)
    rw [Option.isSome_iff_ne_none, Ne, find?_eq_none_iff] at present
    simpa using present
  have distinct : ((List.range (registry.limits.maxId + 1).toNat).map Int.ofNat).Nodup :=
    List.nodup_range.map fun _ _ => Int.ofNat.inj
  have counted := (distinct.subperm listed).length_le
  rw [List.length_map, List.length_map, List.length_range] at counted
  omega

/-- The search for a free identifier comes to an end and misses none. -/
structure SearchesAll (registry : Registry) : Prop where
  /-- There is one way to go, which ends with the result. On it are no more identifiers than there
  are, and each is a signed number of 32 bits. -/
  ends : ∃ seen, (∀ seen' found, registry.Seeks registry.lastId seen' found ↔
      seen' = seen ∧ found = registry.nextFreeId?) ∧
    seen.length ≤ registry.limits.maxId + 1 ∧ ∀ id ∈ seen, 0 ≤ id ∧ id < 0x80000000
  succeeds : (∃ id, registry.nextFreeId? = some id) ↔
    ∃ j, 0 ≤ j ∧ j ≤ registry.limits.maxId ∧ registry.find? j = none
  first : ∀ id, registry.nextFreeId? = some id →
    (0 ≤ id ∧ id ≤ registry.limits.maxId) ∧ registry.find? id = none ∧
      ∀ j, 0 ≤ j → j ≤ registry.limits.maxId → Precedes registry.lastId j id →
        (registry.find? j).isSome
  fails : registry.nextFreeId? = none ↔
    ∀ j, 0 ≤ j → j ≤ registry.limits.maxId → (registry.find? j).isSome

/-- The search comes to an end and misses no identifier. -/
theorem searchesAll (issued : 0 ≤ registry.lastId ∧ registry.lastId ≤ registry.limits.maxId)
    (word : registry.limits.maxId < 0x80000000) : registry.SearchesAll := by
  have numbered : 0 ≤ registry.limits.maxId := issued.1.trans issued.2
  have exists_of_free {j : Int} (lower : 0 ≤ j) (upper : j ≤ registry.limits.maxId)
      (free : registry.find? j = none) : ∃ id, registry.nextFreeId? = some id :=
    exists_nextFreeId? numbered issued lower upper free
  have first (id : Int) (free : registry.nextFreeId? = some id) :
      (0 ≤ id ∧ id ≤ registry.limits.maxId) ∧ registry.find? id = none := by
    have found := searchId_mem issued.1 free
    rw [max_eq_right numbered] at found
    exact ⟨found, find?_of_searchId free⟩
  constructor
  case ends =>
    have enough : registry.untilLast registry.lastId ≤ (registry.limits.maxId.toNat + 1 : Nat) := by
      rw [untilLast_lastId]
      omega
    obtain ⟨seen, seeks, short⟩ := exists_seeks issued issued enough
    refine ⟨seen, fun seen' found => ⟨seeks.unique, ?_⟩, registry.untilLast_lastId ▸ short, ?_⟩
    · rintro ⟨rfl, rfl⟩
      exact seeks
    · intro id member
      obtain ⟨lower, upper⟩ := seeks.inside issued id member
      exact ⟨lower, upper.trans_lt word⟩
  case succeeds =>
    constructor
    · rintro ⟨id, free⟩
      obtain ⟨⟨lower, upper⟩, unused⟩ := first id free
      exact ⟨id, lower, upper, unused⟩
    · rintro ⟨j, lower, upper, free⟩
      exact exists_of_free lower upper free
  case first =>
    intro id free
    obtain ⟨inside, unused⟩ := first id free
    exact ⟨inside, unused, fun j lower upper => isSome_of_searchId lower upper free⟩
  case fails =>
    constructor
    · intro vain j lower upper
      by_contra free
      obtain ⟨id, found⟩ := exists_of_free lower upper (by simpa using free)
      cases vain.symm.trans found
    · intro used
      by_contra found
      obtain ⟨id, free⟩ := Option.ne_none_iff_exists'.mp found
      obtain ⟨⟨lower, upper⟩, unused⟩ := first id free
      simpa [unused] using used id lower upper

end Registry

namespace Kernel

open KernelM

variable {k : Kernel} {r : Handle .registry} {registry : Registry}

/-- The log tells of nothing new that identifiers are exhausted. -/
def Unexhausted (k k' : Kernel) : Prop := ∃ news, k'.log = news ++ k.log ∧ .idsExhausted ∉ news

private theorem unexhausted_of_log {k' : Kernel} (same : k'.log = k.log) : Unexhausted k k' :=
  ⟨[], same, List.not_mem_nil⟩

private theorem createSegment_unexhausted {id : Int} (free : registry.nextFreeId? = some id)
    (q : Requester) (asked : SegmentRequest) : (createSegment r registry q asked).Ends k
    (fun _ => Unexhausted k) (fun _ => Unexhausted k) := by
  have same : Unexhausted k k := unexhausted_of_log rfl
  simp only [createSegment, free]
  refine .orRefuse_bind same fun length rounded => .check_bind same fun affordable => ?_
  refine ends_bind.mpr ((allocateFrames_ends registry.pool length).mono ?_ ?_)
  · rintro span _ ⟨_, _, _, _, rfl⟩
    refine .get_bind (.modify_bind (.modify_bind (ends_pure.mpr ?_)))
    exact ⟨[.segmentCreated _ _ _ _, .framesTaken span], rfl, by simp⟩
  · rintro _ _ (rfl | rfl) <;> exact unexhausted_of_log rfl

/-- Identifiers are never exhausted where some are free whenever there is room for a segment. -/
theorem findOrCreate_unexhausted (here : k.registries.get? r = some registry)
    (spare : registry.table.length < registry.limits.maxSegments →
      ∃ id, registry.nextFreeId? = some id) (q : Requester) (asked : SegmentRequest) :
    (findOrCreate r q asked).Ends k (fun _ => Unexhausted k) (fun _ => Unexhausted k) := by
  have same : Unexhausted k k := unexhausted_of_log rfl
  apply ends_findOrCreate
  case missing => exact fun _ => unexhausted_of_log rfl
  case refused => exact fun _ => same
  case existing => exact fun _ _ _ _ _ _ _ _ => same
  case made =>
    intro registry' here' sized room wanted
    cases here.symm.trans here'
    obtain ⟨id, free⟩ := spare room
    exact createSegment_unexhausted free q asked

/-- The search for an identifier ends and misses none. Take any registry whose largest identifier is
a signed number of 32 bits and whose last one lies between zero and the largest. The search from the
last one on, which nothing bounds, ends after no more steps than there are identifiers. It finds one
exactly if some identifier is free; then it finds a free one, and all that come before it in rotation
are in use. It ends in vain exactly if all are in use. If the registry allows no more segments than
there are identifiers, no request in any kernel finds the identifiers exhausted. -/
theorem search_complete (issued : 0 ≤ registry.lastId ∧ registry.lastId ≤ registry.limits.maxId)
    (word : registry.limits.maxId < 0x80000000) :
    registry.SearchesAll ∧
      (registry.limits.maxSegments ≤ registry.limits.maxId + 1 →
        ∀ k r, k.registries.get? r = some registry → ∀ q asked,
          Unexhausted k ((findOrCreate r q asked).after k)) := by
  have searches := Registry.searchesAll issued word
  refine ⟨searches, fun allowed k r here q asked => ?_⟩
  refine (findOrCreate_unexhausted here (fun room => ?_) q asked).after
  by_contra vain
  have used := searches.fails.mp (by simpa [Option.eq_none_iff_forall_ne_some] using vain)
  have many := Registry.lt_length_of_isSome used
  omega

end Kernel

namespace World

open Kernel

/-- A registry with four identifiers makes a segment under each of them. The one under two is
removed and made again, and the one under one is removed. -/
def circling : List Operation :=
  let root : Requester := ⟨.superuser .initial, none, none⟩
  let make : Operation := .findOrCreate ⟨0⟩ root ⟨privateKey, 1, 0o600, true, true, false⟩
  [.makePool 0 16, .makeRegistry .initial ⟨0⟩ { maxId := 3, maxSegments := 4 } .handle,
    make, make, make, make, .markDestroyed ⟨1⟩, make, .markDestroyed ⟨0⟩]

/-- The last identifier is two, and the search passes three and zero before it comes to one. -/
theorem search_complete_circling :
    let k := (({} : World).follow circling).kernel
    let root : Requester := ⟨.superuser .initial, none, none⟩
    ∃ registry ∈ k.registries.get? ⟨0⟩, registry.lastId = 2 ∧ registry.limits.maxId = 3 ∧
      registry.nextFreeId? = some 1 ∧ (registry.find? 3).isSome ∧ (registry.find? 0).isSome ∧
      registry.SearchesAll ∧
      Unexhausted k ((findOrCreate ⟨0⟩ root ⟨privateKey, 1, 0o600, true, true, false⟩).after k) := by
  intro k root
  have state : ∃ registry ∈ k.registries.get? ⟨0⟩, registry.lastId = 2 ∧
      registry.limits.maxId = 3 ∧ registry.limits.maxSegments = 4 ∧
      registry.nextFreeId? = some 1 := by decide +kernel
  clear_value k
  obtain ⟨registry, here, last, largest, allowed, free⟩ := state
  obtain ⟨searches, spare⟩ := @search_complete registry (by omega) (by omega)
  have passed := (searches.first 1 free).2.2
  rw [last, largest] at passed
  exact ⟨registry, here, last, largest, free,
    passed 3 (by omega) (by omega) (.inr ⟨by omega, .inl (by omega)⟩),
    passed 0 (by omega) (by omega) (.inr ⟨by omega, .inr (by omega)⟩),
    searches, spare (by omega) k ⟨0⟩ here root _⟩

end World

end SharedMemory
