import SharedMemory.Proofs.Developments

/-!
# Registration

The table of a registry is in the ascending order of identifiers, and its entries are the
segments of the registry that are not destroyed, each under its own identifier. So an identifier
that is handed out again belongs to the new segment only, and a segment that is destroyed is
never found.
-/

namespace SharedMemory

namespace Registry

variable {registry : Registry} {id : Int} {s : Handle .segment}
  {table : List (Int × Handle .segment)}

/-- What is found under an identifier is what a table in order lists under it. -/
theorem find?_eq_some_iff (ascending : registry.table.Pairwise (·.1 < ·.1)) :
    registry.find? id = some s ↔ (id, s) ∈ registry.table := by
  have named : ∀ {entry}, registry.table.find? (·.1 = id) = some entry →
      entry ∈ registry.table ∧ entry.1 = id := fun found =>
    ⟨List.mem_of_find?_eq_some found, by simpa using List.find?_some found⟩
  simp only [find?, Option.map_eq_some_iff]
  constructor
  · rintro ⟨⟨id', s'⟩, found, rfl⟩
    obtain ⟨member, rfl⟩ := named found
    exact member
  · intro member
    obtain ⟨entry, found⟩ : ∃ entry, registry.table.find? (·.1 = id) = some entry :=
      Option.isSome_iff_exists.mp (List.find?_isSome.mpr ⟨_, member, decide_eq_true rfl⟩)
    have distinct : (registry.table.map (·.1)).Nodup :=
      List.pairwise_map.mpr (ascending.imp fun less => (Int.ne_of_lt less))
    have same : entry = (id, s) :=
      List.inj_on_of_nodup_map distinct (named found).1 member (named found).2
    exact ⟨entry, found, congrArg Prod.snd same⟩

/-- Nothing is found under an identifier that the table does not list. -/
theorem find?_eq_none_iff : registry.find? id = none ↔ ∀ entry ∈ registry.table, entry.1 ≠ id := by
  simp [find?]

/-- A search ends at an identifier that is free. -/
theorem find?_of_searchId {steps : Nat} {start : Int}
    (found : registry.searchId steps start = some id) : registry.find? id = none := by
  induction steps generalizing start with
  | zero => cases found
  | succ steps ih =>
      simp only [searchId] at found
      split at found
      case isTrue free =>
        cases found
        exact Option.isNone_iff_eq_none.mp free
      case isFalse =>
        split at found
        · cases found
        · exact ih found

/-- A new entry is added to the others. -/
theorem perm_insertEntry (free : ∀ entry ∈ table, entry.1 ≠ id) :
    (insertEntry id s table).Perm ((id, s) :: table) := by
  induction table with
  | nil => exact .refl _
  | cons entry rest ih =>
      unfold insertEntry
      split
      · exact .refl _
      · rw [if_neg fun same => free entry (List.mem_cons_self ..) same.symm]
        exact ((ih fun other member => free other (List.mem_cons_of_mem _ member)).cons entry).trans
          (.swap _ _ _)

private theorem pairwise_insertEntry (ascending : table.Pairwise (·.1 < ·.1))
    (free : ∀ entry ∈ table, entry.1 ≠ id) : (insertEntry id s table).Pairwise (·.1 < ·.1) := by
  induction table with
  | nil => exact List.pairwise_singleton _ _
  | cons entry rest ih =>
      obtain ⟨first, others⟩ := List.pairwise_cons.mp ascending
      have freeRest : ∀ other ∈ rest, other.1 ≠ id := fun other member =>
        free other (List.mem_cons_of_mem _ member)
      have taken : entry.1 ≠ id := free entry (List.mem_cons_self ..)
      unfold insertEntry
      split
      case isTrue less =>
        refine List.pairwise_cons.mpr ⟨fun other member => ?_, ascending⟩
        rcases List.mem_cons.mp member with rfl | member
        · exact less
        · exact Int.lt_trans less (first other member)
      case isFalse notLess =>
        rw [if_neg (Ne.symm taken)]
        refine List.pairwise_cons.mpr ⟨fun other member => ?_, ih others freeRest⟩
        rcases List.mem_cons.mp ((perm_insertEntry freeRest).mem_iff.mp member) with rfl | member
        · simp only
          omega
        · exact first other member

end Registry

/-- The registry and the identifier of a segment, as long as it is not destroyed. -/
def Segment.listing? (g : Segment) : Option (Handle .registry × Int) :=
  if g.destroyed then none else some (g.registry, g.id)

namespace Kernel

/-- The registry and the identifier of the segment under a handle, if there is one that is not
destroyed. -/
def listing? (k : Kernel) (s : Handle .segment) : Option (Handle .registry × Int) :=
  (k.segments.get? s).bind Segment.listing?

/-- Tables are in ascending order and list the segments that are not destroyed. -/
structure Registered (k : Kernel) : Prop where
  ascending : ∀ {r registry}, k.registries.get? r = some registry →
    registry.table.Pairwise (·.1 < ·.1)
  listed : ∀ {r registry}, k.registries.get? r = some registry → ∀ id s,
    (id, s) ∈ registry.table ↔ k.listing? s = some (r, id)
  issued : ∀ {s r id}, k.listing? s = some (r, id) → k.registries.Issued r

variable {k k' : Kernel} {s s' : Handle .segment} {g g' : Segment}

/-- A segment that is not destroyed is to be listed in its registry under its identifier. -/
theorem listing?_of_alive (found : k.segments.get? s = some g) (alive : g.destroyed = false) :
    k.listing? s = some (g.registry, g.id) := by
  rw [listing?, found, Option.bind_some, Segment.listing?, alive]
  rfl

/-- What a registry lists is there, belongs to the registry under its identifier, and is not
destroyed. -/
theorem Registered.segment_of_mem {r : Handle .registry} {registry : Registry} {id : Int}
    (registered : k.Registered) (here : k.registries.get? r = some registry)
    (member : (id, s) ∈ registry.table) :
    ∃ g, k.segments.get? s = some g ∧ g.registry = r ∧ g.id = id ∧ g.destroyed = false := by
  obtain ⟨g, found, own⟩ := Option.bind_eq_some_iff.mp ((registered.listed here id s).mp member)
  obtain ⟨alive, same⟩ := Option.ite_none_left_eq_some.mp own
  obtain ⟨rfl, rfl⟩ := Prod.mk.inj (Option.some.inj same)
  exact ⟨g, found, rfl, rfl, Bool.eq_false_iff.mpr alive⟩

/-- A segment is listed in its own registry. -/
theorem Registered.registry_of_lists {r : Handle .registry} (registered : k.Registered)
    (listed : k.Lists r s) (found : k.segments.get? s = some g) : g.registry = r := by
  obtain ⟨registry, here, id, member⟩ := listed
  obtain ⟨_, found', own, _⟩ := registered.segment_of_mem here member
  cases found.symm.trans found'
  exact own

/-! ## What changes the listings -/

private theorem listing?_of_set (found : k.segments.get? s = some g)
    (placed : k'.segments = k.segments.set s g') (s' : Handle .segment) :
    k'.listing? s' = if s' = s then g'.listing? else k.listing? s' := by
  unfold listing?
  by_cases same : s' = s
  · rw [if_pos same, same, placed, Slots.get?_set_self found, Option.bind_some]
  · rw [if_neg same, placed, Slots.get?_set_of_ne (Ne.symm same)]

private theorem listing?_of_shift (found : k.segments.get? s = some g) (shift : g.Shift g') :
    (k.setSegment s g').listing? s' = k.listing? s' := by
  rw [listing?_of_set found rfl]
  split
  case isTrue same =>
    rw [same, listing?, found, Option.bind_some, Segment.listing?, shift.destroyed,
      shift.evolves.registry, shift.evolves.id, Segment.listing?]
  case isFalse => rfl

private theorem listing?_retire (found : k.segments.get? s = some g) :
    (k.retire s g').listing? s' = if s' = s then none else k.listing? s' := by
  rw [listing?_of_set found segments_retire]
  rfl

private theorem Creation.listing? (c : Creation k) (s : Handle .segment) : c.result.listing? s = if
    s = k.segments.fresh then some (c.owner, c.id) else k.listing? s := by
  have inserted : c.result.segments.get? s = (k.segments.insert c.segment).get? s := rfl
  rw [Kernel.listing?, inserted, Slots.get?_insert]
  split <;> rfl

private theorem Keeps.listing? (keeps : k.Keeps k') (s : Handle .segment) :
    k'.listing? s = k.listing? s := by
  have core : ∀ g : Segment, g.listing? = g.core.listing? := fun g => rfl
  have same := congrArg (·.get? s) keeps.segments
  simp only [Slots.get?_map] at same
  have bound := congrArg (·.bind Segment.listing?) same
  simpa only [Kernel.listing?, Option.bind_map, Function.comp_def, ← core] using bound

/-! ## The invariant -/

private theorem Registered.congr (registered : k.Registered)
    (tables : ∀ {r registry'}, k'.registries.get? r = some registry' →
      ∃ registry, k.registries.get? r = some registry ∧ registry'.table = registry.table)
    (issued : ∀ {r}, k.registries.Issued r → k'.registries.Issued r)
    (listings : ∀ s, k'.listing? s = k.listing? s) : k'.Registered where
  ascending := by
    intro r registry' here
    obtain ⟨registry, there, table⟩ := tables here
    rw [table]
    exact registered.ascending there
  listed := by
    intro r registry' here id s
    obtain ⟨registry, there, table⟩ := tables here
    rw [table, listings]
    exact registered.listed there id s
  issued := fun listing => issued (registered.issued (by rwa [← listings]))

/-- What is registered depends on the segments and the registries alone. -/
theorem Registered.of_eq (registered : k.Registered) (segments : k'.segments = k.segments)
    (registries : k'.registries = k.registries) : k'.Registered := by
  refine registered.congr (fun here => ⟨_, registries ▸ here, rfl⟩) (fun issued => ?_) fun s => ?_
  · rwa [registries]
  · rw [listing?, segments, listing?]

/-- What is kept stays registered. -/
theorem Registered.keep (registered : k.Registered) (keeps : k.Keeps k') : k'.Registered := by
  refine registered.congr (fun {r registry'} here => ?_) (fun {r} issued => ?_) keeps.listing?
  · obtain ⟨registry, there, core⟩ := keeps.registry here
    exact ⟨registry, there, congrArg (·.table) core⟩
  · exact keeps.issued.mpr issued

/-- No handle of a registry is handed out when a segment is destroyed. -/
theorem issued_retire {r : Handle .registry} :
    (k.retire s g).registries.Issued r ↔ k.registries.Issued r := by
  rw [retire, (objects_releaseFrames _ _).2.1, forgetSegment]
  split
  · split
    · simp [setRegistry, emit, setSegment]
    · rfl
  · rfl

/-- No two segments of a registry are listed under the same identifier. -/
theorem Registered.unique (registered : k.Registered) {r : Handle .registry} {registry : Registry}
    (here : k.registries.get? r = some registry) {id : Int} (first : k.listing? s = some (r, id))
    (second : k.listing? s' = some (r, id)) : s = s' := by
  have find : ∀ {s}, k.listing? s = some (r, id) → registry.find? id = some s := fun listing =>
    (Registry.find?_eq_some_iff (registered.ascending here)).mpr
      ((registered.listed here id _).mpr listing)
  exact Option.some.inj ((find first).symm.trans (find second))

/-- A segment that is destroyed loses its entry, and no other segment does. -/
theorem Registered.retire (registered : k.Registered) (found : k.segments.get? s = some g)
    (listing : k.listing? s = some (g'.registry, g'.id)) :
    (k.retire s g').Registered := by
  -- Only the entry of the segment's own identifier goes, and only from its own registry.
  have tables : ∀ {r registry'}, (k.retire s g').registries.get? r = some registry' →
      ∃ registry, k.registries.get? r = some registry ∧ registry'.table.Sublist registry.table ∧
        ∀ id s', (id, s') ∈ registry'.table ↔
          (id, s') ∈ registry.table ∧ ¬ (r = g'.registry ∧ id = g'.id) := by
    intro r registry' here
    rw [get?_registries_retire] at here
    obtain ⟨registry, there, rfl⟩ := Option.map_eq_some_iff.mp here
    refine ⟨registry, there, ?_⟩
    by_cases owner : r = g'.registry
    · subst owner
      have present : registry.find? g'.id = some s :=
        (Registry.find?_eq_some_iff (registered.ascending there)).mpr
          ((registered.listed there _ _).mpr listing)
      simp only [present, Option.isSome_some, and_self, if_true, true_and]
      exact ⟨List.filter_sublist, fun id s' => by simp [Registry.unregister]⟩
    · simp [owner]
  refine ⟨fun {r registry'} here => ?_, fun {r registry'} here id s' => ?_, fun {s' r id} listed => ?_⟩
  · obtain ⟨registry, there, fewer, _⟩ := tables here
    exact (registered.ascending there).sublist fewer
  · obtain ⟨registry, there, _, entries⟩ := tables here
    rw [entries, registered.listed there, listing?_retire found]
    by_cases same : s' = s
    · subst same
      simp [listing, eq_comm]
    · rw [if_neg same, and_iff_left_iff_imp]
      rintro other ⟨rfl, rfl⟩
      exact same (registered.unique there other listing)
  · rw [listing?_retire found] at listed
    rw [issued_retire]
    split at listed
    · cases listed
    · exact registered.issued listed

/-- A segment that is made gets an entry under an identifier that was free. -/
theorem Registered.create (registered : k.Registered) (c : Creation k) : c.result.Registered := by
  -- The identifier was free, so the entry is a new one and replaces none.
  have free : ∀ entry ∈ c.registry.table, entry.1 ≠ c.id :=
    Registry.find?_eq_none_iff.mp (Registry.find?_of_searchId c.free)
  have placed : c.result.registries = k.registries.set c.owner
      (c.registry.register c.id k.segments.fresh (c.length / pageSize)) := rfl
  have tables : ∀ {r registry'}, c.result.registries.get? r = some registry' →
      ∃ registry, k.registries.get? r = some registry ∧ registry'.table.Pairwise (·.1 < ·.1) ∧
        ∀ id s, (id, s) ∈ registry'.table ↔
          (r = c.owner ∧ id = c.id ∧ s = k.segments.fresh) ∨ (id, s) ∈ registry.table := by
    intro r registry' here
    by_cases owner : c.owner = r
    · subst owner
      rw [placed, Slots.get?_set_self c.registered] at here
      cases here
      refine ⟨c.registry, c.registered, Registry.pairwise_insertEntry
        (registered.ascending c.registered) free, fun id s => ?_⟩
      rw [Registry.register, (Registry.perm_insertEntry free).mem_iff]
      simp
    · rw [placed, Slots.get?_set_of_ne owner] at here
      exact ⟨registry', here, registered.ascending here, fun id s => by simp [Ne.symm owner]⟩
  refine ⟨fun {r registry'} here => ?_, fun {r registry'} here id s => ?_, fun {s r id} listed => ?_⟩
  · obtain ⟨_, _, ascending, _⟩ := tables here
    exact ascending
  · obtain ⟨registry, there, _, entries⟩ := tables here
    rw [entries, registered.listed there, c.listing?]
    by_cases new : s = k.segments.fresh
    · simp [new, listing?, eq_comm]
    · simp [new]
  · rw [placed, Slots.issued_set]
    rw [c.listing?] at listed
    split at listed
    · cases listed
      exact Slots.issued_of_get? c.registered
    · exact registered.issued listed

private theorem Registered.makeRegistry (registered : k.Registered) (userNs : UserNamespace)
    (p : Handle .pool) (limits : Limits) (holder : Holder) :
    (k.makeRegistry userNs p limits holder).2.Registered := by
  have made : ∀ r, (k.makeRegistry userNs p limits holder).2.registries.get? r =
      if r = k.registries.fresh then some (.empty userNs p limits holder)
      else k.registries.get? r := fun r => Slots.get?_insert _ _ _
  refine ⟨fun {r registry} here => ?_, fun {r registry} here id s => ?_, fun listed =>
    (registered.issued listed).insert _⟩
  · rw [made] at here
    split at here
    · cases here
      exact List.Pairwise.nil
    · exact registered.ascending here
  · rw [made] at here
    split at here
    case isTrue new =>
      cases here
      -- No segment belongs to a registry that did not exist.
      have unlisted : k.listing? s ≠ some (r, id) := fun listed =>
        k.registries.not_issued_fresh (new ▸ registered.issued listed)
      exact iff_of_false List.not_mem_nil unlisted
    case isFalse => exact registered.listed here id s

private theorem Registered.eraseRegistry (registered : k.Registered) (r : Handle .registry) :
    (k.eraseRegistry r).Registered := by
  refine registered.congr (fun {r' registry'} here => ?_) (fun issued => ?_) fun _ => rfl
  · have there : (k.registries.erase r).get? r' = some registry' := here
    exact ⟨registry', Slots.get?_of_erase there, rfl⟩
  · exact Slots.issued_erase.mpr issued

/-- One development keeps segments registered. -/
theorem Development.registered (development : k.Development k') (registered : k.Registered) :
    k'.Registered := by
  cases development with
  | keep keeps => exact registered.keep keeps
  | @shift s g g' found shift =>
      rcases settle_cases found g' with ⟨same, _⟩ | ⟨same, undestroyed, _⟩ <;> rw [same]
      · exact registered.congr (fun here => ⟨_, here, rfl⟩) id fun _ => listing?_of_shift found shift
      · refine registered.retire found ?_
        rw [← listing?_of_shift found shift, listing?_of_set found rfl, if_pos rfl,
          Segment.listing?, undestroyed]
        rfl
  | create c => exact registered.create c
  | makePool => exact registered.of_eq rfl rfl
  | makeRegistry userNs p limits holder => exact registered.makeRegistry userNs p limits holder
  | eraseRegistry r => exact registered.eraseRegistry r

end Kernel

namespace World

open Kernel

variable {w w' : World} {may : Deed → Prop} {allowed : Operation → Prop}

/-- One development of a world keeps segments registered. -/
theorem Development.registered (development : Development w w') (registered : w.kernel.Registered) :
    w'.kernel.Registered := by
  cases development with
  | objects development => exact development.registered registered
  | lend => exact registered.of_eq rfl rfl
  | giveBack => exact registered.of_eq (objects_releaseFrames _ _).1 (objects_releaseFrames _ _).2.1

/-- In every reachable world registries list the segments that are not destroyed. -/
theorem Reachable.registered (suits : Suits allowed may) (reachable : Reachable allowed w) :
    w.kernel.Registered :=
  reachable.development suits (·.kernel.Registered) Development.registered
    ⟨nofun, nofun, nofun⟩

end World

end SharedMemory
