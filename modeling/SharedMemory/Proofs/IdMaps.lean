import SharedMemory.Span
import SharedMemory.UserNamespace

/-!
# Identifier maps as relations

An extent pairs the identifiers of a namespace with kernel identifiers (`Extent.Carries`), and read
backwards it pairs them the other way round. To look an identifier up, on either side, is to take
the first extent that has it. If no identifier is in two extents (`IdMap.Separate`), it does not
matter which comes first, and the look-ups of the two sides undo each other
(`IdMap.Separate.toKernel?_iff_ofKernel?`). So a namespace pairs its names off with users and with
groups (`UserNamespace.names_paired`).
-/

namespace SharedMemory

private theorem addId?_eq_some_iff {a b c : UInt32} :
    addId? a b = some c ↔ c.toNat = a.toNat + b.toNat := by
  have bound := c.toNat_lt_size
  unfold addId?
  split
  case isTrue fits =>
    have sum : (a + b).toNat = a.toNat + b.toNat := by
      rw [UInt32.toNat_add]
      exact Nat.mod_eq_of_lt fits
    rw [Option.some.injEq, ← UInt32.toNat_inj, sum, eq_comm]
  case isFalse exceeds =>
    constructor
    · nofun
    · intro same
      omega

namespace Extent

variable {e : Extent} {id kernelId : UInt32}

/-- The identifiers of the namespace, which may run past the largest. -/
def inside (e : Extent) : Span := .ofSize e.first.toNat e.length.toNat

/-- The kernel identifiers, which may run past the largest. -/
def kernel (e : Extent) : Span := .ofSize e.firstKernel.toNat e.length.toNat

/-- An identifier of the namespace and a kernel identifier are at the same place in the extent. -/
def Carries (e : Extent) (id kernelId : UInt32) : Prop :=
  ∃ i < e.length.toNat, id.toNat = e.first.toNat + i ∧ kernelId.toNat = e.firstKernel.toNat + i

/-- The extent with its two sides exchanged. -/
def reverse (e : Extent) : Extent := ⟨e.firstKernel, e.first, e.length⟩

private theorem carries_reverse : e.reverse.Carries kernelId id ↔ e.Carries id kernelId := by
  constructor
  · intro carries
    obtain ⟨i, bound, target, source⟩ := carries
    exact ⟨i, bound, source, target⟩
  · intro carries
    obtain ⟨i, bound, source, target⟩ := carries
    exact ⟨i, bound, target, source⟩

private theorem Carries.inside (carries : e.Carries id kernelId) : e.inside.Contains id.toNat := by
  obtain ⟨i, bound, source, _⟩ := carries
  simp only [Extent.inside, Span.ofSize, Span.Contains]
  omega

private theorem toKernel?_eq_some_iff : e.toKernel? id = some kernelId ↔ e.Carries id kernelId := by
  unfold toKernel?
  split
  case isTrue known =>
    obtain ⟨lower, upper⟩ := known
    have place : (id - e.first).toNat = id.toNat - e.first.toNat := UInt32.toNat_sub_of_le _ _ lower
    rw [UInt32.le_iff_toNat_le] at lower
    rw [UInt32.lt_iff_toNat_lt, place] at upper
    rw [addId?_eq_some_iff, place]
    constructor
    · intro target
      exact ⟨id.toNat - e.first.toNat, upper, by omega, target⟩
    · intro carries
      obtain ⟨i, _, source, target⟩ := carries
      omega
  case isFalse unknown =>
    constructor
    · nofun
    · intro carries
      obtain ⟨i, bound, source, _⟩ := carries
      have lower : e.first ≤ id := by
        rw [UInt32.le_iff_toNat_le]
        omega
      refine (unknown ⟨lower, ?_⟩).elim
      rw [UInt32.lt_iff_toNat_lt, UInt32.toNat_sub_of_le _ _ lower]
      omega

end Extent

namespace IdMap

variable {m : IdMap} {id kernelId : UInt32}

/-- No identifier of the namespace is in two extents, and no kernel identifier is. -/
structure Separate (m : IdMap) : Prop where
  inside : m.extents.Pairwise fun e e' =>
    ∀ id : UInt32, ¬ (e.inside.Contains id.toNat ∧ e'.inside.Contains id.toNat)
  kernel : m.extents.Pairwise fun e e' =>
    ∀ id : UInt32, ¬ (e.kernel.Contains id.toNat ∧ e'.kernel.Contains id.toNat)

/-- The map with its two sides exchanged. -/
def reverse (m : IdMap) : IdMap := ⟨m.extents.map Extent.reverse⟩

private theorem Separate.reverse (separate : m.Separate) : m.reverse.Separate where
  inside := List.pairwise_map.mpr separate.kernel
  kernel := List.pairwise_map.mpr separate.inside

private theorem toKernel?_reverse (m : IdMap) (kernelId : UInt32) :
    m.reverse.toKernel? kernelId = m.ofKernel? kernelId := by
  rw [toKernel?, reverse, List.findSome?_map, ofKernel?]
  rfl

/-- Whichever extent carries an identifier is the only one that has it, so it is found. -/
theorem Separate.toKernel?_eq_some_iff (separate : m.Separate) :
    m.toKernel? id = some kernelId ↔ ∃ e ∈ m.extents, e.Carries id kernelId := by
  have apart := separate.inside
  unfold toKernel?
  generalize m.extents = extents at apart ⊢
  induction extents with
  | nil => simp
  | cons e rest ih =>
      obtain ⟨first, others⟩ := List.pairwise_cons.mp apart
      simp only [List.findSome?_cons, List.mem_cons, exists_eq_or_imp]
      cases found : e.toKernel? id with
      | none =>
          have elsewhere : ¬ e.Carries id kernelId := by
            rw [← Extent.toKernel?_eq_some_iff, found]
            nofun
          simp only [elsewhere, false_or]
          exact ih others
      | some target =>
          have here := Extent.toKernel?_eq_some_iff.mp found
          have alone : ¬ ∃ e' ∈ rest, e'.Carries id kernelId := by
            intro carried
            obtain ⟨e', member, carries⟩ := carried
            exact first e' member id ⟨here.inside, carries.inside⟩
          rw [or_iff_left alone, ← Extent.toKernel?_eq_some_iff, found]

/-- What a kernel identifier is shown as is what an extent carries to it. -/
theorem Separate.ofKernel?_eq_some_iff (separate : m.Separate) :
    m.ofKernel? kernelId = some id ↔ ∃ e ∈ m.extents, e.Carries id kernelId := by
  rw [← toKernel?_reverse, separate.reverse.toKernel?_eq_some_iff]
  constructor
  · intro carried
    obtain ⟨_, member, carries⟩ := carried
    obtain ⟨e, source, rfl⟩ := List.mem_map.mp member
    exact ⟨e, source, Extent.carries_reverse.mp carries⟩
  · intro carried
    obtain ⟨e, member, carries⟩ := carried
    exact ⟨e.reverse, List.mem_map_of_mem member, Extent.carries_reverse.mpr carries⟩

/-- The look-ups of the two sides undo each other. -/
theorem Separate.toKernel?_iff_ofKernel? (separate : m.Separate) :
    m.toKernel? id = some kernelId ↔ m.ofKernel? kernelId = some id := by
  rw [separate.toKernel?_eq_some_iff, separate.ofKernel?_eq_some_iff]

/-- The identifier that stands for a kernel identifier is its name. -/
theorem Separate.ofKernel_of_toKernel? (separate : m.Separate)
    (found : m.toKernel? id = some kernelId) : m.ofKernel kernelId = id := by
  rw [ofKernel, separate.toKernel?_iff_ofKernel?.mp found, Option.getD_some]

/-- A kernel identifier that has a name is what its name stands for. -/
theorem Separate.toKernel?_ofKernel (separate : m.Separate)
    (mapped : (m.ofKernel? kernelId).isSome) :
    m.toKernel? (m.ofKernel kernelId) = some kernelId := by
  obtain ⟨id, named⟩ := Option.isSome_iff_exists.mp mapped
  rw [ofKernel, named, Option.getD_some, separate.toKernel?_iff_ofKernel?.mpr named]

/-- Extents that have no number in common are separate, also if they run past the largest
identifier. -/
theorem separate_of_disjoint
    (inside : m.extents.Pairwise fun e e' => ∀ n, ¬ (e.inside.Contains n ∧ e'.inside.Contains n))
    (kernel : m.extents.Pairwise fun e e' => ∀ n, ¬ (e.kernel.Contains n ∧ e'.kernel.Contains n)) :
    m.Separate where
  inside := inside.imp fun apart (id : UInt32) => apart id.toNat
  kernel := kernel.imp fun apart (id : UInt32) => apart id.toNat

/-! ## The order of extents -/

private theorem Separate.perm {m' : IdMap} (separate : m.Separate)
    (perm : m'.extents.Perm m.extents) : m'.Separate where
  inside := separate.inside.perm perm.symm fun apart id both => apart id both.symm
  kernel := separate.kernel.perm perm.symm fun apart id both => apart id both.symm

private theorem Separate.toKernel?_perm {m' : IdMap} (separate : m.Separate)
    (perm : m'.extents.Perm m.extents) : m'.toKernel? = m.toKernel? := by
  funext id
  apply Option.ext
  intro kernelId
  rw [(separate.perm perm).toKernel?_eq_some_iff, separate.toKernel?_eq_some_iff]
  simp only [perm.mem_iff]

private theorem Separate.ofKernel_perm {m' : IdMap} (separate : m.Separate)
    (perm : m'.extents.Perm m.extents) : m'.ofKernel = m.ofKernel := by
  have same := separate.reverse.toKernel?_perm (perm.map Extent.reverse)
  funext kernelId
  rw [ofKernel, ← toKernel?_reverse, ofKernel, ← toKernel?_reverse]
  exact congrArg (fun named => (named kernelId).getD overflowId) same

/-! ## Names and what they stand for -/

/-- A map pairs names off with what they stand for, which the kernel knows by its identifiers. A
name stands for what an extent carries it to, and for nothing else. What a name stands for goes by
that name only, and what no name stands for is shown as the identifier that stands in for it. -/
structure PairsOff {α : Type} (m : IdMap) (kernelId : α → UInt32) (meaning? : UInt32 → Option α)
    (name : α → UInt32) : Prop where
  carried : ∀ id x, meaning? id = some x ↔ ∃ e ∈ m.extents, e.Carries id (kernelId x)
  back : ∀ id x, meaning? id = some x → name x = id
  apart : ∀ id id' x, meaning? id = some x → meaning? id' = some x → id = id'
  forth : ∀ x, (∃ id, meaning? id = some x) → meaning? (name x) = some x
  unnamed : ∀ x, (∀ id, meaning? id ≠ some x) → name x = 65534

/-- Things that are known by their kernel identifiers are paired off if the extents are separate. -/
theorem Separate.pairsOff {α : Type} {kernelId : α → UInt32} {ofId : UInt32 → α}
    (separate : m.Separate) (known : ∀ id x, ofId id = x ↔ id = kernelId x) :
    m.PairsOff kernelId (fun id => (m.toKernel? id).map ofId)
      (fun x => m.ofKernel (kernelId x)) := by
  have meaning {id : UInt32} {x : α} :
      (m.toKernel? id).map ofId = some x ↔ m.toKernel? id = some (kernelId x) := by
    simp only [Option.map_eq_some_iff, known, exists_eq_right]
  have back (id : UInt32) (x : α) (found : (m.toKernel? id).map ofId = some x) :
      m.ofKernel (kernelId x) = id := separate.ofKernel_of_toKernel? (meaning.mp found)
  constructor
  case carried => exact fun id x => meaning.trans separate.toKernel?_eq_some_iff
  case back => exact back
  case apart =>
    intro id id' x found found'
    rw [← back id x found, back id' x found']
  case forth =>
    intro x named
    obtain ⟨id, found⟩ := named
    rwa [back id x found]
  case unnamed =>
    intro x missing
    have nameless : m.ofKernel? (kernelId x) = none := by
      apply Option.eq_none_iff_forall_ne_some.mpr
      intro id named
      exact missing id (meaning.mpr (separate.toKernel?_iff_ofKernel?.mpr named))
    rw [ofKernel, nameless]
    rfl

end IdMap

namespace UserNamespace

variable {ns : UserNamespace} {id : UInt32}

/-- A user goes by the name that stands for the user. -/
theorem ofUid_of_toUid? {uid : Uid} (separate : ns.uidMap.Separate)
    (named : ns.toUid? id = some uid) : ns.ofUid uid = id := by
  obtain ⟨kernelId, found, rfl⟩ := Option.map_eq_some_iff.mp named
  exact separate.ofKernel_of_toKernel? found

/-- A group goes by the name that stands for the group. -/
theorem ofGid_of_toGid? {gid : Gid} (separate : ns.gidMap.Separate)
    (named : ns.toGid? id = some gid) : ns.ofGid gid = id := by
  obtain ⟨kernelId, found, rfl⟩ := Option.map_eq_some_iff.mp named
  exact separate.ofKernel_of_toKernel? found

/-- The name that a user goes by stands for the user. -/
theorem toUid?_ofUid {uid : Uid} (separate : ns.uidMap.Separate)
    (mapped : (ns.uidMap.ofKernel? uid.val).isSome) : ns.toUid? (ns.ofUid uid) = some uid := by
  rw [toUid?, ofUid, separate.toKernel?_ofKernel mapped, Option.map_some]

/-- The name that a group goes by stands for the group. -/
theorem toGid?_ofGid {gid : Gid} (separate : ns.gidMap.Separate)
    (mapped : (ns.gidMap.ofKernel? gid.val).isSome) : ns.toGid? (ns.ofGid gid) = some gid := by
  rw [toGid?, ofGid, separate.toKernel?_ofKernel mapped, Option.map_some]

/-- A namespace pairs its names off with users, and likewise with groups. If no identifier is in two
extents of the map, on either side, a name stands for the user that its extent carries it to. That
user goes by the name, and no other name stands for the same user. Whoever has a name is found by
the name that is shown, and whoever has none is shown as 65534. The order of the extents does not
matter. -/
theorem names_paired (ns : UserNamespace) :
    (ns.uidMap.Separate → ns.uidMap.PairsOff Uid.val ns.toUid? ns.ofUid ∧
      ∀ ns' : UserNamespace, ns'.uidMap.extents.Perm ns.uidMap.extents →
        ns'.toUid? = ns.toUid? ∧ ns'.ofUid = ns.ofUid) ∧
    (ns.gidMap.Separate → ns.gidMap.PairsOff Gid.val ns.toGid? ns.ofGid ∧
      ∀ ns' : UserNamespace, ns'.gidMap.extents.Perm ns.gidMap.extents →
        ns'.toGid? = ns.toGid? ∧ ns'.ofGid = ns.ofGid) := by
  have users (id : UInt32) (x : Uid) : Uid.mk id = x ↔ id = x.val :=
    ⟨fun same => same ▸ rfl, fun same => same ▸ rfl⟩
  have groups (id : UInt32) (x : Gid) : Gid.mk id = x ↔ id = x.val :=
    ⟨fun same => same ▸ rfl, fun same => same ▸ rfl⟩
  constructor
  · refine fun separate => ⟨separate.pairsOff users, fun ns' perm => ⟨?_, ?_⟩⟩
    · funext id
      rw [toUid?, separate.toKernel?_perm perm, toUid?]
    · funext uid
      rw [ofUid, separate.ofKernel_perm perm, ofUid]
  · refine fun separate => ⟨separate.pairsOff groups, fun ns' perm => ⟨?_, ?_⟩⟩
    · funext id
      rw [toGid?, separate.toKernel?_perm perm, toGid?]
    · funext gid
      rw [ofGid, separate.ofKernel_perm perm, ofGid]

/-- Three extents, of which one runs past the largest name and one past the largest kernel
identifier. -/
def brimming : IdMap := ⟨[⟨0, 100000, 1000⟩, ⟨4294967290, 0, 100⟩, ⟨2000, 4294967294, 10⟩]⟩

/-- The largest name stands for user five, and user six has no name. The largest user has one, and
the name after it stands for nobody. Nothing changes if the extents are listed the other way
round. -/
theorem names_paired_brimming :
    let ns : UserNamespace := .child 0 .initial ⟨0⟩ brimming ⟨[]⟩
    let ns' : UserNamespace := .child 1 .initial ⟨0⟩ ⟨brimming.extents.reverse⟩ ⟨[]⟩
    ns.uidMap.Separate ∧ ns.toUid? 4294967295 = some ⟨5⟩ ∧ ns.ofUid ⟨5⟩ = 4294967295 ∧
      ns.ofUid ⟨6⟩ = 65534 ∧ ns.toUid? 2001 = some ⟨4294967295⟩ ∧ ns.toUid? 2002 = none ∧
      ns'.toUid? = ns.toUid? ∧ ns'.ofUid = ns.ofUid := by
  intro ns ns'
  have apart {s t : Span} (ends : s.stop ≤ t.start ∨ t.stop ≤ s.start) (n : Nat) :
      ¬ (s.Contains n ∧ t.Contains n) := by
    rintro ⟨⟨_, _⟩, ⟨_, _⟩⟩
    omega
  have separate : ns.uidMap.Separate :=
    IdMap.separate_of_disjoint (List.Pairwise.imp apart (by decide))
      (List.Pairwise.imp apart (by decide))
  obtain ⟨paired, ordered⟩ := (names_paired ns).1 separate
  have largest : ns.toUid? 4294967295 = some ⟨5⟩ := by decide
  have unnamed : ∀ id, ns.toUid? id ≠ some ⟨6⟩ := by
    intro id named
    obtain ⟨e, member, i, bound, source, target⟩ := (paired.carried id ⟨6⟩).mp named
    have word := id.toNat_lt
    simp only [ns, uidMap, brimming, List.mem_cons, List.not_mem_nil, or_false] at member
    rcases member with rfl | rfl | rfl <;> simp only [UInt32.reduceToNat] at source target bound <;>
      omega
  obtain ⟨meanings, names⟩ := ordered ns' (List.reverse_perm _)
  exact ⟨separate, largest, paired.back _ _ largest, paired.unnamed _ unnamed, by decide, by decide,
    meanings, names⟩

end UserNamespace

end SharedMemory
