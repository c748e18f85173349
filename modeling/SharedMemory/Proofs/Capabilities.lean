import SharedMemory.Kernel.Basic

/-!
# Where capabilities hold

User namespaces are nested, and each lies within itself and within all that are around it
(`UserNamespace.Within`). Whether credentials hold a capability in a namespace is found by walking
outwards from there. The walk can only succeed by coming to the namespace that the credentials live
in; on the way it looks at the owner of the last namespace before that one, who holds everything.

Namespaces are told apart by when they were made, so two that were made alike are two
(`Kernel.Nests.nodup`).
-/

namespace SharedMemory

private theorem Capabilities.Includes.trans {a b c : Capabilities} (first : a.Includes b)
    (second : b.Includes c) : a.Includes c := by
  simp only [Includes] at *
  rw [← second, ← UInt64.and_assoc, first]

namespace UserNamespace

variable {ns inner outer parent : UserNamespace}

/-- A namespace lies within itself, and within all that its parent lies within. -/
inductive Within : UserNamespace → UserNamespace → Prop
  | refl (ns : UserNamespace) : Within ns ns
  | step {ns parent outer : UserNamespace} (nested : ns.parent? = some parent)
      (inside : Within parent outer) : Within ns outer

/-- The number of namespaces around a namespace. -/
def depth : UserNamespace → Nat
  | initial => 0
  | child _ parent _ _ _ => parent.depth + 1

private theorem depth_of_parent? (nested : ns.parent? = some parent) :
    ns.depth = parent.depth + 1 := by
  cases ns with
  | initial => cases nested
  | child =>
      cases nested
      rfl

private theorem Within.depth_le (within : ns.Within outer) : outer.depth ≤ ns.depth := by
  induction within with
  | refl => exact Nat.le_refl _
  | step nested _ ih =>
      rw [depth_of_parent? nested]
      exact Nat.le_succ_of_le ih

/-- A namespace lies within all that those lie within that it lies within. -/
theorem Within.trans (first : inner.Within ns) (second : ns.Within outer) : inner.Within outer := by
  induction first with
  | refl => exact second
  | step nested _ ih => exact .step nested (ih second)

/-- No namespace lies within one that is nested in it. -/
theorem not_within_of_parent? (nested : inner.parent? = some parent) : ¬ parent.Within inner := by
  intro within
  have := within.depth_le
  have := depth_of_parent? nested
  omega

/-- No two namespaces lie within each other. -/
theorem Within.antisymm (first : ns.Within outer) (second : outer.Within ns) : ns = outer := by
  cases first with
  | refl => rfl
  | step nested inside => exact (not_within_of_parent? nested (inside.trans second)).elim

private theorem within_initial : initial.Within outer ↔ outer = initial := by
  constructor
  · intro within
    cases within with
    | refl => rfl
    | step nested => cases nested
  · intro same
    rw [same]
    exact .refl _

/-- The namespaces around another one are that one and those around its parent. -/
theorem within_of_parent? (nested : ns.parent? = some parent) :
    ns.Within outer ↔ outer = ns ∨ parent.Within outer := by
  constructor
  · intro within
    cases within with
    | refl => exact .inl rfl
    | step nested' inside =>
        cases nested.symm.trans nested'
        exact .inr inside
  · intro cases
    rcases cases with same | inside
    · rw [same]
      exact .refl _
    · exact .step nested inside

end UserNamespace

namespace Credentials

open UserNamespace

variable {c : Credentials} {capability more : Capabilities} {ns inner : UserNamespace}

/-- The credentials are the owner's of a namespace that a namespace lies within, and live in the
one around it. -/
def OwnsAround (c : Credentials) (ns : UserNamespace) : Prop :=
  ∃ n, ns.Within n ∧ n.parent? = some c.userNs ∧ n.owner = c.uid

/-- Nobody owns a namespace around the one that they live in. -/
theorem not_ownsAround_self : ¬ c.OwnsAround c.userNs := by
  intro owns
  obtain ⟨n, inside, nested, _⟩ := owns
  exact not_within_of_parent? nested inside

private theorem ownsAround_of_parent? {parent : UserNamespace} (nested : ns.parent? = some parent) :
    c.OwnsAround ns ↔ (parent = c.userNs ∧ ns.owner = c.uid) ∨ c.OwnsAround parent := by
  constructor
  · intro owns
    obtain ⟨n, inside, around, owner⟩ := owns
    rcases (within_of_parent? nested).mp inside with same | further
    · subst same
      exact .inl ⟨Option.some.inj (nested.symm.trans around), owner⟩
    · exact .inr ⟨n, further, around, owner⟩
  · intro cases
    rcases cases with ⟨home, owner⟩ | ⟨n, inside, around, owner⟩
    · exact ⟨ns, .refl ns, nested.trans (congrArg some home), owner⟩
    · exact ⟨n, .step nested inside, around, owner⟩

/-- What the walk outwards decides. -/
theorem hasCapabilityIn_iff : c.hasCapabilityIn capability ns = true ↔
    ns.Within c.userNs ∧ (c.capabilities.Includes capability ∨ c.OwnsAround ns) := by
  induction ns with
  | initial =>
      have unowned : ¬ c.OwnsAround .initial := by
        intro owns
        obtain ⟨n, inside, nested, _⟩ := owns
        rw [within_initial.mp inside] at nested
        cases nested
      simp only [hasCapabilityIn, Bool.and_eq_true, decide_eq_true_eq, within_initial, unowned,
        or_false]
  | child serial parent owner uidMap gidMap ih =>
      have nested : (child serial parent owner uidMap gidMap).parent? = some parent := rfl
      rw [hasCapabilityIn]
      split
      case isTrue home =>
        -- The walk is over where it began, and nobody owns the namespace from outside.
        have unowned : ¬ c.OwnsAround c.userNs := not_ownsAround_self
        rw [← home, decide_eq_true_eq]
        simp only [Within.refl, unowned, or_false, true_and]
      case isFalse elsewhere =>
        rw [within_of_parent? nested, ownsAround_of_parent? nested]
        split
        case isTrue owned =>
          rw [Bool.and_eq_true, decide_eq_true_eq, decide_eq_true_eq] at owned
          rw [owned.1]
          exact iff_of_true rfl ⟨.inr (.refl _), .inr (.inl ⟨rfl, owned.2.symm⟩)⟩
        case isFalse unowned =>
          rw [Bool.and_eq_true, decide_eq_true_eq, decide_eq_true_eq] at unowned
          have foreign : ¬ (parent = c.userNs ∧ owner = c.uid) := fun owned =>
            unowned ⟨owned.1.symm, owned.2.symm⟩
          rw [ih]
          simp only [elsewhere, UserNamespace.owner, foreign, false_or]

/-- A capability in a namespace is one in all that lie within it. -/
theorem hasCapabilityIn_of_within (held : c.hasCapabilityIn capability ns = true)
    (within : inner.Within ns) : c.hasCapabilityIn capability inner = true := by
  obtain ⟨inside, grounds⟩ := hasCapabilityIn_iff.mp held
  refine hasCapabilityIn_iff.mpr ⟨within.trans inside, grounds.imp id fun owns => ?_⟩
  obtain ⟨n, around, nested, owner⟩ := owns
  exact ⟨n, within.trans around, nested, owner⟩

private theorem hasCapabilityIn_mono (held : c.hasCapabilityIn capability ns = true)
    (includes : more.Includes c.capabilities) :
    { c with capabilities := more }.hasCapabilityIn capability ns = true := by
  obtain ⟨inside, grounds⟩ := hasCapabilityIn_iff.mp held
  exact hasCapabilityIn_iff.mpr ⟨inside, grounds.imp includes.trans id⟩

/-- There is no capability in a namespace that does not lie within that of the credentials. -/
theorem hasCapabilityIn_eq_false (outside : ¬ ns.Within c.userNs) :
    c.hasCapabilityIn capability ns = false := by
  apply Bool.eq_false_iff.mpr
  intro held
  exact outside (hasCapabilityIn_iff.mp held).1

end Credentials

namespace Kernel

open UserNamespace

variable {k : Kernel} {tree : List UserNamespace}

/-- The user namespaces that a kernel has: the initial one, and all that were made since, each in
one that was there. -/
inductive Nests : Kernel → List UserNamespace → Prop
  | start {k : Kernel} (none : k.userNamespaces = 0) : Nests k [.initial]
  | make {k : Kernel} {tree : List UserNamespace} {parent : UserNamespace} (before : Nests k tree)
      (stands : parent ∈ tree) (owner : Uid) (uidMap gidMap : IdMap) :
      Nests (k.makeUserNamespace parent owner uidMap gidMap).2
        ((k.makeUserNamespace parent owner uidMap gidMap).1 :: tree)
  /-- Something else is done. -/
  | keep {k k' : Kernel} {tree : List UserNamespace} (before : Nests k tree)
      (same : k'.userNamespaces = k.userNamespaces) : Nests k' tree

private theorem Nests.serial_lt (nests : k.Nests tree) {serial : Nat} {parent : UserNamespace}
    {owner : Uid} {uidMap gidMap : IdMap} (member : .child serial parent owner uidMap gidMap ∈ tree)
    : serial < k.userNamespaces := by
  induction nests with
  | start => cases List.mem_singleton.mp member
  | @make k tree parent before stands owner uidMap gidMap ih =>
      rcases List.mem_cons.mp member with new | old
      · cases new
        exact Nat.lt_succ_self _
      · exact Nat.lt_succ_of_lt (ih old)
  | keep _ same ih =>
      rw [same]
      exact ih member

/-- Every namespace that is made is a new one, whatever it is made like. -/
theorem Nests.nodup (nests : k.Nests tree) : tree.Nodup := by
  induction nests with
  | start => exact List.pairwise_singleton _ _
  | make before stands owner uidMap gidMap ih =>
      refine List.nodup_cons.mpr ⟨fun member => ?_, ih⟩
      exact Nat.lt_irrefl _ (before.serial_lt member)
  | keep _ _ ih => exact ih

private theorem Nests.parent_mem (nests : k.Nests tree) {ns parent : UserNamespace}
    (member : ns ∈ tree) (nested : ns.parent? = some parent) : parent ∈ tree := by
  induction nests with
  | start =>
      rw [List.mem_singleton.mp member] at nested
      cases nested
  | make before stands owner uidMap gidMap ih =>
      apply List.mem_cons_of_mem
      rcases List.mem_cons.mp member with new | old
      · rw [new] at nested
        cases nested
        exact stands
      · exact ih old
  | keep _ _ ih => exact ih member

private theorem Nests.mem_of_within (nests : k.Nests tree) {ns outer : UserNamespace}
    (member : ns ∈ tree) (within : ns.Within outer) : outer ∈ tree := by
  induction within with
  | refl => exact member
  | step nested _ ih => exact ih (nests.parent_mem member nested)

/-- Where capabilities hold. In every tree of user namespaces, in which namespaces that were made
alike are still two, credentials hold a capability in a namespace exactly if it lies within the
namespace that they live in, and they either have the capability or are the owner's of the
namespace through which it does so. So what is held in a namespace is held in all within it, more
capabilities never take anything away, and credentials that live further in, or in another branch,
hold nothing, whoever they are. -/
theorem capability_scope (nests : k.Nests tree) :
    tree.Nodup ∧ ∀ c : Credentials, c.userNs ∈ tree → ∀ capability, ∀ ns ∈ tree,
      (c.hasCapabilityIn capability ns = true ↔ ns.Within c.userNs ∧
        (c.capabilities.Includes capability ∨
          ∃ n ∈ tree, ns.Within n ∧ n.parent? = some c.userNs ∧ n.owner = c.uid)) ∧
      (c.hasCapabilityIn capability ns = true →
        (∀ inner ∈ tree, inner.Within ns → c.hasCapabilityIn capability inner = true) ∧
        ∀ more : Capabilities, more.Includes c.capabilities →
          { c with capabilities := more }.hasCapabilityIn capability ns = true) ∧
      (c.userNs.Within ns → c.userNs ≠ ns → c.hasCapabilityIn capability ns = false) ∧
      (¬ ns.Within c.userNs → c.hasCapabilityIn capability ns = false) := by
  refine ⟨nests.nodup, fun c _ capability ns member => ⟨?_, fun held => ⟨?_, ?_⟩, ?_, ?_⟩⟩
  · have owns : c.OwnsAround ns ↔
        ∃ n ∈ tree, ns.Within n ∧ n.parent? = some c.userNs ∧ n.owner = c.uid := by
      constructor
      · intro owns
        obtain ⟨n, around, rest⟩ := owns
        exact ⟨n, nests.mem_of_within member around, around, rest⟩
      · intro owns
        obtain ⟨n, _, around, rest⟩ := owns
        exact ⟨n, around, rest⟩
    rw [Credentials.hasCapabilityIn_iff, owns]
  · intro inner _ within
    exact Credentials.hasCapabilityIn_of_within held within
  · intro more includes
    exact Credentials.hasCapabilityIn_mono held includes
  · intro deeper other
    exact Credentials.hasCapabilityIn_eq_false fun within => other (deeper.antisymm within)
  · exact Credentials.hasCapabilityIn_eq_false

/-- Of two namespaces that were made alike, the first has another one in it. Their owner, who lives
around both, holds everything in the innermost but nothing outside. The superuser of the second
namespace holds nothing in the innermost, nor does that one's superuser in the first. -/
theorem capability_scope_twins :
    let first : UserNamespace := .child 0 .initial ⟨1000⟩ .identity .identity
    let second : UserNamespace := .child 1 .initial ⟨1000⟩ .identity .identity
    let innermost : UserNamespace := .child 2 first ⟨5⟩ .identity .identity
    let owner : Credentials := .plain ⟨1000⟩ ⟨1000⟩ .initial
    ({ userNamespaces := 3 } : Kernel).Nests [innermost, second, first, .initial] ∧
      owner.hasCapabilityIn .sysAdmin innermost = true ∧
      owner.hasCapabilityIn .sysAdmin .initial = false ∧
      (Credentials.superuser second).hasCapabilityIn .sysAdmin innermost = false ∧
      (Credentials.superuser innermost).hasCapabilityIn .sysAdmin first = false := by
  intro first second innermost owner
  have start : ({} : Kernel).Nests [.initial] := .start rfl
  have one : ({ userNamespaces := 1 } : Kernel).Nests [first, .initial] :=
    start.make (by simp) ⟨1000⟩ .identity .identity
  have two : ({ userNamespaces := 2 } : Kernel).Nests [second, first, .initial] :=
    one.make (by simp) ⟨1000⟩ .identity .identity
  have nests : ({ userNamespaces := 3 } : Kernel).Nests [innermost, second, first, .initial] :=
    two.make (by simp) ⟨5⟩ .identity .identity
  have inside : innermost.Within first := .step rfl (.refl first)
  have outermost : innermost.Within .initial := inside.trans (.step rfl (.refl .initial))
  have apart : ¬ innermost.Within second := by
    have outer : first.parent? = some .initial := rfl
    have nested : innermost.parent? = some first := rfl
    rw [within_of_parent? nested, within_of_parent? outer, within_initial]
    simp [first, second, innermost]
  obtain ⟨_, scope⟩ := capability_scope nests
  refine ⟨nests, ?_, ?_, ?_, ?_⟩
  · apply (scope owner (by simp [owner, Credentials.plain]) .sysAdmin innermost (by simp)).1.mpr
    exact ⟨outermost, .inr ⟨first, by simp, inside, rfl, rfl⟩⟩
  · apply Bool.eq_false_iff.mpr
    intro held
    obtain ⟨_, has | ⟨n, _, around, nested, _⟩⟩ :=
      (scope owner (by simp [owner, Credentials.plain]) .sysAdmin .initial (by simp)).1.mp held
    · exact absurd has (by decide)
    · exact not_within_of_parent? nested around
  · exact (scope (.superuser second) (by simp [Credentials.superuser]) .sysAdmin innermost
      (by simp)).2.2.2 apart
  · refine (scope (.superuser innermost) (by simp [Credentials.superuser]) .sysAdmin first
      (by simp)).2.2.1 inside ?_
    simp [Credentials.superuser, innermost, first]

end Kernel

end SharedMemory
