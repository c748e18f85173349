import SharedMemory.Proofs.IdMaps
import SharedMemory.Proofs.World

/-!
# Reading and writing a segment's owner

A new owner is named in the namespace of whoever gives it, and a report names the owner in the
namespace of whoever asks. Where the names of a namespace are unambiguous (`IdMap.Separate`) the
two undo each other, also for the mode, whose destruction bit is shown and never taken over
(`Kernel.owner_read_back`).
-/

namespace SharedMemory

/-! ## Modes -/

namespace Access

/-- Of a number its three low bits count. -/
theorem bits_ofBits (n : Nat) : (ofBits n).bits = n % 8 := by
  simp only [bits, ofBits, Nat.toNat_testBit]
  omega

end Access

namespace Permissions

/-- Of a mode its nine low bits count. -/
theorem toMode_ofMode (mode : Nat) : (ofMode mode).toMode = mode &&& 0o777 := by
  rw [Nat.and_two_pow_sub_one_eq_mod mode 9, toMode, ofMode]
  simp only [Access.bits_ofBits, Nat.shiftRight_eq_div_pow]
  omega

/-- The destruction bit says nothing of permissions. -/
theorem ofMode_add_destructionBit (mode : Nat) : ofMode (mode + destructionBit) = ofMode mode := by
  have same : (ofMode (mode + destructionBit)).toMode = (ofMode mode).toMode := by
    rw [toMode_ofMode, toMode_ofMode, Nat.and_two_pow_sub_one_eq_mod _ 9,
      Nat.and_two_pow_sub_one_eq_mod _ 9]
    exact Nat.add_mod_right mode destructionBit
  calc
    ofMode (mode + destructionBit) = ofMode (ofMode (mode + destructionBit)).toMode :=
      (ofMode_toMode _).symm
    _ = ofMode (ofMode mode).toMode := by rw [same]
    _ = ofMode mode := ofMode_toMode _

end Permissions

namespace Segment

variable {g g' : Segment} {q : Requester} {uid gid : UInt32} {mode : Nat} {cause : Errno}

/-- What is reported of the segment to whoever of a namespace may read it. -/
def shownIn (g : Segment) (ns : UserNamespace) : SegmentStatus where
  key := g.key
  uid := ns.ofUid g.owner.uid
  gid := ns.ofGid g.owner.gid
  creatorUid := ns.ofUid g.creator.uid
  creatorGid := ns.ofGid g.creator.gid
  mode := g.perms.toMode + if g.lifetime = .pending then destructionBit else 0
  sequence := 0
  size := g.size
  attachTime := signed 64 g.attachTime.seconds
  detachTime := signed 64 g.detachTime.seconds
  changeTime := signed 64 g.changeTime.seconds
  creatorPid := signed 32 g.creatorPid.toNat
  lastPid := signed 32 g.lastPid.toNat
  attachCount := g.attachCount

private theorem status_eq (g : Segment) (c : Credentials) :
    g.status c = if g.permits c .readOnly then .ok (g.shownIn c.userNs) else .error .eacces := rfl

/-- A segment that was given an owner. -/
def givenTo (g : Segment) (owner : Owner) (mode : Nat) (now : Option Instant) : Segment :=
  { g with perms := .ofMode mode, owner, changeTime := now.getD g.changeTime }

/-- An owner is given by an owner, who can name it. -/
theorem setOwner_eq_ok_iff :
    g.setOwner q uid gid mode = .ok g' ↔
      g.ownedBy q.credentials = true ∧ ∃ owner : Owner,
        q.credentials.userNs.toUid? uid = some owner.uid ∧
        q.credentials.userNs.toGid? gid = some owner.gid ∧ g' = g.givenTo owner mode q.now := by
  unfold setOwner
  constructor
  · intro granted
    split at granted
    case isTrue owned =>
      split at granted
      case h_1 user group named named' =>
        cases granted
        exact ⟨owned, ⟨user, group⟩, named, named', rfl⟩
      case h_2 => cases granted
    case isFalse => cases granted
  · intro granted
    obtain ⟨owned, owner, user, group, rfl⟩ := granted
    rw [if_pos owned, user, group]
    rfl

/-- Whoever is refused is not an owner or names nobody. -/
theorem setOwner_eq_error (refused : g.setOwner q uid gid mode = .error cause) :
    (cause = .eperm ∧ g.ownedBy q.credentials = false) ∨
      (cause = .einval ∧ g.ownedBy q.credentials = true ∧
        (q.credentials.userNs.toUid? uid = none ∨ q.credentials.userNs.toGid? gid = none)) := by
  unfold setOwner at refused
  split at refused
  case isTrue owned =>
    split at refused
    case h_1 => cases refused
    case h_2 unnamed =>
      cases refused
      refine .inr ⟨rfl, owned, ?_⟩
      cases user : q.credentials.userNs.toUid? uid with
      | none => exact .inl rfl
      | some user' =>
          cases group : q.credentials.userNs.toGid? gid with
          | none => exact .inr rfl
          | some group' => exact (unnamed user' group' user group).elim
  case isFalse stranger =>
    cases refused
    exact .inl ⟨rfl, Bool.eq_false_iff.mpr stranger⟩

/-- The permissions in the mode that is reported are those of the segment. -/
theorem ofMode_shownIn (g : Segment) (ns : UserNamespace) :
    Permissions.ofMode (g.shownIn ns).mode = g.perms := by
  simp only [shownIn]
  split
  case isTrue => rw [Permissions.ofMode_add_destructionBit, Permissions.ofMode_toMode]
  case isFalse => rw [Nat.add_zero, Permissions.ofMode_toMode]

/-- Of a segment that was given an owner, the owner is reported as it was named. -/
theorem shownIn_givenTo {ns : UserNamespace} {owner : Owner} (users : ns.uidMap.Separate)
    (groups : ns.gidMap.Separate) (user : ns.toUid? uid = some owner.uid)
    (group : ns.toGid? gid = some owner.gid) (now : Option Instant) :
    (g.givenTo owner mode now).shownIn ns = { g.shownIn ns with
      uid, gid
      mode := (mode &&& 0o777) + if g.lifetime = .pending then destructionBit else 0
      changeTime := signed 64 (now.getD g.changeTime).seconds } := by
  simp only [shownIn, givenTo, Permissions.toMode_ofMode, UserNamespace.ofUid_of_toUid? users user,
    UserNamespace.ofGid_of_toGid? groups group]
  rfl

/-- An owner that has a name is given the segment under the name and the mode that are reported, and
the segment is as it was. -/
theorem givenTo_shownIn (g : Segment) (ns : UserNamespace) (now : Option Instant) :
    g.givenTo g.owner (g.shownIn ns).mode now =
      { g with changeTime := now.getD g.changeTime } := by
  rw [givenTo, ofMode_shownIn]

end Segment

namespace Kernel

variable {k k' : Kernel} {s : Handle .segment} {g : Segment} {q : Requester}

/-- What is done with the segment under a handle is done with the one that is there. -/
theorem orStuck_of_get? {α : Type} {f : Segment → KernelM α} (found : k.segments.get? s = some g) :
    (get >>= fun k => KernelM.orStuck (k.segments.get? s) >>= f) k = f g k := by
  change (KernelM.orStuck (k.segments.get? s) >>= f) k = f g k
  rw [found]
  rfl

private theorem segmentStatus_of_get? (found : k.segments.get? s = some g) (q : Requester) :
    segmentStatus s q k = if g.permits q.credentials .readOnly then .ok
    (g.shownIn q.credentials.userNs) k else .error .eacces k := by
  rw [segmentStatus, orStuck_of_get? found, Segment.status_eq]
  split <;> rfl

private theorem setSegmentOwner_of_get? (found : k.segments.get? s = some g) (q : Requester)
    (uid gid : UInt32) (mode : Nat) : setSegmentOwner s q uid gid mode k = match g.setOwner q uid
    gid mode with | .ok changed => .ok () (k.setSegment s changed) | .error cause => .error cause k
    := by
  rw [setSegmentOwner, orStuck_of_get? found]
  cases g.setOwner q uid gid mode <;> rfl

/-- What is written of a segment's owner and mode is read back, and what is read can be written back
without a change; all else that is reported stays as it was, but for the time of the change. Whoever
may not write or names nobody changes nothing. -/
theorem owner_read_back {ns : UserNamespace} (found : k.segments.get? s = some g)
    (users : ns.uidMap.Separate) (groups : ns.gidMap.Separate) :
    (∀ q, q.credentials.userNs = ns → g.permits q.credentials .readOnly = true →
      segmentStatus s q k = .ok (g.shownIn ns) k) ∧
    (∀ q uid gid mode k', q.credentials.userNs = ns →
      setSegmentOwner s q uid gid mode k = .ok () k' →
        ∃ g', k'.segments.get? s = some g' ∧ k' = k.setSegment s g' ∧
          ∀ q', q'.credentials.userNs = ns → g'.permits q'.credentials .readOnly = true →
            segmentStatus s q' k' = .ok { g.shownIn ns with
              uid, gid
              mode := (mode &&& 0o777) + if g.lifetime = .pending then destructionBit else 0
              changeTime := signed 64 (q.now.getD g.changeTime).seconds } k') ∧
    (∀ q q' status, q.credentials.userNs = ns → segmentStatus s q k = .ok status k →
      (ns.uidMap.ofKernel? g.owner.uid.val).isSome → (ns.gidMap.ofKernel? g.owner.gid.val).isSome →
        q'.credentials.userNs = ns → g.ownedBy q'.credentials = true →
          setSegmentOwner s q' status.uid status.gid status.mode k =
            .ok () (k.setSegment s { g with changeTime := q'.now.getD g.changeTime })) ∧
    (∀ q uid gid mode cause k', setSegmentOwner s q uid gid mode k = .error cause k' →
      k' = k ∧
        ((cause = .eperm ∧ g.ownedBy q.credentials = false) ∨
          (cause = .einval ∧ g.ownedBy q.credentials = true ∧
            (q.credentials.userNs.toUid? uid = none ∨
              q.credentials.userNs.toGid? gid = none)))) := by
  refine ⟨?_, ?_, ?_, ?_⟩
  · intro q here readable
    rw [segmentStatus_of_get? found, if_pos readable, here]
  · intro q uid gid mode k' here written
    rw [setSegmentOwner_of_get? found] at written
    split at written
    case h_2 => cases written
    case h_1 changed granted =>
      cases written
      obtain ⟨_, owner, user, group, rfl⟩ := Segment.setOwner_eq_ok_iff.mp granted
      rw [here] at user group
      have present := Slots.get?_set_self found (g.givenTo owner mode q.now)
      refine ⟨_, present, rfl, ?_⟩
      intro q' there readable
      rw [segmentStatus_of_get? present, if_pos readable, there,
        Segment.shownIn_givenTo users groups user group]
  · intro q q' status here read user group there owned
    rw [segmentStatus_of_get? found, here] at read
    split at read
    case isFalse => cases read
    case isTrue =>
      cases read
      have granted : g.setOwner q' (g.shownIn ns).uid (g.shownIn ns).gid (g.shownIn ns).mode =
          .ok { g with changeTime := q'.now.getD g.changeTime } := by
        rw [Segment.setOwner_eq_ok_iff, there]
        exact ⟨owned, g.owner, UserNamespace.toUid?_ofUid users user,
          UserNamespace.toGid?_ofGid groups group, (g.givenTo_shownIn ns q'.now).symm⟩
      rw [setSegmentOwner_of_get? found, granted]
  · intro q uid gid mode cause k' refused
    rw [setSegmentOwner_of_get? found] at refused
    split at refused
    case h_1 => cases refused
    case h_2 denied =>
      cases refused
      exact ⟨rfl, Segment.setOwner_eq_error denied⟩

/-- A user of a namespace with two ranges of users gives away a segment that is attached and waits
for its destruction. The new owner is in the other range. Before that, the user writes back what is
reported. -/
theorem owner_read_back_pending :
    let ns : UserNamespace := .child 0 .initial ⟨1000⟩ ⟨[⟨0, 100000, 1000⟩, ⟨5000, 7, 2⟩]⟩
      ⟨[⟨0, 200000, 10⟩]⟩
    let q : Requester := ⟨.plain ⟨100003⟩ ⟨200001⟩ ns, some 9, none⟩
    let k := (({} : World).follow [.makePool 0 4, .makeRegistry .initial ⟨0⟩ {} .handle,
      .findOrCreate ⟨0⟩ q ⟨7, 1, 0o600, false, true, false⟩,
      .attach ⟨0⟩ q 0 ⟨false, false, false⟩, .markDestroyed ⟨0⟩]).kernel
    (∃ k' status, setSegmentOwner ⟨0⟩ q 5001 9 0o7644 k = .ok () k' ∧
      segmentStatus ⟨0⟩ q k' = .ok status k' ∧ status.uid = 5001 ∧ status.gid = 9 ∧
      status.mode = 0o1644 ∧ status.attachCount = 1) ∧
    (∃ k' status, segmentStatus ⟨0⟩ q k = .ok status k ∧ status.uid = 3 ∧ status.mode = 0o1600 ∧
      setSegmentOwner ⟨0⟩ q status.uid status.gid status.mode k = .ok () k') := by
  intro ns q k
  have users : ns.uidMap.Separate := by
    constructor <;>
    · refine List.pairwise_pair.mpr fun id => ?_
      simp only [Extent.inside, Extent.kernel, Span.ofSize, Span.Contains, UInt32.toNat_ofNat]
      omega
  have groups : ns.gidMap.Separate :=
    ⟨List.pairwise_singleton _ _, List.pairwise_singleton _ _⟩
  have present : (k.segments.get? ⟨0⟩).isSome := by decide +kernel
  obtain ⟨g, found⟩ := Option.isSome_iff_exists.mp present
  obtain ⟨read, written, restored, _⟩ := owner_read_back found users groups
  have state : ∀ g ∈ k.segments.get? ⟨0⟩, g.permits q.credentials .readOnly = true ∧
      g.ownedBy q.credentials = true ∧ (ns.uidMap.ofKernel? g.owner.uid.val).isSome ∧
      (ns.gidMap.ofKernel? g.owner.gid.val).isSome ∧ g.lifetime = .pending ∧ g.attachCount = 1 ∧
      (g.shownIn ns).uid = 3 ∧ (g.shownIn ns).mode = 0o1600 := by
    decide +kernel
  obtain ⟨readable, owned, user, group, pending, count, uid, mode⟩ := state g found
  constructor
  · have given : ∃ k', setSegmentOwner ⟨0⟩ q 5001 9 0o7644 k = .ok () k' := by decide +kernel
    have open' : ∀ g' ∈ ((setSegmentOwner ⟨0⟩ q 5001 9 0o7644).after k).segments.get? ⟨0⟩,
        g'.permits q.credentials .readOnly = true := by
      decide +kernel
    obtain ⟨k', given⟩ := given
    obtain ⟨g', found', _, reported⟩ := written q 5001 9 0o7644 k' rfl given
    rw [KernelM.after_of_ok given] at open'
    refine ⟨k', _, given, reported q rfl (open' g' found'), rfl, rfl, ?_, count⟩
    simp [pending, destructionBit]
  · have shown := read q rfl readable
    exact ⟨_, _, shown, uid, mode, restored q q _ rfl shown user group rfl owned⟩

end Kernel

end SharedMemory
