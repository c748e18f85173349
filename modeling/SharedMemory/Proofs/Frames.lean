import Mathlib.Algebra.BigOperators.Group.Multiset.Basic
import Mathlib.Algebra.Group.Nat.Defs
import SharedMemory.FramePool

/-!
# Who owns frames

Frames are handed out in runs. A pool is owned by a collection of runs if every taken frame
lies in exactly one of them and no free frame lies in any (`FramePool.Owned`). Handing out
frames adds the run that is handed out, and giving a run back removes it.
-/

namespace SharedMemory

namespace FramePool

variable {p : FramePool} {first count length : Nat} {span : Span}

/-- The memory of `count` frames from `first` on. -/
def run (p : FramePool) (first count : Nat) : Span :=
  .ofSize (p.base + first * pageSize) (count * pageSize)

/-- A frame that is handed out. -/
def IsTaken (p : FramePool) (frame : Nat) : Prop := p.taken[frame]? = some true

instance (p : FramePool) (frame : Nat) : Decidable (p.IsTaken frame) :=
  inferInstanceAs (Decidable (_ = _))

/-- A span of whole frames of the pool, at least one. -/
def IsRun (p : FramePool) (span : Span) : Prop :=
  ∃ first count, 0 < count ∧ first + count ≤ p.taken.length ∧ span = p.run first count

/-- The address of a frame. -/
def addressOf (p : FramePool) (frame : Nat) : Nat := p.base + frame * pageSize

/-- A run of frames holds the addresses of its frames and no others. -/
theorem contains_run {frame : Nat} :
    (p.run first count).Contains (p.addressOf frame) ↔ first ≤ frame ∧ frame < first + count := by
  simp only [run, addressOf, Span.ofSize, Span.Contains, pageSize]
  omega

/-! ## The search -/

/-- From a frame on as many frames are free as the search counts. -/
theorem free_of_freeRuns {taken : List Bool} {frame free : Nat}
    (found : (freeRuns taken)[frame]? = some free) :
    ∀ i < free, taken[frame + i]? = some false := by
  induction taken generalizing frame free with
  | nil => simp [freeRuns] at found
  | cons busy rest ih =>
      have unfolded : freeRuns (busy :: rest) =
          (if busy then 0 else (freeRuns rest).headD 0 + 1) :: freeRuns rest := rfl
      rw [unfolded] at found
      cases frame with
      | succ frame =>
          intro i inside
          rw [Nat.add_right_comm, List.getElem?_cons_succ]
          exact ih found i inside
      | zero =>
          rw [List.getElem?_cons_zero, Option.some.injEq] at found
          intro i inside
          cases busy with
          | true =>
              simp only [if_true] at found
              omega
          | false =>
              cases i with
              | zero => rfl
              | succ i =>
                  rw [if_neg Bool.false_ne_true] at found
                  cases runs : freeRuns rest with
                  | nil =>
                      simp only [runs, List.headD_nil] at found
                      omega
                  | cons free' runs' =>
                      simp only [runs, List.headD_cons] at found
                      have here : (freeRuns rest)[0]? = some free' := by rw [runs]; rfl
                      simpa using ih here i (by omega)

/-- Whatever the search for frames comes up with is free. -/
theorem free_of_firstFit? (fits : p.firstFit? count = some first) :
    ∀ frame, first ≤ frame → frame < first + count → p.taken[frame]? = some false := by
  intro frame lower upper
  obtain ⟨inside, enough, _⟩ := List.findIdx?_eq_some_iff_getElem.mp fits
  have runs : (freeRuns p.taken)[first]? = some (freeRuns p.taken)[first] :=
    List.getElem?_eq_getElem inside
  have found := free_of_freeRuns runs (frame - first) (by simp at enough; omega)
  rwa [show first + (frame - first) = frame by omega] at found

/-- The search counts every free frame of a run. -/
theorem le_freeRuns {taken : List Bool} {frame : Nat} (positive : 0 < count)
    (free : ∀ i < count, taken[frame + i]? = some false) :
    ∃ run, (freeRuns taken)[frame]? = some run ∧ count ≤ run := by
  induction taken generalizing frame count with
  | nil => simpa using free 0 positive
  | cons busy rest ih =>
      have unfolded : freeRuns (busy :: rest) =
          (if busy then 0 else (freeRuns rest).headD 0 + 1) :: freeRuns rest := rfl
      rw [unfolded]
      cases frame with
      | succ frame =>
          apply ih positive
          intro i inside
          simpa only [Nat.add_right_comm, List.getElem?_cons_succ] using free i inside
      | zero =>
          obtain rfl : busy = false := by simpa using free 0 positive
          refine ⟨_, rfl, ?_⟩
          rw [if_neg Bool.false_ne_true]
          cases count with
          | zero => exact Nat.zero_le _
          | succ more =>
              apply Nat.succ_le_succ
              rcases Nat.eq_zero_or_pos more with rfl | positive
              · exact Nat.zero_le _
              have others : ∀ i < more, rest[0 + i]? = some false := by
                intro i inside
                simpa using free (i + 1) (Nat.succ_lt_succ inside)
              obtain ⟨run, found, enough⟩ := ih positive others
              cases runs : freeRuns rest with
              | nil => simp [runs] at found
              | cons run' _ =>
                  obtain rfl : run' = run := by simpa [runs] using found
                  exact enough

/-- Where enough frames are free in a run, the search finds some. -/
theorem exists_firstFit? (positive : 0 < count)
    (free : ∀ frame, first ≤ frame → frame < first + count → p.taken[frame]? = some false) :
    ∃ lowest, p.firstFit? count = some lowest := by
  obtain ⟨run, found, enough⟩ := le_freeRuns positive fun i inside =>
    free (first + i) (Nat.le_add_right _ _) (Nat.add_lt_add_left inside _)
  have fits : (freeRuns p.taken).any (count ≤ ·) :=
    List.any_eq_true.mpr ⟨run, List.mem_of_getElem? found, decide_eq_true enough⟩
  rw [← List.findIdx?_isSome] at fits
  exact Option.isSome_iff_exists.mp fits

/-- What is handed out: the first free run that is large enough. -/
theorem allocate_eq_ok {taken : FramePool} (allocated : p.allocate length = .ok (span, taken)) :
    0 < length ∧ PageAligned length ∧ ∃ first, p.firstFit? (length / pageSize) = some first ∧
      span = p.run first (length / pageSize) ∧ taken = p.mark first (length / pageSize) true := by
  unfold allocate at allocated
  split at allocated
  case isTrue => cases allocated
  case isFalse proper =>
    obtain ⟨nonzero, aligned⟩ := not_or.mp proper
    have aligned := not_not.mp aligned
    split at allocated
    case h_1 => cases allocated
    case h_2 first fits =>
      cases allocated
      refine ⟨Nat.pos_of_ne_zero nonzero, aligned, first, fits, ?_, rfl⟩
      have whole : length / pageSize * pageSize = length :=
        Nat.div_mul_cancel (Nat.dvd_of_mod_eq_zero aligned)
      rw [run, whole]

/-! ## Marking -/

private theorem taken_mark (inside : first + count ≤ p.taken.length) (busy : Bool) :
    (p.mark first count busy).taken =
      p.taken.take first ++ (List.replicate count busy ++ p.taken.drop (first + count)) := by
  apply List.ext_getElem?
  intro i
  have before : (p.taken.take first).length = first := by
    rw [List.length_take]
    omega
  rw [getElem?_taken_mark, List.getElem?_append, before]
  by_cases early : i < first
  · have outside : ¬ (first ≤ i ∧ i < first + count) := by omega
    simp [early, outside]
  · rw [if_neg early, List.getElem?_append, List.length_replicate]
    by_cases within : i - first < count
    · have range : first ≤ i ∧ i < first + count := by omega
      rw [if_pos within, List.getElem?_replicate_of_lt within,
        List.getElem?_eq_getElem (show i < p.taken.length by omega)]
      simp [range]
    · have outside : ¬ (first ≤ i ∧ i < first + count) := by omega
      rw [if_neg within, List.getElem?_drop, show first + count + (i - first - count) = i by omega]
      simp [outside]

/-- Frames that are all taken or all free are as if they were marked so. -/
theorem mark_eq_self {busy : Bool}
    (uniform : ∀ frame, first ≤ frame → frame < first + count → p.taken[frame]? = some busy) :
    p.mark first count busy = p := by
  obtain ⟨base, taken⟩ := p
  simp only [mark, mk.injEq, true_and]
  apply List.ext_getElem?
  intro i
  rw [List.getElem?_mapIdx]
  by_cases within : first ≤ i ∧ i < first + count
  · rw [uniform i within.1 within.2]
    simp [within]
  · simp [within]

/-- Handing out free frames adds to the bytes that are handed out, and giving frames back
takes from them. -/
theorem usedBytes_mark (busy : Bool) (inside : first + count ≤ p.taken.length)
    (uniform : ∀ frame, first ≤ frame → frame < first + count → p.taken[frame]? = some !busy) :
    (p.mark first count busy).usedBytes + (if busy then 0 else count * pageSize) =
      p.usedBytes + (if busy then count * pageSize else 0) := by
  have old : p.taken = p.taken.take first ++
      (List.replicate count (!busy) ++ p.taken.drop (first + count)) := by
    rw [← taken_mark inside, mark_eq_self uniform]
  have counted : p.taken.count true = (p.taken.take first).count true +
      ((List.replicate count (!busy)).count true + (p.taken.drop (first + count)).count true) := by
    conv_lhs => rw [old, List.count_append, List.count_append]
  rw [usedBytes, usedBytes, counted, taken_mark inside, List.count_append, List.count_append]
  cases busy <;> simp only [List.count_replicate, pageSize] <;> simp <;> omega

/-! ## Ownership -/

/-- Every taken frame lies in exactly one of the claims, and no free frame lies in any. -/
structure Owned (p : FramePool) (claims : Multiset Span) : Prop where
  runs : ∀ span ∈ claims, p.IsRun span
  covered : ∀ frame, claims.countP (·.Contains (p.addressOf frame)) =
    if p.IsTaken frame then 1 else 0
  used : p.usedBytes = (claims.map Span.size).sum

variable {claims : Multiset Span}

/-- A pool of free frames belongs to nobody. -/
theorem owned_free (base frames : Nat) : (free base frames).Owned 0 where
  runs := by simp
  covered := by
    intro frame
    have free : ¬ (FramePool.free base frames).IsTaken frame := by
      simp only [IsTaken, FramePool.free, List.getElem?_replicate]
      split <;> simp
    rw [if_neg free]
    rfl
  used := by simp [usedBytes, FramePool.free, List.count_replicate]

/-- To mark frames changes whether they are taken, and no others. -/
theorem isTaken_mark_iff {frame : Nat} {busy : Bool} (inside : first + count ≤ p.taken.length) :
    (p.mark first count busy).IsTaken frame ↔
      if first ≤ frame ∧ frame < first + count then busy = true else p.IsTaken frame := by
  rw [IsTaken, getElem?_taken_mark]
  by_cases within : first ≤ frame ∧ frame < first + count
  · rw [List.getElem?_eq_getElem (show frame < p.taken.length by omega)]
    simp [within]
  · simp [within, IsTaken]

private theorem IsRun.mark {busy : Bool} (run : p.IsRun span) :
    (p.mark first count busy).IsRun span := by
  obtain ⟨first', count', positive, inside, rfl⟩ := run
  exact ⟨first', count', positive, by rwa [length_taken_mark], rfl⟩

/-- Whole frames of a pool lie in its region. -/
theorem IsRun.inside (run : p.IsRun span) :
    p.region.start ≤ span.start ∧ span.stop ≤ p.region.stop := by
  obtain ⟨first, count, _, inside, rfl⟩ := run
  simp only [region, FramePool.run, Span.ofSize, pageSize]
  omega

/-- What is handed out belongs to whoever gets it, and to nobody before. -/
theorem Owned.allocate {taken : FramePool} (owned : p.Owned claims)
    (allocated : p.allocate length = .ok (span, taken)) : taken.Owned (span ::ₘ claims) := by
  obtain ⟨positive, aligned, first, fits, rfl, rfl⟩ := allocate_eq_ok allocated
  have free := free_of_firstFit? fits
  have some : 0 < length / pageSize := by
    simp only [PageAligned, pageSize] at *
    omega
  generalize length / pageSize = count at *
  have inside : first + count ≤ p.taken.length := by
    obtain ⟨bound, _⟩ := List.getElem?_eq_some_iff.mp (free (first + count - 1) (by omega) (by omega))
    omega
  refine ⟨?_, fun frame => ?_, ?_⟩
  · intro span member
    rcases Multiset.mem_cons.mp member with rfl | member
    · exact IsRun.mark ⟨first, count, some, inside, rfl⟩
    · exact (owned.runs span member).mark
  · have before := owned.covered frame
    rw [Multiset.countP_cons, show (p.mark first count true).addressOf frame = p.addressOf frame from rfl,
      before]
    simp only [contains_run, isTaken_mark_iff inside]
    by_cases within : first ≤ frame ∧ frame < first + count
    · have untaken : ¬ p.IsTaken frame := by simp [IsTaken, free frame within.1 within.2]
      simp [within, untaken]
    · simp [within]
  · have added := usedBytes_mark true inside free
    simp only [if_true, Nat.add_zero] at added
    rw [added, Multiset.map_cons, Multiset.sum_cons, owned.used]
    simp [run, Nat.add_comm]

private theorem release_run : p.release (p.run first count) = p.mark first count false := by
  have start : ((p.run first count).start - p.base) / pageSize = first := by
    rw [run, Span.ofSize, Nat.add_sub_cancel_left, Nat.mul_div_cancel _ (by decide)]
  have size : (p.run first count).size / pageSize = count := by
    rw [run, Span.size_ofSize, Nat.mul_div_cancel _ (by decide)]
  rw [release, start, size]

/-- The frames of a claim are taken, and no other claim has them. -/
theorem Owned.alone (owned : p.Owned (span ::ₘ claims)) (frame : Nat)
    (holds : span.Contains (p.addressOf frame)) :
    p.IsTaken frame ∧ claims.countP (·.Contains (p.addressOf frame)) = 0 := by
  have covered := owned.covered frame
  rw [Multiset.countP_cons, if_pos holds] at covered
  by_cases taken : p.IsTaken frame
  · rw [if_pos taken] at covered
    exact ⟨taken, by omega⟩
  · rw [if_neg taken] at covered
    omega

/-- What is given back belongs to nobody any more. -/
theorem Owned.release (owned : p.Owned (span ::ₘ claims)) : (p.release span).Owned claims := by
  obtain ⟨first, count, _, inside, rfl⟩ := owned.runs span (Multiset.mem_cons_self _ _)
  have alone : ∀ frame, first ≤ frame → frame < first + count →
      p.IsTaken frame ∧ claims.countP (·.Contains (p.addressOf frame)) = 0 :=
    fun frame lower upper => owned.alone frame (contains_run.mpr ⟨lower, upper⟩)
  rw [release_run]
  refine ⟨fun span member => (owned.runs span (Multiset.mem_cons_of_mem member)).mark,
    fun frame => ?_, ?_⟩
  · have before := owned.covered frame
    rw [show (p.mark first count false).addressOf frame = p.addressOf frame from rfl]
    simp only [isTaken_mark_iff inside]
    by_cases within : first ≤ frame ∧ frame < first + count
    · simp [within, (alone frame within.1 within.2).2]
    · rw [Multiset.countP_cons, if_neg (mt contains_run.mp within), Nat.add_zero] at before
      simp [within, before]
  · have taken := usedBytes_mark false inside fun frame lower upper =>
      (alone frame lower upper).1
    have used := owned.used
    rw [Multiset.map_cons, Multiset.sum_cons] at used
    simp only [run, Span.size_ofSize, Bool.false_eq_true, if_false] at taken used
    omega

/-- A frame that somebody claims is taken. -/
theorem Owned.isTaken {frame : Nat} (owned : p.Owned claims) (member : span ∈ claims)
    (holds : span.Contains (p.addressOf frame)) : p.IsTaken frame := by
  obtain ⟨rest, rfl⟩ := Multiset.exists_cons_of_mem member
  exact (owned.alone frame holds).1

/-- The frames that are taken are those that somebody claims. -/
theorem Owned.isTaken_iff {frame : Nat} (owned : p.Owned claims) :
    p.IsTaken frame ↔ ∃ span ∈ claims, span.Contains (p.addressOf frame) := by
  rw [← Multiset.countP_pos, owned.covered frame]
  by_cases taken : p.IsTaken frame <;> simp [taken]

/-- Distinct claims do not meet. -/
theorem Owned.not_meets {span' : Span} (owned : p.Owned (span ::ₘ claims))
    (member : span' ∈ claims) : ¬ span.Meets span' := by
  intro meets
  obtain ⟨first, count, _, _, rfl⟩ := owned.runs span (Multiset.mem_cons_self _ _)
  obtain ⟨first', count', _, _, rfl⟩ := owned.runs span' (Multiset.mem_cons_of_mem member)
  have shared : first < first' + count' ∧ first' < first + count := by
    obtain ⟨left, right⟩ := meets
    simp only [run, Span.ofSize, pageSize] at left right
    omega
  -- The later of the two starts is a frame of both.
  have here := owned.alone (max first first') (contains_run.mpr (by omega))
  have absent := Multiset.countP_eq_zero.mp here.2 _ member
  exact absent (contains_run.mpr (by omega))

/-! ## What a pool keeps -/

private theorem region_mark (p : FramePool) (first count : Nat) (busy : Bool) :
    (p.mark first count busy).region = p.region := by
  rw [region, region, length_taken_mark]
  rfl

/-- A pool keeps its region when frames are given back. -/
theorem region_release (p : FramePool) (span : Span) : (p.release span).region = p.region :=
  region_mark _ _ _ _

/-- A pool keeps its region when frames are taken. -/
theorem region_of_allocate {taken : FramePool} (allocated : p.allocate length = .ok (span, taken)) :
    taken.region = p.region := by
  obtain ⟨_, _, first, _, _, rfl⟩ := allocate_eq_ok allocated
  exact region_mark _ _ _ _

/-- The memory of a pool and the claims on it say which frames are taken. -/
theorem Owned.unique {p' : FramePool} (owned : p.Owned claims) (owned' : p'.Owned claims)
    (same : p'.region = p.region) : p' = p := by
  obtain ⟨base, length⟩ : p'.base = p.base ∧ p'.taken.length = p.taken.length := by
    simp only [region, Span.ofSize, Span.mk.injEq, pageSize] at same
    omega
  have agree (frame : Nat) : p'.IsTaken frame ↔ p.IsTaken frame := by
    have counts := owned'.covered frame
    rw [show p'.addressOf frame = p.addressOf frame by rw [addressOf, addressOf, base],
      owned.covered frame] at counts
    by_cases before : p.IsTaken frame <;> by_cases after : p'.IsTaken frame <;>
      simp [before, after] at counts ⊢
  have taken : p'.taken = p.taken := by
    refine List.ext_getElem length fun i inside' inside => ?_
    have here := agree i
    rw [IsTaken, IsTaken, List.getElem?_eq_getElem inside', List.getElem?_eq_getElem inside,
      Option.some.injEq, Option.some.injEq] at here
    exact Bool.eq_iff_iff.mpr here
  cases p
  cases p'
  exact congrArg₂ FramePool.mk base taken

end FramePool

end SharedMemory
