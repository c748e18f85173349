/-!
# Ranges of code points

A property of characters is a list of closed ranges of code points. The ranges of a
table ascend and do not touch, so the list is the shortest one for its property.
-/

namespace SharedMemory

namespace Text

/-- Whether a code point lies in one of the ranges. -/
def inRanges (ranges : List (Nat × Nat)) (code : Nat) : Bool :=
  ranges.any fun range => range.1 ≤ code && code ≤ range.2

/-- The ranges are nonempty, and between two of them something is left out. -/
def ascending : List (Nat × Nat) → Bool
  | [] => true
  | [range] => range.1 ≤ range.2
  | range :: next :: rest =>
    range.1 ≤ range.2 && range.2 + 1 < next.1 && ascending (next :: rest)

/-- In ascending ranges nothing lies below the start of the first. -/
theorem inRanges_eq_false_of_lt {ranges : List (Nat × Nat)} {code : Nat}
    (sorted : ascending ranges = true) (early : ∀ range ∈ ranges.head?, code < range.1) :
    inRanges ranges code = false := by
  induction ranges with
  | nil => rfl
  | cons range rest ih =>
    have before : code < range.1 := early range rfl
    have tail : inRanges rest code = false := by
      cases rest with
      | nil => rfl
      | cons next rest =>
        simp only [ascending, Bool.and_eq_true, decide_eq_true_eq] at sorted
        refine ih sorted.2 fun first same => ?_
        cases same
        omega
    simp only [inRanges, List.any_cons, Bool.or_eq_false_iff] at tail ⊢
    exact ⟨by simp; omega, tail⟩

end Text

end SharedMemory
