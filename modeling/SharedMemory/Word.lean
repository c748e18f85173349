/-!
# Machine words and pages

Addresses, sizes and offsets are natural numbers below `wordSize`, and memory is
divided into pages of `pageSize` bytes. Sums that could leave the word are either
checked (`addWord?`, `pageUp?`) or saturated (`addSaturating`).
-/

namespace SharedMemory

/-- The bound of a 64-bit word. -/
def wordSize : Nat := 0x10000000000000000

/-- The largest word. -/
def maxWord : Nat := wordSize - 1

/-- The number of bytes in a page. -/
def pageSize : Nat := 4096

/-- A multiple of the page size. -/
def PageAligned (address : Nat) : Prop := address % pageSize = 0

instance (address : Nat) : Decidable (PageAligned address) :=
  inferInstanceAs (Decidable (_ = _))

/-- The start of the page that holds `address`. -/
def pageDown (address : Nat) : Nat := address - address % pageSize

/-- The sum of two words, if it is a word. -/
def addWord? (a b : Nat) : Option Nat :=
  if a + b < wordSize then some (a + b) else none

/-- The sum of two words, capped at the largest word. -/
def addSaturating (a b : Nat) : Nat := min (a + b) maxWord

/-- The least multiple of the page size that is not below `size`, provided the
rounding stays within the word. -/
def pageUp? (size : Nat) : Option Nat :=
  (addWord? size (pageSize - 1)).map pageDown

/-- A page starts at or before each of its addresses. -/
theorem pageDown_le (address : Nat) : pageDown address ≤ address := Nat.sub_le _ _

/-- A page ends behind each of its addresses. -/
theorem lt_pageDown_add (address : Nat) : address < pageDown address + pageSize := by
  have := Nat.mod_lt address (show 0 < pageSize by decide)
  have := Nat.mod_le address pageSize
  simp only [pageDown]
  omega

/-- The start of a page is a multiple of the page size. -/
theorem pageAligned_pageDown (address : Nat) : PageAligned (pageDown address) := by
  simp only [PageAligned, pageDown, pageSize]
  omega

/-- A page that starts at an address is that address's page. -/
theorem pageDown_eq_self {address : Nat} (aligned : PageAligned address) :
    pageDown address = address := by
  simp only [PageAligned] at aligned
  simp [pageDown, aligned]

/-- A checked sum is the sum, and is a word. -/
theorem addWord?_eq_some_iff {a b c : Nat} :
    addWord? a b = some c ↔ c = a + b ∧ a + b < wordSize := by
  simp only [addWord?]
  split <;> simp_all [eq_comm]

/-- Rounding up gives the least whole number of pages that holds the size. -/
theorem pageUp?_eq_some_iff {size rounded : Nat} :
    pageUp? size = some rounded ↔
      size + (pageSize - 1) < wordSize ∧ PageAligned rounded ∧ size ≤ rounded ∧
        rounded < size + pageSize := by
  simp only [pageUp?, Option.map_eq_some_iff, addWord?_eq_some_iff]
  constructor
  · rintro ⟨_, ⟨rfl, fits⟩, rfl⟩
    refine ⟨fits, pageAligned_pageDown _, ?_, ?_⟩ <;>
      simp only [pageDown, pageSize] <;> omega
  · rintro ⟨fits, aligned, lower, upper⟩
    refine ⟨_, ⟨rfl, fits⟩, ?_⟩
    simp only [PageAligned, pageDown, pageSize] at *
    omega

/-- The number read as a two's complement number of `bits` bits. -/
def signed (bits : Nat) (n : Nat) : Int := Int.bmod n (1 <<< bits)

end SharedMemory
