import SharedMemory.AddressSpace.Effect

/-!
# Address spaces

An `AddressSpace` is a range of addresses with the areas mapped in it, in ascending
order, and the pages established so far. Lookups go by the area before an address:
since areas do not overlap, no other can hold it.
-/

namespace SharedMemory

/-- Where a page is, and what may be done with it. -/
structure Page where
  frame : Nat
  perms : Access
deriving DecidableEq

/-- The mappings of a process. -/
structure AddressSpace where
  /-- The addresses that may be mapped. -/
  range : Span
  /-- The mapped areas in ascending order. -/
  areas : List Area
  /-- The established pages by their addresses. -/
  pages : List (Nat × Page)

namespace AddressSpace

/-- An address space without mappings. -/
def empty (range : Span) : AddressSpace := ⟨range, [], []⟩

/-! ## Lookup -/

/-- The last area that starts at or before an address. -/
def lastFrom? (a : AddressSpace) (address : Nat) : Option Area :=
  (a.areas.takeWhile (·.span.start ≤ address)).getLast?

/-- The area that holds an address. -/
def areaAt? (a : AddressSpace) (address : Nat) : Option Area :=
  (a.lastFrom? address).filter (·.span.Contains address)

/-- The area that starts at an address. -/
def areaFrom? (a : AddressSpace) (start : Nat) : Option Area :=
  a.areas.find? (·.span.start = start)

/-- Whether a span meets no area: the last area that starts before its end ends before
its start. -/
def isFree (a : AddressSpace) (s : Span) : Bool :=
  (a.areas.takeWhile (·.span.start < s.stop)).getLast?.all (·.span.stop ≤ s.start)

/-- Whether some area meets the `length` bytes from an address on. -/
def overlaps (a : AddressSpace) (address length : Nat) : Bool :=
  !a.isFree ⟨address, addSaturating address length⟩

/-- The page that is established at an address. -/
def page? (a : AddressSpace) (address : Nat) : Option Page :=
  (a.pages.find? (·.1 = address)).map (·.2)

/-- The memory that an address is mapped to, if its page is established. -/
def resolve? (a : AddressSpace) (address : Nat) : Option Nat :=
  (a.page? (pageDown address)).map fun page =>
    page.frame + (address - pageDown address)

/-! ## Placement -/

/-- The lowest address from `cursor` on with `length` free bytes before the next area,
or before `limit` where no area is left. -/
def lowestGap? (length limit : Nat) : (cursor : Nat) → List Area → Option Nat
  | cursor, [] => if length ≤ limit - cursor then some cursor else none
  | cursor, v :: rest =>
      if cursor ≤ v.span.start ∧ length ≤ v.span.start - cursor then some cursor
      else lowestGap? length limit (max cursor v.span.stop) rest

/-- A hint is taken if it is the start of a page from which `length` bytes are free and
in range. -/
def TakesHint (a : AddressSpace) (hint length : Nat) : Prop :=
  hint ≠ 0 ∧ PageAligned hint ∧ hint + length < wordSize ∧ a.range.start ≤ hint ∧
    hint + length ≤ a.range.stop ∧ a.isFree (.ofSize hint length) = true

instance (a : AddressSpace) (hint length : Nat) : Decidable (a.TakesHint hint length) :=
  inferInstanceAs (Decidable (_ ∧ _))

/-- Where a mapping of `length` bytes goes that may go anywhere: to the hint if it
serves, and to the lowest gap otherwise. -/
def place? (a : AddressSpace) (hint length : Nat) : Option Nat :=
  if a.TakesHint hint length then some hint
  else lowestGap? length a.range.stop a.range.start a.areas

/-! ## Change -/

/-- Adds an area in ascending order. -/
def insertArea (v : Area) : List Area → List Area
  | [] => [v]
  | w :: rest =>
      if v.span.start < w.span.start then v :: w :: rest
      else if v.span.start = w.span.start then v :: rest
      else w :: insertArea v rest

/-- Maps an area. -/
def map (a : AddressSpace) (v : Area) : AddressSpace :=
  { a with areas := insertArea v a.areas }

/-- Unmaps a span: areas lose it, and so do the established pages. -/
def unmap (a : AddressSpace) (s : Span) : AddressSpace :=
  { a with
    areas := a.areas.flatMap (·.without s)
    pages := a.pages.filter fun entry => ¬ s.Contains entry.1 }

/-- What unmapping a span does to the objects, area by area in ascending order. -/
def unmapEffects (a : AddressSpace) (s : Span) : List Effect :=
  a.areas.flatMap (·.effects s)

/-- The spans that detaching `object` from `window` unmaps: of each area of the object
that starts there, what lies within. -/
def piecesWithin (a : AddressSpace) (object : Object) (window : Span) : List Span :=
  (a.areas.filter fun v => window.Contains v.span.start ∧ v.object = object).map fun v =>
    ⟨v.span.start, min v.span.stop window.stop⟩

end AddressSpace

end SharedMemory
