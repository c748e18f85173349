import SharedMemory.AddressSpace.Basic

/-!
# Page faults

A fault in an area asks the object for the page at fault and, while at it, for all that
the area maps. The pages of whatever is located are established.
-/

namespace SharedMemory

/-- The number of pages that a located part covers, the last one possibly not in full. -/
def Location.pageCount (l : Location) : Nat := (l.source.size + (pageSize - 1)) / pageSize

namespace Area

/-- The bytes of the object that the page of an address needs. -/
def requiredAt (v : Area) (address : Nat) : Span :=
  .ofSize (v.offset + (pageDown address - v.span.start)) pageSize

/-- The bytes of the object that the area maps. -/
def mappedBytes (v : Area) : Span := .ofSize v.offset v.span.size

/-- The address at which the area maps the start of a located part. -/
def addressOf (v : Area) (l : Location) : Nat := v.span.start + (l.source.start - v.offset)

/-- The pages that a located part establishes. -/
def pagesOf (v : Area) (l : Location) : List (Nat × Page) :=
  (List.range l.pageCount).map fun i =>
    (v.addressOf l + i * pageSize, ⟨l.address + i * pageSize, v.perms⟩)

/-- Whether a located part establishes the page at an address. -/
def Establishes (v : Area) (l : Location) (address : Nat) : Prop :=
  v.addressOf l ≤ address ∧ address < v.addressOf l + l.pageCount * pageSize ∧
    (address - v.addressOf l) % pageSize = 0

instance (v : Area) (l : Location) (address : Nat) : Decidable (v.Establishes l address) :=
  inferInstanceAs (Decidable (_ ∧ _))

end Area

namespace AddressSpace

/-- The area in which an access faults, if it is one that the area allows. -/
def faultingArea? (a : AddressSpace) (address : Nat) (access : Access) : Option Area :=
  (a.areaAt? address).filter (·.perms.allows access)

/-- Establishes the pages of one located part, in place of those that were there. -/
def establish (a : AddressSpace) (v : Area) (l : Location) : AddressSpace :=
  { a with
    pages := v.pagesOf l ++ a.pages.filter fun entry => ¬ v.Establishes l entry.1 }

/-- Establishes the pages of located parts one after the other. -/
def establishAll (a : AddressSpace) (v : Area) (ls : List Location) : AddressSpace :=
  ls.foldl (fun a l => a.establish v l) a

end AddressSpace

end SharedMemory
