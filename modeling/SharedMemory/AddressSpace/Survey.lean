import SharedMemory.AddressSpace.Basic

/-!
# Surveys

What can be seen of an address space by asking for the area at one address after the
other.
-/

namespace SharedMemory

namespace AddressSpace

/-- The areas found with so many questions from an address on: after an area the search
goes on at its end, otherwise at the next page. -/
def surveyFrom (a : AddressSpace) : (questions : Nat) → (address : Nat) → List Span
  | 0, _ => []
  | questions + 1, address =>
      if a.range.stop ≤ address then []
      else
        match a.areaAt? address with
        | some v => v.span :: a.surveyFrom questions v.span.stop
        | none => a.surveyFrom questions (addSaturating address pageSize)

/-- The areas found from the start of the range with 4096 questions. -/
def survey (a : AddressSpace) : List Span := a.surveyFrom 4096 a.range.start

/-- An address space with those of its pages only that lie in a span. -/
def restrictPages (a : AddressSpace) (s : Span) : AddressSpace :=
  { a with pages := a.pages.filter fun entry => s.Contains entry.1 }

/-- The established pages among the first 256 of a span, with where they are. Other pages
are put aside first. -/
def establishedIn (a : AddressSpace) (s : Span) : List (Nat × Nat) :=
  let near := a.restrictPages ⟨pageDown s.start, s.start + 256 * pageSize⟩
  (List.range (min 256 ((s.size + (pageSize - 1)) / pageSize))).filterMap fun i =>
    let address := s.start + i * pageSize
    (near.resolve? address).map fun frame => (address, frame)

end AddressSpace

end SharedMemory
