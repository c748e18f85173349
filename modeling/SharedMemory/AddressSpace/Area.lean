import SharedMemory.Object
import SharedMemory.Word

/-!
# Mapped areas

An `Area` maps a run of addresses to a run of bytes of one object. Unmapping a span
leaves of an area what lies before the span and what lies after it.
-/

namespace SharedMemory

/-- A run of addresses that maps an object. -/
structure Area where
  span : Span
  /-- Where in the object the area starts. -/
  offset : Nat
  perms : Access
  maxPerms : Access
  object : Object
deriving DecidableEq

namespace Area

/-- The part of an area between two of its addresses. -/
def slice (v : Area) (start stop : Nat) : Area :=
  { v with span := ⟨start, stop⟩, offset := v.offset + (start - v.span.start) }

/-- The addresses of an area that lie in a span. -/
def overlap (v : Area) (s : Span) : Span :=
  ⟨max v.span.start s.start, min v.span.stop s.stop⟩

/-- The offset in the object of the first of these addresses. -/
def overlapOffset (v : Area) (s : Span) : Nat :=
  v.offset + ((v.overlap s).start - v.span.start)

/-- What remains of an area before and after a span that meets it. -/
def remains (v : Area) (s : Span) : List Area :=
  let cut := v.overlap s
  (if v.span.start < cut.start then [v.slice v.span.start cut.start] else []) ++
    (if cut.stop < v.span.stop then [v.slice cut.stop v.span.stop] else [])

/-- What remains of an area when a span is unmapped: all of it, unless it meets the
span. -/
def without (v : Area) (s : Span) : List Area :=
  if v.span.Meets s then v.remains s else [v]

end Area

end SharedMemory
