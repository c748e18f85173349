import SharedMemory.AddressSpace.Area

/-!
# Effects of unmapping

When a span is unmapped, the objects of the areas that meet it are told, and references
to them change hands. The effects of one area come in a fixed order: the object is
told, each remaining piece takes a reference, and the reference of the old area is
given back last.
-/

namespace SharedMemory

/-- One thing that happens to an object when a span is unmapped. -/
inductive Effect where
  /-- The object is told that addresses no longer map it from an offset on. -/
  | removed (object : Object) (span : Span) (offset : Nat)
  /-- A remaining piece, at an offset, takes a reference. -/
  | kept (object : Object) (offset : Nat)
  /-- The addresses are unmapped. -/
  | unmapped (span : Span)
  /-- The reference of the old area is given back. -/
  | dropped (object : Object)
deriving DecidableEq

/-- The effects of unmapping a span on one area. -/
def Area.effects (v : Area) (s : Span) : List Effect :=
  if v.span.Meets s then
    .removed v.object (v.overlap s) (v.overlapOffset s) ::
      (v.remains s).map (fun piece => .kept v.object piece.offset) ++
      [.unmapped (v.overlap s), .dropped v.object]
  else
    []

end SharedMemory
