import SharedMemory.Object
import SharedMemory.Word

/-!
# Windows

A `Window` is a fixed run of memory that can be mapped and is not a segment. It keeps a
journal of what address spaces tell it and ask of it, and can be made to refuse.
-/

namespace SharedMemory

/-- What a window was told or asked. -/
inductive WindowCall where
  | added (span : Span) (offset : Nat)
  | removed (span : Span) (offset : Nat)
  | copied (span : Span) (offset : Nat)
  | located (required optional : Span) (access : Access)

/-- A fixed run of memory that can be mapped. -/
structure Window where
  name : String
  base : Nat
  length : Nat
  /-- Locations are given page by page. -/
  split : Bool
  /-- Mappings are refused. -/
  refuses : Bool
  /-- How many more times mappings may be copied; any number of times if `none`. -/
  copies : Option Nat
  /-- The number of references to the window. -/
  references : Nat
  /-- The calls since the journal was last emptied. -/
  journal : List WindowCall

namespace Window

/-- Writes a call into the journal. -/
def record (w : Window) (call : WindowCall) : Window :=
  { w with journal := w.journal ++ [call] }

/-- Cuts a span into pieces of one page from its start, the last one possibly
shorter. -/
def pagePieces (s : Span) : List Span :=
  (List.range ((s.size + (pageSize - 1)) / pageSize)).map fun i =>
    let start := s.start + i * pageSize
    ⟨start, min (start + pageSize) s.stop⟩

/-- Finds as much of `optional` as the window has, and fails if it does not have all of
`required`. -/
def locate (w : Window) (required optional : Span) : Resolution :=
  let source := optional.inter ⟨0, w.length⟩
  let parts := if w.split then pagePieces source else if source.isEmpty then [] else [source]
  { locations := parts.map fun part =>
      ⟨part, .ofSize w.base w.length, w.base + part.start⟩
    failure := if w.length < required.stop then some .efault else none }

/-- What is shown of the window behind a mapping. -/
def identity (w : Window) : Identity where
  name := w.name
  device := 0
  inode := 0

end Window

end SharedMemory
