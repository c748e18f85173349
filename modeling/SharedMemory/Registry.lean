import SharedMemory.Handle
import SharedMemory.Limits
import SharedMemory.Text.Numeral
import SharedMemory.UserNamespace

/-!
# Registries

A `Registry` holds the segments of one IPC namespace under their identifiers, counts
their pages and hands out identifiers in rotation.
-/

namespace SharedMemory

/-- What keeps a registry. -/
inductive Holder where
  /-- Its own handle. When that goes, segments stay as they are. -/
  | handle
  /-- An IPC namespace, kept by its tasks and, while `held`, by its own handle. When the
  last of them goes, every segment is marked for destruction. -/
  | ipc (held : Bool)
deriving DecidableEq

/-- The limits of a registry as they are reported. -/
structure LimitsReport where
  maxSize : Nat
  minSize : Nat
  maxSegments : Nat
  maxAttach : Nat
  maxTotalPages : Nat

/-- The usage of a registry as it is reported. Everything is resident; there is no
swap. -/
structure UsageReport where
  usedIds : Int
  totalPages : Nat
  residentPages : Nat
  swappedPages : Nat := 0
  swapAttempts : Nat := 0
  swapSuccesses : Nat := 0

/-- A report without content. -/
def LimitsReport.blank : LimitsReport := ⟨0, 0, 0, 0, 0⟩

/-- A report without content. -/
def UsageReport.blank : UsageReport := ⟨0, 0, 0, 0, 0, 0⟩

/-- The segments of one IPC namespace. -/
structure Registry where
  /-- The user namespace that governs the registry. -/
  userNs : UserNamespace
  /-- Where segments take their memory from. -/
  pool : Handle .pool
  limits : Limits
  holder : Holder
  /-- The segments in the order of their identifiers. -/
  table : List (Int × Handle .segment)
  /-- The number of pages of all segments. -/
  totalPages : Nat
  /-- The identifier handed out last. -/
  lastId : Int

namespace Registry

/-- A registry without segments. -/
def empty (userNs : UserNamespace) (pool : Handle .pool) (limits : Limits) (holder : Holder) :
    Registry :=
  ⟨userNs, pool, limits, holder, [], 0, 0⟩

/-- The segment with an identifier. -/
def find? (r : Registry) (id : Int) : Option (Handle .segment) :=
  (r.table.find? (·.1 = id)).map (·.2)

/-- The identifier after `id`, with zero after the largest. -/
def succId (maxId id : Int) : Int := if maxId ≤ id then 0 else id + 1

/-- Searches the identifiers after `id` in rotation for one that is free, at most
`steps` of them and none past `last`. -/
def searchId (r : Registry) : (steps : Nat) → (id : Int) → Option Int
  | 0, _ => none
  | steps + 1, id =>
      let next := succId r.limits.maxId id
      if (r.find? next).isNone then some next
      else if next = r.lastId then none
      else r.searchId steps next

/-- The first free identifier after the one handed out last, in rotation. There are
`maxId + 1` identifiers, so as many steps see them all. -/
def nextFreeId? (r : Registry) : Option Int :=
  r.searchId (r.limits.maxId.toNat + 1) r.lastId

/-- Adds an entry in the order of the identifiers. -/
def insertEntry (id : Int) (s : Handle .segment) :
    List (Int × Handle .segment) → List (Int × Handle .segment)
  | [] => [(id, s)]
  | entry :: rest =>
      if id < entry.1 then (id, s) :: entry :: rest
      else if id = entry.1 then (id, s) :: rest
      else entry :: insertEntry id s rest

/-- Registers a segment of so many pages under an identifier. -/
def register (r : Registry) (id : Int) (s : Handle .segment) (pages : Nat) : Registry :=
  { r with
    table := insertEntry id s r.table
    totalPages := r.totalPages + pages
    lastId := id }

/-- Forgets the segment of so many pages under an identifier. -/
def unregister (r : Registry) (id : Int) (pages : Nat) : Registry :=
  { r with
    table := r.table.filter (·.1 ≠ id)
    totalPages := r.totalPages - pages }

/-- The limits as they are reported. -/
def limitsReport (r : Registry) : LimitsReport where
  maxSize := r.limits.maxSize
  minSize := r.limits.minSize
  maxSegments := r.limits.maxSegments
  maxAttach := r.limits.maxAttach
  maxTotalPages := r.limits.maxTotalPages

/-- The usage as it is reported. -/
def usageReport (r : Registry) : UsageReport where
  usedIds := r.lastId
  totalPages := r.totalPages
  residentPages := r.totalPages

/-- How a registry is written. -/
def describe (r : Registry) : String :=
  "Registry \x7b segments: " ++ Text.decimal r.table.length ++
    ", total_pages: " ++ Text.decimal r.totalPages ++
    ", last_id_used: " ++ Text.decimal r.lastId ++ " \x7d"

end Registry

end SharedMemory
