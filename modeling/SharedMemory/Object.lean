import SharedMemory.Access
import SharedMemory.Errno
import SharedMemory.Handle
import SharedMemory.Span
import SharedMemory.Text.Numeral
import SharedMemory.Text.Quoted

/-!
# Mappable objects

What can be mapped into an address space is a shared memory segment or a window. Each
counts the references to it: one for every area that maps it, one for every pending
map request and one for every reference held on its own.
-/

namespace SharedMemory

/-- The name of an object that can be mapped. -/
inductive Object where
  | segment (id : Handle .segment)
  | window (id : Handle .window)
deriving DecidableEq

/-- Whether an object is a segment. -/
def Object.isSegment : Object → Bool
  | .segment _ => true
  | .window _ => false

/-- What is shown of the object behind a mapping. -/
structure Identity where
  name : String
  device : Nat
  inode : Nat
  /-- Flushing a mapping succeeds: nothing is cached. -/
  msync : Bool := true

/-- How a reference to an object is written. -/
def Identity.describe (i : Identity) : String :=
  "MappingRef \x7b name: " ++ Text.quoted i.name ++ ", inode: " ++ Text.decimal i.inode ++ " \x7d"

/-- Where a part of an object lives in memory. -/
structure Location where
  /-- The part of the object. -/
  source : Span
  /-- The memory that holds the object. -/
  backing : Span
  /-- The address of the first byte of the part. -/
  address : Nat

/-- The parts of an object that were found, and why not all that was required. The
parts are good even where the requirement is not met. -/
structure Resolution where
  locations : List Location
  failure : Option Errno

/-- Everything an address space needs to know to map an object. A request carries one
reference to its object. -/
structure MapRequest where
  object : Object
  /-- The number of bytes, rounded up to whole pages when mapped. -/
  length : Nat
  /-- Where in the object the mapping starts. -/
  offset : Nat
  /-- The exact address if `fixed`, and a hint otherwise. -/
  address : Nat
  /-- Place the mapping at the address and replace what is mapped there. -/
  fixed : Bool
  perms : Access
  maxPerms : Access

/-- How a request to map an object is written. -/
def MapRequest.describe (m : MapRequest) (identity : Identity) : String :=
  "MmapOpts \x7b length: " ++ Text.decimal m.length ++ ", offset: " ++ Text.decimal m.offset ++
    ", addr: " ++ Text.virtualAddress m.address ++
    ", fixed: " ++ (if m.fixed then "true" else "false") ++
    ", perms: " ++ m.perms.describe ++ ", identity: " ++ identity.describe ++ " \x7d"

end SharedMemory
