/-!
# Sets of flags

A set of flags is written as its type's name around the names of its members.
-/

namespace SharedMemory

namespace Text

/-- The type's name around the members' names, divided by bars; a set without
members is written as the number zero. -/
def flagSet (type : String) (flags : List (String × Bool)) : String :=
  let members := (flags.filter (·.2)).map (·.1)
  let body := if members.isEmpty then "0x0" else " | ".intercalate members
  type ++ "(" ++ body ++ ")"

end Text

end SharedMemory
