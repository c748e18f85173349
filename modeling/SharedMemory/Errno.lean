/-!
# Error numbers

The causes for which an operation refuses a request.
-/

namespace SharedMemory

/-- Why a request was refused. -/
inductive Errno where
  /-- The caller is not entitled to the operation. -/
  | eperm
  /-- No segment has the key. -/
  | enoent
  /-- Memory or address space is exhausted. -/
  | enomem
  /-- The access is not granted. -/
  | eacces
  /-- The address, or the kind of buffer, does not serve the operation. -/
  | efault
  /-- A segment has the key already. -/
  | eexist
  /-- An argument is not acceptable. -/
  | einval
  /-- A limit on segments, pages or identifiers is reached. -/
  | enospc
  /-- The segment is being removed. -/
  | eidrm
deriving DecidableEq

namespace Errno

/-- The symbolic name of an error number. -/
def name : Errno → String
  | eperm => "EPERM"
  | enoent => "ENOENT"
  | enomem => "ENOMEM"
  | eacces => "EACCES"
  | efault => "EFAULT"
  | eexist => "EEXIST"
  | einval => "EINVAL"
  | enospc => "ENOSPC"
  | eidrm => "EIDRM"

/-- The sentence that explains an error number. -/
def message : Errno → String
  | eperm => "Operation not permitted"
  | enoent => "No such file or directory"
  | enomem => "Out of memory"
  | eacces => "Permission denied"
  | efault => "Bad address"
  | eexist => "File exists"
  | einval => "Invalid argument"
  | enospc => "No space left on device"
  | eidrm => "Identifier removed"

end Errno

end SharedMemory
