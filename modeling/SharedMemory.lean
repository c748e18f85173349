import SharedMemory.Word
import SharedMemory.Span
import SharedMemory.Errno
import SharedMemory.Text.Numeral
import SharedMemory.Text.FlagSet
import SharedMemory.Text.CodeRange
import SharedMemory.Text.Extending
import SharedMemory.Text.Hidden
import SharedMemory.Text.Ignorable
import SharedMemory.Text.Quoted
import SharedMemory.Access
import SharedMemory.Flags
import SharedMemory.IdMap
import SharedMemory.UserNamespace
import SharedMemory.Credentials
import SharedMemory.FramePool
import SharedMemory.Handle
import SharedMemory.Object
import SharedMemory.Segment
import SharedMemory.Limits
import SharedMemory.Registry
import SharedMemory.Window
import SharedMemory.AddressSpace.Area
import SharedMemory.AddressSpace.Effect
import SharedMemory.AddressSpace.Basic
import SharedMemory.AddressSpace.Fault
import SharedMemory.AddressSpace.Survey
import SharedMemory.Event
import SharedMemory.Kernel.Basic
import SharedMemory.Kernel.Segments
import SharedMemory.Kernel.Registries
import SharedMemory.Kernel.Spaces
import SharedMemory.Kernel.Holdings
import SharedMemory.Kernel.Tasks
import SharedMemory.Kernel.SystemCalls
import SharedMemory.Session.Command
import SharedMemory.Session.Answer
import SharedMemory.Session.Basic
import SharedMemory.Session.Run
import SharedMemory.Session.View
import SharedMemory.Proofs.Slots
import SharedMemory.Proofs.Outcome
import SharedMemory.Proofs.Holders
import SharedMemory.Proofs.Areas
import SharedMemory.Proofs.Changes
import SharedMemory.Proofs.ObjectChanges
import SharedMemory.Proofs.Destruction
import SharedMemory.Proofs.Evolution
import SharedMemory.Proofs.Frames
import SharedMemory.Proofs.Layout
import SharedMemory.Proofs.Passages
import SharedMemory.Proofs.Mapping
import SharedMemory.Proofs.Calls
import SharedMemory.Proofs.World
import SharedMemory.Proofs.References
import SharedMemory.Proofs.Developments
import SharedMemory.Proofs.Registration
import SharedMemory.Proofs.Accounts
import SharedMemory.Proofs.Lifetimes
import SharedMemory.Proofs.Backing
import SharedMemory.Proofs.Translation
import SharedMemory.Proofs.Tables
import SharedMemory.Proofs.Representation
import SharedMemory.Proofs.Charters
import SharedMemory.Proofs.Integrity
import SharedMemory.Proofs.Lineage
import SharedMemory.Proofs.Permissions
import SharedMemory.Proofs.RegistryChanges
import SharedMemory.Proofs.Rotation
import SharedMemory.Proofs.Keys
import SharedMemory.Proofs.Teardown
import SharedMemory.Proofs.Determination
import SharedMemory.Proofs.Soundness
import SharedMemory.Proofs.Exit
import SharedMemory.Proofs.Mappings
import SharedMemory.Proofs.Immunity
import SharedMemory.Proofs.Detachment
import SharedMemory.Proofs.Isolation
import SharedMemory.Proofs.Faultless
import SharedMemory.Proofs.Arithmetic
import SharedMemory.Proofs.Unmapping
import SharedMemory.Proofs.Pieces
import SharedMemory.Proofs.Attachment
import SharedMemory.Proofs.Placement
import SharedMemory.Proofs.Provision
import SharedMemory.Proofs.UnmappingOrder
import SharedMemory.Proofs.Forking
import SharedMemory.Proofs.Capabilities
import SharedMemory.Proofs.IdMaps
import SharedMemory.Proofs.Dismissal
import SharedMemory.Proofs.Ownership
import SharedMemory.Proofs.PageFaults
import SharedMemory.Proofs.IdentifierSearch
import SharedMemory.Proofs.UsageReports
import SharedMemory.Proofs.Lookups
import SharedMemory.Proofs.Sessions
