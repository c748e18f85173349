import SharedMemory.Session.Basic

/-!
# Running commands

Each command names what it works on, is carried out by the kernel, and binds what
results. Names are looked up in a fixed order: whoever asks first, then a request to be
used, then the object that is worked on.
-/

namespace SharedMemory

namespace Session

/-- Makes credentials. -/
def credentialsOf (userNs : UserNamespace) (owner : Option Owner) : Credentials :=
  match owner with
  | some o => .plain o.uid o.gid userNs
  | none => .superuser userNs

/-- How a user namespace renames identifiers. -/
def idReport (ns : UserNamespace) (ids : List UInt32) : IdReport where
  toUids := ids.map fun id => (ns.toUid? id).map (·.val)
  toGids := ids.map fun id => (ns.toGid? id).map (·.val)
  ofUids := ids.map fun id => ns.ofUid ⟨id⟩
  ofGids := ids.map fun id => ns.ofGid ⟨id⟩
  owner := ns.owner.val
  hasParent := ns.parent?.isSome

/-- What an address space shows when it is surveyed. -/
def spaceReport (a : AddressSpace) : SpaceReport :=
  let areas := a.survey
  ⟨a.range, a.areas.length, areas, areas.flatMap a.establishedIn⟩

/-- A request after an edit. -/
def RequestEdit.apply (e : RequestEdit) (m : MapRequest) : MapRequest :=
  { m with
    length := e.length.getD m.length
    offset := e.offset.getD m.offset
    address := e.address.getD m.address
    fixed := e.fixed.getD m.fixed
    perms := e.perms.getD m.perms
    maxPerms := e.maxPerms.getD m.maxPerms }

/-- Keeps a request under a name, or drops it at once. -/
def keepOrDrop (m : MapRequest) (name : Option String) : SessionM Unit := do
  let h ← produce (·.keepRequest m)
  match name with
  | some name => bindRequest name h
  | none => change (·.dropRequest h)

/-- The object behind a kept request or a kept reference. -/
def referenced : ReferenceName → SessionM Object
  | .request name => do return (← object (·.requests) (← named requests "opts" name)).object
  | .reference name => do object (·.references) (← named references "ref" name)

/-- The identity of an object. -/
def identityOf (o : Object) : SessionM Identity := do
  run (KernelM.orStuck ((← get).kernel.identity? o))

/-- The identifier of an object, if it is a segment. -/
def segmentIdOf (o : Object) : SessionM (Option Int) := do
  match o with
  | .segment s => return some (← object (·.segments) s).id
  | .window _ => return none

/-- Uses a kept request to map its object. The request is gone also if the address space is
not bound. -/
def useRequest (space : SpaceName) (asker : Asker) (request : String) : SessionM Nat := do
  let q ← requester asker
  let h ← named requests "opts" request
  modify fun s => { s with requests := s.requests.erase request }
  match spaceNamed space (← get) with
  | .ok ref _ => run (Kernel.mmapKept ref q h)
  | .error cause _ =>
      change (·.dropRequest h)
      throw cause

/-- Tells an object something. -/
def notify (notice : Notice) (o : Object) (q : Requester) (span : Span) (offset : Nat) :
    SessionM Unit := do
  change (·.require (span.start ≤ span.stop) .arithmetic)
  match notice with
  | .added => run (Kernel.notifyAdded q o span offset)
  | .removed => change (·.notifyRemoved q o span offset)
  | .copied => run (Kernel.notifyCopied o span offset)

/-- Carries out a command. -/
def perform : Command → SessionM Answer
  | .makeUserNamespace name parent owner uidMap gidMap => do
      let parent ← named userNamespaces "parent" parent
      let ns ← produce (·.makeUserNamespace parent owner uidMap gidMap)
      modify fun s => { s with userNamespaces := s.userNamespaces.bind name ns }
      return .done
  | .makeCredentials name userNs owner groups capabilities => do
      let ns ← named userNamespaces "ns" userNs
      let c := ((credentialsOf ns owner).withGroups groups).withCapabilities capabilities
      modify fun s => { s with credentials := s.credentials.bind name c }
      return .done
  | .mapIds userNs ids => do
      return .ids (idReport (← named userNamespaces "ns" userNs) ids)
  | .hasCapability cred capability userNs => do
      let c ← named credentials "cred" cred
      let ns ← named userNamespaces "ns" userNs
      return .truth (c.hasCapabilityIn capability ns)
  | .inGroups cred groups => do
      let c ← named credentials "cred" cred
      return .truths (groups.map c.inGroup)
  | .makePool name base frames => do
      let p ← produce (·.makePool base frames)
      modify fun s => { s with pools := s.pools.bind name p }
      return .span (← object (·.pools) p).region
  | .allocate pool length name => do
      let p ← named pools "mem" pool
      let span ← run (Kernel.allocateFrames p length)
      name.forM fun name => modify fun s => { s with ranges := s.ranges.bind name (p, span) }
      return .span span
  | .release pool range => do
      let taken ← named ranges "range" range
      modify fun s => { s with ranges := s.ranges.erase range }
      let p ← named pools "mem" pool
      change (·.releaseFrames p taken.2)
      return .number (← object (·.pools) p).usedBytes
  | .usedBytes pool => do
      return .number (← object (·.pools) (← named pools "mem" pool)).usedBytes
  | .makeRegistry name userNs pool limits => do
      let ns ← named userNamespaces "ns" userNs
      let p ← named pools "mem" pool
      bindRegistry name (← produce (·.makeRegistry ns p limits .handle))
      return .done
  | .makeNamespace name userNs pool limits => do
      let ns ← named userNamespaces "ns" userNs
      let p ← named pools "mem" pool
      bindNamespace name (← produce (·.makeRegistry ns p limits (.ipc true)))
      return .done
  | .findOrCreate registry asker asked name => do
      let q ← requester asker
      let s ← run (Kernel.findOrCreate (← registryNamed registry) q asked)
      name.forM fun name => bindSegment name s
      return .number (← object (·.segments) s).id
  | .find registry id name => do
      let r ← object (·.registries) (← registryNamed registry)
      match r.find? id with
      | some s =>
          name.forM fun name => bindSegment name s
          return .foundSegment (some (← object (·.segments) s))
      | none => return .foundSegment none
  | .describeRegistry registry => do
      return .registry (← object (·.registries) (← registryNamed registry))
  | .releaseAll registry => do
      let r ← registryNamed registry
      change (·.releaseAll r)
      return .done
  | .describeSegment segment => do
      return .segment (← object (·.segments) (← segmentNamed segment))
  | .attach segment asker address mode name => do
      let q ← requester asker
      let m ← run (Kernel.attach (← segmentNamed segment) q address mode)
      keepOrDrop m name
      return .request m
  | .status segment asker => do
      let q ← requester asker
      return .status (← run (Kernel.segmentStatus (← segmentNamed segment) q))
  | .setOwner segment asker uid gid mode => do
      let q ← requester asker
      run (Kernel.setSegmentOwner (← segmentNamed segment) q uid gid mode)
      return .done
  | .ownedBy segment cred => do
      let c ← named credentials "cred" cred
      let g ← object (·.segments) (← segmentNamed segment)
      return .truth (g.ownedBy c)
  | .markDestroyed segment => do
      let s ← segmentNamed segment
      change (·.markDestroyed s)
      return .done
  | .notify notice o asker span offset => do
      let q ← requester asker
      notify notice (← objectNamed o) q span offset
      return .done
  | .locate o required optional access => do
      let o ← objectNamed o
      return .resolution (← produce (·.locate o required optional access))
  | .makeWindow name base length split refuses copies => do
      let w ← produce (·.makeWindow ⟨name, base, length, split, refuses, copies, 0, []⟩)
      modify fun s => { s with windows := s.windows.bind name w }
      return .done
  | .describeWindow window => do
      let w ← named windows "obj" window
      let value ← object (·.windows) w
      change (·.emptyJournal w)
      return .window value.references value.journal
  | .windowRequest window name => do
      let m ← run (Kernel.windowRequest (← named windows "obj" window))
      keepOrDrop m (some name)
      return .request m
  | .editRequest request edit => do
      let h ← named requests "opts" request
      let m := edit.apply (← object (·.requests) h)
      change (·.setRequest h m)
      return .request m
  | .describeRequest request => do
      let m ← object (·.requests) (← named requests "opts" request)
      return .requestDetails m (← identityOf m.object)
  | .cloneReference source name => do
      let o ← referenced source
      let h ← produce (·.keepReference o)
      let answer := Answer.reference (← segmentIdOf o) (← identityOf o)
      match name with
      | some name => bindReference name h
      | none => change (·.dropReference h)
      return answer
  | .sameObject first second => do
      let a ← object (·.references) (← named references "a" first)
      let b ← object (·.references) (← named references "b" second)
      return .truth (a = b)
  | .makeSpace name range => do
      bindSpace name (← produce (·.makeSpace range))
      return .done
  | .mmap space asker request => do
      return .number (← useRequest space asker request)
  | .munmap space asker address length => do
      let q ← requester asker
      run (Kernel.munmap (← spaceNamed space) q address length)
      return .done
  | .detach space asker address => do
      let q ← requester asker
      run (Kernel.detach (← spaceNamed space) q address)
      return .done
  | .unmapAll space asker => do
      let q ← requester asker
      let ref ← spaceNamed space
      change (·.unmapAll ref q)
      return .done
  | .forkSpace space asker name => do
      let _ ← requester asker
      let child ← run (Kernel.forkSpace (← spaceNamed space))
      bindSpace name child
      return .number (← object (·.spaces) child).areas.length
  | .faultSpace space address access => do
      let ref ← spaceNamed space
      return .truth (← produce (·.faultSpace ref address access))
  | .overlaps space address length => do
      return .truth ((← spaceValue space).overlaps address length)
  | .findArea space address => do
      return .optionalSpan (((← spaceValue space).areaAt? address).map (·.span))
  | .resolve space address => do
      return .optionalNumber (((← spaceValue space).resolve? address).map Int.ofNat)
  | .describeSpace space => do
      return .space (spaceReport (← spaceValue space))
  | .makeClock name start => do
      let c ← produce (·.makeClock (.stoppedAt (start.getD .zero)))
      modify fun s => { s with clocks := s.clocks.bind name c }
      return .done
  | .tick clock reset advance => do
      let h ← named clocks "clock" clock
      let c ← object (·.clocks) h
      let c := reset.elim c Clock.stoppedAt
      let c := advance.elim c c.advance
      change (·.setClock h c)
      return .instant c.now
  | .makeTask name pid cred ipc clock range => do
      let c ← named credentials "cred" cred
      let r ← named namespaces "ipc" ipc
      let h ← named clocks "clock" clock
      bindTask name (← produce (·.makeTask pid c r h range))
      return .done
  | .describeTask task => do
      let task ← object (·.tasks) (← taskNamed task)
      let registry ← object (·.registries) task.ipc
      return .task ⟨task.pid, task.credentials.uid, task.credentials.gid, registry.table.length,
        task.minorFaults⟩
  | .shmget task key size flags => do
      return .number (← run (Kernel.shmget (← taskNamed task) key size flags))
  | .shmat task id address flags => do
      return .number (← run (Kernel.shmat (← taskNamed task) id address flags))
  | .shmdt task address => do
      return .number (← run (Kernel.shmdt (← taskNamed task) address))
  | .shmctl task id code buffer => do
      return .control 0 (← run (Kernel.shmctl (← taskNamed task) id code buffer))
  | .forkTask task name pid => do
      bindTask name (← run (Kernel.forkTask (← taskNamed task) pid))
      return .number pid.toNat
  | .exit task => do
      let t ← taskNamed task
      change (·.exitTask t)
      return .done
  | .fault task address access => do
      let t ← taskNamed task
      return .truth (← produce (·.faultTask t address access))
  | .raiseSignal task signal => do
      let t ← taskNamed task
      change (·.raiseSignal t signal)
      return .done
  | .takeSignal task => do
      let t ← taskNamed task
      return .optionalNumber ((← produce (·.takeSignal t)).map fun signal => signal.toNat)
  | .drop kind name => do
      drop kind name
      return .done

/-- What came of a command. -/
structure Outcome where
  reply : Except Refusal Answer
  /-- The log of the command, the earliest event first. -/
  log : List Event
  /-- The session after the command. -/
  session : Session

/-- Carries out a command. -/
def step (s : Session) (c : Command) : Outcome :=
  match perform c s with
  | .ok answer s' => ⟨.ok answer, s'.kernel.logSince s.kernel, s'⟩
  | .error cause s' => ⟨.error cause, s'.kernel.logSince s.kernel, s'⟩

end Session

end SharedMemory
