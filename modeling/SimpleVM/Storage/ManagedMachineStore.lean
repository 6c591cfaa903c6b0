import SimpleVM.Storage.Volume

/-!
# The machine store

`ManagedMachineStore`: the files of a machine are created, cloned and removed here. Whatever
happens to one machine's directory leaves the rest of the volume alone.
-/
namespace SimpleVM.Storage

open Domain Effects

/-- `SparseDiskCreator.alignedCapacity`; requests above 2^64 - 512 trap instead. -/
def alignedCapacity (requestedBytes : UInt64) : UInt64 :=
  let remainder := requestedBytes % 512
  if remainder = 0 then requestedBytes else requestedBytes + 512 - remainder

/-- Truncating a file to a larger size fills it with zeros. -/
def truncated (data : Data) (size : UInt64) : Data :=
  data.take size.toNat ++ List.replicate (size.toNat - data.length) 0

/-- Where a machine keeps disk and backend state: Windows under `State/current`. -/
def stateDirectory : GuestOperatingSystem → String
  | .windows => "State/current/"
  | .linux => ""

def backendDirectoryName : VirtualizationBackendKind → String
  | .appleVirtualization => "Apple"
  | .qemu => "QEMU"

def diskLocation (machineID : UUID) (operatingSystem : GuestOperatingSystem) : Location where
  directory := .machine machineID
  name := stateDirectory operatingSystem ++ "disk.raw"

def backendState (machineID : UUID) (operatingSystem : GuestOperatingSystem)
    (backend : VirtualizationBackendKind) : Location where
  directory := .machine machineID
  name := stateDirectory operatingSystem ++ backendDirectoryName backend

/-- `createDirectory` without intermediate directories refuses one that exists. -/
def createMachineDirectory (faults : Faults) (machineID : UUID) : Store Unit := do
  let v ← Failing.getState
  if .machine machineID ∈ v.directories then
    throw (.io "The machine directory already exists.")
  attempt faults .createMachineDirectory fun v => v.addDirectory (.machine machineID)

/-- `APFSCloneStorage.clone` of the base disk, grown to the requested capacity. -/
def cloneBaseDisk (faults : Faults) (disk : Location) (capacityBytes : UInt64)
    (baseDisk : String) : Store UInt64 := do
  let v ← Failing.getState
  match v.file? baseDisk with
  | none => throw (.io "The base disk is missing.")
  | some base =>
    writeFile faults .writeDisk disk base
    attempt faults .inspectDisk
    let sourceSize := UInt64.ofNat base.length
    let capacity := max sourceSize (alignedCapacity capacityBytes)
    if capacity > sourceSize then
      writeFile faults .extendDisk disk (truncated base capacity)
    pure capacity

/-- `SparseDiskCreator.create`. -/
def createSparseDisk (faults : Faults) (disk : Location) (capacityBytes : UInt64) :
    Store UInt64 := do
  let capacity := alignedCapacity capacityBytes
  writeFile faults .writeDisk disk (truncated [] capacity)
  pure capacity

def createDisk (faults : Faults) (disk : Location) (capacityBytes : UInt64) :
    Option String → Store UInt64
  | some baseDisk => cloneBaseDisk faults disk capacityBytes baseDisk
  | none => createSparseDisk faults disk capacityBytes

/-- The body of `createFiles` once the machine directory exists. -/
def createContents (faults : Faults) (machineID diskID : UUID) (diskCapacityBytes : UInt64)
    (backend : VirtualizationBackendKind) (operatingSystem : GuestOperatingSystem)
    (baseDisk : Option String) : Store (MachineDisk × BackendStateReference) := do
  if operatingSystem = .windows then
    attempt faults .createStateDirectory
  let disk := diskLocation machineID operatingSystem
  let capacity ← createDisk faults disk diskCapacityBytes baseDisk
  attempt faults .createBackendDirectory
  pure ({ id := diskID, relativePath := disk.relativePath, capacityBytes := capacity },
    ⟨(backendState machineID operatingSystem backend).relativePath⟩)

def createFiles (faults : Faults) (machineID diskID : UUID) (diskCapacityBytes : UInt64)
    (backend : VirtualizationBackendKind) (operatingSystem : GuestOperatingSystem)
    (baseDisk : Option String) : Store (MachineDisk × BackendStateReference) := do
  attempt faults .initializeStorage
  createMachineDirectory faults machineID
  tryCatch
    (createContents faults machineID diskID diskCapacityBytes backend operatingSystem baseDisk)
    fun error => do
      Failing.ignoring (removeItem faults .discardMachineDirectory (.machine machineID))
      throw error

/-- `resolveFiles`: the disk a machine names must exist. -/
def resolveFiles (machine : Machine) : Store String := do
  let disk ← resolve machine.disk.relativePath
  let _ ← resolve machine.backendState.relativeDirectory
  let v ← Failing.getState
  if (v.file? disk).isNone then throw .missingDisk
  pure disk

def removeMachine (faults : Faults) (machineID : UUID) : Store Unit :=
  removeIfPresent faults .removeMachineDirectory (.machine machineID)

def firmwareFileNames : List String :=
  ["efi-variable-store", "efi-code.fd", "efi-vars.fd", "tpm-state",
    "linux-kernel", "linux-initrd", "linux-command-line"]

/-- One file of `copyFirmwareState`; a copy that fails is passed over. -/
def copyFirmwareFile (faults : Faults) (sourceDirectory : String) (destination : Location)
    (fileName : String) : Store Unit := do
  let v ← Failing.getState
  match v.file? (sourceDirectory ++ "/" ++ fileName) with
  | none => pure ()
  | some data =>
    Failing.ignoring (writeFile faults (.copyFirmware fileName)
      ⟨destination.directory, destination.name ++ "/" ++ fileName⟩ data)

def copyFirmwareFiles (faults : Faults) (sourceDirectory : String) (destination : Location) :
    List String → Store Unit
  | [] => pure ()
  | fileName :: rest => do
    copyFirmwareFile faults sourceDirectory destination fileName
    copyFirmwareFiles faults sourceDirectory destination rest

def cloneFiles (faults : Faults) (source : Machine) (destinationID diskID : UUID) :
    Store (MachineDisk × BackendStateReference) := do
  let disk ← resolveFiles source
  let result ← createFiles faults destinationID diskID source.disk.capacityBytes source.backend
    source.spec.operatingSystem (some disk)
  copyFirmwareFiles faults source.backendState.relativeDirectory
    (backendState destinationID source.spec.operatingSystem source.backend) firmwareFileNames
  pure result

/-- Whether the cloned disk is grown. -/
def isExtended (base : Data) (capacityBytes : UInt64) : Bool :=
  decide (max (UInt64.ofNat base.length) (alignedCapacity capacityBytes) >
    UInt64.ofNat base.length)

/-- Everything `cloneFiles` needs: a source with its disk, no destination, and no failing
step apart from the copies of firmware files, which are passed over. -/
structure ClonesFiles (faults : Faults) (source : Machine) (destinationID : UUID) (v : Volume) :
    Prop where
  disk : isManagedPath source.disk.relativePath = true
  backendState : isManagedPath source.backendState.relativeDirectory = true
  absent : .machine destinationID ∉ v.directories
  steps : ∀ step ∈ [Step.initializeStorage, .createMachineDirectory, .writeDisk, .inspectDisk,
    .createBackendDirectory], faults step = none
  windows : source.spec.operatingSystem = .windows → faults .createStateDirectory = none
  base : ∃ data, v.file? source.disk.relativePath = some data ∧
    (isExtended data source.disk.capacityBytes = true → faults .extendDisk = none)

section Success

variable {faults : Faults}

theorem succeeds_copyFirmwareFiles (faults : Faults) (sourceDirectory : String) (destination : Location)
    (fileNames : List String) (v : Volume) :
    (copyFirmwareFiles faults sourceDirectory destination fileNames).Succeeds v := by
  induction fileNames generalizing v with
  | nil => exact Failing.succeeds_pure () v
  | cons fileName rest ih =>
    have one : ∃ w, copyFirmwareFile faults sourceDirectory destination fileName v = (.ok (), w) := by
      unfold copyFirmwareFile
      rw [Failing.bind_of_ok _ (Failing.getState_eq_ok.mpr ⟨rfl, rfl⟩)]
      cases v.file? (sourceDirectory ++ "/" ++ fileName) with
      | none => exact ⟨v, rfl⟩
      | some data => exact ⟨_, rfl⟩
    obtain ⟨w, run⟩ := one
    exact Failing.succeeds_bind.mpr ⟨(), w, run, ih w⟩

theorem resolveFiles_eq_ok {machine : Machine} {v w : Volume} {path : String} :
    resolveFiles machine v = (.ok path, w) ↔
      isManagedPath machine.disk.relativePath = true ∧
      isManagedPath machine.backendState.relativeDirectory = true ∧
      (v.file? machine.disk.relativePath).isSome ∧ path = machine.disk.relativePath ∧ w = v := by
  unfold resolveFiles
  simp only [Failing.bind_eq_ok, resolve_eq_ok, Failing.getState_eq_ok]
  constructor
  · rintro ⟨_, _, ⟨disk, rfl, rfl⟩, _, _, ⟨backend, rfl, rfl⟩, _, _, ⟨rfl, rfl⟩, run⟩
    split at run
    · cases run
    · next present =>
      cases run
      exact ⟨disk, backend, by simpa [Option.isSome_iff_ne_none] using present, rfl, rfl⟩
  · rintro ⟨disk, backend, present, rfl, rfl⟩
    refine ⟨_, _, ⟨disk, rfl, rfl⟩, _, _, ⟨backend, rfl, rfl⟩, _, _, ⟨rfl, rfl⟩, ?_⟩
    have stays : (w.file? machine.disk.relativePath).isNone = false := by
      simpa [Option.isSome_iff_ne_none] using present
    simp only [stays]
    rfl

theorem createMachineDirectory_eq_ok {machineID : UUID} {v w : Volume} {u : Unit} :
    createMachineDirectory faults machineID v = (.ok u, w) ↔
      .machine machineID ∉ v.directories ∧ faults .createMachineDirectory = none ∧
      w = v.addDirectory (.machine machineID) := by
  unfold createMachineDirectory
  simp only [Failing.bind_eq_ok, Failing.getState_eq_ok]
  by_cases here : ManagedDirectory.machine machineID ∈ v.directories
  · simp [here, Failing.bind_eq_ok]
  · simp [here]

theorem cloneBaseDisk_succeeds {disk : Location} {capacityBytes : UInt64}
    {path : String} {v : Volume} :
    (cloneBaseDisk faults disk capacityBytes path).Succeeds v ↔ ∃ data, v.file? path = some data ∧
      faults .writeDisk = none ∧ faults .inspectDisk = none ∧
      (isExtended data capacityBytes = true → faults .extendDisk = none) := by
  unfold cloneBaseDisk
  rw [Failing.succeeds_bind]
  cases found : v.file? path with
  | none => simp [found]
  | some base =>
    by_cases extended : isExtended base capacityBytes = true
    · have larger := of_decide_eq_true extended
      simp [found, Failing.succeeds_bind, extended, larger]
    · have same := of_decide_eq_false (eq_false_of_ne_true extended)
      simp [found, Failing.succeeds_bind, extended, same]

theorem createContents_succeeds {machineID diskID : UUID} {diskCapacityBytes : UInt64}
    {backend : VirtualizationBackendKind} {operatingSystem : GuestOperatingSystem}
    {path : String} {v : Volume} :
    (createContents faults machineID diskID diskCapacityBytes backend operatingSystem
        (some path)).Succeeds v ↔
      (operatingSystem = .windows → faults .createStateDirectory = none) ∧
      (cloneBaseDisk faults (diskLocation machineID operatingSystem) diskCapacityBytes
        path).Succeeds v ∧
      faults .createBackendDirectory = none := by
  have rest (w : Volume) : (do
      let capacity ← createDisk faults (diskLocation machineID operatingSystem)
        diskCapacityBytes (some path)
      attempt faults .createBackendDirectory
      pure (({ id := diskID
               relativePath := (diskLocation machineID operatingSystem).relativePath
               capacityBytes := capacity } : MachineDisk),
        (⟨(backendState machineID operatingSystem backend).relativePath⟩ :
          BackendStateReference)) : Store _).Succeeds w ↔
      (cloneBaseDisk faults (diskLocation machineID operatingSystem) diskCapacityBytes
        path).Succeeds w ∧ faults .createBackendDirectory = none :=
    Failing.succeeds_bind_const fun capacity t => by simp [Failing.succeeds_bind]
  unfold createContents
  split
  · next windows =>
    rw [Failing.succeeds_bind]
    constructor
    · rintro ⟨u, w, created, later⟩
      obtain ⟨state, same⟩ := attempt_eq_ok.mp created
      subst same
      exact ⟨fun _ => state, (rest _).mp later⟩
    · rintro ⟨state, later⟩
      exact ⟨(), v, attempt_eq_ok.mpr ⟨state windows, rfl⟩, (rest v).mpr later⟩
  · next linux =>
    constructor
    · intro run
      exact ⟨fun windows => absurd windows linux, (rest v).mp run⟩
    · rintro ⟨_, later⟩
      exact (rest v).mpr later

theorem createFiles_succeeds {machineID diskID : UUID} {diskCapacityBytes : UInt64}
    {backend : VirtualizationBackendKind} {operatingSystem : GuestOperatingSystem}
    {path : String} {v : Volume} :
    (createFiles faults machineID diskID diskCapacityBytes backend operatingSystem
        (some path)).Succeeds v ↔
      faults .initializeStorage = none ∧ .machine machineID ∉ v.directories ∧
      faults .createMachineDirectory = none ∧
      (createContents faults machineID diskID diskCapacityBytes backend operatingSystem
        (some path)).Succeeds (v.addDirectory (.machine machineID)) := by
  have rethrows (e : StorageError) (w : Volume) : ¬ (do
      Failing.ignoring (removeItem faults .discardMachineDirectory (.machine machineID))
      throw e : Store (MachineDisk × BackendStateReference)).Succeeds w := by
    simp [Failing.succeeds_bind]
  unfold createFiles
  rw [Failing.succeeds_bind]
  simp [Failing.succeeds_bind, createMachineDirectory_eq_ok,
    Failing.succeeds_tryCatch rethrows, and_assoc]

theorem cloneFiles_succeeds {source : Machine} {destinationID diskID : UUID} {v : Volume} :
    (cloneFiles faults source destinationID diskID).Succeeds v ↔
      ClonesFiles faults source destinationID v := by
  have copies (path : String) (w : Volume) : (do
      let result ← createFiles faults destinationID diskID source.disk.capacityBytes source.backend
        source.spec.operatingSystem (some path)
      copyFirmwareFiles faults source.backendState.relativeDirectory
        (backendState destinationID source.spec.operatingSystem source.backend) firmwareFileNames
      pure result).Succeeds w ↔
      (createFiles faults destinationID diskID source.disk.capacityBytes source.backend
        source.spec.operatingSystem (some path)).Succeeds w ∧ True :=
    Failing.succeeds_bind_const fun result t => by
      obtain ⟨u, w, copied⟩ := succeeds_copyFirmwareFiles faults
        source.backendState.relativeDirectory
        (backendState destinationID source.spec.operatingSystem source.backend)
        firmwareFileNames t
      simp [Failing.succeeds_bind, copied]
  unfold cloneFiles
  rw [Failing.succeeds_bind]
  simp only [resolveFiles_eq_ok, copies, createFiles_succeeds, createContents_succeeds,
    cloneBaseDisk_succeeds]
  constructor
  · rintro ⟨path, w, ⟨disk, backend, present, rfl, rfl⟩,
      ⟨initialized, absent, directory, windows, ⟨data, found, write, inspect, extend⟩, created⟩, _⟩
    exact ⟨disk, backend, absent, by simp [initialized, directory, write, inspect, created],
      windows, data, found, extend⟩
  · rintro ⟨disk, backend, absent, steps, windows, data, found, extend⟩
    refine ⟨_, v, ⟨disk, backend, by simp [found], rfl, rfl⟩,
      ⟨steps _ (by simp), absent, steps _ (by simp), windows,
        ⟨data, found, steps _ (by simp), steps _ (by simp), extend⟩, steps _ (by simp)⟩, trivial⟩

end Success

section Frame

open OnlyIn

variable (faults : Faults)

theorem createMachineDirectory_onlyIn (machineID : UUID) :
    Keeps (OnlyIn (.machine machineID)) (createMachineDirectory faults machineID) := by
  refine keeps_bind keeps_getState fun v => ?_
  split
  · exact keeps_bind (keeps_throw _) fun _ => OnlyIn.keeps_attempt faults _ fun v =>
      OnlyIn.addDirectory v (.machine machineID)
  · exact OnlyIn.keeps_attempt faults _ fun v => OnlyIn.addDirectory v (.machine machineID)

theorem createDisk_keeps {R : Volume → Volume → Prop} (refl : ∀ v, R v v)
    (trans : ∀ u v w, R u v → R v w → R u w) {disk : Location}
    (writes : ∀ v data, R v (v.write disk data)) (capacityBytes : UInt64)
    (baseDisk : Option String) : Keeps R (createDisk faults disk capacityBytes baseDisk) := by
  have write (step : Step) (data : Data) : Keeps R (writeFile faults step disk data) := by
    intro v
    unfold writeFile
    cases faults step with
    | none => exact writes v data
    | some fault =>
      cases leftover : fault.leftover with
      | none => simpa [leftover] using refl v
      | some part => simpa [leftover] using writes v part
  have read (step : Step) : Keeps R (attempt faults step) := by
    intro v
    unfold attempt
    cases faults step <;> exact refl v
  cases baseDisk with
  | none => exact Keeps.bind trans (write _ _) fun _ => Keeps.pure refl _
  | some path =>
    refine Keeps.bind trans (Keeps.getState refl) fun v => ?_
    split
    · exact Keeps.throw refl _
    · refine Keeps.bind trans (write _ _) fun _ => Keeps.bind trans (read _) fun _ => ?_
      dsimp only
      split
      · exact Keeps.bind trans (write _ _) fun _ => Keeps.pure refl _
      · exact Keeps.pure refl _

/-- Filling a machine directory writes its disk and nothing else. -/
theorem createContents_keeps {R : Volume → Volume → Prop} (refl : ∀ v, R v v)
    (trans : ∀ u v w, R u v → R v w → R u w) {machineID diskID : UUID}
    {operatingSystem : GuestOperatingSystem}
    (writes : ∀ v data, R v (v.write (diskLocation machineID operatingSystem) data))
    (diskCapacityBytes : UInt64) (backend : VirtualizationBackendKind)
    (baseDisk : Option String) : Keeps R (createContents faults machineID diskID
      diskCapacityBytes backend operatingSystem baseDisk) := by
  have make (step : Step) : Keeps R (attempt faults step) := by
    intro v
    unfold attempt
    cases faults step <;> exact refl v
  have rest : Keeps R (do
      let capacity ← createDisk faults (diskLocation machineID operatingSystem)
        diskCapacityBytes baseDisk
      attempt faults .createBackendDirectory
      pure (({ id := diskID
               relativePath := (diskLocation machineID operatingSystem).relativePath
               capacityBytes := capacity } : MachineDisk),
        (⟨(backendState machineID operatingSystem backend).relativePath⟩ :
          BackendStateReference)) : Store _) :=
    Keeps.bind trans (createDisk_keeps faults refl trans writes _ _) fun _ =>
      Keeps.bind trans (make _) fun _ => Keeps.pure refl _
  unfold createContents
  split
  · exact Keeps.bind trans (make _) fun _ => rest
  · exact rest

theorem createContents_onlyIn (machineID diskID : UUID) (diskCapacityBytes : UInt64)
    (backend : VirtualizationBackendKind) (operatingSystem : GuestOperatingSystem)
    (baseDisk : Option String) :
    Keeps (OnlyIn (.machine machineID)) (createContents faults machineID diskID
      diskCapacityBytes backend operatingSystem baseDisk) :=
  createContents_keeps faults OnlyIn.refl (OnlyIn.trans (.machine machineID))
    (fun v data => OnlyIn.write v (diskLocation machineID operatingSystem) data)
    diskCapacityBytes backend baseDisk

/-- Creating a machine's files, whether it succeeds or not, touches only its directory. -/
theorem createFiles_onlyIn (machineID diskID : UUID) (diskCapacityBytes : UInt64)
    (backend : VirtualizationBackendKind) (operatingSystem : GuestOperatingSystem)
    (baseDisk : Option String) :
    Keeps (OnlyIn (.machine machineID)) (createFiles faults machineID diskID
      diskCapacityBytes backend operatingSystem baseDisk) := by
  refine keeps_bind (OnlyIn.keeps_attempt faults _ fun v => OnlyIn.refl v) fun _ =>
    keeps_bind (createMachineDirectory_onlyIn faults machineID) fun _ => ?_
  refine Keeps.tryCatch (OnlyIn.trans (.machine machineID))
    (createContents_onlyIn faults machineID diskID _ backend operatingSystem baseDisk) fun e => ?_
  exact keeps_bind (Keeps.ignoring (OnlyIn.keeps_removeItem faults _ _)) fun _ => keeps_throw e

theorem resolveFiles_onlyIn (d : ManagedDirectory) (machine : Machine) :
    Keeps (OnlyIn d) (resolveFiles machine) := by
  refine keeps_bind (OnlyIn.keeps_resolve _) fun disk =>
    keeps_bind (OnlyIn.keeps_resolve _) fun _ => keeps_bind keeps_getState fun v => ?_
  split
  · exact keeps_bind (keeps_throw _) fun _ => keeps_pure _
  · exact keeps_pure _

theorem copyFirmwareFiles_onlyIn (sourceDirectory : String) (destination : Location)
    (fileNames : List String) : Keeps (OnlyIn destination.directory)
      (copyFirmwareFiles faults sourceDirectory destination fileNames) := by
  induction fileNames with
  | nil => exact keeps_pure _
  | cons fileName rest ih =>
    refine keeps_bind (keeps_bind keeps_getState fun v => ?_) fun _ => ih
    split
    · exact keeps_pure _
    · exact Keeps.ignoring (OnlyIn.keeps_writeFile faults _
        ⟨destination.directory, destination.name ++ "/" ++ fileName⟩ _)

/-- A clone touches only the directory of the new machine. -/
theorem cloneFiles_onlyIn (source : Machine) (destinationID diskID : UUID) :
    Keeps (OnlyIn (.machine destinationID)) (cloneFiles faults source destinationID diskID) := by
  refine keeps_bind (resolveFiles_onlyIn _ source) fun disk =>
    keeps_bind (createFiles_onlyIn faults destinationID diskID _ _ _ _) fun result =>
    keeps_bind ?_ fun _ => keeps_pure _
  exact copyFirmwareFiles_onlyIn faults _
    (backendState destinationID source.spec.operatingSystem source.backend) _

end Frame

end SimpleVM.Storage
