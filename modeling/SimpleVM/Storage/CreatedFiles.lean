import SimpleVM.Storage.Paths

/-!
# The files a new machine gets

What `createFiles` leaves in the volume: when it returns, a disk in a directory that was not there,
and nothing else changed; when it throws, what its cleanup could not remove.
-/
namespace SimpleVM.Storage

open Domain Effects

section Reading

variable {v w : Volume} {path : String}

theorem file?_write (v : Volume) (l : Location) (data : Data) (path : String) :
    (v.write l data).file? path = if l.relativePath = path then some data else v.file? path := by
  unfold Volume.file? Volume.write
  rw [List.find?_cons]
  by_cases here : l.relativePath = path
  · simp [here]
  · rw [if_neg here]
    simp only [here, decide_false, List.find?_filter]
    congr 2
    funext entry
    by_cases there : entry.1 = l
    · simp [there, here]
    · simp [there]

@[simp] theorem file?_addDirectory (v : Volume) (d : ManagedDirectory) (path : String) :
    (v.addDirectory d).file? path = v.file? path := rfl

theorem components_directory (d : ManagedDirectory) (name : String) :
    components (Location.relativePath ⟨d, name⟩) =
      (match d with
        | .machine id => ["Machines", uuidString id]
        | .image id => ["Images", uuidString id]) ++ components name := by
  have machines : IsName "Machines" := by unfold IsName; decide
  have images : IsName "Images" := by unfold IsName; decide
  cases d with
  | machine id =>
    have split : Location.relativePath ⟨.machine id, name⟩ =
        "Machines" ++ "/" ++ (uuidString id ++ "/" ++ name) := by
      simp [Location.relativePath, ManagedDirectory.relativePath, String.append_assoc]
    rw [split, components_append machines, components_append (isName_uuidString id)]
    rfl
  | image id =>
    have split : Location.relativePath ⟨.image id, name⟩ =
        "Images" ++ "/" ++ (uuidString id ++ "/" ++ name) := by
      simp [Location.relativePath, ManagedDirectory.relativePath, String.append_assoc]
    rw [split, components_append images, components_append (isName_uuidString id)]
    rfl

/-- A path names one location. -/
theorem relativePath_injective {l m : Location} (same : l.relativePath = m.relativePath) :
    l = m := by
  obtain ⟨d, name⟩ := l
  obtain ⟨e, other⟩ := m
  have parts := congrArg components same
  rw [components_directory, components_directory] at parts
  have directories : d = e := by
    cases d with
    | machine a =>
      cases e with
      | machine b =>
        simp only [List.cons_append, List.cons.injEq, true_and] at parts
        rw [uuidString_injective parts.1]
      | image b => simp at parts
    | image a =>
      cases e with
      | machine b => simp at parts
      | image b =>
        simp only [List.cons_append, List.cons.injEq, true_and] at parts
        rw [uuidString_injective parts.1]
  subst directories
  have names : name = other := by
    have chars := congrArg String.toList same
    apply String.toList_inj.mp
    simpa [Location.relativePath] using chars
  rw [names]

/-- A file lies in a directory that exists. -/
def Volume.Closed (v : Volume) : Prop := ∀ entry ∈ v.files, entry.1.directory ∈ v.directories

/-- In a directory that does not exist there is no file. -/
theorem Volume.Closed.file?_eq_none (closed : v.Closed) {l : Location}
    (absent : l.directory ∉ v.directories) : v.file? l.relativePath = none := by
  unfold Volume.file?
  rw [Option.map_eq_none_iff, List.find?_eq_none]
  intro entry member same
  have located := relativePath_injective (of_decide_eq_true same)
  exact absent (located ▸ closed entry member)

/-- A file that is there lies in a directory that exists. -/
theorem Volume.Closed.exists_location (closed : v.Closed) {data : Data}
    (found : v.file? path = some data) :
    ∃ l : Location, l.relativePath = path ∧ l.directory ∈ v.directories := by
  obtain ⟨entry, first, -⟩ := Option.map_eq_some_iff.mp found
  have here := List.find?_some first
  exact ⟨entry.1, of_decide_eq_true here, closed entry (List.mem_of_find?_eq_some first)⟩

theorem Volume.Closed.write (closed : v.Closed) {l : Location} (present : l.directory ∈ v.directories)
    (data : Data) : (v.write l data).Closed := by
  intro entry member
  rcases List.mem_cons.mp member with rfl | other
  · exact present
  · exact closed entry (List.mem_filter.mp other).1

theorem Volume.Closed.addDirectory (closed : v.Closed) (d : ManagedDirectory) :
    (v.addDirectory d).Closed := by
  intro entry member
  have before := closed entry member
  by_cases same : entry.1.directory = d
  · simp [Volume.addDirectory, same]
  · simp [Volume.addDirectory, same, before]

theorem Volume.Closed.removeItem (closed : v.Closed) (faults : Faults) (step : Step)
    (d : ManagedDirectory) : (Storage.removeItem faults step d v).2.Closed := by
  unfold Storage.removeItem
  cases faults step with
  | none =>
    intro entry member
    obtain ⟨present, other⟩ := List.mem_filter.mp member
    exact List.mem_filter.mpr ⟨closed entry present, other⟩
  | some fault =>
    intro entry member
    exact closed entry (List.mem_filter.mp member).1

end Reading

/-- What the disk of a new machine holds, and its recorded capacity. -/
def newDisk (requested : UInt64) : Option Data → Data × UInt64
  | none => (truncated [] (alignedCapacity requested), alignedCapacity requested)
  | some base =>
    let capacity := max (UInt64.ofNat base.length) (alignedCapacity requested)
    (if capacity > UInt64.ofNat base.length then truncated base capacity else base, capacity)

section Creation

variable {faults : Faults} {machineID diskID : UUID} {requested : UInt64}
  {backend : VirtualizationBackendKind} {operatingSystem : GuestOperatingSystem}
  {baseDisk : Option String} {v w : Volume}

/-- The contents of the base disk, if there is one. -/
def baseData (v : Volume) : Option String → Option Data
  | none => none
  | some path => v.file? path

/-- The volume with one file at a location; how often it was written does not matter. -/
structure Holds (v w : Volume) (l : Location) (data : Data) : Prop where
  here : w.file? l.relativePath = some data
  others : ∀ path, path ≠ l.relativePath → w.file? path = v.file? path
  directories : w.directories = v.directories

theorem Holds.write (v : Volume) (l : Location) (data : Data) : Holds v (v.write l data) l data where
  here := by rw [file?_write, if_pos rfl]
  others := fun path other => by rw [file?_write, if_neg fun same => other same.symm]
  directories := rfl

theorem Holds.rewrite {l : Location} {data : Data} (holds : Holds v w l data) (new : Data) :
    Holds v (w.write l new) l new where
  here := by rw [file?_write, if_pos rfl]
  others := fun path other => by
    rw [file?_write, if_neg fun same => other same.symm, holds.others path other]
  directories := holds.directories

theorem createDisk_spec {disk : Location} {capacity : UInt64}
    (run : createDisk faults disk requested baseDisk v = (.ok capacity, w)) :
    (baseDisk.isSome → (baseData v baseDisk).isSome) ∧
      capacity = (newDisk requested (baseData v baseDisk)).2 ∧
      Holds v w disk (newDisk requested (baseData v baseDisk)).1 := by
  cases baseDisk with
  | none =>
    simp only [createDisk, createSparseDisk, Failing.bind_eq_ok, writeFile_eq_ok,
      Failing.pure_eq_ok] at run
    obtain ⟨_, u, ⟨-, rfl⟩, rfl, rfl⟩ := run
    exact ⟨fun some_ => some_, rfl, .write v disk _⟩
  | some path =>
    simp only [createDisk, cloneBaseDisk, Failing.bind_eq_ok, Failing.getState_eq_ok] at run
    obtain ⟨before, u, ⟨read, same⟩, run⟩ := run
    rw [read, same] at run
    cases found : v.file? path with
    | none =>
      rw [found] at run
      exact absurd run Failing.throw_ne_ok
    | some base =>
      rw [found] at run
      simp only [Failing.bind_eq_ok, writeFile_eq_ok, attempt_eq_ok] at run
      obtain ⟨_, u, ⟨-, rfl⟩, _, _, ⟨-, rfl⟩, run⟩ := run
      refine ⟨fun _ => by simp [baseData, found], ?_⟩
      have copied := Holds.write v disk base
      simp only [baseData, found, newDisk]
      split at run
      · next larger =>
        simp only [Failing.bind_eq_ok, writeFile_eq_ok, Failing.pure_eq_ok] at run
        obtain ⟨_, t, ⟨-, rfl⟩, rfl, rfl⟩ := run
        rw [if_pos larger]
        exact ⟨rfl, copied.rewrite _⟩
      · next same =>
        obtain ⟨rfl, rfl⟩ := Failing.pure_eq_ok.mp run
        rw [if_neg same]
        exact ⟨rfl, copied⟩

variable {disk : MachineDisk} {state : BackendStateReference}

/-- What filling a machine directory leaves: the disk, its record and nothing else. -/
structure Filled (machineID diskID : UUID) (requested : UInt64)
    (backend : VirtualizationBackendKind) (operatingSystem : GuestOperatingSystem)
    (baseDisk : Option String) (v : Volume) (disk : MachineDisk) (state : BackendStateReference)
    (w : Volume) : Prop where
  found : baseDisk.isSome → (baseData v baseDisk).isSome
  disk : disk = ⟨diskID, (diskLocation machineID operatingSystem).relativePath,
    (newDisk requested (baseData v baseDisk)).2⟩
  state : state = ⟨(backendState machineID operatingSystem backend).relativePath⟩
  holds : Holds v w (diskLocation machineID operatingSystem)
    (newDisk requested (baseData v baseDisk)).1

theorem createContents_spec (run : createContents faults machineID diskID requested backend
      operatingSystem baseDisk v = (.ok (disk, state), w)) :
    Filled machineID diskID requested backend operatingSystem baseDisk v disk state w := by
  have rest (run : (do
      let capacity ← createDisk faults (diskLocation machineID operatingSystem) requested baseDisk
      attempt faults .createBackendDirectory
      pure (({ id := diskID
               relativePath := (diskLocation machineID operatingSystem).relativePath
               capacityBytes := capacity } : MachineDisk),
        (⟨(backendState machineID operatingSystem backend).relativePath⟩ :
          BackendStateReference)) : Store _) v = (.ok (disk, state), w)) :
      Filled machineID diskID requested backend operatingSystem baseDisk v disk state w := by
    obtain ⟨capacity, s, created, later⟩ := Failing.bind_eq_ok.mp run
    obtain ⟨_, t, backendDirectory, last⟩ := Failing.bind_eq_ok.mp later
    have same : t = s := (attempt_eq_ok.mp backendDirectory).2
    obtain ⟨returned, rfl⟩ := Failing.pure_eq_ok.mp last
    rw [← same] at created
    obtain ⟨found, recorded, holds⟩ := createDisk_spec created
    obtain ⟨rfl, rfl⟩ := Prod.mk.inj returned
    exact ⟨found, by rw [recorded], rfl, holds⟩
  unfold createContents at run
  split at run
  · obtain ⟨_, u, stateDirectory, later⟩ := Failing.bind_eq_ok.mp run
    have same : u = v := (attempt_eq_ok.mp stateDirectory).2
    rw [same] at later
    exact rest later
  · exact rest run

theorem attempt_error {e : StorageError} {step : Step} {change : Volume → Volume}
    (run : attempt faults step change v = (.error e, w)) : faults step ≠ none ∧ w = v := by
  unfold attempt at run
  cases fault : faults step with
  | none =>
    rw [fault] at run
    cases run
  | some fault =>
    simp only [fault] at run
    cases run
    exact ⟨by simp, rfl⟩

theorem createMachineDirectory_error {e : StorageError}
    (run : createMachineDirectory faults machineID v = (.error e, w)) :
    (.machine machineID ∈ v.directories ∨ faults .createMachineDirectory ≠ none) ∧ w = v := by
  unfold createMachineDirectory at run
  rw [Failing.bind_of_ok _ (Failing.getState_eq_ok.mpr ⟨rfl, rfl⟩)] at run
  by_cases here : .machine machineID ∈ v.directories
  · rw [if_pos here] at run
    cases run
    exact ⟨.inl here, rfl⟩
  · rw [if_neg here] at run
    obtain ⟨fault, same⟩ := attempt_error run
    exact ⟨.inr fault, same⟩

/-- The volume once a directory that could not be filled has been removed. -/
def cleanedUp (faults : Faults) (machineID : UUID) :
    Except StorageError (MachineDisk × BackendStateReference) → Volume → Volume
  | .ok _, t => t
  | .error _, t => (removeItem faults .discardMachineDirectory (.machine machineID) t).2

/-- A call stops before it makes the directory, or fills it; when filling it fails it is removed. -/
theorem createFiles_cases {result : Except StorageError (MachineDisk × BackendStateReference)}
    (run : createFiles faults machineID diskID requested backend operatingSystem baseDisk v =
      (result, w)) :
    (∃ e, result = .error e ∧ w = v ∧ (faults .initializeStorage ≠ none ∨
      .machine machineID ∈ v.directories ∨ faults .createMachineDirectory ≠ none)) ∨
    ((faults .initializeStorage = none ∧ .machine machineID ∉ v.directories ∧
      faults .createMachineDirectory = none) ∧ ∃ t,
        createContents faults machineID diskID requested backend operatingSystem baseDisk
          (v.addDirectory (.machine machineID)) = (result, t) ∧
        w = cleanedUp faults machineID result t) := by
  rcases Failing.bind_cases run with ⟨e, failed, ended⟩ | ⟨_, u, initialized, run⟩
  · obtain ⟨fault, same⟩ := attempt_error failed
    exact .inl ⟨e, ended, same, .inl fault⟩
  obtain ⟨ready, same⟩ := attempt_eq_ok.mp initialized
  rw [same] at run
  rcases Failing.bind_cases run with ⟨e, failed, ended⟩ | ⟨_, u, made, run⟩
  · obtain ⟨reason, same⟩ := createMachineDirectory_error failed
    exact .inl ⟨e, ended, same, .inr reason⟩
  obtain ⟨absent, possible, same⟩ := createMachineDirectory_eq_ok.mp made
  rw [same] at run
  refine .inr ⟨⟨ready, absent, possible⟩, ?_⟩
  rcases Failing.tryCatch_cases run with ⟨a, filled, rfl⟩ | ⟨e, t, failed, handled⟩
  · exact ⟨w, filled, rfl⟩
  · cases handled
    exact ⟨t, failed, rfl⟩

theorem createFiles_spec (run : createFiles faults machineID diskID requested backend
      operatingSystem baseDisk v = (.ok (disk, state), w)) :
    .machine machineID ∉ v.directories ∧
      Filled machineID diskID requested backend operatingSystem baseDisk
        (v.addDirectory (.machine machineID)) disk state w := by
  rcases createFiles_cases run with ⟨e, ended, -⟩ | ⟨⟨-, absent, -⟩, t, filled, rfl⟩
  · cases ended
  · exact ⟨absent, createContents_spec filled⟩

theorem baseData_addDirectory (v : Volume) (d : ManagedDirectory) (baseDisk : Option String) :
    baseData (v.addDirectory d) baseDisk = baseData v baseDisk := by
  cases baseDisk <;> rfl

/-- The volume is closed and has the directory. -/
def ClosedWith (d : ManagedDirectory) (v : Volume) : Prop := d ∈ v.directories ∧ v.Closed

variable {result : Except StorageError (MachineDisk × BackendStateReference)}

theorem createContents_closedWith
    (closed : ClosedWith (.machine machineID) v)
    (run : createContents faults machineID diskID requested backend operatingSystem baseDisk v =
      (result, w)) : ClosedWith (.machine machineID) w := by
  let R (v w : Volume) : Prop :=
    ClosedWith (.machine machineID) v → ClosedWith (.machine machineID) w
  have keeps : Keeps R
      (createContents faults machineID diskID requested backend operatingSystem baseDisk) :=
    createContents_keeps faults (fun _ closed => closed)
      (fun _ _ _ first second closed => second (first closed))
      (fun v data closed => ⟨closed.1, closed.2.write closed.1 data⟩) requested backend baseDisk
  exact keeps.of_run run closed

/-- Every call leaves the files in directories that exist. -/
theorem createFiles_closed (closed : v.Closed)
    (run : createFiles faults machineID diskID requested backend operatingSystem baseDisk v =
      (result, w)) :
    w.Closed ∧ ∀ returned, result = .ok returned → .machine machineID ∈ w.directories := by
  rcases createFiles_cases run with ⟨e, rfl, rfl, -⟩ | ⟨-, t, filled, rfl⟩
  · exact ⟨closed, fun _ ended => by cases ended⟩
  · have started : ClosedWith (.machine machineID) (v.addDirectory (.machine machineID)) :=
      ⟨by simp [Volume.addDirectory], closed.addDirectory _⟩
    obtain ⟨present, stays⟩ := createContents_closedWith started filled
    cases result with
    | ok returned => exact ⟨stays, fun _ _ => present⟩
    | error e => exact ⟨stays.removeItem faults _ _, fun _ ended => by cases ended⟩

end Creation

section Cloning

variable {faults : Faults} {source : Machine} {destinationID diskID : UUID} {v w : Volume}
  {disk : MachineDisk} {state : BackendStateReference}

/-- A call that returns created the files and then copied the firmware. -/
theorem cloneFiles_spec
    (run : cloneFiles faults source destinationID diskID v = (.ok (disk, state), w)) :
    ∃ u, createFiles faults destinationID diskID source.disk.capacityBytes source.backend
        source.spec.operatingSystem (some source.disk.relativePath) v = (.ok (disk, state), u) ∧
      copyFirmwareFiles faults source.backendState.relativeDirectory
        (backendState destinationID source.spec.operatingSystem source.backend)
        firmwareFileNames u = (.ok (), w) := by
  obtain ⟨path, t, resolved, run⟩ := Failing.bind_eq_ok.mp run
  obtain ⟨-, -, -, named, same⟩ := resolveFiles_eq_ok.mp resolved
  rw [named, same] at run
  obtain ⟨result, u, created, run⟩ := Failing.bind_eq_ok.mp run
  obtain ⟨_, s, copied, run⟩ := Failing.bind_eq_ok.mp run
  obtain ⟨returned, ended⟩ := Failing.pure_eq_ok.mp run
  rw [← returned] at created
  rw [← ended] at copied
  exact ⟨u, created, copied⟩

/-- Where the clone gets a firmware file. -/
def firmwareLocation (destination : Location) (fileName : String) : Location :=
  ⟨destination.directory, destination.name ++ "/" ++ fileName⟩

/-- The disk is not one of the firmware files. -/
theorem diskLocation_ne_firmware (machineID : UUID) (operatingSystem : GuestOperatingSystem)
    (backend : VirtualizationBackendKind) (fileName : String) :
    (diskLocation machineID operatingSystem).relativePath ≠
      (firmwareLocation (backendState machineID operatingSystem backend) fileName).relativePath := by
  intro same
  have names := congrArg (fun l => l.name.toList) (relativePath_injective same)
  simp only [diskLocation, firmwareLocation, backendState, String.toList_append,
    List.append_assoc, List.append_cancel_left_eq] at names
  have slash : '/' ∈ "disk.raw".toList := by
    rw [names]
    simp
  exact absurd slash (by decide)

/-- What a copy of one firmware file puts down, if anything. -/
def firmwareCopy (faults : Faults) (fileName : String) (data : Data) : Option Data :=
  match faults (.copyFirmware fileName) with
  | none => some data
  | some fault => fault.leftover

/-- The volume after a copy of one firmware file. -/
def Volume.withFirmware (v : Volume) (faults : Faults) (sourceDirectory : String)
    (destination : Location) (fileName : String) : Volume :=
  match (v.file? (sourceDirectory ++ "/" ++ fileName)).bind (firmwareCopy faults fileName) with
  | none => v
  | some part => v.write (firmwareLocation destination fileName) part

theorem copyFirmwareFile_eq (faults : Faults) (sourceDirectory : String) (destination : Location)
    (fileName : String) (v : Volume) : copyFirmwareFile faults sourceDirectory destination fileName v =
      (.ok (), v.withFirmware faults sourceDirectory destination fileName) := by
  unfold copyFirmwareFile Volume.withFirmware
  rw [Failing.bind_of_ok _ (Failing.getState_eq_ok.mpr ⟨rfl, rfl⟩)]
  cases v.file? (sourceDirectory ++ "/" ++ fileName) with
  | none => rfl
  | some data =>
    simp only [Failing.ignoring, writeFile, firmwareCopy, firmwareLocation, Option.bind_some]
    cases faults (.copyFirmware fileName) with
    | none => rfl
    | some fault => cases fault.leftover <;> rfl

theorem copyFirmwareFiles_cons (faults : Faults) (sourceDirectory : String)
    (destination : Location) (fileName : String) (rest : List String) (v : Volume) :
    copyFirmwareFiles faults sourceDirectory destination (fileName :: rest) v =
      copyFirmwareFiles faults sourceDirectory destination rest
        (v.withFirmware faults sourceDirectory destination fileName) :=
  Failing.bind_of_ok _ (copyFirmwareFile_eq faults sourceDirectory destination fileName v)

variable {sourceDirectory : String} {destination : Location} {fileName path : String}

theorem withFirmware_others
    (other : path ≠ (firmwareLocation destination fileName).relativePath) :
    (v.withFirmware faults sourceDirectory destination fileName).file? path = v.file? path := by
  unfold Volume.withFirmware
  split
  · rfl
  · rw [file?_write, if_neg fun same => other same.symm]

@[simp] theorem withFirmware_directories :
    (v.withFirmware faults sourceDirectory destination fileName).directories =
      v.directories := by
  unfold Volume.withFirmware
  split <;> rfl

theorem copyFirmwareFiles_others {fileNames : List String} {result : Except StorageError Unit}
    (run : copyFirmwareFiles faults sourceDirectory destination fileNames v = (result, w))
    (others : ∀ fileName ∈ fileNames,
      path ≠ (firmwareLocation destination fileName).relativePath) :
    w.file? path = v.file? path := by
  induction fileNames generalizing v with
  | nil =>
    cases run
    rfl
  | cons fileName rest ih =>
    rw [copyFirmwareFiles_cons] at run
    rw [ih run fun name member => others name (by simp [member]),
      withFirmware_others (others fileName (by simp))]

end Cloning

end SimpleVM.Storage
