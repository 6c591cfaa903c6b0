import SimpleVM.Storage.DiskCapacity

/-!
# Clones are complete or absent

A clone that is returned has the disk of its source and every state file, and a clone that fails
leaves no directory, exactly when no copy of a state file is passed over and a directory that was
made can be removed again.
-/
namespace SimpleVM.Storage

open Domain Effects

section Firmware

variable {faults : Faults} {sourceDirectory : String} {destination : Location}
  {fileName other : String} {v w : Volume} {data : Data}

theorem firmwareLocation_injective
    (same : (firmwareLocation destination fileName).relativePath =
      (firmwareLocation destination other).relativePath) : fileName = other := by
  have names := congrArg (fun l => l.name.toList) (relativePath_injective same)
  simp only [firmwareLocation, String.toList_append, List.append_cancel_left_eq] at names
  exact String.toList_inj.mp names

/-- What is at the place of a state file after its copy. -/
theorem withFirmware_here
    (present : v.file? (sourceDirectory ++ "/" ++ fileName) = some data)
    (free : v.file? (firmwareLocation destination fileName).relativePath = none) :
    (v.withFirmware faults sourceDirectory destination fileName).file?
      (firmwareLocation destination fileName).relativePath = firmwareCopy faults fileName data := by
  unfold Volume.withFirmware
  rw [present, Option.bind_some]
  cases firmwareCopy faults fileName data with
  | none => exact free
  | some part => rw [file?_write, if_pos rfl]

/-- After all copies each state file of the source is where its own copy put it. -/
theorem copyFirmwareFiles_here {fileNames : List String} {result : Except StorageError Unit}
    (run : copyFirmwareFiles faults sourceDirectory destination fileNames v = (result, w))
    (distinct : fileNames.Nodup) (member : fileName ∈ fileNames)
    (present : v.file? (sourceDirectory ++ "/" ++ fileName) = some data)
    (free : v.file? (firmwareLocation destination fileName).relativePath = none)
    (elsewhere : ∀ other, sourceDirectory ++ "/" ++ fileName ≠
      (firmwareLocation destination other).relativePath) :
    w.file? (firmwareLocation destination fileName).relativePath =
      firmwareCopy faults fileName data := by
  induction fileNames generalizing v with
  | nil => simp at member
  | cons first rest ih =>
    rw [copyFirmwareFiles_cons] at run
    obtain ⟨absent, distinctRest⟩ := List.nodup_cons.mp distinct
    by_cases here : fileName = first
    · -- the rest of the copies go to other places
      subst here
      rw [copyFirmwareFiles_others run fun other memberRest same => ?_]
      · exact withFirmware_here present free
      · exact absent (firmwareLocation_injective same ▸ memberRest)
    · have apart : (firmwareLocation destination fileName).relativePath ≠
          (firmwareLocation destination first).relativePath :=
        fun same => here (firmwareLocation_injective same)
      have later := (List.mem_cons.mp member).resolve_left here
      refine ih run distinctRest later ?_ ?_
      · rw [withFirmware_others (elsewhere first), present]
      · rw [withFirmware_others apart, free]

end Firmware

section Errors

variable {faults : Faults} {v w : Volume} {e : StorageError}

theorem resolve_error {relativePath : String} (run : resolve relativePath v = (.error e, w)) :
    isManagedPath relativePath ≠ true ∧ w = v := by
  unfold resolve at run
  split at run
  · cases run
  · next outside =>
    cases run
    exact ⟨outside, rfl⟩

theorem resolveFiles_error {machine : Machine} (run : resolveFiles machine v = (.error e, w)) :
    (isManagedPath machine.disk.relativePath ≠ true ∨
      isManagedPath machine.backendState.relativeDirectory ≠ true ∨
      v.file? machine.disk.relativePath = none) ∧ w = v := by
  unfold resolveFiles at run
  rcases Failing.bind_error run with failed | ⟨disk, u, resolved, run⟩
  · obtain ⟨outside, same⟩ := resolve_error failed
    exact ⟨.inl outside, same⟩
  obtain ⟨-, named, same⟩ := resolve_eq_ok.mp resolved
  rw [named, same] at run
  rcases Failing.bind_error run with failed | ⟨_, t, resolved, run⟩
  · obtain ⟨outside, same⟩ := resolve_error failed
    exact ⟨.inr (.inl outside), same⟩
  obtain ⟨-, -, same⟩ := resolve_eq_ok.mp resolved
  rw [same, Failing.bind_of_ok _ (Failing.getState_eq_ok.mpr ⟨rfl, rfl⟩)] at run
  cases found : v.file? machine.disk.relativePath with
  | none =>
    simp only [found] at run
    cases run
    exact ⟨.inr (.inr rfl), rfl⟩
  | some data =>
    simp only [found] at run
    cases run

/-- The call fails before it has made a directory. -/
def FailsEarly (faults : Faults) (source : Machine) (v : Volume) : Prop :=
  (isManagedPath source.disk.relativePath ≠ true ∨
    isManagedPath source.backendState.relativeDirectory ≠ true ∨
    v.file? source.disk.relativePath = none) ∨
  faults .initializeStorage ≠ none ∨ faults .createMachineDirectory ≠ none

end Errors

section Clones

variable {faults : Faults} {source : Machine} {destinationID diskID : UUID} {v w : Volume}
  {disk : MachineDisk} {state : BackendStateReference} {e : StorageError}

theorem cloneFiles_error (absent : .machine destinationID ∉ v.directories)
    (run : cloneFiles faults source destinationID diskID v = (.error e, w)) :
    (FailsEarly faults source v ∧ w = v) ∨
      (¬ FailsEarly faults source v ∧ ∃ t, .machine destinationID ∈ t.directories ∧
        w = (removeItem faults .discardMachineDirectory (.machine destinationID) t).2) := by
  unfold cloneFiles at run
  rcases Failing.bind_error run with failed | ⟨path, u, resolved, run⟩
  · obtain ⟨reason, same⟩ := resolveFiles_error failed
    exact .inl ⟨.inl reason, same⟩
  obtain ⟨managed, backend, present, named, same⟩ := resolveFiles_eq_ok.mp resolved
  rw [named, same] at run
  rcases Failing.bind_error run with failed | ⟨result, t, created, run⟩
  · rcases createFiles_cases failed with
      ⟨_, -, same, fault | here | fault⟩ | ⟨⟨ready, -, possible⟩, t, filled, left⟩
    · exact .inl ⟨.inr (.inl fault), same⟩
    · exact absurd here absent
    · exact .inl ⟨.inr (.inr fault), same⟩
    · have keeps : Keeps (fun v w : Volume => w.directories = v.directories)
          (createContents faults destinationID diskID source.disk.capacityBytes source.backend
            source.spec.operatingSystem (some source.disk.relativePath)) :=
        createContents_keeps (R := fun v w => w.directories = v.directories) faults
          (fun _ => rfl) (fun _ _ _ first second => second.trans first) (fun _ _ => rfl) _ _ _
      have there : .machine destinationID ∈ t.directories := by
        rw [keeps.of_run filled]
        simp [Volume.addDirectory]
      refine .inr ⟨?_, t, there, left⟩
      rintro ((outside | outside | missing) | fault | fault)
      · exact outside managed
      · exact outside backend
      · simp [missing] at present
      · exact fault ready
      · exact fault possible
  · -- copies of state files do not fail
    obtain ⟨_, s, copied⟩ := succeeds_copyFirmwareFiles faults
      source.backendState.relativeDirectory
      (backendState destinationID source.spec.operatingSystem source.backend)
      firmwareFileNames t
    rw [Failing.bind_of_ok _ copied] at run
    cases run

/-- Every file and every directory there was is still there, a file with the same contents. -/
structure Unchanged (v w : Volume) : Prop where
  files : ∀ path data, v.file? path = some data → w.file? path = some data
  directories : ∀ d ∈ v.directories, d ∈ w.directories

/-- The clone has the disk of its source, grown with zeros, and each state file the source has. -/
structure Complete (source : Machine) (v : Volume) (disk : MachineDisk)
    (state : BackendStateReference) (w : Volume) : Prop where
  disk : ∃ data zeros, v.file? source.disk.relativePath = some data ∧
    w.file? disk.relativePath = some (data ++ List.replicate zeros 0)
  firmware : ∀ fileName ∈ firmwareFileNames, ∀ data,
    v.file? (source.backendState.relativeDirectory ++ "/" ++ fileName) = some data →
      w.file? (state.relativeDirectory ++ "/" ++ fileName) = some data

def CompleteOrAbsent (faults : Faults) (source : Machine) (destinationID diskID : UUID)
    (v : Volume) : Prop :=
  match cloneFiles faults source destinationID diskID v with
  | (.ok (disk, state), w) => Complete source v disk state w ∧ Unchanged v w
  | (.error _, w) => .machine destinationID ∉ w.directories ∧ Unchanged v w

/-- No copy of a state file the source has fails, or only with all of it in place. -/
def CopiesFirmware (faults : Faults) (source : Machine) (v : Volume) : Prop :=
  ∀ fileName ∈ firmwareFileNames, ∀ data,
    v.file? (source.backendState.relativeDirectory ++ "/" ++ fileName) = some data →
      firmwareCopy faults fileName data = some data

theorem file?_eq_of_filesIn {l : Location}
    (same : w.filesIn l.directory = v.filesIn l.directory) :
    w.file? l.relativePath = v.file? l.relativePath := by
  have inDirectory (u : Volume) : u.file? l.relativePath =
      ((u.filesIn l.directory).find? fun entry => entry.1.relativePath = l.relativePath).map
        (·.2) := by
    unfold Volume.file? Volume.filesIn
    rw [List.find?_filter]
    congr 2
    funext entry
    by_cases named : entry.1.relativePath = l.relativePath
    · simp [relativePath_injective named]
    · simp [named]
  rw [inDirectory, inDirectory, same]

/-- Whatever happens, nothing outside the new directory is touched. -/
theorem cloneFiles_unchanged (closed : v.Closed) (absent : .machine destinationID ∉ v.directories)
    {result : Except StorageError (MachineDisk × BackendStateReference)}
    (run : cloneFiles faults source destinationID diskID v = (result, w)) : Unchanged v w := by
  have onlyIn := (cloneFiles_onlyIn faults source destinationID diskID).of_run run
  have differ {d : ManagedDirectory} (present : d ∈ v.directories) :
      d ≠ .machine destinationID := fun same => absent (same ▸ present)
  refine ⟨fun path data found => ?_, fun d present => ?_⟩
  · obtain ⟨l, rfl, present⟩ := closed.exists_location found
    rw [file?_eq_of_filesIn (onlyIn.1 l.directory (differ present)), found]
  · exact (onlyIn.2 d (differ present)).mpr present

theorem copyFirmwareFiles_closed {sourceDirectory : String} {destination : Location}
    {fileNames : List String} {result : Except StorageError Unit} (closed : v.Closed)
    (present : destination.directory ∈ v.directories)
    (run : copyFirmwareFiles faults sourceDirectory destination fileNames v = (result, w)) :
    w.Closed := by
  induction fileNames generalizing v with
  | nil =>
    cases run
    exact closed
  | cons fileName rest ih =>
    rw [copyFirmwareFiles_cons] at run
    refine ih ?_ (by simpa using present) run
    unfold Volume.withFirmware
    split
    · exact closed
    · exact closed.write (l := firmwareLocation destination fileName) present _

/-- A clone, too, leaves the files in directories that exist. -/
theorem cloneFiles_closed (closed : v.Closed)
    {result : Except StorageError (MachineDisk × BackendStateReference)}
    (run : cloneFiles faults source destinationID diskID v = (result, w)) : w.Closed := by
  rcases Failing.bind_cases run with ⟨e, failed, -⟩ | ⟨path, u, resolved, run⟩
  · rw [(resolveFiles_error failed).2]
    exact closed
  obtain ⟨-, -, -, -, same⟩ := resolveFiles_eq_ok.mp resolved
  rw [same] at run
  rcases Failing.bind_cases run with ⟨e, failed, -⟩ | ⟨returned, t, created, run⟩
  · exact (createFiles_closed closed failed).1
  obtain ⟨filled, present⟩ := createFiles_closed closed created
  rcases Failing.bind_cases run with ⟨e, failed, -⟩ | ⟨_, s, copied, run⟩
  · exact copyFirmwareFiles_closed filled (present returned rfl) failed
  · cases run
    exact copyFirmwareFiles_closed filled (present returned rfl) copied

/-- What is there already is not in the new directory. -/
theorem ne_of_found (closed : v.Closed) {d : ManagedDirectory} (absent : d ∉ v.directories)
    {path : String} {data : Data} (found : v.file? path = some data) {l : Location}
    (inside : l.directory = d) : path ≠ l.relativePath := by
  rintro rfl
  have nothing := closed.file?_eq_none (inside ▸ absent : l.directory ∉ v.directories)
  rw [nothing] at found
  cases found

theorem firmwareLocation_relativePath (destination : Location) (fileName : String) :
    destination.relativePath ++ "/" ++ fileName =
      (firmwareLocation destination fileName).relativePath := by
  simp [Location.relativePath, firmwareLocation, String.append_assoc]

/-- After a call that returned, each state file the source had is where its own copy put it. -/
theorem cloneFiles_firmware (closed : v.Closed)
    (run : cloneFiles faults source destinationID diskID v = (.ok (disk, state), w))
    {fileName : String} (member : fileName ∈ firmwareFileNames) {data : Data}
    (present : v.file? (source.backendState.relativeDirectory ++ "/" ++ fileName) = some data) :
    w.file? (state.relativeDirectory ++ "/" ++ fileName) = firmwareCopy faults fileName data := by
  obtain ⟨u, created, copied⟩ := cloneFiles_spec run
  obtain ⟨absent, filled⟩ := createFiles_spec created
  have elsewhere {l : Location} (inside : l.directory = .machine destinationID) :=
    ne_of_found closed absent present inside
  have before := filled.holds.others _ (elsewhere rfl)
  rw [file?_addDirectory, present] at before
  let destination := backendState destinationID source.spec.operatingSystem source.backend
  have nothing : v.file? (firmwareLocation destination fileName).relativePath = none :=
    closed.file?_eq_none absent
  have free := filled.holds.others _ (diskLocation_ne_firmware destinationID
    source.spec.operatingSystem source.backend fileName).symm
  rw [file?_addDirectory, nothing] at free
  rw [filled.state, firmwareLocation_relativePath]
  exact copyFirmwareFiles_here copied (by decide) member before free fun other => elsewhere rfl

theorem cloneFiles_disk (sized : Sized (v.file? source.disk.relativePath))
    (run : cloneFiles faults source destinationID diskID v = (.ok (disk, state), w)) :
    ∃ data zeros, v.file? source.disk.relativePath = some data ∧
      w.file? disk.relativePath = some (data ++ List.replicate zeros 0) := by
  obtain ⟨u, created, copied⟩ := cloneFiles_spec run
  obtain ⟨-, filled⟩ := createFiles_spec created
  have here := filled.holds.here
  have some_base := filled.found rfl
  rw [baseData_addDirectory] at here some_base
  obtain ⟨data, found⟩ := Option.isSome_iff_exists.mp some_base
  rw [found, newDisk_zeros (sized data found)] at here
  have stays := copyFirmwareFiles_others copied fun fileName _ =>
    diskLocation_ne_firmware destinationID source.spec.operatingSystem source.backend fileName
  rw [here] at stays
  rw [filled.disk]
  exact ⟨data, _, found, stays⟩

/-- What is returned is complete when no copy of a state file was passed over. -/
theorem complete_iff (closed : v.Closed) (sized : Sized (v.file? source.disk.relativePath))
    (run : cloneFiles faults source destinationID diskID v = (.ok (disk, state), w)) :
    Complete source v disk state w ↔ CopiesFirmware faults source v := by
  constructor
  · intro complete fileName member data present
    rw [← cloneFiles_firmware closed run member present]
    exact complete.firmware fileName member data present
  · intro copies
    refine ⟨cloneFiles_disk sized run, fun fileName member data present => ?_⟩
    rw [cloneFiles_firmware closed run member present]
    exact copies fileName member data present

/-- What a call that fails made is gone when it made nothing or could remove it. -/
theorem gone_iff (absent : .machine destinationID ∉ v.directories)
    (run : cloneFiles faults source destinationID diskID v = (.error e, w)) :
    .machine destinationID ∉ w.directories ↔
      FailsEarly faults source v ∨ faults .discardMachineDirectory = none := by
  rcases cloneFiles_error absent run with ⟨early, rfl⟩ | ⟨late, t, there, rfl⟩
  · exact ⟨fun _ => .inl early, fun _ => absent⟩
  · cases discard : faults .discardMachineDirectory with
    | none => simp [removeItem, discard, Volume.removeDirectory]
    | some fault =>
      -- a removal that stops half way leaves the directory
      simp [removeItem, discard, Volume.removePartly, there, late]

/-- A clone is complete or absent if and only if no copy of a state file is passed over, and a
call that fails has not made its directory or can remove it again. -/
theorem complete_or_absent_iff (closed : v.Closed)
    (sized : Sized (v.file? source.disk.relativePath)) :
    CompleteOrAbsent faults source destinationID diskID v ↔
      .machine destinationID ∉ v.directories ∧
      (ClonesFiles faults source destinationID v → CopiesFirmware faults source v) ∧
      (¬ ClonesFiles faults source destinationID v →
        FailsEarly faults source v ∨ faults .discardMachineDirectory = none) := by
  unfold CompleteOrAbsent
  cases run : cloneFiles faults source destinationID diskID v with
  | mk result w =>
    cases result with
    | ok returned =>
      have clones : ClonesFiles faults source destinationID v :=
        cloneFiles_succeeds.mp ⟨_, _, run⟩
      have complete := complete_iff closed sized run
      constructor
      · intro property
        exact ⟨clones.absent, fun _ => complete.mp property.1, fun failed => absurd clones failed⟩
      · rintro ⟨absent, copies, -⟩
        exact ⟨complete.mpr (copies clones), cloneFiles_unchanged closed absent run⟩
    | error e =>
      have failed : ¬ ClonesFiles faults source destinationID v := by
        intro clones
        obtain ⟨returned, t, succeeded⟩ := cloneFiles_succeeds.mpr clones
        rw [run] at succeeded
        cases succeeded
      constructor
      · rintro ⟨gone, unchanged⟩
        have absent := mt (unchanged.directories (.machine destinationID)) gone
        exact ⟨absent, fun clones => absurd clones failed, fun _ => (gone_iff absent run).mp gone⟩
      · rintro ⟨absent, -, removable⟩
        exact ⟨(gone_iff absent run).mpr (removable failed),
          cloneFiles_unchanged closed absent run⟩

end Clones

/-- A Windows machine with a TPM. -/
def sealedMachine : Machine where
  id := ⟨1⟩
  name := "Windows"
  spec := {
    cpuCount := 4
    memorySizeBytes := 4294967296
    diskSizeBytes := 512
    architecture := .arm64
    operatingSystem := .windows }
  sourceImageID := ⟨0⟩
  disk := ⟨⟨2⟩, (diskLocation ⟨1⟩ .windows).relativePath, 512⟩
  provisioningState := .ready
  bootMedia := .systemDisk
  backend := .qemu
  backendState := ⟨(backendState ⟨1⟩ .windows .qemu).relativePath⟩
  createdAt := 0

def tpmState : Location := firmwareLocation (backendState ⟨1⟩ .windows .qemu) "tpm-state"

def sealedVolume : Volume :=
  ((Volume.addDirectory {} (.machine ⟨1⟩)).write (diskLocation ⟨1⟩ .windows) [1]).write tpmState [2]

theorem sealedVolume_closed : sealedVolume.Closed := by
  have empty : Volume.Closed {} := fun _ member => by cases member
  exact ((empty.addDirectory (.machine ⟨1⟩)).write (by decide) _).write (by decide) _

theorem sealedMachine_disk :
    sealedVolume.file? sealedMachine.disk.relativePath = some [1] := by
  have apart : tpmState.relativePath ≠ sealedMachine.disk.relativePath :=
    (diskLocation_ne_firmware ⟨1⟩ .windows .qemu "tpm-state").symm
  unfold sealedVolume
  rw [file?_write, if_neg apart, file?_write]
  exact if_pos rfl

theorem sealedMachine_sized : Sized (sealedVolume.file? sealedMachine.disk.relativePath) := by
  intro data found
  rw [sealedMachine_disk] at found
  cases found
  decide

theorem sealedMachine_cloned :
    CompleteOrAbsent (fun _ => none) sealedMachine ⟨3⟩ ⟨4⟩ sealedVolume := by
  refine Iff.mpr (complete_or_absent_iff sealedVolume_closed sealedMachine_sized) ⟨?_, ?_, ?_⟩
  · decide
  · intro _ fileName _ data _
    rfl
  · intro _
    exact .inr rfl

/-- The TPM state could not be copied. -/
def tpmNotCopied : Faults := fun step =>
  if step = .copyFirmware "tpm-state" then some ⟨"No space left on device.", fun _ => true, none⟩
  else none

/-- The clone is returned without a TPM. -/
theorem clone_without_tpm :
    ¬ CompleteOrAbsent tpmNotCopied sealedMachine ⟨3⟩ ⟨4⟩ sealedVolume := by
  have clones : ClonesFiles tpmNotCopied sealedMachine ⟨3⟩ sealedVolume := by
    refine ⟨by decide +kernel, by decide +kernel, by decide, by decide, fun _ => rfl, [1],
      sealedMachine_disk, fun _ => rfl⟩
  obtain ⟨⟨disk, state⟩, w, run⟩ := cloneFiles_succeeds.mpr clones
  unfold CompleteOrAbsent
  rw [run]
  rintro ⟨complete, -⟩
  have copies := (complete_iff sealedVolume_closed sealedMachine_sized run).mp complete
  have present : sealedVolume.file?
      (sealedMachine.backendState.relativeDirectory ++ "/" ++ "tpm-state") = some [2] := by
    show sealedVolume.file? ((backendState ⟨1⟩ .windows .qemu).relativePath ++ "/" ++ _) = _
    rw [firmwareLocation_relativePath]
    unfold sealedVolume
    rw [file?_write]
    exact if_pos rfl
  have copied := copies "tpm-state" (by decide) [2] present
  revert copied
  decide

end SimpleVM.Storage
