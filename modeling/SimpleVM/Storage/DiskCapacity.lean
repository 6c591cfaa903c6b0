import SimpleVM.Storage.CreatedFiles

/-!
# Disk capacities

The capacity `createFiles` records is the length of the disk it leaves, and covers the request and
the base disk. It is a whole number of sectors exactly when the rounded request or the base disk
that was taken over is; a clone of such a disk is one again.
-/
namespace SimpleVM.Storage

open Domain Effects

section Rounding

variable {requested : UInt64}

theorem size_eq : UInt64.size = 18446744073709551616 := rfl

/-- Rounding up to a sector. -/
theorem alignedCapacity_toNat (bound : requested.toNat ≤ UInt64.size - 512) :
    (alignedCapacity requested).toNat = (requested.toNat + 511) / 512 * 512 := by
  rw [size_eq] at bound
  have remainder : (requested % 512).toNat = requested.toNat % 512 := by
    simp [UInt64.toNat_mod]
  unfold alignedCapacity
  dsimp only
  split
  · next zero =>
    have whole : requested.toNat % 512 = 0 := by rw [← remainder, zero]; rfl
    omega
  · next part =>
    have rest : requested.toNat % 512 ≠ 0 := by
      intro zero
      apply part
      apply UInt64.toNat_inj.mp
      rw [remainder, zero]
      rfl
    have sector : (512 : UInt64).toNat = 512 := rfl
    -- a request above the last sector that fits would wrap here
    have sum : (requested + 512).toNat = requested.toNat + 512 := by
      rw [UInt64.toNat_add, sector]
      omega
    rw [UInt64.toNat_sub_of_le]
    · rw [sum, remainder]
      omega
    · rw [UInt64.le_iff_toNat_le, sum, remainder]
      omega

theorem toNat_max (a b : UInt64) : (max a b).toNat = max a.toNat b.toNat := by
  show (if a ≤ b then b else a).toNat = max a.toNat b.toNat
  split
  · next le =>
    have below := UInt64.le_iff_toNat_le.mp le
    omega
  · next lt =>
    have above := mt UInt64.le_iff_toNat_le.mpr lt
    omega

end Rounding

section NewDisk

variable {requested : UInt64} {base : Option Data}

/-- A file has at most 2^64 - 1 bytes. -/
def Sized (base : Option Data) : Prop := ∀ data, base = some data → data.length < UInt64.size

theorem newDisk_some (requested : UInt64) {data : Data} (sized : data.length < UInt64.size) :
    (newDisk requested (some data)).2.toNat =
      max data.length (alignedCapacity requested).toNat := by
  rw [size_eq] at sized
  have length : (UInt64.ofNat data.length).toNat = data.length := by
    rw [UInt64.toNat_ofNat']
    omega
  simp only [newDisk, toNat_max, length]

/-- Growing a file keeps what it holds. -/
theorem truncated_of_le {data : Data} {size : UInt64} (grows : data.length ≤ size.toNat) :
    truncated data size = data ++ List.replicate (size.toNat - data.length) 0 := by
  unfold truncated
  rw [List.take_of_length_le grows]

/-- The base disk, and zeros up to the capacity. -/
theorem newDisk_zeros {data : Data} (sized : data.length < UInt64.size) :
    (newDisk requested (some data)).1 =
      data ++ List.replicate ((newDisk requested (some data)).2.toNat - data.length) 0 := by
  have length : (UInt64.ofNat data.length).toNat = data.length := by
    rw [UInt64.toNat_ofNat']
    rw [size_eq] at sized
    omega
  have capacity := newDisk_some requested sized
  unfold newDisk at capacity ⊢
  dsimp only at capacity ⊢
  split
  · next larger =>
    have grows := Nat.le_of_lt (UInt64.lt_iff_toNat_lt.mp larger)
    rw [length] at grows
    exact truncated_of_le grows
  · next same =>
    have stays := mt UInt64.lt_iff_toNat_lt.mpr same
    have filled : max data.length (alignedCapacity requested).toNat - data.length = 0 := by omega
    rw [capacity, filled]
    simp

theorem newDisk_data (requested : UInt64) (sized : Sized base) :
    (newDisk requested base).1.length = (newDisk requested base).2.toNat ∧
      ∀ data, base = some data → data <+: (newDisk requested base).1 := by
  cases base with
  | none =>
    refine ⟨?_, by simp⟩
    simp only [newDisk]
    rw [truncated_of_le (Nat.zero_le _)]
    simp
  | some data =>
    have capacity := newDisk_some requested (sized data rfl)
    rw [newDisk_zeros (sized data rfl)]
    refine ⟨?_, ?_⟩
    · rw [List.length_append, List.length_replicate]
      omega
    · rintro _ ⟨⟩
      exact List.prefix_append _ _

end NewDisk

/-- A call that returned: what was asked for, the base disk it was given, the record it returned
and the volume it left. -/
structure Made where
  requested : UInt64
  base : Option Data
  disk : MachineDisk
  volume : Volume

/-- The recorded capacity is the length of the disk, covers the request and the base disk and is
a whole number of sectors, and the disk begins with the base disk. -/
structure Made.Honest (made : Made) : Prop where
  size : ∃ data, made.volume.file? made.disk.relativePath = some data ∧
    data.length = made.disk.capacityBytes.toNat ∧ ∀ base, made.base = some base → base <+: data
  requested : made.requested ≤ made.disk.capacityBytes
  base : ∀ base, made.base = some base → base.length ≤ made.disk.capacityBytes.toNat
  aligned : 512 ∣ made.disk.capacityBytes.toNat

/-- The disk that is taken, the rounded request or the longer base disk, is whole sectors. -/
def TakesSectors (requested : UInt64) : Option Data → Prop
  | none => True
  | some base => 512 ∣ base.length ∨ base.length ≤ (alignedCapacity requested).toNat

section Honesty

variable {machineID diskID : UUID} {requested : UInt64} {backend : VirtualizationBackendKind}
  {operatingSystem : GuestOperatingSystem} {baseDisk : Option String} {v w : Volume}
  {disk : MachineDisk} {state : BackendStateReference} {base : Option Data}

theorem newDisk_aligned_iff (bound : requested.toNat ≤ UInt64.size - 512) (sized : Sized base) :
    512 ∣ (newDisk requested base).2.toNat ↔ TakesSectors requested base := by
  have rounded := alignedCapacity_toNat bound
  cases base with
  | none =>
    simp only [newDisk, TakesSectors, iff_true]
    omega
  | some data =>
    have capacity := newDisk_some requested (sized data rfl)
    unfold TakesSectors
    rw [capacity, rounded]
    omega

theorem newDisk_covers (bound : requested.toNat ≤ UInt64.size - 512) (sized : Sized base) :
    requested ≤ (newDisk requested base).2 ∧
      ∀ data, base = some data → data.length ≤ (newDisk requested base).2.toNat := by
  have rounded := alignedCapacity_toNat bound
  rw [UInt64.le_iff_toNat_le]
  cases base with
  | none =>
    refine ⟨?_, by simp⟩
    simp only [newDisk]
    omega
  | some data =>
    have capacity := newDisk_some requested (sized data rfl)
    rw [capacity, rounded]
    refine ⟨by omega, ?_⟩
    rintro _ ⟨⟩
    exact Nat.le_max_left _ _

theorem honest_iff {made : Made}
    (recorded : made.disk.capacityBytes = (newDisk made.requested made.base).2)
    (left : made.volume.file? made.disk.relativePath =
      some (newDisk made.requested made.base).1)
    (bound : made.requested.toNat ≤ UInt64.size - 512) (sized : Sized made.base) :
    made.Honest ↔ TakesSectors made.requested made.base := by
  obtain ⟨length, begins⟩ := newDisk_data made.requested sized
  obtain ⟨request, base⟩ := newDisk_covers bound sized
  rw [← newDisk_aligned_iff bound sized, ← recorded]
  constructor
  · intro honest
    exact honest.aligned
  · intro aligned
    rw [← recorded] at length request base
    exact ⟨⟨_, left, length, begins⟩, request, base, aligned⟩

/-- Calls that returned, the last one first: the disk of a new machine, and a clone of each
machine before. Anything may happen between them that keeps the length of the disk. -/
inductive Chain (requested : UInt64) (baseDisk : Option String) (v : Volume) :
    Made → List Made → Prop
  | created {faults : Faults} {machineID diskID : UUID} {backend : VirtualizationBackendKind}
      {operatingSystem : GuestOperatingSystem} {disk : MachineDisk}
      {state : BackendStateReference} {w : Volume}
      (run : createFiles faults machineID diskID requested backend operatingSystem baseDisk v =
        (.ok (disk, state), w)) :
      Chain requested baseDisk v ⟨requested, baseData v baseDisk, disk, w⟩ []
  | cloned {faults : Faults} {source : Machine} {destinationID diskID : UUID}
      {disk : MachineDisk} {state : BackendStateReference} {u w : Volume} {last : Made}
      {earlier : List Made} (chain : Chain requested baseDisk v last earlier)
      (source_disk : source.disk = last.disk)
      (length : (u.file? last.disk.relativePath).map List.length =
        (last.volume.file? last.disk.relativePath).map List.length)
      (run : cloneFiles faults source destinationID diskID u = (.ok (disk, state), w)) :
      Chain requested baseDisk v
        ⟨source.disk.capacityBytes, u.file? source.disk.relativePath, disk, w⟩ (last :: earlier)

theorem created_honest_iff {faults : Faults} (bound : requested.toNat ≤ UInt64.size - 512)
    (sized : Sized (baseData v baseDisk))
    (run : createFiles faults machineID diskID requested backend operatingSystem baseDisk v =
      (.ok (disk, state), w)) :
    Made.Honest ⟨requested, baseData v baseDisk, disk, w⟩ ↔
      TakesSectors requested (baseData v baseDisk) := by
  obtain ⟨-, filled⟩ := createFiles_spec run
  have recorded := filled.disk
  have here := filled.holds.here
  rw [baseData_addDirectory] at recorded here
  subst recorded
  exact honest_iff rfl here bound sized

/-- A clone of an honest disk is honest: it asks for the length of its base disk, a whole number
of sectors. -/
theorem cloned_honest {faults : Faults} {source : Machine} {destinationID : UUID} {last : Made}
    (honest : last.Honest) (source_disk : source.disk = last.disk)
    (length : (v.file? last.disk.relativePath).map List.length =
      (last.volume.file? last.disk.relativePath).map List.length)
    (run : cloneFiles faults source destinationID diskID v = (.ok (disk, state), w)) :
    Made.Honest ⟨source.disk.capacityBytes, v.file? source.disk.relativePath, disk, w⟩ := by
  obtain ⟨u, created, copied⟩ := cloneFiles_spec run
  obtain ⟨-, filled⟩ := createFiles_spec created
  have recorded := filled.disk
  have here := filled.holds.here
  rw [baseData_addDirectory] at recorded here
  simp only [baseData] at recorded here
  subst recorded
  have left := copyFirmwareFiles_others copied fun fileName _ =>
    diskLocation_ne_firmware destinationID source.spec.operatingSystem source.backend fileName
  rw [here] at left
  obtain ⟨data, found, size, -⟩ := honest.size
  rw [found, ← source_disk, Option.map_some, Option.map_eq_some_iff] at length
  obtain ⟨base, present, same⟩ := length
  have whole := honest.aligned
  rw [← source_disk] at size whole
  have capacity := source.disk.capacityBytes.toNat_lt
  have bound : source.disk.capacityBytes.toNat ≤ UInt64.size - 512 := by
    rw [size_eq]
    omega
  have rounded := alignedCapacity_toNat bound
  refine (honest_iff rfl left bound ?_).mpr ?_
  · intro other isBase
    rw [present] at isBase
    cases isBase
    rw [size_eq]
    omega
  · simp only [present, TakesSectors]
    omega

/-- Every disk of a chain of clones is honest if and only if the first takes whole sectors. -/
theorem capacity_honest_iff {last : Made} {earlier : List Made}
    (bound : requested.toNat ≤ UInt64.size - 512) (sized : Sized (baseData v baseDisk))
    (chain : Chain requested baseDisk v last earlier) :
    (∀ made ∈ last :: earlier, made.Honest) ↔ TakesSectors requested (baseData v baseDisk) := by
  induction chain with
  | created run =>
    rw [← created_honest_iff bound sized run]
    simp
  | cloned chain source_disk length run ih =>
    rw [← ih]
    constructor
    · intro all made member
      exact all made (List.mem_cons_of_mem _ member)
    · intro before made member
      rcases List.mem_cons.mp member with rfl | later
      · exact cloned_honest (before _ List.mem_cons_self) source_disk length run
      · exact before made later

end Honesty

def importedDisk : Location := ⟨.image ⟨0⟩, "disk.raw"⟩

/-- An imported image of some length. -/
def importedImage (length : Nat) : Volume :=
  Volume.write {} importedDisk (List.replicate length 0)

theorem importedImage_base (length : Nat) :
    baseData (importedImage length) (some importedDisk.relativePath) =
      some (List.replicate length 0) := by
  show (importedImage length).file? importedDisk.relativePath = _
  unfold importedImage
  rw [file?_write, if_pos rfl]

theorem importedImage_sized {length : Nat} (bound : length < UInt64.size) :
    Sized (baseData (importedImage length) (some importedDisk.relativePath)) := by
  intro data isBase
  rw [importedImage_base, Option.some.injEq] at isBase
  rw [← isBase, List.length_replicate]
  exact bound

/-- A machine of one sector can be made from the image. -/
theorem importedImage_taken (length : Nat) : (createFiles (fun _ => none) ⟨1⟩ ⟨2⟩ 512 .qemu .linux
    (some importedDisk.relativePath)).Succeeds (importedImage length) := by
  have absent : .machine ⟨1⟩ ∉ (importedImage length).directories := List.not_mem_nil
  refine createFiles_succeeds.mpr ⟨rfl, absent, rfl, ?_⟩
  refine createContents_succeeds.mpr ⟨fun _ => rfl, ?_, rfl⟩
  exact cloneBaseDisk_succeeds.mpr ⟨_, importedImage_base length, rfl, rfl, fun _ => rfl⟩

/-- A machine that is to be cloned. -/
def machineWith (disk : MachineDisk) (state : BackendStateReference) : Machine where
  id := ⟨1⟩
  name := "Linux"
  spec := {
    cpuCount := 4
    memorySizeBytes := 4294967296
    diskSizeBytes := 512
    architecture := .arm64
    operatingSystem := .linux }
  sourceImageID := ⟨0⟩
  disk := disk
  provisioningState := .ready
  bootMedia := .systemDisk
  backend := .qemu
  backendState := state
  createdAt := 0

/-- A machine on an image of two sectors, and its clone. -/
theorem cloned_image_honest : ∃ made clone : Made,
    Chain 512 (some importedDisk.relativePath) (importedImage 1024) clone [made] ∧
      ∀ other ∈ [clone, made], other.Honest := by
  obtain ⟨⟨disk, state⟩, w, run⟩ := importedImage_taken 1024
  have created := Chain.created run
  -- The disk of the machine is a file in its directory, which the clone begins with.
  obtain ⟨absent, filled⟩ := createFiles_spec run
  have clones : ClonesFiles (fun _ => none) (machineWith disk state) ⟨3⟩ w := by
    refine ⟨?_, ?_, ?_, fun _ _ => rfl, fun _ => rfl, ?_⟩
    · show isManagedPath disk.relativePath = true
      rw [filled.disk]
      decide
    · show isManagedPath state.relativeDirectory = true
      rw [filled.state]
      decide
    · have only := (createFiles_onlyIn _ _ _ _ _ _ _).of_run run
      exact mt (only.2 (.machine ⟨3⟩) (by decide)).mp List.not_mem_nil
    · have here := filled.holds.here
      have own : disk.relativePath = (diskLocation ⟨1⟩ .linux).relativePath := by rw [filled.disk]
      rw [← own] at here
      exact ⟨_, here, fun _ => rfl⟩
  have copies : (cloneFiles (fun _ => none) (machineWith disk state) ⟨3⟩ ⟨4⟩).Succeeds w :=
    cloneFiles_succeeds.mpr clones
  obtain ⟨⟨copy, copied⟩, t, cloned⟩ := copies
  have chain := Chain.cloned created rfl rfl cloned
  have whole :
      TakesSectors 512 (baseData (importedImage 1024) (some importedDisk.relativePath)) := by
    rw [importedImage_base]
    refine .inl ?_
    rw [List.length_replicate]
    decide
  exact ⟨_, _, chain,
    (capacity_honest_iff (by decide) (importedImage_sized (by decide)) chain).mpr whole⟩

/-- An image one byte longer than a sector is taken over as it is: the machine records 513 bytes. -/
theorem odd_image_recorded : ∃ made,
    Chain 512 (some importedDisk.relativePath) (importedImage 513) made [] ∧ ¬ made.Honest := by
  obtain ⟨⟨disk, state⟩, w, run⟩ := importedImage_taken 513
  refine ⟨_, .created run, ?_⟩
  rw [created_honest_iff (by decide) (importedImage_sized (by decide)) run, importedImage_base]
  simp only [TakesSectors, List.length_replicate]
  decide

end SimpleVM.Storage
