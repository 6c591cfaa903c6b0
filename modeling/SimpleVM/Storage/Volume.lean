import SimpleVM.Domain.Image
import SimpleVM.Effects.Failing

/-!
# Managed storage

The files below the storage root: one directory for each machine, one for each image, and
`library.json`. Every call that may fail is a named `Step`, and a fault script says which
steps fail and what a failed removal or copy leaves behind.
-/
namespace SimpleVM.Storage

open Domain Effects

abbrev Data := List UInt8

/-- `uuidString`. -/
def uuidString (id : UUID) : String :=
  let byte (i : Nat) : String := hexByte ((id.bits >>> (120 - 8 * i)).toNat % 256)
  let group (first count : Nat) : String := String.join ((List.range' first count).map byte)
  "-".intercalate [group 0 4, group 4 2, group 6 2, group 8 2, group 10 6]

inductive ManagedDirectory
  | machine (id : UUID)
  | image (id : UUID)
deriving DecidableEq, Repr

def ManagedDirectory.relativePath : ManagedDirectory → String
  | .machine id => "Machines/" ++ uuidString id
  | .image id => "Images/" ++ uuidString id

structure Location where
  directory : ManagedDirectory
  name : String
deriving DecidableEq, Repr

/-- `StorageLayout.relativePath(for:)`. -/
def Location.relativePath (l : Location) : String := l.directory.relativePath ++ "/" ++ l.name

structure LibrarySnapshot where
  schemaVersion : Int := 1
  machines : List Machine
  images : List MachineImage
deriving DecidableEq, Repr

/-- Subdirectories of a managed directory exist through the files in them. -/
structure Volume where
  directories : List ManagedDirectory := []
  files : List (Location × Data) := []
  metadata : Option LibrarySnapshot := none
deriving DecidableEq, Repr

namespace Volume

/-- The file a relative path names. -/
def file? (v : Volume) (relativePath : String) : Option Data :=
  (v.files.find? fun entry => entry.1.relativePath = relativePath).map (·.2)

def filesIn (v : Volume) (d : ManagedDirectory) : List (Location × Data) :=
  v.files.filter fun entry => entry.1.directory = d

def write (v : Volume) (l : Location) (data : Data) : Volume :=
  { v with files := (l, data) :: v.files.filter fun entry => entry.1 ≠ l }

def addDirectory (v : Volume) (d : ManagedDirectory) : Volume :=
  { v with directories := d :: v.directories.filter fun other => other ≠ d }

def removeFile (v : Volume) (l : Location) : Volume :=
  { v with files := v.files.filter fun entry => entry.1 ≠ l }

def removeDirectory (v : Volume) (d : ManagedDirectory) : Volume :=
  { v with
    directories := v.directories.filter fun other => other ≠ d
    files := v.files.filter fun entry => entry.1.directory ≠ d }

/-- A recursive removal that stops half way leaves the directory with some of its files. -/
def removePartly (v : Volume) (d : ManagedDirectory) (kept : String → Bool) : Volume :=
  { v with files := v.files.filter fun entry => entry.1.directory ≠ d ∨ kept entry.1.name }

end Volume

inductive StorageError
  | missingDisk
  | invalidRelativePath
  | io (message : String)
deriving DecidableEq, Repr

inductive Step
  | initializeStorage
  | createMachineDirectory | createStateDirectory | writeDisk | inspectDisk | extendDisk
  | createBackendDirectory | discardMachineDirectory
  | copyFirmware (fileName : String)
  | removeMachineDirectory
  | createImageDirectory | replaceImage | copyImage | inspectImage | hashImage
  | removeImageDirectory
  | prepareSupportTools | discoverHelper | removeBlankDisk
  | provisionRootFS (archive compression : String)
  | provision (reference : String) (architecture : GuestArchitecture)
  | createBootDirectory
  | downloadBootAsset (url expectedSHA256 : String)
  | extractKernel | removeBootDirectory
  | installBootAsset (fileName : String)
  | inspectProvisionedDisk
  | persist
  | readLibrary | listDirectories
  | removeOrphan (directory : ManagedDirectory)
deriving DecidableEq, Repr

/-- How a step fails: its message, the files a removal did not get to, and what a copy had
written when it stopped. -/
structure Fault where
  message : String
  kept : String → Bool := fun _ => true
  leftover : Option Data := none

abbrev Faults := Step → Option Fault

abbrev Store := Failing Volume StorageError

/-- A step without a partial effect. -/
def attempt (faults : Faults) (step : Step) (change : Volume → Volume := id) : Store Unit :=
  fun v => match faults step with
    | none => (.ok (), change v)
    | some fault => (.error (.io fault.message), v)

/-- Writes a file; a failed write may leave part of it. -/
def writeFile (faults : Faults) (step : Step) (l : Location) (data : Data) : Store Unit :=
  fun v => match faults step with
    | none => (.ok (), v.write l data)
    | some fault => (.error (.io fault.message),
        match fault.leftover with
        | none => v
        | some part => v.write l part)

/-- `removeItem` of an existing directory. -/
def removeItem (faults : Faults) (step : Step) (d : ManagedDirectory) : Store Unit :=
  fun v => match faults step with
    | none => (.ok (), v.removeDirectory d)
    | some fault => (.error (.io fault.message), v.removePartly d fault.kept)

/-- Removes a directory if it is there. -/
def removeIfPresent (faults : Faults) (step : Step) (d : ManagedDirectory) : Store Unit := do
  let v ← Failing.getState
  if d ∈ v.directories then removeItem faults step d else pure ()

/-- What stands between the slashes of a path. -/
def pathComponents : List Char → List (List Char)
  | [] => [[]]
  | c :: rest =>
    if c = '/' then [] :: pathComponents rest
    else match pathComponents rest with
      | [] => [[c]]
      | component :: others => (c :: component) :: others

/-- The path stays below the storage root. -/
def isManagedPath (relativePath : String) : Bool :=
  decide (relativePath.toList.head? ≠ some '/') &&
    !(pathComponents relativePath.toList).contains ['.', '.']

/-- `StorageLayout.resolve(relativePath:)`. -/
def resolve (relativePath : String) : Store String :=
  if isManagedPath relativePath then pure relativePath else throw .invalidRelativePath

section Success

variable {faults : Faults} {step : Step} {v w : Volume} {u : Unit}

@[simp] theorem attempt_eq_ok {change : Volume → Volume} :
    attempt faults step change v = (.ok u, w) ↔ faults step = none ∧ w = change v := by
  unfold attempt
  cases faults step <;> simp [eq_comm]

@[simp] theorem writeFile_eq_ok {l : Location} {data : Data} :
    writeFile faults step l data v = (.ok u, w) ↔ faults step = none ∧ w = v.write l data := by
  unfold writeFile
  cases faults step <;> simp [eq_comm]

@[simp] theorem removeItem_eq_ok {d : ManagedDirectory} :
    removeItem faults step d v = (.ok u, w) ↔ faults step = none ∧ w = v.removeDirectory d := by
  unfold removeItem
  cases faults step <;> simp [eq_comm]

@[simp] theorem resolve_eq_ok {relativePath path : String} :
    resolve relativePath v = (.ok path, w) ↔
      isManagedPath relativePath = true ∧ path = relativePath ∧ w = v := by
  unfold resolve
  by_cases managed : isManagedPath relativePath = true
  · rw [if_pos managed, Failing.pure_eq_ok]
    simp [managed]
  · rw [if_neg managed]
    constructor
    · intro run
      cases run
    · rintro ⟨isManaged, _, _⟩
      exact absurd isManaged managed

end Success

/-- Nothing outside `d` differs, in files or in the existence of directories. -/
def OnlyIn (d : ManagedDirectory) (v w : Volume) : Prop :=
  (∀ other, other ≠ d → w.filesIn other = v.filesIn other) ∧
    ∀ other, other ≠ d → (other ∈ w.directories ↔ other ∈ v.directories)

namespace OnlyIn

variable {d : ManagedDirectory}

theorem refl (v : Volume) : OnlyIn d v v := ⟨fun _ _ => rfl, fun _ _ => Iff.rfl⟩

theorem trans (d : ManagedDirectory) (u v w : Volume) (first : OnlyIn d u v)
    (second : OnlyIn d v w) : OnlyIn d u w :=
  ⟨fun other ne => (second.1 other ne).trans (first.1 other ne),
    fun other ne => (second.2 other ne).trans (first.2 other ne)⟩

private theorem filesIn_filter (v : Volume) (p : Location × Data → Bool) (other : ManagedDirectory)
    (kept : ∀ entry, entry.1.directory = other → p entry = true) :
    Volume.filesIn { v with files := v.files.filter p } other = v.filesIn other := by
  simp only [Volume.filesIn, List.filter_filter]
  congr 1
  funext entry
  by_cases here : entry.1.directory = other
  · simp [here, kept entry here]
  · simp [here]

theorem removeFile (v : Volume) (l : Location) : OnlyIn l.directory v (v.removeFile l) := by
  refine ⟨fun other ne => ?_, fun _ _ => Iff.rfl⟩
  apply filesIn_filter
  intro entry here
  have differs : entry.1 ≠ l := fun same => ne (here.symm.trans (by rw [same]))
  simpa using differs

theorem write (v : Volume) (l : Location) (data : Data) :
    OnlyIn l.directory v (v.write l data) := by
  refine ⟨fun other ne => ?_, fun _ _ => Iff.rfl⟩
  have rest := (removeFile v l).1 other ne
  rw [← rest]
  simp [Volume.filesIn, Volume.write, Volume.removeFile, Ne.symm ne]

theorem addDirectory (v : Volume) (d : ManagedDirectory) : OnlyIn d v (v.addDirectory d) := by
  refine ⟨fun _ _ => rfl, fun other ne => ?_⟩
  simp [Volume.addDirectory, ne]

theorem removeDirectory (v : Volume) (d : ManagedDirectory) :
    OnlyIn d v (v.removeDirectory d) := by
  refine ⟨fun other ne => ?_, fun other ne => by simp [Volume.removeDirectory, ne]⟩
  apply filesIn_filter
  intro entry here
  simp [here, ne]

theorem removePartly (v : Volume) (d : ManagedDirectory) (kept : String → Bool) :
    OnlyIn d v (v.removePartly d kept) := by
  refine ⟨fun other ne => ?_, fun _ _ => Iff.rfl⟩
  apply filesIn_filter
  intro entry here
  simp [here, ne]

theorem keeps_writeFile (faults : Faults) (step : Step) (l : Location) (data : Data) :
    Keeps (OnlyIn l.directory) (writeFile faults step l data) := by
  intro v
  unfold writeFile
  cases faults step with
  | none => exact write v l data
  | some fault =>
    cases leftover : fault.leftover with
    | none => simpa [leftover] using refl v
    | some part => simpa [leftover] using write v l part

theorem keeps_removeItem (faults : Faults) (step : Step) (d : ManagedDirectory) :
    Keeps (OnlyIn d) (removeItem faults step d) := by
  intro v
  unfold removeItem
  cases faults step with
  | none => exact removeDirectory v d
  | some fault => exact removePartly v d fault.kept

theorem keeps_attempt (faults : Faults) (step : Step) {change : Volume → Volume}
    (moves : ∀ v, OnlyIn d v (change v)) : Keeps (OnlyIn d) (attempt faults step change) := by
  intro v
  unfold attempt
  cases faults step with
  | none => exact moves v
  | some fault => exact refl v

theorem keeps_resolve (relativePath : String) : Keeps (OnlyIn d) (resolve relativePath) := by
  intro v
  unfold resolve
  split <;> exact refl v

theorem keeps_removeIfPresent (faults : Faults) (step : Step) (d : ManagedDirectory) :
    Keeps (OnlyIn d) (removeIfPresent faults step d) := by
  intro v
  unfold removeIfPresent
  rw [Failing.bind_of_ok _ (Failing.getState_eq_ok.mpr ⟨rfl, rfl⟩)]
  split
  · exact keeps_removeItem faults step d v
  · exact refl v

theorem keeps_bind {α β : Type} {x : Store α} {f : α → Store β} (first : Keeps (OnlyIn d) x)
    (second : ∀ a, Keeps (OnlyIn d) (f a)) : Keeps (OnlyIn d) (x >>= f) :=
  Keeps.bind (OnlyIn.trans d) first second

theorem keeps_getState : Keeps (OnlyIn d) (Failing.getState : Store Volume) :=
  Keeps.getState OnlyIn.refl

theorem keeps_throw {α : Type} (e : StorageError) : Keeps (OnlyIn d) (throw e : Store α) :=
  Keeps.throw OnlyIn.refl e

theorem keeps_pure {α : Type} (a : α) : Keeps (OnlyIn d) (pure a : Store α) :=
  Keeps.pure OnlyIn.refl a

end OnlyIn

end SimpleVM.Storage
