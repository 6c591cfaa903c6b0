import SimpleVM.Storage.Volume

/-!
# The image store

`ManagedImageStore`: an imported file becomes the only artifact of its image's directory.
-/
namespace SimpleVM.Storage

open Domain Effects

/-- A file outside managed storage, with what `URL` says about its name. -/
structure SourceFile where
  lastPathComponent : String
  baseName : String
  pathExtension : String
  contents : Option Data
deriving DecidableEq, Repr

def SourceFile.fileExtension (source : SourceFile) : String :=
  if source.pathExtension.isEmpty then "bin" else source.pathExtension.toLower

def artifact (imageID : UUID) (fileExtension : String) : Location where
  directory := .image imageID
  name := "artifact." ++ fileExtension

/-- `destinationURL(imageID:fileExtension:)`. -/
def destinationURL (faults : Faults) (imageID : UUID) (fileExtension : String) :
    Store Location := do
  attempt faults .initializeStorage
  attempt faults .createImageDirectory fun v => v.addDirectory (.image imageID)
  pure (artifact imageID fileExtension)

/-- `copyItem` of the source file. -/
def copyImage (faults : Faults) (source : SourceFile) (destination : Location) : Store Unit :=
  match source.contents with
  | none => throw (.io "The file does not exist.")
  | some data => writeFile faults .copyImage destination data

/-- An artifact that is already there makes room. -/
def removeExisting (faults : Faults) (destination : Location) : Store Unit := do
  let v ← Failing.getState
  if (v.file? destination.relativePath).isSome then
    attempt faults .replaceImage fun v => v.removeFile destination
  else pure ()

def importFile (faults : Faults) (source : SourceFile) (imageID : UUID) : Store Location := do
  let destination ← destinationURL faults imageID source.fileExtension
  removeExisting faults destination
  copyImage faults source destination
  pure destination

def removeImage (faults : Faults) (id : UUID) : Store Unit :=
  removeIfPresent faults .removeImageDirectory (.image id)

/-- Everything `importFile` needs: a source to copy and no failing step. -/
structure ImportsFile (faults : Faults) (source : SourceFile) (imageID : UUID) (v : Volume) :
    Prop where
  readable : source.contents ≠ none
  steps : ∀ step ∈ [Step.initializeStorage, .createImageDirectory, .copyImage],
    faults step = none
  replaced : (v.file? (artifact imageID source.fileExtension).relativePath).isSome = true →
    faults .replaceImage = none

variable (faults : Faults)

private theorem removeExisting_eq_ok {destination : Location} {v w : Volume} {u : Unit} :
    removeExisting faults destination v = (.ok u, w) ↔
      ((v.file? destination.relativePath).isSome = true → faults .replaceImage = none) ∧
      w = if (v.file? destination.relativePath).isSome then v.removeFile destination else v := by
  unfold removeExisting
  rw [Failing.bind_of_ok _ (Failing.getState_eq_ok.mpr ⟨rfl, rfl⟩)]
  by_cases present : (v.file? destination.relativePath).isSome = true
  · simp [present]
  · simp [present, Failing.pure_eq_ok]

private theorem copyImage_succeeds {source : SourceFile} {destination : Location} {v : Volume} :
    (copyImage faults source destination).Succeeds v ↔
      source.contents ≠ none ∧ faults .copyImage = none := by
  unfold copyImage
  cases source.contents with
  | none => simp
  | some data => simp [Failing.Succeeds]

theorem importFile_succeeds {source : SourceFile} {imageID : UUID} {v : Volume} :
    (importFile faults source imageID).Succeeds v ↔ ImportsFile faults source imageID v := by
  have copies (destination : Location) (w : Volume) : (do
      copyImage faults source destination
      pure destination : Store Location).Succeeds w ↔
      (copyImage faults source destination).Succeeds w ∧ True :=
    Failing.succeeds_bind_const fun _ _ => by simp
  unfold importFile
  rw [Failing.succeeds_bind]
  simp only [destinationURL, Failing.bind_eq_ok, attempt_eq_ok, Failing.pure_eq_ok,
    Failing.succeeds_bind (f := fun _ => _ >>= _), removeExisting_eq_ok, copies,
    copyImage_succeeds]
  constructor
  · rintro ⟨_, _, ⟨_, _, ⟨initialized, rfl⟩, _, _, ⟨directory, rfl⟩, rfl, rfl⟩,
      _, _, ⟨replaced, rfl⟩, ⟨readable, copied⟩, _⟩
    exact ⟨readable, by simp [initialized, directory, copied], replaced⟩
  · rintro ⟨readable, steps, replaced⟩
    exact ⟨_, _, ⟨(), v, ⟨steps _ (by simp), rfl⟩, (), _, ⟨steps _ (by simp), rfl⟩, rfl, rfl⟩,
      (), _, ⟨replaced, rfl⟩, ⟨readable, steps _ (by simp)⟩, trivial⟩

open OnlyIn

/-- An import, whether it succeeds or not, touches only the directory of the new image. -/
theorem importFile_onlyIn (source : SourceFile) (imageID : UUID) :
    Keeps (OnlyIn (.image imageID)) (importFile faults source imageID) := by
  have removes (l : Location) : Keeps (OnlyIn l.directory) (removeExisting faults l) := by
    refine keeps_bind keeps_getState fun v => ?_
    split
    · exact keeps_attempt faults _ fun v => OnlyIn.removeFile v l
    · exact keeps_pure _
  have copies (l : Location) : Keeps (OnlyIn l.directory) (copyImage faults source l) := by
    unfold copyImage
    cases source.contents with
    | none => exact keeps_throw _
    | some data => exact keeps_writeFile faults _ l data
  have prepares : Keeps (OnlyIn (.image imageID))
      (destinationURL faults imageID source.fileExtension) :=
    keeps_bind (keeps_attempt faults _ fun v => OnlyIn.refl v) fun _ =>
      keeps_bind (keeps_attempt faults _ fun v => OnlyIn.addDirectory v (.image imageID))
        fun _ => keeps_pure _
  refine Keeps.bind_of_ok (OnlyIn.trans _) prepares fun v destination w prepared => ?_
  have here : destination = artifact imageID source.fileExtension := by
    simp only [destinationURL, Failing.bind_eq_ok, Failing.pure_eq_ok] at prepared
    obtain ⟨_, _, _, _, _, _, same, _⟩ := prepared
    exact same
  subst here
  exact (keeps_bind (removes (artifact imageID source.fileExtension)) fun _ =>
    keeps_bind (copies (artifact imageID source.fileExtension)) fun _ => keeps_pure _) w

end SimpleVM.Storage
