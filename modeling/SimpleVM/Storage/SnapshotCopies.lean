import SimpleVM.Storage.SnapshotStore

/-!
# Copies of a machine's state

What the copies of the snapshot store leave in the tree when they succeed: a directory of
state files is cloned into an empty place, and all that is apart from this place stays.
-/
namespace SimpleVM.Storage

open Domain Effects Files

/-- The disk and the three state files of a machine. -/
structure MachineContents where
  disk : Option (Node Contents) := none
  efiCode : Option (Node Contents) := none
  efiVars : Option (Node Contents) := none
  tpmState : Option (Node Contents) := none
deriving DecidableEq, Repr

namespace SnapshotStore

/-- The state of a Windows machine kept in `directory`. -/
def stateContents (t : FileTree) (directory : Path) : MachineContents where
  disk := t (directory ++ ["disk.raw"])
  efiCode := t (directory ++ ["QEMU", "efi-code.fd"])
  efiVars := t (directory ++ ["QEMU", "efi-vars.fd"])
  tpmState := t (directory ++ ["QEMU", "tpm-state"])

def diskContents (t : FileTree) (disk : Path) : MachineContents := { disk := t disk }

/-- Where the state files are, below their directory. -/
def stateSuffixes : List Path :=
  [["disk.raw"], ["QEMU", "efi-code.fd"], ["QEMU", "efi-vars.fd"], ["QEMU", "tpm-state"]]

theorem stateContents_congr {t u : FileTree} {source destination : Path}
    (same : ∀ suffix ∈ stateSuffixes, u (destination ++ suffix) = t (source ++ suffix)) :
    stateContents u destination = stateContents t source := by
  unfold stateContents
  rw [same _ (by simp [stateSuffixes]), same _ (by simp [stateSuffixes]),
    same _ (by simp [stateSuffixes]), same _ (by simp [stateSuffixes])]

variable {faults : SnapshotFaults} {t u : FileTree} {source destination : Path} {x : Unit}

/-- A clone into a vacant place. -/
theorem clone_lookup {fileName : String} (apart : Apart source destination)
    (run : clone faults fileName source destination t = (.ok x, u)) :
    u destination = t source ∧ (t source).isSome ∧
      ∀ q, ¬ destination <+: q → ¬ q <+: destination.dropLast → u q = t q := by
  obtain ⟨present, _, rfl⟩ := clone_ok run
  have outside : ¬ source <+: destination.dropLast := by
    intro under
    exact apart.1 (under.trans (List.dropLast_prefix destination))
  rw [Tree.makeDirectory_other outside] at present
  refine ⟨?_, present, fun q notBelow notOnTheWay => ?_⟩
  · have copied := Tree.copy_below (t.makeDirectory destination.dropLast) source destination []
    rw [List.append_nil, List.append_nil] at copied
    rw [copied, Tree.makeDirectory_other outside]
  · rw [Tree.copy_other notBelow, Tree.makeDirectory_other notOnTheWay]

theorem cloneStateFile_lookup {fileName : String}
    (apart : Apart (source ++ ["QEMU", fileName]) destination)
    (vacant : t (destination ++ ["QEMU", fileName]) = none)
    (run : cloneStateFile faults source destination fileName t = (.ok x, u)) :
    u (destination ++ ["QEMU", fileName]) = t (source ++ ["QEMU", fileName]) ∧
      ∀ q, ¬ destination ++ ["QEMU", fileName] <+: q → ¬ q <+: destination ++ ["QEMU"] →
        u q = t q := by
  simp only [cloneStateFile, Failing.bind_eq_ok, Failing.getState_eq_ok] at run
  obtain ⟨tree, other, ⟨isTree, isOther⟩, run⟩ := run
  rw [isTree, isOther] at run
  split at run
  · simp only [Failing.bind_eq_ok] at run
    obtain ⟨_, made, created, cloned⟩ := run
    have same := createDirectory_ok created
    subst same
    have files := apart.below (List.prefix_refl _) (List.prefix_append destination
      ["QEMU", fileName])
    have outside : ¬ source ++ ["QEMU", fileName] <+: destination ++ ["QEMU"] :=
      apart.not_below_append
    have parent : (destination ++ ["QEMU", fileName]).dropLast = destination ++ ["QEMU"] := by
      simp [List.dropLast_append_of_ne_nil]
    obtain ⟨copied, _, rest⟩ := clone_lookup files cloned
    refine ⟨by rw [copied, Tree.makeDirectory_other outside], fun q notBelow notOnTheWay => ?_⟩
    rw [rest q notBelow (by rwa [parent]), Tree.makeDirectory_other notOnTheWay]
  · rename_i absent
    have gone : t (source ++ ["QEMU", fileName]) = none := by simpa using absent
    rw [Failing.pure_eq_ok] at run
    obtain ⟨_, rfl⟩ := run
    exact ⟨vacant.trans gone.symm, fun _ _ _ => rfl⟩

theorem cloneStateFiles_lookup {fileNames : List String} (distinct : fileNames.Nodup)
    (apart : ∀ name ∈ fileNames, Apart (source ++ ["QEMU", name]) destination)
    (vacant : ∀ name ∈ fileNames, t (destination ++ ["QEMU", name]) = none)
    (run : cloneStateFiles faults source destination fileNames t = (.ok x, u)) :
    (∀ name ∈ fileNames, u (destination ++ ["QEMU", name]) = t (source ++ ["QEMU", name])) ∧
      ∀ q, (∀ name ∈ fileNames, ¬ destination ++ ["QEMU", name] <+: q) →
        ¬ q <+: destination ++ ["QEMU"] → u q = t q := by
  induction fileNames generalizing t with
  | nil =>
    rw [cloneStateFiles, Failing.pure_eq_ok] at run
    obtain ⟨_, rfl⟩ := run
    exact ⟨fun _ member => (by cases member), fun _ _ _ => rfl⟩
  | cons first rest ih =>
    simp only [cloneStateFiles, Failing.bind_eq_ok] at run
    obtain ⟨_, between, one, later⟩ := run
    obtain ⟨copied, kept⟩ := cloneStateFile_lookup (apart first (by simp)) (vacant first (by simp)) one
    obtain ⟨isNew, distinct⟩ := List.nodup_cons.mp distinct
    -- The other files of the destination are neither below the first one nor on the way to it.
    have elsewhere (name : String) (differ : name ≠ first) :
        between (destination ++ ["QEMU", name]) = t (destination ++ ["QEMU", name]) := by
      refine kept _ ?_ ?_
      · have files := ((Apart.of_ne differ.symm [] []).cons "QEMU").prepend destination
        exact files.1
      · intro under
        have bound := under.length_le
        simp at bound
    have sources (name : String) (among : name ∈ rest) :
        between (source ++ ["QEMU", name]) = t (source ++ ["QEMU", name]) := by
      have here := apart name (by simp [among])
      exact kept _ here.symm.append_not_below here.not_below_append
    obtain ⟨copies, stays⟩ := ih distinct (fun name among => apart name (by simp [among]))
      (fun name member => by
      have differ : name ≠ first := fun same => isNew (same ▸ member)
      rw [elsewhere name differ]
      exact vacant name (by simp [member])) later
    refine ⟨fun name member => ?_, fun q notBelow notOnTheWay => ?_⟩
    · rcases List.mem_cons.mp member with rfl | deeper
      · rw [← copied]
        refine stays _ (fun other among => ?_) ?_
        · have differ : other ≠ name := fun same => isNew (same ▸ among)
          exact (((Apart.of_ne differ [] []).cons "QEMU").prepend destination).1
        · intro under
          have bound := under.length_le
          simp at bound
      · rw [copies name deeper, sources name deeper]
    · rw [stays q (fun name among => notBelow name (by simp [among])) notOnTheWay]
      exact kept q (notBelow first (by simp)) notOnTheWay

/-- `cloneWindowsState` into an empty place. -/
theorem cloneWindowsState_lookup
    (apart : ∀ suffix ∈ stateSuffixes, Apart (source ++ suffix) destination)
    (vacant : ∀ q, destination <+: q → t q = none)
    (run : cloneWindowsState faults source destination t = (.ok x, u)) :
    stateContents u destination = stateContents t source ∧
      (t (source ++ ["disk.raw"])).isSome ∧ ∀ q, Apart destination q → u q = t q := by
  simp only [cloneWindowsState, Failing.bind_eq_ok] at run
  obtain ⟨_, made, created, _, cloned, disk, files⟩ := run
  have same := createDirectory_ok created
  subst same
  have paths {a : Path} (among : a ∈ stateSuffixes) (b : Path) :
      Apart (source ++ a) (destination ++ b) :=
    (apart a among).below (List.prefix_refl _) (List.prefix_append _ _)
  have parent : (destination ++ ["disk.raw"]).dropLast = destination := by simp
  obtain ⟨diskCopied, present, diskKept⟩ := clone_lookup
    (paths (by simp [stateSuffixes]) ["disk.raw"]) disk
  rw [parent] at diskKept
  have onSource {suffix : Path} (among : suffix ∈ stateSuffixes) :
      cloned (source ++ suffix) = t (source ++ suffix) := by
    have apartHere := (apart suffix among).1
    rw [diskKept _ (paths among ["disk.raw"]).symm.1 apartHere,
      Tree.makeDirectory_other apartHere]
  have onQEMU (name : String) : cloned (destination ++ ["QEMU", name]) = none := by
    have differ : "disk.raw" ≠ "QEMU" := by decide
    have notOnTheWay : ¬ destination ++ ["QEMU", name] <+: destination :=
      not_append_above (by simp)
    rw [diskKept _ ((Apart.of_ne differ [] [name]).prepend destination).1 notOnTheWay,
      Tree.makeDirectory_other notOnTheWay]
    exact vacant _ (List.prefix_append _ _)
  obtain ⟨copied, kept⟩ := cloneStateFiles_lookup (by decide)
    (fun name among => apart _ (by simpa [stateSuffixes, stateFileNames] using among))
    (fun name _ => onQEMU name) files
  have diskStays : u (destination ++ ["disk.raw"]) = cloned (destination ++ ["disk.raw"]) := by
    have differ : "QEMU" ≠ "disk.raw" := by decide
    refine kept _ (fun name _ => ((Apart.of_ne differ [name] []).prepend destination).1) ?_
    exact ((Apart.of_ne differ [] []).prepend destination).2
  refine ⟨stateContents_congr fun suffix member => ?_, ?_, fun q outside => ?_⟩
  · have onSource := onSource member
    have diskOutside := (apart ["disk.raw"] (by simp [stateSuffixes])).1
    simp only [stateSuffixes, List.mem_cons, List.not_mem_nil, or_false] at member
    rcases member with rfl | rfl | rfl | rfl
    · rw [diskStays, diskCopied, Tree.makeDirectory_other diskOutside]
    · rw [copied _ (by simp [stateFileNames]), onSource]
    · rw [copied _ (by simp [stateFileNames]), onSource]
    · rw [copied _ (by simp [stateFileNames]), onSource]
  · rwa [Tree.makeDirectory_other (apart ["disk.raw"] (by simp [stateSuffixes])).1] at present
  · have notBelow (suffix : Path) : ¬ destination ++ suffix <+: q :=
      (outside.below (List.prefix_append _ _) (List.prefix_refl q)).1
    have notOnTheWay (suffix : Path) : ¬ q <+: destination ++ suffix :=
      (outside.below (List.prefix_append _ _) (List.prefix_refl q)).2
    have notAbove : ¬ q <+: destination := outside.2
    rw [kept q (fun name _ => notBelow _) (notOnTheWay _), diskKept q (notBelow _) notAbove,
      Tree.makeDirectory_other notAbove]

section Closed

/-- Started in a tree that is closed, the call leaves one. -/
def KeepsClosed {α : Type} (x : SnapshotM α) : Prop :=
  Keeps (fun t u : FileTree => t.Closed → u.Closed) x

namespace KeepsClosed

variable {α β : Type}

theorem bind {x : SnapshotM α} {f : α → SnapshotM β} (first : KeepsClosed x)
    (second : ∀ a, KeepsClosed (f a)) : KeepsClosed (x >>= f) :=
  Keeps.bind (fun _ _ _ one two closed => two (one closed)) first second

theorem pure (a : α) : KeepsClosed (Pure.pure a : SnapshotM α) := fun _ closed => closed

theorem throw (e : SnapshotError) : KeepsClosed (MonadExcept.throw e : SnapshotM α) :=
  fun _ closed => closed

theorem getState : KeepsClosed (Failing.getState : SnapshotM FileTree) := fun _ closed => closed

theorem attempt {step : SnapshotStep} {change : FileTree → FileTree}
    (moves : ∀ t : FileTree, t.Closed → (change t).Closed) :
    KeepsClosed (attempt faults step change) := by
  intro t closed
  unfold SnapshotStore.attempt
  cases faults step with
  | none => exact moves t closed
  | some fault => exact closed

theorem createDirectory (step : SnapshotStep) (p : Path) :
    KeepsClosed (createDirectory faults step p) := by
  refine bind getState fun t => ?_
  split
  · exact bind (throw _) fun _ => attempt fun t closed => closed.makeDirectory p
  · exact attempt fun t closed => closed.makeDirectory p

theorem removeItem (step : SnapshotStep) (p : Path) :
    KeepsClosed (removeItem faults step p) := by
  intro t closed
  unfold SnapshotStore.removeItem
  split
  · exact closed
  · cases faults step with
    | none => exact closed.remove p
    | some fault =>
      cases survivors : fault.survivors with
      | none => simpa [survivors] using closed
      | some left => simpa [survivors] using closed.removePartly p left

theorem removeIfPresent (step : SnapshotStep) (p : Path) :
    KeepsClosed (removeIfPresent faults step p) := by
  refine bind getState fun t => ?_
  split
  · exact removeItem step p
  · exact pure ()

theorem clone (fileName : String) (source destination : Path) :
    KeepsClosed (clone faults fileName source destination) := by
  have creates : KeepsClosed (SnapshotStore.createDirectory faults
      (.createCloneDirectory fileName) destination.dropLast) := createDirectory _ _
  refine Keeps.bind_of_ok (fun _ _ _ one two closed => two (one closed)) creates
    fun t _ made created closed => ?_
  have parent : (made destination.dropLast).isSome := by
    rw [createDirectory_ok created]
    exact Tree.makeDirectory_isSome (List.prefix_refl _)
  rw [Failing.bind_of_ok _ (Failing.getState_eq_ok.mpr ⟨rfl, rfl⟩)]
  split
  · exact closed
  · unfold SnapshotStore.attempt
    cases faults (.clone fileName) with
    | none => exact closed.copy parent
    | some fault => exact closed

theorem resolve (relativePath : String) : KeepsClosed (resolve relativePath) := by
  unfold SnapshotStore.resolve
  split
  · exact pure _
  · exact throw _

theorem list (machineID : UUID) : KeepsClosed (list faults machineID) := by
  refine bind getState fun t => ?_
  split
  · exact pure _
  · refine bind (attempt fun _ closed => closed) fun _ => ?_
    split
    · exact pure _
    · exact throw _

theorem save (snapshots : List MachineSnapshot) (machineID : UUID) :
    KeepsClosed (save faults snapshots machineID) := by
  have creates : KeepsClosed (SnapshotStore.createDirectory faults .createMetadataDirectory
      (snapshotsDirectory machineID)) := createDirectory _ _
  refine Keeps.bind_of_ok (fun _ _ _ one two closed => two (one closed)) creates
    fun t _ made created closed => ?_
  have parent : (made (metadataPath machineID).dropLast).isSome := by
    rw [createDirectory_ok created]
    exact Tree.makeDirectory_isSome (by simp [metadataPath])
  unfold SnapshotStore.attempt
  cases faults .writeMetadata with
  | none => exact closed.write parent
  | some fault => exact closed

theorem cloneStateFiles (source destination : Path) (fileNames : List String) :
    KeepsClosed (cloneStateFiles faults source destination fileNames) := by
  induction fileNames with
  | nil => exact pure ()
  | cons fileName rest ih =>
    refine bind (bind getState fun t => ?_) fun _ => ih
    split
    · exact bind (createDirectory _ _) fun _ => clone _ _ _
    · exact pure ()

theorem cloneWindowsState (source destination : Path) :
    KeepsClosed (cloneWindowsState faults source destination) :=
  bind (createDirectory _ _) fun _ => bind (clone _ _ _) fun _ => cloneStateFiles _ _ _

theorem tryCatch {x : SnapshotM α} {handler : SnapshotError → SnapshotM α} (body : KeepsClosed x)
    (caught : ∀ e, KeepsClosed (handler e)) : KeepsClosed (MonadExcept.tryCatch x handler) :=
  Keeps.tryCatch (fun _ _ _ one two closed => two (one closed)) body caught

theorem copyFiles (machine : Machine) (snapshotID : UUID) (source : Path) :
    KeepsClosed (copyFiles faults machine snapshotID source) := by
  unfold SnapshotStore.copyFiles
  split
  · exact tryCatch (cloneWindowsState _ _) fun _ =>
      bind (Keeps.ignoring (removeItem _ _)) fun _ => throw _
  · exact clone _ _ _

theorem create (machine : Machine) (name : String) (snapshotID : UUID) :
    KeepsClosed (create faults machine name snapshotID) :=
  bind (resolve _) fun _ => bind (createDirectory _ _) fun _ => bind (copyFiles _ _ _) fun _ =>
    bind (list _) fun _ => bind (save _ _) fun _ => pure _

theorem delete (snapshot : MachineSnapshot) (machineID : UUID) :
    KeepsClosed (delete faults snapshot machineID) := by
  refine bind ?_ fun _ => bind (list _) fun _ => save _ _
  unfold SnapshotStore.removeFiles
  split
  · exact bind (resolve _) fun _ => removeIfPresent _ _
  · exact bind (resolve _) fun _ => removeIfPresent _ _

end KeepsClosed

end Closed

end SnapshotStore

end SimpleVM.Storage
