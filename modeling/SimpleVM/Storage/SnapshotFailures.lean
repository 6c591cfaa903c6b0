import SimpleVM.Storage.SnapshotOperations

/-!
# Failing steps of the snapshot store

What a call leaves alone, whether it fails or not, and which steps of the copies have to
succeed for them to be complete.
-/
namespace SimpleVM.Storage.SnapshotStore

open Domain Effects Files

section Leaves

variable {faults : SnapshotFaults} {kept : Path → Prop} {α β : Type}

/-- However the call ends, nothing changes at the paths in question. -/
def Leaves (kept : Path → Prop) (x : SnapshotM α) : Prop :=
  Keeps (fun t u : FileTree => ∀ q, kept q → u q = t q) x

namespace Leaves

theorem chain (a b c : FileTree) (first : ∀ q, kept q → b q = a q)
    (second : ∀ q, kept q → c q = b q) : ∀ q, kept q → c q = a q :=
  fun q here => (second q here).trans (first q here)

theorem bind {x : SnapshotM α} {f : α → SnapshotM β} (first : Leaves kept x)
    (second : ∀ a, Leaves kept (f a)) : Leaves kept (x >>= f) :=
  Keeps.bind chain first second

theorem pure (a : α) : Leaves kept (Pure.pure a : SnapshotM α) := fun _ _ _ => rfl

theorem throw (e : SnapshotError) : Leaves kept (MonadExcept.throw e : SnapshotM α) :=
  fun _ _ _ => rfl

theorem getState : Leaves kept (Failing.getState : SnapshotM FileTree) := fun _ _ _ => rfl

theorem tryCatch {x : SnapshotM α} {handler : SnapshotError → SnapshotM α}
    (body : Leaves kept x) (caught : ∀ e, Leaves kept (handler e)) :
    Leaves kept (MonadExcept.tryCatch x handler) :=
  Keeps.tryCatch chain body caught

theorem attempt {step : SnapshotStep} {change : FileTree → FileTree}
    (moves : ∀ t q, kept q → change t q = t q) :
    Leaves kept (attempt faults step change) := by
  intro t q here
  unfold SnapshotStore.attempt
  cases faults step with
  | none => exact moves t q here
  | some fault => rfl

theorem createDirectory (step : SnapshotStep) {p : Path} (outside : ∀ q, kept q → ¬ q <+: p) :
    Leaves kept (createDirectory faults step p) := by
  have makes : Leaves kept (SnapshotStore.attempt faults step fun t => t.makeDirectory p) :=
    attempt fun t q here => Tree.makeDirectory_other (outside q here)
  refine bind getState fun t => ?_
  split
  · exact bind (throw _) fun _ => makes
  · exact makes

theorem removeItem (step : SnapshotStep) {p : Path} (outside : ∀ q, kept q → ¬ p <+: q) :
    Leaves kept (removeItem faults step p) := by
  intro t q here
  unfold SnapshotStore.removeItem
  split
  · rfl
  · cases faults step with
    | none => exact Tree.remove_other (outside q here)
    | some fault =>
      cases survivors : fault.survivors with
      | none => simp [survivors]
      | some left => simpa [survivors] using Tree.removePartly_other (outside q here)

theorem removeIfPresent (step : SnapshotStep) {p : Path} (outside : ∀ q, kept q → ¬ p <+: q) :
    Leaves kept (removeIfPresent faults step p) := by
  refine bind getState fun t => ?_
  split
  · exact removeItem step outside
  · exact pure ()

theorem clone (fileName : String) (source : Path) {destination : Path}
    (apart : ∀ q, kept q → Apart destination q) :
    Leaves kept (clone faults fileName source destination) := by
  have onTheWay (q : Path) (here : kept q) : ¬ q <+: destination.dropLast := fun above =>
    (apart q here).2 (above.trans (List.dropLast_prefix _))
  have copies : Leaves kept (SnapshotStore.attempt faults (.clone fileName)
      fun t => t.copy source destination) :=
    attempt fun t q here => Tree.copy_other (apart q here).1
  refine bind (createDirectory _ onTheWay) fun _ => bind getState fun t => ?_
  split
  · exact bind (throw _) fun _ => copies
  · exact copies

theorem cloneStateFiles (source : Path) {destination : Path} (fileNames : List String)
    (apart : ∀ q, kept q → Apart destination q) :
    Leaves kept (cloneStateFiles faults source destination fileNames) := by
  have below (rest : Path) (q : Path) (here : kept q) : Apart (destination ++ rest) q :=
    (apart q here).below (List.prefix_append _ _) (List.prefix_refl q)
  induction fileNames with
  | nil => exact pure ()
  | cons fileName rest ih =>
    refine bind (bind getState fun t => ?_) fun _ => ih
    split
    · refine bind (createDirectory _ fun q here => (below _ q here).2) fun _ => ?_
      exact clone _ _ (below _)
    · exact pure ()

theorem cloneWindowsState (source : Path) {destination : Path}
    (apart : ∀ q, kept q → Apart destination q) :
    Leaves kept (cloneWindowsState faults source destination) := by
  refine bind (createDirectory _ fun q here => (apart q here).2) fun _ => ?_
  refine bind (clone _ _ fun q here => ?_) fun _ => cloneStateFiles _ _ apart
  exact (apart q here).below (List.prefix_append _ _) (List.prefix_refl q)

theorem resolve (relativePath : String) : Leaves kept (resolve relativePath) := by
  unfold SnapshotStore.resolve
  split
  · exact pure _
  · exact throw _

theorem list (machineID : UUID) : Leaves kept (list faults machineID) := by
  refine bind getState fun t => ?_
  split
  · exact pure _
  · refine bind (attempt fun _ _ _ => rfl) fun _ => ?_
    split
    · exact pure _
    · exact throw _

end Leaves

end Leaves

section Complete

variable {faults : SnapshotFaults} {t u : FileTree} {source destination p : Path}

/-- No file is where a directory is needed on the way to `p`. -/
def ClearWay (t : FileTree) (p : Path) : Prop := ∀ q, q <+: p → isFile t q = false

theorem isFile_makeDirectory (t : FileTree) (p q : Path) :
    isFile (t.makeDirectory p) q = isFile t q := by
  unfold isFile
  cases there : t q with
  | some node => rw [Tree.makeDirectory_some there]
  | none =>
    unfold Tree.makeDirectory
    by_cases above : q <+: p
    · simp [there, above]
    · simp [there, above]

theorem clearWay_of_none (clear : ClearWay t p.dropLast) (absent : t p = none) :
    ClearWay t p := by
  intro q above
  by_cases same : q = p
  · rw [same, isFile, absent]
  · apply clear
    have shorter : q.length ≤ p.dropLast.length := by
      have bound := above.length_le
      have differ : q.length ≠ p.length := fun equal => same (above.eq_of_length equal)
      rw [List.length_dropLast]
      omega
    exact List.prefix_of_prefix_length_le above (List.dropLast_prefix p) shorter

theorem attempt_succeeds {step : SnapshotStep} {change : FileTree → FileTree} :
    (attempt faults step change).Succeeds t ↔ faults step = none := by
  simp [Failing.Succeeds, attempt_eq_ok]

theorem createDirectory_succeeds {step : SnapshotStep} :
    (createDirectory faults step p).Succeeds t ↔ ClearWay t p ∧ faults step = none := by
  have clear : ClearWay t p ↔
      (List.range (p.length + 1)).any (fun n => isFile t (p.take n)) = false := by
    rw [List.any_eq_false]
    constructor
    · intro way n _
      simpa using way _ (List.take_prefix n p)
    · intro way q above
      have length := above.length_le
      have taken := way q.length (List.mem_range.mpr (by omega))
      rw [← List.prefix_iff_eq_take.mp above] at taken
      simpa using taken
  rw [createDirectory, Failing.succeeds_bind, clear]
  simp only [Failing.getState_eq_ok]
  constructor
  · rintro ⟨_, _, ⟨rfl, rfl⟩, rest⟩
    split at rest
    · simp [Failing.succeeds_bind] at rest
    · rename_i free
      exact ⟨by simpa using free, attempt_succeeds.mp rest⟩
  · rintro ⟨free, succeeds⟩
    refine ⟨t, t, ⟨rfl, rfl⟩, ?_⟩
    rw [free]
    exact attempt_succeeds.mpr succeeds

/-- No step of a clone fails. -/
def Clones (faults : SnapshotFaults) (fileName : String) : Prop :=
  faults (.createCloneDirectory fileName) = none ∧ faults (.clone fileName) = none

theorem clone_succeeds {fileName : String} (apart : Apart source destination)
    (clear : ClearWay t destination.dropLast) (vacant : t destination = none) :
    (clone faults fileName source destination).Succeeds t ↔
      (t source).isSome ∧ Clones faults fileName := by
  have present : t.makeDirectory destination.dropLast source = t source :=
    Tree.makeDirectory_other fun above =>
      apart.1 (above.trans (List.dropLast_prefix destination))
  have absent : t.makeDirectory destination.dropLast destination = none := by
    rw [Tree.makeDirectory_other, vacant]
    intro above
    have nonempty : destination ≠ [] := by
      rintro rfl
      exact apart.2 (List.nil_prefix)
    have bound := above.length_le
    have length := List.length_pos_iff.mpr nonempty
    rw [List.length_dropLast] at bound
    omega
  constructor
  · rintro ⟨_, _, run⟩
    simp only [clone, Failing.bind_eq_ok, Failing.getState_eq_ok] at run
    obtain ⟨_, made, created, _, _, ⟨rfl, rfl⟩, run⟩ := run
    have directory := (createDirectory_succeeds.mp ⟨_, _, created⟩).2
    rw [createDirectory_ok created] at run
    split at run
    · simp [Failing.bind_eq_ok] at run
    · rename_i possible
      rw [present, absent] at possible
      exact ⟨by simpa [Option.isSome_iff_ne_none] using possible, directory,
        (attempt_eq_ok.mp run).1⟩
  · rintro ⟨there, directory, copies⟩
    obtain ⟨_, made, created⟩ := createDirectory_succeeds.mpr ⟨clear, directory⟩
    rw [clone, Failing.succeeds_bind]
    refine ⟨_, _, created, ?_⟩
    rw [createDirectory_ok created, Failing.succeeds_bind]
    refine ⟨_, _, rfl, ?_⟩
    have possible : ((t.makeDirectory destination.dropLast source).isNone ||
        (t.makeDirectory destination.dropLast destination).isSome) = false := by
      rw [present, absent]
      simpa [Option.isSome_iff_ne_none] using there
    rw [possible]
    exact attempt_succeeds.mpr copies

/-- No step of the clone of a state file fails, if the machine has the file. -/
def ClonesState (faults : SnapshotFaults) (t : FileTree) (source : Path) (fileName : String) :
    Prop :=
  (t (source ++ ["QEMU", fileName])).isSome →
    faults (.createQEMUDirectory fileName) = none ∧ Clones faults fileName

theorem cloneStateFile_succeeds {fileName : String}
    (apart : Apart (source ++ ["QEMU", fileName]) destination)
    (clear : ClearWay t (destination ++ ["QEMU"]))
    (vacant : t (destination ++ ["QEMU", fileName]) = none) :
    (cloneStateFile faults source destination fileName).Succeeds t ↔
      ClonesState faults t source fileName := by
  have parent : (destination ++ ["QEMU", fileName]).dropLast = destination ++ ["QEMU"] := by
    simp [List.dropLast_append_of_ne_nil]
  have files := apart.below (List.prefix_refl _) (List.prefix_append destination
    ["QEMU", fileName])
  have longer : ¬ destination ++ ["QEMU", fileName] <+: destination ++ ["QEMU"] := by
    intro above
    have bound := above.length_le
    simp at bound
  have made {w : FileTree} {x : Unit}
      (created : createDirectory faults (.createQEMUDirectory fileName) (destination ++ ["QEMU"]) t
        = (.ok x, w)) :
      (clone faults fileName (source ++ ["QEMU", fileName])
        (destination ++ ["QEMU", fileName])).Succeeds w ↔
        (t (source ++ ["QEMU", fileName])).isSome ∧ Clones faults fileName := by
    rw [createDirectory_ok created]
    have onSource : ¬ source ++ ["QEMU", fileName] <+: destination ++ ["QEMU"] :=
      apart.not_below_append
    rw [clone_succeeds files ?_ ?_, Tree.makeDirectory_other onSource]
    · rw [parent]
      intro q above
      rw [isFile_makeDirectory]
      exact clear q above
    · rw [Tree.makeDirectory_other longer, vacant]
  rw [cloneStateFile, Failing.succeeds_bind]
  simp only [Failing.getState_eq_ok]
  constructor
  · rintro ⟨_, _, ⟨rfl, rfl⟩, rest⟩ present
    rw [if_pos present, Failing.succeeds_bind] at rest
    obtain ⟨_, _, created, cloned⟩ := rest
    exact ⟨(createDirectory_succeeds.mp ⟨_, _, created⟩).2, ((made created).mp cloned).2⟩
  · intro clones
    refine ⟨t, t, ⟨rfl, rfl⟩, ?_⟩
    split
    · rename_i present
      obtain ⟨directory, cloned⟩ := clones present
      obtain ⟨_, _, created⟩ := createDirectory_succeeds.mpr ⟨clear, directory⟩
      rw [Failing.succeeds_bind]
      exact ⟨_, _, created, (made created).mpr ⟨present, cloned⟩⟩
    · exact Failing.succeeds_pure () t

/-- A state file that is cloned is in nobody's way. -/
theorem cloneStateFile_clearWay {fileName : String} {x : Unit}
    (clear : ClearWay t (destination ++ ["QEMU"]))
    (run : cloneStateFile faults source destination fileName t = (.ok x, u)) :
    ClearWay u (destination ++ ["QEMU"]) := by
  simp only [cloneStateFile, Failing.bind_eq_ok, Failing.getState_eq_ok] at run
  obtain ⟨tree, other, ⟨isTree, isOther⟩, run⟩ := run
  rw [isTree, isOther] at run
  intro q above
  split at run
  · simp only [Failing.bind_eq_ok] at run
    obtain ⟨_, made, created, cloned⟩ := run
    have below : ¬ destination ++ ["QEMU", fileName] <+: q := by
      intro under
      have bound := (under.trans above).length_le
      simp at bound
    obtain ⟨_, _, isCopy⟩ := clone_ok cloned
    have same : isFile u q = isFile t q := by
      rw [isCopy, isFile, Tree.copy_other below, ← isFile, isFile_makeDirectory,
        createDirectory_ok created, isFile_makeDirectory]
    rw [same]
    exact clear q above
  · rw [Failing.pure_eq_ok] at run
    rw [run.2]
    exact clear q above

theorem cloneStateFiles_succeeds {fileNames : List String} (distinct : fileNames.Nodup)
    (apart : ∀ name ∈ fileNames, Apart (source ++ ["QEMU", name]) destination)
    (clear : ClearWay t (destination ++ ["QEMU"]))
    (vacant : ∀ name ∈ fileNames, t (destination ++ ["QEMU", name]) = none) :
    (cloneStateFiles faults source destination fileNames).Succeeds t ↔
      ∀ name ∈ fileNames, ClonesState faults t source name := by
  induction fileNames generalizing t with
  | nil => simp [cloneStateFiles]
  | cons first rest ih =>
    obtain ⟨isNew, distinct⟩ := List.nodup_cons.mp distinct
    have one : (cloneStateFile faults source destination first).Succeeds t ↔
        ClonesState faults t source first :=
      cloneStateFile_succeeds (apart first (by simp)) clear (vacant first (by simp))
    have later {w : FileTree} {x : Unit}
        (run : cloneStateFile faults source destination first t = (.ok x, w)) :
        (cloneStateFiles faults source destination rest).Succeeds w ↔
          ∀ name ∈ rest, ClonesState faults t source name := by
      obtain ⟨_, kept⟩ := cloneStateFile_lookup (apart first (by simp)) (vacant first (by simp)) run
      have sources (name : String) (among : name ∈ rest) :
          w (source ++ ["QEMU", name]) = t (source ++ ["QEMU", name]) := by
        have here := apart name (by simp [among])
        exact kept _ here.symm.append_not_below here.not_below_append
      rw [ih distinct (fun name among => apart name (by simp [among]))
        (cloneStateFile_clearWay clear run)]
      · refine forall₂_congr fun name among => ?_
        rw [ClonesState, ClonesState, sources name among]
      · intro name among
        have differ : first ≠ name := fun same => isNew (same ▸ among)
        rw [kept _ (((Apart.of_ne differ [] []).cons "QEMU").prepend destination).1]
        · exact vacant name (by simp [among])
        · intro above
          have bound := above.length_le
          simp at bound
    rw [cloneStateFiles, Failing.succeeds_bind, List.forall_mem_cons, ← one]
    constructor
    · rintro ⟨_, _, run, rest⟩
      exact ⟨⟨_, _, run⟩, (later run).mp rest⟩
    · rintro ⟨⟨_, _, run⟩, rest⟩
      exact ⟨_, _, run, (later run).mpr rest⟩

/-- No step of the copy of a state directory fails. -/
structure CopiesState (faults : SnapshotFaults) (t : FileTree) (source : Path) : Prop where
  directory : faults .createStateDirectory = none
  disk : (t (source ++ ["disk.raw"])).isSome ∧ Clones faults "disk.raw"
  files : ∀ name ∈ stateFileNames, ClonesState faults t source name

theorem cloneWindowsState_succeeds
    (apart : ∀ suffix ∈ stateSuffixes, Apart (source ++ suffix) destination)
    (clear : ClearWay t destination) (vacant : ∀ q, destination <+: q → t q = none) :
    (cloneWindowsState faults source destination).Succeeds t ↔ CopiesState faults t source := by
  have parent : (destination ++ ["disk.raw"]).dropLast = destination := by simp
  have qemu (name : String) (among : name ∈ stateFileNames) :
      ["QEMU", name] ∈ stateSuffixes := by
    simpa [stateSuffixes, stateFileNames] using among
  have diskApart := apart ["disk.raw"] (by simp [stateSuffixes])
  have files := diskApart.below (List.prefix_refl _) (List.prefix_append destination ["disk.raw"])
  have disk {w : FileTree} {x : Unit}
      (created : createDirectory faults .createStateDirectory destination t = (.ok x, w)) :
      (clone faults "disk.raw" (source ++ ["disk.raw"]) (destination ++ ["disk.raw"])).Succeeds w ↔
        (t (source ++ ["disk.raw"])).isSome ∧ Clones faults "disk.raw" := by
    rw [createDirectory_ok created, clone_succeeds files ?_ ?_,
      Tree.makeDirectory_other diskApart.1]
    · rw [parent]
      intro q above
      rw [isFile_makeDirectory]
      exact clear q above
    · rw [Tree.makeDirectory_other (not_append_above (by simp))]
      exact vacant _ (List.prefix_append _ _)
  have others {v w : FileTree} {x y : Unit}
      (created : createDirectory faults .createStateDirectory destination t = (.ok x, v))
      (cloned : clone faults "disk.raw" (source ++ ["disk.raw"]) (destination ++ ["disk.raw"]) v =
        (.ok y, w)) :
      (cloneStateFiles faults source destination stateFileNames).Succeeds w ↔
        ∀ name ∈ stateFileNames, ClonesState faults t source name := by
    have differ : "disk.raw" ≠ "QEMU" := by decide
    obtain ⟨_, _, kept⟩ := clone_lookup files cloned
    rw [parent] at kept
    have below (rest : Path) : w (destination ++ "QEMU" :: rest) = none := by
      have notOnTheWay : ¬ destination ++ "QEMU" :: rest <+: destination :=
        not_append_above (by simp)
      rw [kept _ ((Apart.of_ne differ [] rest).prepend destination).1 notOnTheWay,
        createDirectory_ok created, Tree.makeDirectory_other notOnTheWay]
      exact vacant _ (List.prefix_append _ _)
    rw [cloneStateFiles_succeeds (by decide) (fun name among => apart _ (qemu name among)) ?_
      fun name _ => below [name]]
    · refine forall₂_congr fun name among => ?_
      have here := apart _ (qemu name among)
      have source : w (source ++ ["QEMU", name]) = t (source ++ ["QEMU", name]) := by
        rw [kept _ here.symm.append_not_below here.1, createDirectory_ok created,
          Tree.makeDirectory_other here.1]
      rw [ClonesState, ClonesState, source]
    · intro q above
      by_cases same : q = destination ++ ["QEMU"]
      · rw [same, isFile, below []]
      · have onTheWay : q <+: destination := by
          have bound := above.length_le
          have shorter : q.length ≠ (destination ++ ["QEMU"]).length := fun equal =>
            same (above.eq_of_length equal)
          refine List.prefix_of_prefix_length_le above (List.prefix_append _ _) ?_
          simp only [List.length_append, List.length_singleton] at bound shorter
          omega
        obtain ⟨_, _, isCopy⟩ := clone_ok cloned
        have copied : isFile w q = isFile t q := by
          rw [isCopy, isFile, Tree.copy_other fun under => not_append_above (by simp)
            (under.trans onTheWay), ← isFile, isFile_makeDirectory, createDirectory_ok created,
            isFile_makeDirectory]
        rw [copied]
        exact clear q onTheWay
  rw [cloneWindowsState]
  simp only [Failing.succeeds_bind]
  constructor
  · rintro ⟨_, _, created, _, _, cloned, rest⟩
    exact ⟨(createDirectory_succeeds.mp ⟨_, _, created⟩).2, (disk created).mp ⟨_, _, cloned⟩,
      (others created cloned).mp rest⟩
  · intro copies
    obtain ⟨_, _, created⟩ := createDirectory_succeeds.mpr ⟨clear, copies.directory⟩
    obtain ⟨_, _, cloned⟩ := (disk created).mpr copies.disk
    exact ⟨_, _, created, _, _, cloned, (others created cloned).mpr copies.files⟩

end Complete

end SimpleVM.Storage.SnapshotStore
