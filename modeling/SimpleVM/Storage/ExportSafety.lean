import SimpleVM.Storage.ManagedFileExporter

/-!
# What an export touches

An export leaves its destination as it was or as a complete copy, spares the source and the managed
storage, and cleans up, whichever steps fail, exactly when four conditions hold of its paths.
-/
namespace SimpleVM.Storage.ManagedFileExporter

open Effects Files

section Steps

variable (faults : Faults) (disk : Disk) {sourceURL destinationURL : FileURL}
  {source destination : List String}

theorem copyItem_eq (locatedSource : locate disk.entries sourceURL = some source)
    (locatedDestination : locate disk.entries destinationURL = some destination)
    (present : (disk.entries source).isSome) (free : disk.entries destination = none) :
    copyItem faults sourceURL destinationURL disk = match faults .copyItem with
      | none => (.ok (), ⟨disk.entries.copy source destination, destination :: disk.touched⟩)
      | some fault => (.error (.io fault.message), match fault.part with
        | none => disk
        | some part =>
          ⟨copyPartly disk.entries source destination part, destination :: disk.touched⟩) := by
  unfold copyItem
  rw [Failing.bind_of_ok _ (Failing.getState_eq_ok.mpr ⟨rfl, rfl⟩)]
  have there : (disk.entries source).isNone = false := by simpa using present
  simp only [locatedSource, locatedDestination, there, free]
  cases faults .copyItem with
  | none => rfl
  | some fault =>
    simp only
    cases fault.part <;> rfl

theorem copyItem_unlocated (sourceURL : FileURL) (unlocated : locate disk.entries destinationURL = none) :
    copyItem faults sourceURL destinationURL disk = (.error noSuchFile, disk) := by
  unfold copyItem
  rw [Failing.bind_of_ok _ (Failing.getState_eq_ok.mpr ⟨rfl, rfl⟩), unlocated]
  cases locate disk.entries sourceURL <;> rfl

theorem replaceItemAt_eq (locatedItem : locate disk.entries sourceURL = some source)
    (located : locate disk.entries destinationURL = some destination)
    (item : (disk.entries source).isSome) (original : (disk.entries destination).isSome) :
    replaceItemAt faults destinationURL sourceURL disk = match faults .replaceItem with
      | none => (.ok (),
        ⟨disk.entries.replace destination source, destination :: source :: disk.touched⟩)
      | some fault => (.error (.io fault.message), disk) := by
  unfold replaceItemAt
  rw [Failing.bind_of_ok _ (Failing.getState_eq_ok.mpr ⟨rfl, rfl⟩)]
  have here : (disk.entries source).isNone = false := by simpa using item
  have there : (disk.entries destination).isNone = false := by simpa using original
  simp only [locatedItem, located, here, there]
  cases faults .replaceItem <;> rfl

theorem moveItem_eq (locatedItem : locate disk.entries sourceURL = some source)
    (located : locate disk.entries destinationURL = some destination)
    (item : (disk.entries source).isSome) (free : disk.entries destination = none) :
    moveItem faults sourceURL destinationURL disk = match faults .moveItem with
      | none => (.ok (),
        ⟨disk.entries.replace destination source, destination :: source :: disk.touched⟩)
      | some fault => (.error (.io fault.message), disk) := by
  unfold moveItem
  rw [Failing.bind_of_ok _ (Failing.getState_eq_ok.mpr ⟨rfl, rfl⟩)]
  have here : (disk.entries source).isNone = false := by simpa using item
  simp only [locatedItem, located, here, free]
  cases faults .moveItem <;> rfl

theorem moveItem_occupied (locatedItem : locate disk.entries sourceURL = some source)
    (located : locate disk.entries destinationURL = some destination)
    (item : (disk.entries source).isSome) (occupied : (disk.entries destination).isSome) :
    moveItem faults sourceURL destinationURL disk = (.error fileExistsError, disk) := by
  unfold moveItem
  rw [Failing.bind_of_ok _ (Failing.getState_eq_ok.mpr ⟨rfl, rfl⟩)]
  have here : (disk.entries source).isNone = false := by simpa using item
  simp only [locatedItem, located, here, occupied]
  rfl

end Steps

/-- Nothing has the name, and no link leads to it. -/
structure Fresh (t : Entries) (name : String) : Prop where
  entries : ∀ q, name ∈ q → t q = none
  links : ∀ q target, t q = some (.file (.link target)) → Names (· ≠ name) target.components

section Lookup

variable {t u : Entries} {name : String} {url : FileURL} {path directory p temporary : List String}

theorem names_plain (path : List String) {ok : String → Prop} :
    Names ok (plain path) ↔ ∀ n ∈ path, ok n := by
  simp [Names, plain]

/-- Trees that differ under the fresh name only have the same walks. -/
theorem find_congr (fresh : Fresh t name) (agree : ∀ q, name ∉ q → u q = t q)
    (clean : name ∉ path) : find u path = find t path := by
  have avoids (q : List String) (ok : ∀ m ∈ q, m ≠ name) : name ∉ q :=
    fun member => ok name member rfl
  refine (walk_congr (· ≠ name) (fun q ok => (agree q (avoids q ok)).symm)
    (fun q target _ link => fresh.links q target link) (by simp) ?_).symm
  rw [names_plain]
  exact fun n member same => clean (same ▸ member)

theorem locate_of_find (found : find t url.deletingLastPathComponent = some directory)
    (isDirectory : t directory = some .directory) :
    locate t url = some (directory ++ [url.lastPathComponent]) := by
  unfold locate
  rw [found]
  exact if_pos isDirectory

theorem find_of_locate (located : locate t url = some p) :
    ∃ directory, find t url.deletingLastPathComponent = some directory ∧
      t directory = some .directory ∧ p = directory ++ [url.lastPathComponent] := by
  unfold locate at located
  split at located
  · cases located
  · next directory found =>
    split at located
    · next isDirectory => exact ⟨directory, found, isDirectory, (Option.some.inj located).symm⟩
    · cases located

theorem locate_eq_none : locate t url = none ↔
    ∀ directory, find t url.deletingLastPathComponent = some directory →
      t directory ≠ some .directory := by
  unfold locate
  constructor
  · intro unlocated directory found isDirectory
    simp [found, isDirectory] at unlocated
  · intro none
    split
    · rfl
    · next directory found => exact if_neg (none directory found)

theorem plain_path (url : FileURL) :
    plain url.path = plain url.deletingLastPathComponent ++ [.name url.lastPathComponent] := by
  simp [plain, FileURL.path]

/-- What is found at a path is in the directory of its last component. -/
theorem locate_of_fileExists (rooted : Rooted t) (exists_ : fileExists t url.path = true) :
    ∃ p, locate t url = some p ∧ (t p).isSome := by
  obtain ⟨q, found⟩ := Option.isSome_iff_exists.mp exists_
  unfold find at found
  rw [plain_path] at found
  obtain ⟨directory, onWay, present⟩ := exists_of_follow_last found
  exact ⟨_, locate_of_find onWay (rooted.parents _ _ present), present⟩

/-- An entry that is no link is found where it is. -/
theorem find_of_ends (located : locate t url = some p) (ends : Ends t p) :
    find t url.path = some p := by
  obtain ⟨directory, found, isDirectory, rfl⟩ := find_of_locate located
  unfold find
  rw [plain_path]
  exact follow_last isDirectory ends found

theorem find_ends (rooted : Rooted t) (found : find t path = some p) : Ends t p :=
  follow_ends rooted rooted.root found

theorem ends_or_link {node : Entry} (present : t p = some node) :
    Ends t p ∨ ∃ target, t p = some (.file (.link target)) := by
  cases node with
  | directory => exact .inl (.inl present)
  | file leaf =>
    cases leaf with
    | data bytes => exact .inl (.inr ⟨bytes, present⟩)
    | link target => exact .inr ⟨target, present⟩

/-- A path that leads somewhere has no fresh name. -/
theorem not_mem_of_find (fresh : Fresh t name) (found : find t path = some p) :
    name ∉ path := by
  intro member
  obtain ⟨q, present⟩ := exists_of_mem found (List.mem_map_of_mem member)
  rw [fresh.entries _ (by simp)] at present
  cases present

/-- Nothing leads to a name that nothing has. -/
theorem not_fileExists (absent : ∀ q, name ∈ q → u q = none)
    (named : url.lastPathComponent = name) : fileExists u url.path = false := by
  cases found : find u url.path with
  | none => simp [fileExists, found]
  | some q =>
    unfold find at found
    rw [plain_path, named] at found
    obtain ⟨directory, -, present⟩ := exists_of_follow_last found
    rw [absent _ (by simp)] at present
    cases present

end Lookup

theorem temporary_name (destinationURL : FileURL) (uuidString : String) :
    (temporaryURL destinationURL uuidString).lastPathComponent ≠
      destinationURL.lastPathComponent := by
  intro same
  have lengths := congrArg String.length same
  have suffix : ".simplevm-".length = 10 := rfl
  simp [temporaryURL, suffix] at lengths
  omega

/-- The source and the directory of the destination exist, and the temporary name is new there. -/
structure Located (t : Entries) (sourceURL destinationURL temporaryURL : FileURL)
    (source directory : List String) : Prop where
  item : locate t sourceURL = some source
  present : (t source).isSome
  parent : find t destinationURL.deletingLastPathComponent = some directory
  isDirectory : t directory = some .directory
  beside : temporaryURL.deletingLastPathComponent = destinationURL.deletingLastPathComponent
  differs : temporaryURL.lastPathComponent ≠ destinationURL.lastPathComponent
  fresh : Fresh t temporaryURL.lastPathComponent

/-- The tree holds something at a new place and is the same everywhere else. -/
def AddedAt (t : Entries) (place : List String) (u : Entries) : Prop :=
  ∀ q, ¬ place <+: q → u q = t q

theorem AddedAt.agree {t u : Entries} {directory : List String} {name : String}
    (added : AddedAt t (directory ++ [name]) u) (q : List String) (clean : name ∉ q) :
    u q = t q :=
  added q fun below => clean (below.mem (by simp))

theorem addedAt_copy (t : Entries) (source place : List String) :
    AddedAt t place (t.copy source place) := fun _ outside => Tree.copy_other outside

theorem addedAt_copyPartly (t : Entries) (source place : List String) (part : Part) :
    AddedAt t place (copyPartly t source place part) := fun _ outside => if_neg outside

/-- A copy of a link is whole, or nothing. -/
theorem copyPartly_link {t : Entries} {source : List String} (rooted : Rooted t) {target : Target String}
    (link : t source = some (.file (.link target))) (place : List String) (part : Part) :
    copyPartly t source place part = t.copy source place := by
  funext q
  unfold copyPartly Tree.copy
  split
  · rw [link]
    cases q.drop place.length with
    | nil => simp [partly, link]
    | cons n rest =>
      have nothing : t (source ++ n :: rest) = none := by
        cases present : t (source ++ n :: rest) with
        | none => rfl
        | some node =>
          have above := rooted.directory_above (by simp [present])
            (List.prefix_append source (n :: rest)) (by simp)
          rw [link] at above
          cases above
      simp [partly, nothing]
  · rfl

theorem link_of_partly {part : Part} {node : Option Entry} {target : Target String}
    (link : partly part node [] = some (.file (.link target))) :
    node = some (.file (.link target)) := by
  cases node with
  | none => cases link
  | some entry =>
    cases entry with
    | directory => cases link
    | file leaf =>
      cases leaf with
      | data bytes => cases link
      | link other => exact link

theorem copied_at (t : Entries) (source place : List String) : t.copy source place place = t source := by
  have below := Tree.copy_below t source place []
  simpa using below

/-- What the deferred removal leaves of what is at the temporary name. -/
def cleaned (faults : Faults) (u : Entries) (temporary : List String) : Bool → Disk
  | false => ⟨u, [temporary]⟩
  | true => match faults .removeTemporary with
    | none => ⟨u.remove temporary, [temporary, temporary]⟩
    | some fault => ⟨u.removePartly temporary fault.survivors, [temporary, temporary]⟩

/-- What keeps a complete copy from being put in place. -/
def obstacle (faults : Faults) (t : Entries) (destination : List String) (found : Bool) :
    Option ManagedFileExportError :=
  if found then (faults .replaceItem).map fun fault => .io fault.message
  else if (t destination).isSome then some fileExistsError
  else (faults .moveItem).map fun fault => .io fault.message

theorem possible_of_no_obstacle {faults : Faults} {t : Entries} {destination : List String}
    {found : Bool} (clear : obstacle faults t destination found = none) :
    found = true ∨ t destination = none := by
  unfold obstacle at clear
  split at clear
  · next here => exact .inl here
  · split at clear
    · cases clear
    · next free => exact .inr (by simpa using free)

/-- The disk once the copy is in place. -/
def installed (t : Entries) (source destination temporary : List String) : Disk :=
  ⟨(t.copy source temporary).replace destination temporary, [destination, temporary, temporary]⟩

theorem removeTemporary_unseen (faults : Faults) {disk : Disk} {url : FileURL}
    (unseen : fileExists disk.entries url.path = false) :
    removeTemporary faults url disk = (.ok (), disk) := by
  unfold removeTemporary
  rw [Failing.bind_of_ok _ (Failing.getState_eq_ok.mpr ⟨rfl, rfl⟩)]
  simp only [unseen]
  rfl

namespace Located

variable {t u : Entries} {faults : Faults} {sourceURL destinationURL temporaryURL : FileURL}
  {source directory : List String}
  (located : Located t sourceURL destinationURL temporaryURL source directory)

include located

theorem locate_destination :
    locate t destinationURL = some (directory ++ [destinationURL.lastPathComponent]) :=
  locate_of_find located.parent located.isDirectory

theorem locate_temporary :
    locate t temporaryURL = some (directory ++ [temporaryURL.lastPathComponent]) :=
  locate_of_find (by rw [located.beside, located.parent]) located.isDirectory

theorem free : t (directory ++ [temporaryURL.lastPathComponent]) = none :=
  located.fresh.entries _ (by simp)

/-- What is added at the temporary name does not move the directory. -/
theorem added (new : AddedAt t (directory ++ [temporaryURL.lastPathComponent]) u) :
    find u destinationURL.deletingLastPathComponent = some directory ∧
      u directory = some .directory := by
  rw [find_congr located.fresh new.agree (not_mem_of_find located.fresh located.parent)]
  refine ⟨located.parent, ?_⟩
  rw [new _ fun below => ?_]
  · exact located.isDirectory
  · have length := below.length_le
    rw [List.length_append, List.length_singleton] at length
    omega

theorem find_destination (new : AddedAt t (directory ++ [temporaryURL.lastPathComponent]) u) :
    find u destinationURL.path = find t destinationURL.path := by
  refine find_congr located.fresh new.agree ?_
  intro member
  rcases List.mem_append.mp member with inside | last
  · exact not_mem_of_find located.fresh located.parent inside
  · exact located.differs (List.mem_singleton.mp last)

/-- The destination and the temporary file are siblings. -/
theorem apart : Apart (directory ++ [destinationURL.lastPathComponent])
    (directory ++ [temporaryURL.lastPathComponent]) :=
  (Apart.of_ne located.differs.symm [] []).prepend directory

theorem removeTemporary_eq (new : AddedAt t (directory ++ [temporaryURL.lastPathComponent]) u) :
    (removeTemporary faults temporaryURL ⟨u, [directory ++ [temporaryURL.lastPathComponent]]⟩).2 =
      cleaned faults u (directory ++ [temporaryURL.lastPathComponent])
        (fileExists u temporaryURL.path) := by
  obtain ⟨parent, isDirectory⟩ := located.added new
  rw [← located.beside] at parent
  have here := locate_of_find parent isDirectory
  unfold removeTemporary
  rw [Failing.bind_of_ok _ (Failing.getState_eq_ok.mpr ⟨rfl, rfl⟩)]
  cases seen : fileExists u temporaryURL.path with
  | false => rfl
  | true =>
    obtain ⟨q, found⟩ := Option.isSome_iff_exists.mp seen
    unfold find at found parent
    rw [plain_path] at found
    obtain ⟨other, onWay, present⟩ := exists_of_follow_last found
    rw [parent, Option.some.injEq] at onWay
    subst onWay
    have there : (u (directory ++ [temporaryURL.lastPathComponent])).isNone = false := by
      simpa using present
    simp only [if_true, Failing.ignoring, removeItem]
    rw [Failing.bind_of_ok _ (Failing.getState_eq_ok.mpr ⟨rfl, rfl⟩)]
    simp only [here, there, cleaned]
    cases faults .removeTemporary <;> rfl

theorem present_of_fileExists (found : fileExists t destinationURL.path = true) :
    (t (directory ++ [destinationURL.lastPathComponent])).isSome := by
  obtain ⟨q, found⟩ := Option.isSome_iff_exists.mp found
  have parent := located.parent
  unfold find at found parent
  rw [plain_path] at found
  obtain ⟨other, onWay, present⟩ := exists_of_follow_last found
  rw [parent, Option.some.injEq] at onWay
  subst onWay
  exact present

/-- The copy is in the way of nothing, so what was there before decides how it is put in place. -/
theorem copyAndInstall_eq : copyAndInstall faults sourceURL destinationURL temporaryURL ⟨t, []⟩ =
    match faults .copyItem with
    | some fault => (.error (.io fault.message), match fault.part with
      | none => ⟨t, []⟩
      | some part =>
        ⟨copyPartly t source (directory ++ [temporaryURL.lastPathComponent]) part,
          [directory ++ [temporaryURL.lastPathComponent]]⟩)
    | none => match obstacle faults t (directory ++ [destinationURL.lastPathComponent])
        (fileExists t destinationURL.path) with
      | none => (.ok (), installed t source (directory ++ [destinationURL.lastPathComponent])
        (directory ++ [temporaryURL.lastPathComponent]))
      | some error => (.error error,
        ⟨t.copy source (directory ++ [temporaryURL.lastPathComponent]),
          [directory ++ [temporaryURL.lastPathComponent]]⟩) := by
  have copy := copyItem_eq faults ⟨t, []⟩ located.item located.locate_temporary located.present
    located.free
  unfold copyAndInstall
  cases fails : faults .copyItem with
  | some fault =>
    rw [fails] at copy
    exact Failing.bind_of_error _ copy
  | none =>
    rw [fails] at copy
    rw [Failing.bind_of_ok _ copy, Failing.bind_of_ok _ (Failing.getState_eq_ok.mpr ⟨rfl, rfl⟩)]
    have new := addedAt_copy t source (directory ++ [temporaryURL.lastPathComponent])
    obtain ⟨parent, isDirectory⟩ := located.added new
    have destination := locate_of_find parent isDirectory
    rw [← located.beside] at parent
    have temporary := locate_of_find parent isDirectory
    have item : (t.copy source (directory ++ [temporaryURL.lastPathComponent])
        (directory ++ [temporaryURL.lastPathComponent])).isSome := by
      rw [copied_at]
      exact located.present
    have original := new (directory ++ [destinationURL.lastPathComponent])
      (located.apart.symm.not_below (List.prefix_refl _))
    have same : fileExists (t.copy source (directory ++ [temporaryURL.lastPathComponent]))
        destinationURL.path = fileExists t destinationURL.path := by
      unfold fileExists
      rw [located.find_destination new]
    unfold obstacle
    simp only [same]
    cases found : fileExists t destinationURL.path with
    | true =>
      have there := located.present_of_fileExists found
      rw [← original] at there
      simp only [if_true]
      rw [replaceItemAt_eq faults _ temporary destination item there]
      cases faults .replaceItem <;> rfl
    | false =>
      cases occupied : t (directory ++ [destinationURL.lastPathComponent]) with
      | some node =>
        have there : (t.copy source (directory ++ [temporaryURL.lastPathComponent])
            (directory ++ [destinationURL.lastPathComponent])).isSome := by
          rw [original, occupied]
          rfl
        exact moveItem_occupied faults _ temporary destination item there
      | none =>
        rw [occupied] at original
        have moved := moveItem_eq faults
          ⟨t.copy source (directory ++ [temporaryURL.lastPathComponent]),
            [directory ++ [temporaryURL.lastPathComponent]]⟩ temporary destination item original
        simp only [Bool.false_eq_true, if_false, Option.isSome_none]
        rw [moved]
        cases faults .moveItem <;> rfl

end Located

/-- The three checks before anything is written. -/
structure Accepts (t : Entries) (sourceURL destinationURL : FileURL)
    (protectedRootURL : Option (List String)) : Prop where
  source : fileExists t sourceURL.path = true
  unprotected : protectedRootURL.any (contains t destinationURL.path) = false
  different : resolvingSymlinksInPath t sourceURL.path ≠
    resolvingSymlinksInPath t destinationURL.path

section Export

variable {t : Entries} (faults : Faults) {sourceURL destinationURL : FileURL}
  {protectedRootURL : Option (List String)} (uuidString : String)

theorem exportFile_refused (refused : ¬ Accepts t sourceURL destinationURL protectedRootURL) :
    ∃ error, exportFile faults sourceURL destinationURL protectedRootURL uuidString ⟨t, []⟩ =
      (.error error, ⟨t, []⟩) := by
  unfold exportFile
  rw [Failing.bind_of_ok _ (Failing.getState_eq_ok.mpr ⟨rfl, rfl⟩)]
  by_cases source : fileExists t sourceURL.path = true
  · rw [if_neg (by simpa using source)]
    cases inside : protectedRootURL.any (contains t destinationURL.path) with
    | true => exact ⟨.destinationInsideManagedStorage, rfl⟩
    | false =>
      have same : resolvingSymlinksInPath t sourceURL.path =
          resolvingSymlinksInPath t destinationURL.path := by
        apply Classical.byContradiction
        intro different
        exact refused ⟨source, inside, different⟩
      exact ⟨.destinationMatchesSource, by simp only [same]; rfl⟩
  · rw [if_pos source]
    exact ⟨.sourceUnavailable, rfl⟩

theorem exportFile_accepted (accepts : Accepts t sourceURL destinationURL protectedRootURL) :
    exportFile faults sourceURL destinationURL protectedRootURL uuidString ⟨t, []⟩ =
      Failing.deferring (removeTemporary faults (temporaryURL destinationURL uuidString))
        (copyAndInstall faults sourceURL destinationURL (temporaryURL destinationURL uuidString))
        ⟨t, []⟩ := by
  unfold exportFile
  rw [Failing.bind_of_ok _ (Failing.getState_eq_ok.mpr ⟨rfl, rfl⟩)]
  rw [if_neg (by simp [accepts.source])]
  simp only [accepts.unprotected, accepts.different]
  rfl

/-- Without a directory for the destination nothing happens. -/
theorem exportFile_unlocated (accepts : Accepts t sourceURL destinationURL protectedRootURL)
    (fresh : Fresh t (temporaryURL destinationURL uuidString).lastPathComponent)
    (unlocated : locate t destinationURL = none) :
    exportFile faults sourceURL destinationURL protectedRootURL uuidString ⟨t, []⟩ =
      (.error noSuchFile, ⟨t, []⟩) := by
  rw [exportFile_accepted faults uuidString accepts]
  have nowhere := locate_eq_none.mp unlocated
  have temporary : locate t (temporaryURL destinationURL uuidString) = none :=
    locate_eq_none.mpr nowhere
  have copy := copyItem_unlocated faults ⟨t, []⟩ sourceURL temporary
  have stopped : copyAndInstall faults sourceURL destinationURL
      (temporaryURL destinationURL uuidString) ⟨t, []⟩ = (.error noSuchFile, ⟨t, []⟩) :=
    Failing.bind_of_error _ copy
  have unseen : fileExists t (temporaryURL destinationURL uuidString).path = false :=
    not_fileExists fresh.entries rfl
  unfold Failing.deferring
  rw [stopped, removeTemporary_unseen faults unseen]

end Export

/-- What an export may not do, however it ends. -/
structure Safe (t : Entries) (sourceURL destinationURL temporaryURL : FileURL)
    (protectedRootURL : Option (List String)) (faults : Faults)
    (result : Except ManagedFileExportError Unit) (after : Disk) : Prop where
  recorded : ∀ q, (∀ p ∈ after.touched, ¬ p <+: q) → after.entries q = t q
  /-- An export that returns leaves a complete copy. -/
  copied : result = .ok () → ∃ place item, locate t destinationURL = some place ∧
    find t sourceURL.path = some item ∧
    ∀ rest, after.entries (place ++ rest) = t (item ++ rest)
  /-- One that fails leaves what was there. -/
  kept : result ≠ .ok () → ∀ place, locate t destinationURL = some place →
    ∀ rest, after.entries (place ++ rest) = t (place ++ rest)
  source : ∀ item, locate t sourceURL = some item ∨ find t sourceURL.path = some item →
    ∀ p ∈ after.touched, Apart p item
  temporary : faults .removeTemporary = none → ∀ place, locate t temporaryURL = some place →
    after.entries place = none
  outside : ∀ rootURL ∈ protectedRootURL, ∀ root, find t rootURL = some root →
    ∀ p ∈ after.touched, ¬ root <+: p.dropLast

/-- What must hold of the paths of an export that is begun. -/
structure Admissible (t : Entries) (sourceURL destinationURL temporaryURL : FileURL)
    (protectedRootURL : Option (List String)) (source directory : List String) : Prop where
  outside : ∀ rootURL ∈ protectedRootURL, ∀ root, find t rootURL = some root →
    ¬ root <+: directory
  apart : ∀ item, find t sourceURL.path = some item → ¬ item <+: directory
  below : fileExists t destinationURL.path = true →
    ¬ directory ++ [destinationURL.lastPathComponent] <+: source
  link : ∀ target, t source = some (.file (.link target)) →
    fileExists t destinationURL.path = false ∧
    (t (directory ++ [destinationURL.lastPathComponent])).isSome ∧
    fileExists (t.copy source (directory ++ [temporaryURL.lastPathComponent]))
      temporaryURL.path = true

theorem safe_of_unchanged {t : Entries} {sourceURL destinationURL temporaryURL : FileURL}
    {protectedRootURL : Option (List String)} {faults : Faults} {error : ManagedFileExportError}
    (free : ∀ place, locate t temporaryURL = some place → t place = none) :
    Safe t sourceURL destinationURL temporaryURL protectedRootURL faults (.error error) ⟨t, []⟩ where
  recorded := fun _ _ => rfl
  copied := fun ended => by cases ended
  kept := fun _ _ _ _ => rfl
  source := fun _ _ _ member => by cases member
  temporary := fun _ => free
  outside := fun _ _ _ _ _ member => by cases member

namespace Located

variable {t u : Entries} {faults : Faults} {sourceURL destinationURL temporaryURL : FileURL}
  {source directory : List String} {protectedRootURL : Option (List String)}
  (located : Located t sourceURL destinationURL temporaryURL source directory)

include located

/-- The temporary file is apart from the source. -/
theorem temporary_apart (rooted : Rooted t) {item : List String}
    (isSource : locate t sourceURL = some item ∨ find t sourceURL.path = some item)
    (apart : ∀ item, find t sourceURL.path = some item → ¬ item <+: directory) :
    Apart (directory ++ [temporaryURL.lastPathComponent]) item := by
  have present : (t item).isSome := by
    rcases isSource with here | there
    · rw [located.item, Option.some.injEq] at here
      exact here ▸ located.present
    · rcases find_ends rooted there with isDirectory | ⟨bytes, data⟩
      · simp [isDirectory]
      · simp [data]
  have outside : ¬ item <+: directory := by
    rcases isSource with here | there
    · obtain ⟨node, isNode⟩ := Option.isSome_iff_exists.mp present
      rcases ends_or_link isNode with ends | ⟨target, link⟩
      · exact apart item (find_of_ends here ends)
      · -- nothing is below a link
        intro below
        by_cases same : item = directory
        · rw [same, located.isDirectory] at link
          cases link
        · have isDirectory := rooted.directory_above (by simp [located.isDirectory]) below same
          rw [link] at isDirectory
          cases isDirectory
    · exact apart item there
  constructor
  · intro below
    by_cases same : directory ++ [temporaryURL.lastPathComponent] = item
    · rw [← same, located.free] at present
      cases present
    · have isDirectory := rooted.directory_above present below same
      rw [located.free] at isDirectory
      cases isDirectory
  · intro below
    rcases List.prefix_concat_iff.mp below with same | inside
    · rw [same, located.free] at present
      cases present
    · exact outside inside

/-- When something can be put in place, the destination is apart from a source that is no link. -/
theorem destination_apart (rooted : Rooted t)
    (accepts : Accepts t sourceURL destinationURL protectedRootURL)
    (admissible : Admissible t sourceURL destinationURL temporaryURL protectedRootURL source
      directory) (ends : Ends t source)
    (possible : fileExists t destinationURL.path = true ∨
      t (directory ++ [destinationURL.lastPathComponent]) = none) :
    Apart (directory ++ [destinationURL.lastPathComponent]) source := by
  have present := located.present
  constructor
  · intro below
    rcases possible with found | free
    · exact admissible.below found below
    · by_cases same : directory ++ [destinationURL.lastPathComponent] = source
      · rw [← same, free] at present
        cases present
      · have isDirectory := rooted.directory_above present below same
        rw [free] at isDirectory
        cases isDirectory
  · intro below
    have itself := find_of_ends located.item ends
    rcases List.prefix_concat_iff.mp below with same | inside
    · -- the destination would be the source
      have there := located.locate_destination
      rw [← same] at there
      have other := find_of_ends there ends
      apply accepts.different
      have first := resolveLinks_of_follow itself
      have second := resolveLinks_of_follow other
      exact first.trans second.symm
    · exact admissible.apart source itself inside

/-- An export that installed its copy is safe. -/
theorem safe_installed (rooted : Rooted t)
    (accepts : Accepts t sourceURL destinationURL protectedRootURL)
    (admissible : Admissible t sourceURL destinationURL temporaryURL protectedRootURL source
      directory)
    (possible : fileExists t destinationURL.path = true ∨
      t (directory ++ [destinationURL.lastPathComponent]) = none) :
    Safe t sourceURL destinationURL temporaryURL protectedRootURL faults (.ok ())
      (installed t source (directory ++ [destinationURL.lastPathComponent])
        (directory ++ [temporaryURL.lastPathComponent])) := by
  have ends : Ends t source := by
    obtain ⟨node, isNode⟩ := Option.isSome_iff_exists.mp located.present
    rcases ends_or_link isNode with ends | ⟨target, link⟩
    · exact ends
    · obtain ⟨missing, occupied, -⟩ := admissible.link target link
      rcases possible with found | free
      · rw [missing] at found
        cases found
      · rw [free] at occupied
        cases occupied
  have itself := find_of_ends located.item ends
  have apart := located.destination_apart rooted accepts admissible ends possible
  have siblings := located.apart
  refine ⟨?_, ?_, ?_, ?_, ?_, ?_⟩
  · intro q untouched
    dsimp only [installed] at untouched ⊢
    have offDestination := untouched (directory ++ [destinationURL.lastPathComponent]) (by simp)
    have offTemporary := untouched (directory ++ [temporaryURL.lastPathComponent]) (by simp)
    rw [Tree.replace_other offDestination offTemporary, Tree.copy_other offTemporary]
  · intro _
    refine ⟨_, source, located.locate_destination, itself, fun rest => ?_⟩
    dsimp only [installed]
    rw [Tree.replace_below, Tree.copy_below]
  · intro failed
    exact absurd rfl failed
  · intro item isSource p member
    have beside := located.temporary_apart rooted isSource admissible.apart
    have same : item = source := by
      rcases isSource with here | there
      · rw [located.item, Option.some.injEq] at here
        exact here.symm
      · rw [itself, Option.some.injEq] at there
        exact there.symm
    simp only [installed, List.mem_cons, List.not_mem_nil, or_false] at member
    rcases member with rfl | rfl | rfl
    · exact same ▸ apart
    · exact beside
    · exact beside
  · intro _ place here
    rw [located.locate_temporary, Option.some.injEq] at here
    subst here
    dsimp only [installed]
    rw [Tree.replace, if_neg (siblings.not_below (List.prefix_refl _)),
      if_pos (List.prefix_refl _)]
  · intro rootURL protects root found p member
    simp only [installed, List.mem_cons, List.not_mem_nil, or_false] at member
    rcases member with rfl | rfl | rfl <;> rw [List.dropLast_concat] <;>
      exact admissible.outside rootURL protects root found

/-- An export that failed after it had written under the temporary name only is safe. -/
theorem safe_failed (rooted : Rooted t)
    (admissible : Admissible t sourceURL destinationURL temporaryURL protectedRootURL source
      directory) {error : ManagedFileExportError} {after : Disk}
    (new : AddedAt t (directory ++ [temporaryURL.lastPathComponent]) after.entries)
    (record : ∀ p, p ∈ after.touched ↔ p = directory ++ [temporaryURL.lastPathComponent])
    (gone : faults .removeTemporary = none →
      after.entries (directory ++ [temporaryURL.lastPathComponent]) = none) :
    Safe t sourceURL destinationURL temporaryURL protectedRootURL faults (.error error) after := by
  refine ⟨?_, ?_, ?_, ?_, ?_, ?_⟩
  · intro q untouched
    exact new q (untouched _ ((record _).mpr rfl))
  · intro ended
    cases ended
  · intro _ place here rest
    rw [located.locate_destination, Option.some.injEq] at here
    subst here
    exact new _ (located.apart.symm.not_below (List.prefix_append _ _))
  · intro item isSource p member
    rw [(record p).mp member]
    exact located.temporary_apart rooted isSource admissible.apart
  · intro possible place here
    rw [located.locate_temporary, Option.some.injEq] at here
    exact here ▸ gone possible
  · intro rootURL protects root found p member
    rw [(record p).mp member, List.dropLast_concat]
    exact admissible.outside rootURL protects root found

/-- What the cleanup does not see is not there, unless it is a link that leads nowhere. -/
theorem unseen (new : AddedAt t (directory ++ [temporaryURL.lastPathComponent]) u)
    (links : ∀ target, u (directory ++ [temporaryURL.lastPathComponent]) =
      some (.file (.link target)) → fileExists u temporaryURL.path = true)
    (hidden : fileExists u temporaryURL.path = false) :
    u (directory ++ [temporaryURL.lastPathComponent]) = none := by
  obtain ⟨parent, isDirectory⟩ := located.added new
  rw [← located.beside] at parent
  have here := locate_of_find parent isDirectory
  cases present : u (directory ++ [temporaryURL.lastPathComponent]) with
  | none => rfl
  | some node =>
    rcases ends_or_link present with ends | ⟨target, link⟩
    · have found := find_of_ends here ends
      simp [fileExists, found] at hidden
    · rw [links target link] at hidden
      cases hidden

/-- The cleanup leaves a safe disk. -/
theorem safe_cleaned (rooted : Rooted t)
    (admissible : Admissible t sourceURL destinationURL temporaryURL protectedRootURL source
      directory) {error : ManagedFileExportError}
    (new : AddedAt t (directory ++ [temporaryURL.lastPathComponent]) u)
    (links : ∀ target, u (directory ++ [temporaryURL.lastPathComponent]) =
      some (.file (.link target)) → fileExists u temporaryURL.path = true) :
    Safe t sourceURL destinationURL temporaryURL protectedRootURL faults (.error error)
      (cleaned faults u (directory ++ [temporaryURL.lastPathComponent])
        (fileExists u temporaryURL.path)) := by
  cases seen : fileExists u temporaryURL.path with
  | false =>
    exact located.safe_failed rooted admissible new (by simp [cleaned])
      fun _ => located.unseen new links seen
  | true =>
    unfold cleaned
    cases removal : faults .removeTemporary with
    | none =>
      refine located.safe_failed rooted admissible ?_ (by simp) fun _ => ?_
      · intro q outside
        exact (Tree.remove_other outside).trans (new q outside)
      · exact Tree.remove_below (List.prefix_refl _)
    | some fault =>
      refine located.safe_failed rooted admissible ?_ (by simp) fun possible => ?_
      · intro q outside
        exact (Tree.removePartly_other outside).trans (new q outside)
      · rw [removal] at possible
        cases possible

/-- Once the copy is in place nothing has the temporary name. -/
theorem installed_fresh (q : List String) (named : temporaryURL.lastPathComponent ∈ q) :
    (installed t source (directory ++ [destinationURL.lastPathComponent])
      (directory ++ [temporaryURL.lastPathComponent])).entries q = none := by
  have clean : temporaryURL.lastPathComponent ∉
      directory ++ [destinationURL.lastPathComponent] := by
    intro member
    rcases List.mem_append.mp member with inside | last
    · have isDirectory := located.isDirectory
      rw [located.fresh.entries _ inside] at isDirectory
      cases isDirectory
    · exact located.differs (List.mem_singleton.mp last)
  dsimp only [installed]
  by_cases below : directory ++ [destinationURL.lastPathComponent] <+: q
  · obtain ⟨rest, rfl⟩ := below
    have inRest := (List.mem_append.mp named).resolve_left clean
    rw [Tree.replace_below, Tree.copy_below]
    exact located.fresh.entries _ (List.mem_append_right _ inRest)
  · by_cases moved : directory ++ [temporaryURL.lastPathComponent] <+: q
    · rw [Tree.replace, if_neg below, if_pos moved]
    · rw [Tree.replace_other below moved, Tree.copy_other moved]
      exact located.fresh.entries q named

end Located

section Main

variable {t : Entries} {sourceURL destinationURL : FileURL}
  {protectedRootURL : Option (List String)} {uuidString : String} {source directory : List String}

/-- How an export that is begun ends. -/
theorem exportFile_located (faults : Faults)
    (located : Located t sourceURL destinationURL (temporaryURL destinationURL uuidString) source
      directory)
    (accepts : Accepts t sourceURL destinationURL protectedRootURL) :
    let temporary := directory ++ [(temporaryURL destinationURL uuidString).lastPathComponent]
    let destination := directory ++ [destinationURL.lastPathComponent]
    let left (u : Entries) : Disk :=
      cleaned faults u temporary (fileExists u (temporaryURL destinationURL uuidString).path)
    exportFile faults sourceURL destinationURL protectedRootURL uuidString ⟨t, []⟩ =
      match faults .copyItem with
      | some fault => (.error (.io fault.message), match fault.part with
        | none => ⟨t, []⟩
        | some part => left (copyPartly t source temporary part))
      | none => match obstacle faults t destination (fileExists t destinationURL.path) with
        | none => (.ok (), installed t source destination temporary)
        | some error => (.error error, left (t.copy source temporary)) := by
  dsimp only
  rw [exportFile_accepted faults uuidString accepts]
  unfold Failing.deferring
  rw [located.copyAndInstall_eq]
  cases faults .copyItem with
  | some fault =>
    simp only
    cases fault.part with
    | none =>
      have unseen : fileExists t (temporaryURL destinationURL uuidString).path = false :=
        not_fileExists located.fresh.entries rfl
      rw [removeTemporary_unseen faults unseen]
    | some part => rw [located.removeTemporary_eq (addedAt_copyPartly t source _ part)]
  | none =>
    simp only
    cases obstacle faults t (directory ++ [destinationURL.lastPathComponent])
        (fileExists t destinationURL.path) with
    | none =>
      simp only
      rw [removeTemporary_unseen faults (not_fileExists located.installed_fresh rfl)]
    | some error => rw [located.removeTemporary_eq (addedAt_copy t source _)]

/-- An export that is begun on admissible paths is safe, whichever steps fail. -/
theorem Located.safe (faults : Faults) (rooted : Rooted t)
    (located : Located t sourceURL destinationURL (temporaryURL destinationURL uuidString) source
      directory)
    (accepts : Accepts t sourceURL destinationURL protectedRootURL)
    (admissible : Admissible t sourceURL destinationURL (temporaryURL destinationURL uuidString)
      protectedRootURL source directory) :
    let run := exportFile faults sourceURL destinationURL protectedRootURL uuidString ⟨t, []⟩
    Safe t sourceURL destinationURL (temporaryURL destinationURL uuidString) protectedRootURL
      faults run.1 run.2 := by
  have whole (target : Target String) (link : t source = some (.file (.link target))) :=
    (admissible.link target link).2.2
  dsimp only
  rw [exportFile_located faults located accepts]
  cases faults .copyItem with
  | some fault =>
    simp only
    cases fault.part with
    | none =>
      refine safe_of_unchanged fun place here => ?_
      rw [located.locate_temporary, Option.some.injEq] at here
      exact here ▸ located.free
    | some part =>
      refine located.safe_cleaned rooted admissible (addedAt_copyPartly t source _ part) ?_
      intro target link
      have isLink : t source = some (.file (.link target)) := by
        simp only [copyPartly, if_pos (List.prefix_refl _), List.drop_length] at link
        exact link_of_partly link
      rw [copyPartly_link rooted isLink]
      exact whole target isLink
  | none =>
    simp only
    cases clear : obstacle faults t (directory ++ [destinationURL.lastPathComponent])
        (fileExists t destinationURL.path) with
    | none =>
      exact located.safe_installed rooted accepts admissible (possible_of_no_obstacle clear)
    | some error =>
      refine located.safe_cleaned rooted admissible (addedAt_copy t source _) ?_
      intro target link
      rw [copied_at] at link
      exact whole target link

/-- What was made under the temporary name shows where the directory is not. -/
theorem Safe.directory_apart {faults : Faults} {result : Except ManagedFileExportError Unit}
    {after : Disk} {temporary : FileURL} {name : String}
    (safe : Safe t sourceURL destinationURL temporary protectedRootURL faults result after)
    (touched : directory ++ [name] ∈ after.touched) :
    (∀ rootURL ∈ protectedRootURL, ∀ root, find t rootURL = some root → ¬ root <+: directory) ∧
      ∀ item, find t sourceURL.path = some item → ¬ item <+: directory := by
  constructor
  · intro rootURL protects root found
    have outside := safe.outside rootURL protects root found _ touched
    rwa [List.dropLast_concat] at outside
  · intro item found below
    exact (safe.source item (.inr found) _ touched).2 (below.trans (List.prefix_append _ _))

theorem mem_touched_cleaned (faults : Faults) (u : Entries) (temporary : List String)
    (seen : Bool) : temporary ∈ (cleaned faults u temporary seen).touched := by
  unfold cleaned
  cases seen with
  | false => simp
  | true => cases faults .removeTemporary <;> simp

/-- A begun export that is safe when no step fails has admissible paths. -/
theorem Located.admissible
    (located : Located t sourceURL destinationURL (temporaryURL destinationURL uuidString) source
      directory) (rooted : Rooted t)
    (accepts : Accepts t sourceURL destinationURL protectedRootURL)
    (safe : Safe t sourceURL destinationURL (temporaryURL destinationURL uuidString)
      protectedRootURL (fun _ => none)
      (exportFile (fun _ => none) sourceURL destinationURL protectedRootURL uuidString ⟨t, []⟩).1
      (exportFile (fun _ => none) sourceURL destinationURL protectedRootURL uuidString
        ⟨t, []⟩).2) :
    Admissible t sourceURL destinationURL (temporaryURL destinationURL uuidString)
      protectedRootURL source directory := by
  have run := exportFile_located (fun _ => none) located accepts
  dsimp only at run
  rw [run] at safe
  clear run
  cases clear : obstacle (fun _ => none) t (directory ++ [destinationURL.lastPathComponent])
      (fileExists t destinationURL.path) with
  | none =>
    rw [clear] at safe
    have member : directory ++ [(temporaryURL destinationURL uuidString).lastPathComponent] ∈
        (installed t source (directory ++ [destinationURL.lastPathComponent])
          (directory ++ [(temporaryURL destinationURL uuidString).lastPathComponent])).touched := by
      simp [installed]
    obtain ⟨outside, apart⟩ := safe.directory_apart member
    refine ⟨outside, apart, fun _ below => ?_, fun target link => ?_⟩
    · exact (safe.source source (.inl located.item) _ (by simp [installed])).1 below
    · -- the link itself would be at the destination
      obtain ⟨place, item, here, found, copied⟩ := safe.copied rfl
      rw [located.locate_destination, Option.some.injEq] at here
      subst here
      have same := copied []
      dsimp only [installed] at same
      rw [Tree.replace_below, Tree.copy_below, List.append_nil, List.append_nil, link] at same
      rcases find_ends rooted found with isDirectory | ⟨bytes, data⟩
      · rw [isDirectory] at same
        cases same
      · rw [data] at same
        cases same
  | some error =>
    rw [clear] at safe
    obtain ⟨outside, apart⟩ := safe.directory_apart (mem_touched_cleaned _ _ _ _)
    have missing : fileExists t destinationURL.path = false := by
      cases found : fileExists t destinationURL.path with
      | false => rfl
      | true => simp [obstacle, found] at clear
    have occupied : (t (directory ++ [destinationURL.lastPathComponent])).isSome := by
      cases present : t (directory ++ [destinationURL.lastPathComponent]) with
      | some node => rfl
      | none => simp [obstacle, missing, present] at clear
    refine ⟨outside, apart, fun found => ?_, fun target link => ⟨missing, occupied, ?_⟩⟩
    · rw [missing] at found
      cases found
    · -- otherwise the copied link would remain
      cases seen : fileExists (t.copy source
          (directory ++ [(temporaryURL destinationURL uuidString).lastPathComponent]))
          (temporaryURL destinationURL uuidString).path with
      | true => rfl
      | false =>
        have gone := safe.temporary rfl _ located.locate_temporary
        rw [seen] at gone
        dsimp only [cleaned] at gone
        rw [copied_at, link] at gone
        cases gone

/-- An export is safe, whichever steps fail, if and only if it is refused, or there is no directory
for it, or its paths are admissible. -/
theorem export_safe_iff (rooted : Rooted t)
    (fresh : Fresh t (temporaryURL destinationURL uuidString).lastPathComponent) :
    (∀ faults, Safe t sourceURL destinationURL (temporaryURL destinationURL uuidString)
      protectedRootURL faults
      (exportFile faults sourceURL destinationURL protectedRootURL uuidString ⟨t, []⟩).1
      (exportFile faults sourceURL destinationURL protectedRootURL uuidString ⟨t, []⟩).2) ↔
    (Accepts t sourceURL destinationURL protectedRootURL →
      ∀ source directory, locate t sourceURL = some source →
        find t destinationURL.deletingLastPathComponent = some directory →
        t directory = some .directory →
        Admissible t sourceURL destinationURL (temporaryURL destinationURL uuidString)
          protectedRootURL source directory) := by
  have begun {source directory : List String}
      (accepts : Accepts t sourceURL destinationURL protectedRootURL)
      (item : locate t sourceURL = some source)
      (parent : find t destinationURL.deletingLastPathComponent = some directory)
      (isDirectory : t directory = some .directory) :
      Located t sourceURL destinationURL (temporaryURL destinationURL uuidString) source
        directory := by
    obtain ⟨place, here, present⟩ := locate_of_fileExists rooted accepts.source
    rw [item, Option.some.injEq] at here
    exact ⟨item, here ▸ present, parent, isDirectory, rfl,
      temporary_name destinationURL uuidString, fresh⟩
  have free (place : List String)
      (here : locate t (temporaryURL destinationURL uuidString) = some place) :
      t place = none := by
    obtain ⟨directory, -, -, rfl⟩ := find_of_locate here
    exact fresh.entries _ (by simp)
  constructor
  · intro safe accepts source directory item parent isDirectory
    exact (begun accepts item parent isDirectory).admissible rooted accepts (safe _)
  · intro admissible faults
    by_cases accepts : Accepts t sourceURL destinationURL protectedRootURL
    · obtain ⟨source, item, -⟩ := locate_of_fileExists rooted accepts.source
      cases there : locate t destinationURL with
      | none =>
        rw [exportFile_unlocated faults uuidString accepts fresh there]
        exact safe_of_unchanged free
      | some place =>
        obtain ⟨directory, parent, isDirectory, -⟩ := find_of_locate there
        exact (begun accepts item parent isDirectory).safe faults rooted accepts
          (admissible accepts source directory item parent isDirectory)
    · obtain ⟨error, refused⟩ := exportFile_refused faults uuidString accepts
      rw [refused]
      exact safe_of_unchanged free

end Main

theorem fresh_ofEntries {entries : List (List String × Entry)} {name : String}
    (paths : ∀ entry ∈ entries, name ∉ entry.1)
    (noLinks : ∀ entry ∈ entries, ∀ component ∈ (match entry.2 with
      | .file (.link target) => target.components
      | _ => []), component ≠ .name name) : Fresh (ofEntries entries) name := by
  constructor
  · intro q member
    cases found : ofEntries entries q with
    | none => rfl
    | some node => exact absurd member (paths _ (mem_of_ofEntries found))
  · intro q target link n member same
    exact noLinks _ (mem_of_ofEntries link) _ member (by rw [same])

/-- Managed storage with a link to a file outside it. -/
def linkedEntries : List (List String × Entry) := [
  ([], .directory),
  (["Managed"], .directory),
  (["Managed", "source.raw"], .file (.data [1])),
  (["Managed", "alias.raw"],
    .file (.link ⟨true, [.name "Exports", .name "old.raw"]⟩)),
  (["Exports"], .directory),
  (["Exports", "old.raw"], .file (.data [2]))]

def managedSource : FileURL := ⟨["Managed"], "source.raw"⟩

theorem linkedEntries_rooted : Rooted (ofEntries linkedEntries) :=
  rooted_ofEntries (by decide) (by decide)

theorem export_replaces_safely :
    Safe (ofEntries linkedEntries) managedSource ⟨["Exports"], "old.raw"⟩
      (temporaryURL ⟨["Exports"], "old.raw"⟩ "1") (some ["Managed"]) (fun _ => none)
      (exportFile (fun _ => none) managedSource ⟨["Exports"], "old.raw"⟩ (some ["Managed"]) "1"
        ⟨ofEntries linkedEntries, []⟩).1
      (exportFile (fun _ => none) managedSource ⟨["Exports"], "old.raw"⟩ (some ["Managed"]) "1"
        ⟨ofEntries linkedEntries, []⟩).2 := by
  have fresh : Fresh (ofEntries linkedEntries)
      (temporaryURL ⟨["Exports"], "old.raw"⟩ "1").lastPathComponent :=
    fresh_ofEntries (by decide) (by decide)
  refine (export_safe_iff linkedEntries_rooted fresh).mpr ?_ fun _ => none
  intro _ source directory item parent _
  have itemPlace : locate (ofEntries linkedEntries) managedSource = some ["Managed", "source.raw"] := by
    decide
  have itself : find (ofEntries linkedEntries) managedSource.path =
      some ["Managed", "source.raw"] := by decide
  have exports : find (ofEntries linkedEntries) ["Exports"] = some ["Exports"] := by decide
  have root : find (ofEntries linkedEntries) ["Managed"] = some ["Managed"] := by decide
  rw [itemPlace, Option.some.injEq] at item
  rw [exports, Option.some.injEq] at parent
  subst item parent
  refine ⟨?_, ?_, fun _ => by decide, ?_⟩
  · intro rootURL protects place found
    cases protects
    rw [root, Option.some.injEq] at found
    subst found
    decide
  · intro place found
    rw [itself, Option.some.injEq] at found
    subst found
    decide
  · intro target link
    have data : ofEntries linkedEntries ["Managed", "source.raw"] = some (.file (.data [1])) := rfl
    rw [data] at link
    cases link

/-- A link in managed storage that leads out of it is replaced. -/
theorem managed_link_replaced : ¬ ∀ faults,
    Safe (ofEntries linkedEntries) managedSource ⟨["Managed"], "alias.raw"⟩
      (temporaryURL ⟨["Managed"], "alias.raw"⟩ "1") (some ["Managed"]) faults
      (exportFile faults managedSource ⟨["Managed"], "alias.raw"⟩ (some ["Managed"]) "1"
        ⟨ofEntries linkedEntries, []⟩).1
      (exportFile faults managedSource ⟨["Managed"], "alias.raw"⟩ (some ["Managed"]) "1"
        ⟨ofEntries linkedEntries, []⟩).2 := by
  intro safe
  have accepts : Accepts (ofEntries linkedEntries) managedSource ⟨["Managed"], "alias.raw"⟩
      (some ["Managed"]) := ⟨by decide, by decide, by decide⟩
  have located : Located (ofEntries linkedEntries) managedSource ⟨["Managed"], "alias.raw"⟩
      (temporaryURL ⟨["Managed"], "alias.raw"⟩ "1") ["Managed", "source.raw"] ["Managed"] :=
    ⟨by decide, by decide, by decide, by decide, rfl, temporary_name _ _,
      fresh_ofEntries (by decide) (by decide)⟩
  have admissible := located.admissible linkedEntries_rooted accepts (safe _)
  exact admissible.outside ["Managed"] rfl ["Managed"] (by decide) (List.prefix_refl _)

end SimpleVM.Storage.ManagedFileExporter
