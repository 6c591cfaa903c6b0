import SimpleVM.Effects.Failing
import SimpleVM.Files.SymbolicLinks

/-!
# The exporter of managed files

`ManagedFileExporter`: a file is copied next to its destination under a temporary name and then put
in place. The file system is a tree with symbolic links; what is created, replaced or removed on the
way is written down.
-/
namespace SimpleVM.Storage.ManagedFileExporter

open Effects Files

abbrev Contents := List UInt8

abbrev Entry := Node (Leaf String Contents)

abbrev Entries := LinkedTree String Contents

/-- `ManagedFileExportError`, and the errors of the file manager. -/
inductive ManagedFileExportError
  | sourceUnavailable
  | destinationMatchesSource
  | destinationInsideManagedStorage
  | io (message : String)
deriving DecidableEq, Repr

def ManagedFileExportError.errorDescription : ManagedFileExportError → String
  | .sourceUnavailable => "The managed source file is unavailable."
  | .destinationMatchesSource => "Choose a destination different from the managed source file."
  | .destinationInsideManagedStorage => "Choose a destination outside SimpleVM's managed storage."
  | .io message => message

structure FileURL where
  deletingLastPathComponent : List String
  lastPathComponent : String
deriving DecidableEq, Repr

def FileURL.path (url : FileURL) : List String :=
  url.deletingLastPathComponent ++ [url.lastPathComponent]

/-- `MAXSYMLINKS`. -/
def maxLinks : Nat := 32

/-- Where the system finds what a path names, links followed. -/
def find (t : Entries) (path : List String) : Option (List String) :=
  follow t maxLinks [] (plain path)

/-- `fileExists(atPath:)` follows links, the last one too. -/
def fileExists (t : Entries) (path : List String) : Bool := (find t path).isSome

def resolvingSymlinksInPath (t : Entries) (path : List String) : List String :=
  resolveLinks t maxLinks [] (plain path)

def canonicalURL (t : Entries) (url : List String) : List String :=
  if fileExists t url then resolvingSymlinksInPath t url
  else resolvingSymlinksInPath t url.dropLast ++ url.getLast?.toList

def contains (t : Entries) (candidateURL rootURL : List String) : Bool :=
  (canonicalURL t rootURL).isPrefixOf (canonicalURL t candidateURL)

/-- The entry an operation on a URL acts on: a link at the end is not followed. -/
def locate (t : Entries) (url : FileURL) : Option (List String) :=
  match find t url.deletingLastPathComponent with
  | none => none
  | some directory =>
    if t directory = some .directory then some (directory ++ [url.lastPathComponent]) else none

structure Disk where
  entries : Entries
  /-- The entries that were created, replaced or removed, the last one first. -/
  touched : List (List String) := []

inductive Step
  | copyItem | replaceItem | moveItem | removeTemporary
deriving DecidableEq, Repr

/-- What a copy has written when it stops: part of a file, or part of what is in a directory. -/
structure Part where
  data : Contents
  below : List String → Option Entry

structure Fault where
  message : String
  part : Option Part := none
  survivors : List (List String) := []

abbrev Faults := Step → Option Fault

abbrev Export := Failing Disk ManagedFileExportError

/-- What is below the copy of an entry that was not finished. -/
def partly (part : Part) : Option Entry → List String → Option Entry
  | some (.file (.data _)), [] => some (.file (.data part.data))
  | some node, [] => some node
  | some .directory, rest => part.below rest
  | _, _ => none

def copyPartly (t : Entries) (source destination : List String) (part : Part) : Entries := fun q =>
  if destination <+: q then partly part (t source) (q.drop destination.length) else t q

def noSuchFile : ManagedFileExportError := .io "The file doesn’t exist."

def fileExistsError : ManagedFileExportError :=
  .io "An item with the same name already exists."

/-- `copyItem(at:to:)` copies a link as a link. -/
def copyItem (faults : Faults) (sourceURL destinationURL : FileURL) : Export Unit := do
  let disk ← Failing.getState
  match locate disk.entries sourceURL, locate disk.entries destinationURL with
  | some source, some destination =>
    if (disk.entries source).isNone then throw noSuchFile
    if (disk.entries destination).isSome then throw fileExistsError
    match faults .copyItem with
    | none =>
      Failing.change fun disk =>
        ⟨disk.entries.copy source destination, destination :: disk.touched⟩
    | some fault =>
      match fault.part with
      | none => throw (.io fault.message)
      | some part =>
        Failing.change fun disk =>
          ⟨copyPartly disk.entries source destination part, destination :: disk.touched⟩
        throw (.io fault.message)
  | _, _ => throw noSuchFile

/-- One entry takes the place of the other. -/
def install (item destination : List String) : Export Unit :=
  Failing.change fun disk =>
    ⟨disk.entries.replace destination item, destination :: item :: disk.touched⟩

/-- `replaceItemAt(_:withItemAt:)` loses nothing when it fails. -/
def replaceItemAt (faults : Faults) (originalURL newURL : FileURL) : Export Unit := do
  let disk ← Failing.getState
  match locate disk.entries newURL, locate disk.entries originalURL with
  | some item, some original =>
    if (disk.entries item).isNone ∨ (disk.entries original).isNone then throw noSuchFile
    match faults .replaceItem with
    | none => install item original
    | some fault => throw (.io fault.message)
  | _, _ => throw noSuchFile

/-- `moveItem(at:to:)` does not replace anything, not even a link that leads nowhere. -/
def moveItem (faults : Faults) (sourceURL destinationURL : FileURL) : Export Unit := do
  let disk ← Failing.getState
  match locate disk.entries sourceURL, locate disk.entries destinationURL with
  | some item, some destination =>
    if (disk.entries item).isNone then throw noSuchFile
    if (disk.entries destination).isSome then throw fileExistsError
    match faults .moveItem with
    | none => install item destination
    | some fault => throw (.io fault.message)
  | _, _ => throw noSuchFile

def removeItem (faults : Faults) (url : FileURL) : Export Unit := do
  let disk ← Failing.getState
  match locate disk.entries url with
  | none => throw noSuchFile
  | some item =>
    if (disk.entries item).isNone then throw noSuchFile
    match faults .removeTemporary with
    | none => Failing.change fun disk => ⟨disk.entries.remove item, item :: disk.touched⟩
    | some fault =>
      Failing.change fun disk =>
        ⟨disk.entries.removePartly item fault.survivors, item :: disk.touched⟩
      throw (.io fault.message)

def temporaryURL (destinationURL : FileURL) (uuidString : String) : FileURL where
  deletingLastPathComponent := destinationURL.deletingLastPathComponent
  lastPathComponent := "." ++ destinationURL.lastPathComponent ++ ".simplevm-" ++ uuidString

/-- The deferred removal of the temporary file. -/
def removeTemporary (faults : Faults) (temporaryURL : FileURL) : Export Unit := do
  let disk ← Failing.getState
  if fileExists disk.entries temporaryURL.path then
    Failing.ignoring (removeItem faults temporaryURL)

/-- The copy next to the destination, and its installation. -/
def copyAndInstall (faults : Faults) (sourceURL destinationURL temporaryURL : FileURL) :
    Export Unit := do
  copyItem faults sourceURL temporaryURL
  let disk ← Failing.getState
  if fileExists disk.entries destinationURL.path then
    replaceItemAt faults destinationURL temporaryURL
  else
    moveItem faults temporaryURL destinationURL

/-- `ManagedFileExporter.export`. -/
def exportFile (faults : Faults) (sourceURL destinationURL : FileURL)
    (protectedRootURL : Option (List String)) (uuidString : String) : Export Unit := do
  let disk ← Failing.getState
  if ¬ fileExists disk.entries sourceURL.path then
    throw .sourceUnavailable
  if protectedRootURL.any (contains disk.entries destinationURL.path) then
    throw .destinationInsideManagedStorage
  if resolvingSymlinksInPath disk.entries sourceURL.path =
      resolvingSymlinksInPath disk.entries destinationURL.path then
    throw .destinationMatchesSource
  let temporary := temporaryURL destinationURL uuidString
  Failing.deferring (removeTemporary faults temporary)
    (copyAndInstall faults sourceURL destinationURL temporary)

end SimpleVM.Storage.ManagedFileExporter
