import SimpleVM.App.MachineCalls

/-!
# The settings of a machine

The edits of `AppModel` write first, save then, and take the change back if the save fails. They
find the machine again in different ways: by its identifier, by the index it had before the
save, or by putting the whole list back.
-/
namespace SimpleVM.App

open Domain Effects

namespace Setting

/-- The setting gets its new value. -/
def apply (spec : MachineSpec) : Setting → MachineSpec
  | .inputProfile profile => { spec with inputProfile := profile, customInputProfileID := none }
  | .customInputProfile id baseProfile =>
    { spec with inputProfile := baseProfile, customInputProfileID := some id }
  | .sharedDirectory path => { spec with sharedDirectoryPath := path }
  | .windowsSupportToolsAttached attached => { spec with windowsSupportToolsAttached := attached }
  | .displayMode mode => { spec with displayMode := mode }

/-- The setting gets the value that it has in `previous`. -/
def restore (previous spec : MachineSpec) : Setting → MachineSpec
  | .inputProfile _ | .customInputProfile _ _ =>
    { spec with
      inputProfile := previous.inputProfile
      customInputProfileID := previous.customInputProfileID }
  | .sharedDirectory _ => { spec with sharedDirectoryPath := previous.sharedDirectoryPath }
  | .windowsSupportToolsAttached _ =>
    { spec with windowsSupportToolsAttached := previous.windowsSupportToolsAttached }
  | .displayMode _ => { spec with displayMode := previous.displayMode }

/-- The rollback looks the machine up again. The others write at the index they have kept. -/
def looksUp : Setting → Bool
  | .inputProfile _ | .sharedDirectory _ => true
  | .customInputProfile _ _ | .windowsSupportToolsAttached _ | .displayMode _ => false

end Setting

namespace Session

/-- `machines.firstIndex(where: { $0.id == id })`. -/
def firstIndex (s : Session) (id : UUID) : Option Nat :=
  s.app.machines.findIdx? fun m => m.id = id

/-- The catch block of an edit. -/
def settingFailed (s : Session) (setting : Setting) (machine : Machine) (index : Nat)
    (previous : MachineSpec) (failure : Failure) : Session :=
  (if setting.looksUp then
    s.updateMachine machine.id fun m => { m with spec := setting.restore previous m.spec }
  else s.setSpec index fun spec => setting.restore previous spec).present
    failure.localizedDescription

def persistSetting (s : Session) (setting : Setting) (machine : Machine) (index : Nat)
    (previous : MachineSpec) : Session :=
  s.persist (.settingSaved setting machine index previous) fun s =>
    s.settingFailed setting machine index previous (.error (.app .notInitialized))

/-- The index of the machine and its spec are kept, then the setting is written. -/
def edit (s : Session) (setting : Setting) (machine : Machine)
    (go : Session → Nat → MachineSpec → Session) : Session :=
  match s.firstIndex machine.id with
  | none => s.refuse .machineUnavailable
  | some index =>
    match s.app.machines[index]? with
    | none => { s with trapped := true }
    | some m => go (s.setSpec index fun spec => setting.apply spec) index m.spec

def setInputProfile (s : Session) (profile : MachineInputProfile) (machine : Machine) : Session :=
  s.edit (.inputProfile profile) machine fun s index previous =>
    s.persistSetting (.inputProfile profile) machine index previous

def setCustomInputProfile (s : Session) (id : UUID) (baseProfile : MachineInputProfile)
    (machine : Machine) : Session :=
  s.edit (.customInputProfile id baseProfile) machine fun s index previous =>
    s.persistSetting (.customInputProfile id baseProfile) machine index previous

/-- A machine with the profile goes back to the automatic one. -/
def withoutProfile (id : UUID) (m : Machine) : Machine :=
  if m.spec.customInputProfileID = some id then
    { m with spec := { m.spec with customInputProfileID := none, inputProfile := .automatic } }
  else m

def removeCustomInputProfile (s : Session) (id : UUID) : Session :=
  (s.withMachines (s.app.machines.map (withoutProfile id))).persist
    (.profileRemoved id s.app.machines) fun t =>
      (t.withMachines s.app.machines).refuse .notInitialized

def profileRemoved (s : Session) (previous : List Machine) : Response → Session
  | .ok _ => s
  | .error failure => (s.withMachines previous).present failure.localizedDescription

/-- `isDirectory` says what `fileExists(atPath:isDirectory:)` finds at the path. -/
def setSharedDirectory (s : Session) (path : Option String) (isDirectory : Bool)
    (machine : Machine) : Session :=
  match s.firstIndex machine.id with
  | none => s.refuse .machineUnavailable
  | some _ =>
    if path.isSome ∧ isDirectory = false then s.refuse .sharedDirectoryUnavailable
    else s.edit (.sharedDirectory path) machine fun s index previous =>
      s.persistSetting (.sharedDirectory path) machine index previous

def setWindowsSupportToolsAttached (s : Session) (attached : Bool) (machine : Machine) :
    Session :=
  if machine.spec.operatingSystem = .windows then
    s.whenIdle machine fun s =>
      s.edit (.windowsSupportToolsAttached attached) machine fun s index previous =>
        if attached then
          s.suspend .outside
            (.settingPrepared (.windowsSupportToolsAttached attached) machine index previous)
        else s.persistSetting (.windowsSupportToolsAttached attached) machine index previous
  else s

def setDisplayMode (s : Session) (mode : MachineDisplayMode) (machine : Machine) : Session :=
  s.whenIdle machine fun s =>
    s.edit (.displayMode mode) machine fun s index previous =>
      s.persistSetting (.displayMode mode) machine index previous

/-- The support tools are there. -/
def settingPrepared (s : Session) (setting : Setting) (machine : Machine) (index : Nat)
    (previous : MachineSpec) : Response → Session
  | .ok _ => s.persistSetting setting machine index previous
  | .error failure => s.settingFailed setting machine index previous failure

/-- After the save a shared directory is passed on to a QEMU runtime, if the machine at the
index runs Windows. -/
def settingApplied (s : Session) (setting : Setting) (machine : Machine) (index : Nat) : Session :=
  match setting with
  | .sharedDirectory path =>
    match s.app.machines[index]? with
    | none => { s with trapped := true }
    | some m =>
      if m.spec.operatingSystem = .windows ∧ machine.backend = .qemu ∧
          (s.app.runtimes machine.id).isSome then
        { s with runtimeSharedDirectories := (machine.id, path) :: s.runtimeSharedDirectories }
      else s
  | _ => s

def settingSaved (s : Session) (setting : Setting) (machine : Machine) (index : Nat)
    (previous : MachineSpec) : Response → Session
  | .ok _ => s.settingApplied setting machine index
  | .error failure => s.settingFailed setting machine index previous failure

end Session

end SimpleVM.App
