import SimpleVM.Input.KeyboardMappingSettings

/-!
# The immersion of a machine

While a machine is immersed its keys are captured by an event tap, the toolbar of its window is
hidden and, for an Apple machine, the Karabiner mappings are switched on; a view activates the
mappings of its machine before it calls `enter`. Notifications become tasks on the main actor, which
run later and in any order with the calls of the views: a task may meet another session than the one
it was posted in. Left out are the full screen of the window and the keys that the capture's own
router releases.
-/
namespace SimpleVM.App

open Domain Input

/-- The event tap of a session, once it is made, and whether it is enabled. -/
structure ImmersiveInputCapture where
  session : Nat
  tap : Option Bool := none
deriving DecidableEq, Repr

structure ImmersionController where
  activeMachineID : Option UUID := none
  showsExitHint : Bool := false
  requiresAccessibilityPermission : Bool := false
  karabinerErrorMessage : Option String := none
  window : Option Nat := none
  /-- The machine whose keys it releases. -/
  releaseKeysHandler : Option UUID := none
  inputCapture : Option ImmersiveInputCapture := none
  /-- The four observers of a session, which are made and removed together. -/
  observers : Option Nat := none
  fallbackEventMonitor : Option Nat := none
deriving DecidableEq, Repr

/-- What the observers of a session captured. -/
structure Observation where
  session : Nat
  usesKarabinerInput : Bool
deriving DecidableEq, Repr

inductive ImmersionTask
  /-- Posted by either shortcut and by the end of full screen, whose own check is that of `exit`. -/
  | exit
  | resignedActive
  | becameActive (usesKarabinerInput : Bool)
deriving DecidableEq, Repr

/-- What the calls of `KarabinerInputBridge` come to. -/
structure KarabinerCalls where
  /-- Whether `setImmersionActive(true)` succeeds, first and after `prepare`. -/
  activates : Bool
  activatesPrepared : Bool
  /-- What `prepare` throws. -/
  prepared : Option String
deriving DecidableEq, Repr

/-- The mappings of a machine, with the entries of its custom rules, none if these are refused. -/
structure SelectedProfile where
  hyprlandName : Bool
  profile : MachineInputProfile
  entries : List KeyboardMappingEntry
deriving DecidableEq, Repr

/-- The controller and what it holds of the desktop. -/
structure Immersion where
  controller : ImmersionController := {}
  settings : KeyboardMappingSettings := {}
  /-- The sessions so far. -/
  sessions : Nat := 0
  taps : List Nat := []
  monitors : List Nat := []
  observing : List Observation := []
  hiddenToolbars : List Nat := []
  /-- The variable of Karabiner, and whether the last call to switch it off succeeded. -/
  isKarabinerActive : Bool := false
  isSwitchedOff : Bool := false
  tasks : List ImmersionTask := []
  /-- Sessions that are over, and machines whose keys were released. -/
  ended : List UUID := []
  released : List UUID := []
deriving DecidableEq, Repr

inductive ImmersionEvent
  | enter (selected : SelectedProfile) (machineID : UUID) (keyWindow : Option Nat)
    (usesKarabinerInput : Bool) (calls : KarabinerCalls) (access : Bool)
  | exit (isOff : Bool)
  | exitShortcut (session : Nat)
  | fallbackShortcut (session : Nat)
  | didExitFullScreen
  | didResignActive
  | didBecomeActive
  /-- Four seconds after the beginning of some session. -/
  | hintTimeout
  /-- A task on the main actor. -/
  | run (index : Nat) (calls : KarabinerCalls) (access isOff : Bool)
deriving DecidableEq, Repr

namespace Immersion

def activationFailure : String :=
  "Karabiner command failed: Unable to activate SimpleVM mappings."

def setMessage (s : Immersion) (message : Option String) : Immersion :=
  { s with controller := { s.controller with karabinerErrorMessage := message } }

/-- `prepare` and the call after it. -/
def prepareKarabiner (s : Immersion) (calls : KarabinerCalls) : Immersion :=
  if calls.prepared.isSome then s.setMessage calls.prepared
  else if calls.activatesPrepared then { s with isKarabinerActive := true }.setMessage none
  else s.setMessage (some activationFailure)

/-- `start` of a capture, which becomes the controller's; `access` is whether accessibility is
granted and a tap can be made. -/
def startCapture (s : Immersion) (capture : ImmersiveInputCapture) (access : Bool) : Immersion :=
  if capture.tap.isNone && access then
    { s with
      controller := { s.controller with inputCapture := some { capture with tap := some true } }
      taps := capture.session :: s.taps }
  else { s with controller := { s.controller with inputCapture := some capture } }

/-- `stop` of the capture, which the controller then drops. -/
def stopCapture (s : Immersion) : Immersion :=
  { s with
    controller := { s.controller with inputCapture := none }
    taps := s.controller.inputCapture.elim s.taps fun capture =>
      if capture.tap.isSome then s.taps.erase capture.session else s.taps }

/-- `setEnabled` of the capture. -/
def setCaptureEnabled (s : Immersion) (isEnabled : Bool) : Immersion :=
  { s with
    controller := { s.controller with
      inputCapture := s.controller.inputCapture.map fun capture =>
        { capture with tap := capture.tap.map fun _ => isEnabled } } }

def removeFallbackEventMonitor (s : Immersion) : Immersion :=
  { s with
    controller := { s.controller with fallbackEventMonitor := none }
    monitors := s.controller.fallbackEventMonitor.elim s.monitors s.monitors.erase }

def removeObservers (s : Immersion) : Immersion :=
  { s with
    controller := { s.controller with observers := none }
    observing := s.controller.observers.elim s.observing fun session =>
      s.observing.filter fun observation => observation.session ≠ session }

def releaseKeys (s : Immersion) : Immersion :=
  { s with released := s.released ++ s.controller.releaseKeysHandler.toList }

/-- The machine is immersed in its window. -/
def present (s : Immersion) (machineID : UUID) (window : Nat) : Immersion :=
  { s with
    controller := { s.controller with
      activeMachineID := some machineID
      releaseKeysHandler := some machineID
      window := some window
      showsExitHint := true }
    sessions := s.sessions + 1
    hiddenToolbars := window :: s.hiddenToolbars }

/-- `enter`, from where it has found that no machine is immersed and which window has the keys. -/
def begin (s : Immersion) (machineID : UUID) (window : Nat) (usesKarabinerInput : Bool)
    (calls : KarabinerCalls) (access : Bool) : Immersion :=
  let session := s.sessions
  let shown := s.present machineID window
  let mapped := if usesKarabinerInput then shown.prepareKarabiner calls else shown
  let started := mapped.startCapture ⟨session, none⟩ access
  -- Without the tap the shortcut that leaves is looked for in the app's own events.
  let watched := { started with
    controller := { started.controller with
      requiresAccessibilityPermission := !access
      fallbackEventMonitor :=
        if access then started.controller.fallbackEventMonitor else some session }
    monitors := if access then started.monitors else session :: started.monitors }
  { watched with
    controller := { watched.controller with observers := some session }
    observing := ⟨session, usesKarabinerInput⟩ :: watched.observing }

def enter (s : Immersion) (machineID : UUID) (keyWindow : Option Nat) (usesKarabinerInput : Bool)
    (calls : KarabinerCalls) (access : Bool) : Immersion :=
  if s.controller.activeMachineID.isSome then s
  else keyWindow.elim s fun window => s.begin machineID window usesKarabinerInput calls access

/-- `enterImmersion` of a view. The mappings stay activated where `enter` then does nothing. -/
def enterImmersion (s : Immersion) (selected : SelectedProfile) (machineID : UUID)
    (keyWindow : Option Nat) (usesKarabinerInput : Bool) (calls : KarabinerCalls) (access : Bool) :
    Immersion :=
  { s with
    settings := s.settings.activate selected.hyprlandName selected.profile selected.entries }.enter
    machineID keyWindow usesKarabinerInput calls access

/-- `exit` of the machine that is immersed; `isOff` is whether Karabiner is switched off. -/
def leave (s : Immersion) (machineID : UUID) (isOff : Bool) : Immersion :=
  let stopped := s.stopCapture
  let switched := { stopped with
    isKarabinerActive := stopped.isKarabinerActive && !isOff
    isSwitchedOff := isOff }
  let left := switched.removeFallbackEventMonitor.releaseKeys.removeObservers
  { left with
    controller := { left.controller with
      releaseKeysHandler := none
      window := none
      activeMachineID := none
      showsExitHint := false
      requiresAccessibilityPermission := false
      karabinerErrorMessage := none }
    settings := left.settings.deactivate
    hiddenToolbars := left.controller.window.elim left.hiddenToolbars left.hiddenToolbars.erase
    ended := left.ended ++ [machineID] }

def exit (s : Immersion) (isOff : Bool) : Immersion :=
  s.controller.activeMachineID.elim s fun machineID => s.leave machineID isOff

def resignedActive (s : Immersion) : Immersion := (s.setCaptureEnabled false).releaseKeys

/-- The capture is started at last, or enabled again. -/
def resumeCapture (s : Immersion) (capture : ImmersiveInputCapture) (access : Bool) : Immersion :=
  if s.controller.requiresAccessibilityPermission then
    let started := s.startCapture capture access
    if capture.tap.isSome || access then
      { started with
        controller := { started.controller with
          requiresAccessibilityPermission := false } }.removeFallbackEventMonitor
    else started
  else s.setCaptureEnabled true

def becameActive (s : Immersion) (usesKarabinerInput : Bool) (calls : KarabinerCalls)
    (access : Bool) : Immersion :=
  s.controller.inputCapture.elim s fun capture =>
    let resumed := s.resumeCapture capture access
    if usesKarabinerInput then
      if calls.activates then { resumed with isKarabinerActive := true }.setMessage none
      else resumed.prepareKarabiner calls
    else resumed

def perform (s : Immersion) (calls : KarabinerCalls) (access isOff : Bool) :
    ImmersionTask → Immersion
  | .exit => s.exit isOff
  | .resignedActive => s.resignedActive
  | .becameActive usesKarabinerInput => s.becameActive usesKarabinerInput calls access

/-- Every observer of a notification puts a task on the main actor. -/
def notify (s : Immersion) (task : Observation → ImmersionTask) : Immersion :=
  { s with tasks := s.tasks ++ s.observing.map task }

def step (s : Immersion) : ImmersionEvent → Option Immersion
  | .enter selected machineID keyWindow usesKarabinerInput calls access =>
    some (s.enterImmersion selected machineID keyWindow usesKarabinerInput calls access)
  | .exit isOff => some (s.exit isOff)
  | .exitShortcut session =>
    -- A tap that is disabled is shown no events.
    if session ∈ s.taps ∧ s.controller.inputCapture ≠ some ⟨session, some false⟩ then
      some { s with
        tasks := s.tasks ++ (s.observing.filter fun observation =>
          observation.session = session).map fun _ => .exit }
    else none
  | .fallbackShortcut session =>
    if session ∈ s.monitors then some { s with tasks := s.tasks ++ [.exit] } else none
  | .didExitFullScreen => some (s.notify fun _ => .exit)
  | .didResignActive => some (s.notify fun _ => .resignedActive)
  | .didBecomeActive => some (s.notify fun observation => .becameActive observation.usesKarabinerInput)
  | .hintTimeout =>
    if 0 < s.sessions then
      some { s with controller := { s.controller with showsExitHint := false } }
    else none
  | .run index calls access isOff => s.tasks[index]?.map fun task =>
    { s with tasks := s.tasks.eraseIdx index }.perform calls access isOff task

/-- The app starts; Karabiner may still be switched on from before, and is switched off. -/
def initial (isLeftOn isOff : Bool) : Immersion where
  isKarabinerActive := isLeftOn && !isOff
  isSwitchedOff := isOff

end Immersion

end SimpleVM.App
