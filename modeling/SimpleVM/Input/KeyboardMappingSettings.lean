import SimpleVM.Domain.Machine
import SimpleVM.Input.CustomKeyboardProfiles
import SimpleVM.Swift.Dictionaries

/-!
# Keyboard mapping settings

`KeyboardMappingSettings`: the mappings of the presets, with the custom ones over them, and the
index of the Hyprland workspace, which lives in the user defaults.
-/
namespace SimpleVM.Input

open Domain Swift

inductive KeyboardPreset
  | gnome | hyprland | windows | passthrough
deriving DecidableEq, Repr

inductive WorkspaceSwipeDirection
  | previous | next
deriving DecidableEq, Repr

/-- `resolved(forMachineNamed:)`, for a name that in lower case holds "omarchy" or "hyprland", or
not. -/
def resolvedForMachineNamed (hyprlandName : Bool) : MachineInputProfile → MachineInputProfile
  | .automatic => if hyprlandName then .macOSHyprland else .macOSGNOME
  | profile => profile

namespace KeyboardMappingSettings

def letterKeyCodes : List UInt16 :=
  [0, 1, 2, 3, 4, 5, 6, 7, 8, 9, 11, 12, 13, 14, 15, 16, 17, 31, 32, 34, 35, 37, 38, 40, 45, 46]

def digitKeyCodes : List UInt16 := [18, 19, 20, 21, 22, 23, 25, 26, 28, 29]

def flags (list : List ModifierFlags) : ModifierFlags := list.foldl .union .empty

/-- One `add` of `mappingEntries`. -/
def add (keyCode : UInt16) (host guest : List ModifierFlags) (guestKeyCode : UInt16) :
    HostChord × GuestChord :=
  (⟨keyCode, flags host⟩, ⟨guestKeyCode, flags guest⟩)

/-- An `add` that keeps the key. -/
def addSame (keyCode : UInt16) (host guest : List ModifierFlags) : HostChord × GuestChord :=
  add keyCode host guest keyCode

/-- What is added before the preset is looked at. -/
def sharedAdds : List (HostChord × GuestChord) :=
  letterKeyCodes.flatMap (fun keyCode =>
      [addSame keyCode [.command] [.control],
        addSame keyCode [.command, .shift] [.control, .shift]]) ++
    digitKeyCodes.map (fun keyCode => addSame keyCode [.command] [.control]) ++
    [addSame 24 [.command] [.control], addSame 27 [.command] [.control],
      add 123 [.command] [] 115, add 124 [.command] [] 119,
      add 126 [.command] [.control] 115, add 125 [.command] [.control] 119,
      add 123 [.command, .shift] [.shift] 115, add 124 [.command, .shift] [.shift] 119,
      add 126 [.command, .shift] [.control, .shift] 115,
      add 125 [.command, .shift] [.control, .shift] 119,
      add 123 [.option] [.control] 123, add 124 [.option] [.control] 124,
      add 123 [.option, .shift] [.control, .shift] 123,
      add 124 [.option, .shift] [.control, .shift] 124,
      addSame 51 [.option] [.control], addSame 117 [.option] [.control]]

def gnomeAdds : List (HostChord × GuestChord) :=
  [add 12 [.command] [.option, .function] 118, addSame 48 [.command] [.option],
    addSame 48 [.command, .shift] [.option, .shift], add 3 [.command, .control] [] 103]

def hyprlandAdds : List (HostChord × GuestChord) :=
  letterKeyCodes.map (fun keyCode => addSame keyCode [.command, .shift] [.command, .shift]) ++
    [addSame 13 [.command] [.command], add 12 [.command] [.command] 13,
      addSame 36 [.command] [.command], addSame 36 [.command, .shift] [.command, .shift],
      addSame 36 [.command, .option] [.command, .option],
      addSame 36 [.command, .control] [.command, .control],
      addSame 49 [.command] [.command], addSame 38 [.command] [.command],
      addSame 48 [.command] [.option], addSame 48 [.command, .shift] [.option, .shift],
      addSame 3 [.command, .control] [.command],
      addSame 3 [.command, .shift, .option] [.command, .shift, .option],
      addSame 11 [.command, .shift, .option] [.command, .shift, .option]] ++
    [46, 0, 14, 5, 7].map (fun keyCode =>
      addSame keyCode [.command, .shift, .option] [.command, .shift, .option]) ++
    [addSame 5 [.command, .shift, .control] [.command, .shift, .control],
      addSame 44 [.command, .shift] [.command, .shift]] ++
    [123, 124, 125, 126].flatMap (fun keyCode =>
      [addSame keyCode [.command] [.command],
        addSame keyCode [.command, .shift] [.command, .shift],
        addSame keyCode [.command, .shift, .option] [.command, .shift, .option]]) ++
    [123, 124].flatMap (fun keyCode =>
      [addSame keyCode [.command, .control] [.command, .control],
        addSame keyCode [.command, .option] [.command, .option]]) ++
    digitKeyCodes.flatMap (fun keyCode =>
      [addSame keyCode [.command] [.command],
        addSame keyCode [.command, .shift] [.command, .shift],
        addSame keyCode [.command, .shift, .option] [.command, .shift, .option]])

/-- All that a preset adds, in order. -/
def adds : KeyboardPreset → List (HostChord × GuestChord)
  | .gnome | .windows => sharedAdds ++ gnomeAdds
  | .hyprland => sharedAdds ++ hyprlandAdds
  | .passthrough => []

/-- The dictionary after the additions, of which later ones replace earlier ones. -/
def added (preset : KeyboardPreset) : List (HostChord × GuestChord) :=
  (adds preset).foldl assign []

def mappingEntries (it : Iteration) (preset : KeyboardPreset) : List KeyboardMappingEntry :=
  sortedEntries it (added preset)

def hyprlandWorkspaceKeyCodes : List UInt16 := [18, 19, 20, 21, 23, 22, 26, 28, 25, 29]

def hyprlandWorkspaceCount : Nat := hyprlandWorkspaceKeyCodes.length

/-- `preset(for:machineName:)`. -/
def preset (hyprlandName : Bool) (profile : MachineInputProfile) : KeyboardPreset :=
  match resolvedForMachineNamed hyprlandName profile with
  | .automatic | .macOSGNOME => .gnome
  | .macOSHyprland => .hyprland
  | .macOSWindows => .windows
  | .linuxPassthrough => .passthrough

end KeyboardMappingSettings

/-- The settings, with the defaults they keep. -/
structure KeyboardMappingSettings where
  activePreset : KeyboardPreset := .gnome
  customMappings : List (HostChord × GuestChord) := []
  hyprlandWorkspaceIndex : Int := 0
deriving DecidableEq, Repr

namespace KeyboardMappingSettings

def mappings (it : Iteration) (s : KeyboardMappingSettings) : List (HostChord × GuestChord) :=
  s.customMappings.foldl assign
    ((mappingEntries it s.activePreset).map fun entry => (entry.host, entry.guest))

def activeMappingEntries (it : Iteration) (s : KeyboardMappingSettings) :
    List KeyboardMappingEntry :=
  sortedEntries it (mappings it s)

def setWorkspace (s : KeyboardMappingSettings) (index : Int) : KeyboardMappingSettings :=
  { s with hyprlandWorkspaceIndex := index }

/-- The test of `synchronizeHyprlandWorkspace` and `observeHostChord`, and what they set. -/
def synchronized (s : KeyboardMappingSettings) (keyCode : UInt16) (modifiers : ModifierFlags) :
    KeyboardMappingSettings :=
  if s.activePreset = .hyprland ∧ modifiers = .command then
    match hyprlandWorkspaceKeyCodes.idxOf? keyCode with
    | some index => s.setWorkspace (index + 1)
    | none => s
  else s

def synchronizeHyprlandWorkspace (s : KeyboardMappingSettings) (chord : GuestChord) :
    KeyboardMappingSettings :=
  s.synchronized chord.keyCode chord.modifiers

def observeHostChord (s : KeyboardMappingSettings) (keyCode : UInt16)
    (modifiers : ModifierFlags) : KeyboardMappingSettings :=
  s.synchronized keyCode modifiers.normalized

def chord (it : Iteration) (s : KeyboardMappingSettings) (keyCode : UInt16)
    (modifiers : ModifierFlags) : GuestChord × KeyboardMappingSettings :=
  let host : HostChord := ⟨keyCode, modifiers.normalized⟩
  match s.customMappings.lookup host with
  | some custom => (custom, s)
  | none =>
    if s.activePreset = .passthrough then (⟨keyCode, modifiers.normalized⟩, s)
    else
      let resolved := ((mappings it s).lookup host).getD ⟨keyCode, modifiers.normalized⟩
      (resolved, s.synchronizeHyprlandWorkspace resolved)

/-- `workspaceChord(direction:)`. -/
def swipeChord (s : KeyboardMappingSettings) (direction : WorkspaceSwipeDirection) : GuestChord :=
  match s.activePreset with
  | .hyprland => ⟨48, if direction = .next then .command else flags [.command, .shift]⟩
  | .gnome | .passthrough => ⟨if direction = .next then 121 else 116, .command⟩
  | .windows => ⟨if direction = .next then 124 else 123, flags [.control, .command]⟩

/-- The index that a swipe leads to. -/
def nextIndex (direction : WorkspaceSwipeDirection) (count index : Int) : Int :=
  match direction with
  | .next => if index = count then 1 else index + 1
  | .previous => if index = 1 then count else index - 1

/-- `workspaceChord(direction:workspaceCount:)`. -/
def workspaceChord (s : KeyboardMappingSettings) (direction : WorkspaceSwipeDirection)
    (workspaceCount : Int) : GuestChord × KeyboardMappingSettings :=
  if s.activePreset = .hyprland then
    let count := min (max workspaceCount 2) hyprlandWorkspaceCount
    let index := nextIndex direction count (min (max s.hyprlandWorkspaceIndex 1) count)
    let keyCode := hyprlandWorkspaceKeyCodes.getD
      ((min index hyprlandWorkspaceKeyCodes.length - 1).toNat) 0
    (⟨keyCode, .command⟩, s.setWorkspace index)
  else (s.swipeChord direction, s)

/-- `activate`, with the entries of the custom rules, or none if these are refused. -/
def activate (s : KeyboardMappingSettings) (hyprlandName : Bool) (profile : MachineInputProfile)
    (entries : List KeyboardMappingEntry) : KeyboardMappingSettings :=
  let activated := { s with
    activePreset := preset hyprlandName profile
    customMappings := entries.map fun entry => (entry.host, entry.guest) }
  if activated.activePreset = .hyprland then activated.setWorkspace 1 else activated

def deactivate (s : KeyboardMappingSettings) : KeyboardMappingSettings :=
  { s with activePreset := .gnome, customMappings := [] }

end KeyboardMappingSettings

end SimpleVM.Input
