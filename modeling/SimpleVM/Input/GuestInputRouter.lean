import SimpleVM.Input.QEMUKeyMapper

/-!
# The guest input router

`GuestInputRouter`: each operation gives the router afterwards and the events it emits, oldest
first. A dictionary is a list of pairs; the order in which it is iterated is not known and comes
with the operation.
-/
namespace SimpleVM.Input

/-- The modifiers in the order in which they are synchronized, with their key codes. -/
def modifierKeys : List (ModifierFlags × UInt16) :=
  [(.control, 59), (.option, 58), (.shift, 56), (.command, 55)]

structure GuestInputRouter where
  activeChords : List (UInt16 × GuestChord) := []
  activeHostModifiers : List (UInt16 × ModifierFlags) := []
  guestModifierFlags : ModifierFlags := .empty
  pointerModifierFlags : ModifierFlags := .empty
  hostModifierFlags : ModifierFlags := .empty
  latchedModifierFlags : ModifierFlags := .empty
deriving DecidableEq, Repr

/-- `removeValue(forKey:)`. -/
def removeValue {Value : Type} (dictionary : List (UInt16 × Value)) (key : UInt16) :
    List (UInt16 × Value) :=
  dictionary.filter fun entry => decide (entry.1 ≠ key)

def emitModifier (keyCode : UInt16) (flags : ModifierFlags) : GuestKeyEvent where
  keyCode := keyCode
  isDown := flags.contains ((QEMUKeyMapper.modifierFlag keyCode).getD .empty)
  isRepeat := false
  modifiers := flags
  isModifier := true

def emitKey (keyCode : UInt16) (isDown : Bool) (modifiers : ModifierFlags) : GuestKeyEvent where
  keyCode := keyCode
  isDown := isDown
  isRepeat := false
  modifiers := modifiers.normalized
  isModifier := false

/-- The first loop of `synchronizeGuestModifiers`, over `keys`. -/
def releaseModifiers (target : ModifierFlags) :
    List (ModifierFlags × UInt16) → ModifierFlags → ModifierFlags × List GuestKeyEvent
  | [], current => (current, [])
  | (flag, keyCode) :: keys, current =>
    if current.contains flag && !target.contains flag then
      let (last, events) := releaseModifiers target keys (current.subtracting flag)
      (last, emitModifier keyCode (current.subtracting flag) :: events)
    else releaseModifiers target keys current

/-- The second loop. -/
def pressModifiers (target : ModifierFlags) :
    List (ModifierFlags × UInt16) → ModifierFlags → ModifierFlags × List GuestKeyEvent
  | [], current => (current, [])
  | (flag, keyCode) :: keys, current =>
    if !current.contains flag && target.contains flag then
      let (last, events) := pressModifiers target keys (current.union flag)
      (last, emitModifier keyCode (current.union flag) :: events)
    else pressModifiers target keys current

namespace GuestInputRouter

/-- The modifiers the guest should hold, with `additional` ones. -/
def target (r : GuestInputRouter) (additional : ModifierFlags) : ModifierFlags :=
  let chordModifiers : ModifierFlags :=
    r.activeChords.foldl (fun result entry => ModifierFlags.union result entry.2.modifiers) .empty
  let latched := if r.hostModifierFlags.isEmpty then .empty else r.latchedModifierFlags
  (((chordModifiers.union r.pointerModifierFlags).union latched).union additional).normalized

def synchronizeGuestModifiers (r : GuestInputRouter) (additional : ModifierFlags) :
    GuestInputRouter × List GuestKeyEvent :=
  let target := r.target additional
  let (lowered, releases) := releaseModifiers target modifierKeys r.guestModifierFlags
  let (_, presses) := pressModifiers target modifierKeys lowered
  ({ r with guestModifierFlags := target }, releases ++ presses)

def press (r : GuestInputRouter) (hostKeyCode : UInt16) (chord : GuestChord) (repeats : Bool)
    (hostModifiers : ModifierFlags) : GuestInputRouter × List GuestKeyEvent :=
  if repeats || (r.activeChords.lookup hostKeyCode).isSome then (r, [])
  else
    let pressed := { r with
      latchedModifierFlags := chord.modifiers
      activeChords := (hostKeyCode, chord) :: r.activeChords
      activeHostModifiers :=
        (hostKeyCode, hostModifiers.normalized) :: removeValue r.activeHostModifiers hostKeyCode }
    let (synchronized, events) := pressed.synchronizeGuestModifiers chord.modifiers
    (synchronized, events ++ [emitKey chord.keyCode true chord.modifiers])

def release (r : GuestInputRouter) (hostKeyCode : UInt16) :
    GuestInputRouter × List GuestKeyEvent :=
  match r.activeChords.lookup hostKeyCode with
  | none => (r, [])
  | some chord =>
    let released := { r with
      activeChords := removeValue r.activeChords hostKeyCode
      activeHostModifiers := removeValue r.activeHostModifiers hostKeyCode }
    let (synchronized, events) := released.synchronizeGuestModifiers .empty
    (synchronized, emitKey chord.keyCode false chord.modifiers :: events)

def beginPointerInteraction (r : GuestInputRouter) (modifiers : ModifierFlags) :
    GuestInputRouter × List GuestKeyEvent :=
  { r with pointerModifierFlags := modifiers.normalized }.synchronizeGuestModifiers .empty

def endPointerInteraction (r : GuestInputRouter) : GuestInputRouter × List GuestKeyEvent :=
  { r with pointerModifierFlags := .empty }.synchronizeGuestModifiers .empty

/-- The keys whose host modifiers are no longer all held. -/
def keysToRelease (r : GuestInputRouter) (updated : ModifierFlags) : List UInt16 :=
  r.activeHostModifiers.filterMap fun (keyCode, required) =>
    if !required.isEmpty && decide (updated.intersection required ≠ required) then some keyCode
    else none

/-- The keys released one after another. -/
def releaseKeys (r : GuestInputRouter) : List UInt16 → GuestInputRouter × List GuestKeyEvent
  | [] => (r, [])
  | keyCode :: keys =>
    let (released, events) := r.release keyCode
    let (last, later) := released.releaseKeys keys
    (last, events ++ later)

/-- What of the latch remains when the host modifiers change from `held` to `updated`. -/
def unlatch (held updated latched : ModifierFlags) : ModifierFlags :=
  let lifted (flag : ModifierFlags) := held.contains flag && !updated.contains flag
  let latched := if lifted .command then .empty else latched
  let latched := if lifted .shift then latched.subtracting .shift else latched
  let latched := if lifted .control then latched.subtracting .control else latched
  let latched := if lifted .option then latched.subtracting .option else latched
  if updated.isEmpty then .empty else latched

/-- `keys` are the keys to release, in some order. -/
def updateHostModifiers (r : GuestInputRouter) (modifiers : ModifierFlags) (keys : List UInt16) :
    GuestInputRouter × List GuestKeyEvent :=
  let updated := modifiers.normalized
  let (released, events) := r.releaseKeys keys
  let changed := { released with
    latchedModifierFlags :=
      unlatch released.hostModifierFlags updated released.latchedModifierFlags
    hostModifierFlags := updated }
  let (synchronized, later) := changed.synchronizeGuestModifiers .empty
  (synchronized, events ++ later)

def sendChord (r : GuestInputRouter) (chord : GuestChord) :
    GuestInputRouter × List GuestKeyEvent :=
  let (held, before) := r.synchronizeGuestModifiers chord.modifiers
  let (synchronized, after) := held.synchronizeGuestModifiers .empty
  (synchronized, before ++ emitKey chord.keyCode true chord.modifiers ::
    emitKey chord.keyCode false chord.modifiers :: after)

/-- `chords` are the active chords, in some order. -/
def releaseAll (r : GuestInputRouter) (chords : List GuestChord) :
    GuestInputRouter × List GuestKeyEvent :=
  let cleared := { r with
    activeChords := []
    activeHostModifiers := []
    pointerModifierFlags := .empty
    hostModifierFlags := .empty
    latchedModifierFlags := .empty }
  let (synchronized, events) := cleared.synchronizeGuestModifiers .empty
  (synchronized, chords.map (fun chord => emitKey chord.keyCode false r.guestModifierFlags) ++ events)

end GuestInputRouter

inductive RouterEvent
  | press (hostKeyCode : UInt16) (chord : GuestChord) (repeats : Bool)
    (hostModifiers : ModifierFlags)
  | release (hostKeyCode : UInt16)
  | beginPointerInteraction (modifiers : ModifierFlags)
  | endPointerInteraction
  | updateHostModifiers (modifiers : ModifierFlags) (keys : List UInt16)
  | sendChord (chord : GuestChord)
  | releaseAll (chords : List GuestChord)
deriving DecidableEq, Repr

/-- A router with all that it has emitted, oldest first, and whether a pointer interaction is
open. -/
structure RouterRun where
  router : GuestInputRouter := {}
  emitted : List GuestKeyEvent := []
  pointerOpen : Bool := false
deriving DecidableEq, Repr

namespace RouterRun

/-- The router afterwards and the events, if the order that comes with the operation is one of the
dictionary. -/
def operate (r : GuestInputRouter) : RouterEvent → Option (GuestInputRouter × List GuestKeyEvent)
  | .press hostKeyCode chord repeats hostModifiers =>
    some (r.press hostKeyCode chord repeats hostModifiers)
  | .release hostKeyCode => some (r.release hostKeyCode)
  | .beginPointerInteraction modifiers => some (r.beginPointerInteraction modifiers)
  | .endPointerInteraction => some r.endPointerInteraction
  | .updateHostModifiers modifiers keys =>
    if keys.Perm (r.keysToRelease modifiers.normalized) then
      some (r.updateHostModifiers modifiers keys)
    else none
  | .sendChord chord => some (r.sendChord chord)
  | .releaseAll chords =>
    if chords.Perm (r.activeChords.map Prod.snd) then some (r.releaseAll chords) else none

def opensPointer (wasOpen : Bool) : RouterEvent → Bool
  | .beginPointerInteraction _ => true
  | .endPointerInteraction | .releaseAll _ => false
  | _ => wasOpen

def step (s : RouterRun) (e : RouterEvent) : Option RouterRun :=
  match operate s.router e with
  | none => none
  | some (router, events) =>
    some ⟨router, s.emitted ++ events, opensPointer s.pointerOpen e⟩

end RouterRun

end SimpleVM.Input
