import SimpleVM.Input.PCXTKeyMapper

/-!
# Keys sent to a QEMU guest

The keyboard part of `QEMUMachineRuntime`, with `CSInput` behind the SPICE connection and the
views that hand it the events of the window. What is sent is kept, oldest first; what is handed to
another queue, which works in order, counts as done.
-/
namespace SimpleVM.QEMU

open SimpleVM.Input

/-- What a guest knows a key by. -/
inductive GuestCode where
  | keysym (value : UInt32)
  | scancode (value : Nat)
deriving DecidableEq, Repr

structure KeyMessage where
  code : GuestCode
  isDown : Bool
deriving DecidableEq, Repr

/-- The codes held after a message. -/
def applyMessage (held : List GuestCode) (message : KeyMessage) : List GuestCode :=
  if message.isDown then message.code :: held
  else held.filter fun code => decide (code ≠ message.code)

/-- The codes a guest holds after the messages. -/
def heldAfter (messages : List KeyMessage) : List GuestCode :=
  messages.foldl applyMessage []

/-- `_key_state`, 16 words of 32 bits, is one vector here. -/
structure CSInput where
  channel : Bool
  disableInputs : Bool
  keyState : BitVec 512
deriving DecidableEq, Repr

namespace CSInput

/-- `sendKey:code:`, with the messages it sends. -/
def sendKey (input : CSInput) (isDown : Bool) (scancode : Nat) : CSInput × List KeyMessage :=
  if scancode = 0 then (input, [])
  else if !input.channel then (input, [])
  else if input.disableInputs then (input, [])
  else if 16 ≤ scancode / 32 then (input, [])
  else if isDown then
    ({ input with keyState := input.keyState ||| BitVec.twoPow 512 scancode },
      [⟨.scancode scancode, true⟩])
  else if input.keyState.getLsbD scancode then
    ({ input with keyState := input.keyState &&& ~~~(BitVec.twoPow 512 scancode) },
      [⟨.scancode scancode, false⟩])
  else (input, [])

/-- The loop of `releaseKeys`, over the scancodes. A word without bits, which the source skips,
sends nothing here either. -/
def releaseKeys (input : CSInput) : List Nat → CSInput × List KeyMessage
  | [] => (input, [])
  | scancode :: rest =>
    let (released, messages) :=
      if scancode = 0 then (input, []) else input.sendKey false scancode
    let (last, later) := released.releaseKeys rest
    (last, messages ++ later)

end CSInput

/-- The part of `SPICEConnectionController` that has to do with keys. -/
structure SPICEKeys where
  input : Option CSInput
deriving DecidableEq, Repr

structure KeyRuntime where
  spiceController : Option SPICEKeys
  /-- There is a `keySink` or a `vncClient`. -/
  vncClient : Bool
  requiresDiskPassword : Bool
  pressedKeysyms : List UInt32
  pressedModifierKeyCodes : List UInt16
  sent : List KeyMessage
deriving DecidableEq, Repr

namespace KeyRuntime

/-- `sendKey(_:isDown:)`. -/
def sendKey (r : KeyRuntime) (keysym : UInt32) (isDown : Bool) : KeyRuntime :=
  if r.vncClient then { r with sent := r.sent ++ [⟨.keysym keysym, isDown⟩] } else r

/-- `SPICEConnectionController.sendKey`. -/
def sendSPICEKey (r : KeyRuntime) (controller : SPICEKeys) (event : GuestKeyEvent) : KeyRuntime :=
  match PCXTKeyMapper.scancode event.keyCode with
  | none => r
  | some scancode =>
    match controller.input with
    | none => r
    | some input =>
      let (sent, messages) := input.sendKey event.isDown scancode
      { r with spiceController := some ⟨some sent⟩, sent := r.sent ++ messages }

/-- Return and Enter end the question for the disk password. -/
def answered (r : KeyRuntime) (keyCode : UInt16) (isDown : Bool) : KeyRuntime :=
  if isDown = false ∧ (keyCode = 36 ∨ keyCode = 76) then { r with requiresDiskPassword := false }
  else r

def insertKeysym (r : KeyRuntime) (keysym : UInt32) : KeyRuntime :=
  { r with pressedKeysyms := r.pressedKeysyms.insert keysym }

def removeKeysym (r : KeyRuntime) (keysym : UInt32) : KeyRuntime :=
  { r with pressedKeysyms := r.pressedKeysyms.filter fun other => decide (other ≠ keysym) }

def insertModifier (r : KeyRuntime) (keyCode : UInt16) : KeyRuntime :=
  { r with pressedModifierKeyCodes := r.pressedModifierKeyCodes.insert keyCode }

def removeModifier (r : KeyRuntime) (keyCode : UInt16) : KeyRuntime :=
  { r with pressedModifierKeyCodes :=
      r.pressedModifierKeyCodes.filter fun other => decide (other ≠ keyCode) }

def sendGuestKeyEvent (r : KeyRuntime) (event : GuestKeyEvent) : KeyRuntime :=
  let r := r.answered event.keyCode event.isDown
  match r.spiceController with
  | some controller => r.sendSPICEKey controller event
  | none =>
    match QEMUKeyMapper.keysymForGuest event with
    | none => r
    | some keysym =>
      if event.isDown then
        let r := r.insertKeysym keysym
        let r := if event.isModifier then r.insertModifier event.keyCode else r
        r.sendKey keysym true
      else ((r.removeKeysym keysym).removeModifier event.keyCode).sendKey keysym false

/-- A press or a release of the key of a host event, as the guest gets it. -/
def guestEvent (event : NSEvent) (isDown isRepeat isModifier : Bool) : GuestKeyEvent where
  keyCode := event.keyCode
  isDown := isDown
  isRepeat := isRepeat
  modifiers := event.modifierFlags
  isModifier := isModifier

/-- The branch of `sendKeyEvent` with a SPICE connection. -/
def sendSPICEKeyEvent (r : KeyRuntime) (event : NSEvent) : KeyRuntime :=
  if event.keyCode = 57 then
    (r.sendGuestKeyEvent (guestEvent event true false true)).sendGuestKeyEvent
      (guestEvent event false false true)
  else
    let send (isDown : Bool) :=
      (r.sendGuestKeyEvent (guestEvent event isDown event.isARepeat
        (decide (event.type = .flagsChanged)))).answered event.keyCode isDown
    match event.type with
    | .keyDown => send true
    | .keyUp => send false
    | .flagsChanged => send (QEMUKeyMapper.isModifierDown event)
    | .other => r

/-- The branch without one. -/
def sendVNCKeyEvent (r : KeyRuntime) (event : NSEvent) : KeyRuntime :=
  match event.type with
  | .keyDown =>
    match QEMUKeyMapper.keysymForEvent event with
    | none => r
    | some keysym => (r.insertKeysym keysym).sendKey keysym true
  | .keyUp =>
    match QEMUKeyMapper.keysymForEvent event with
    | none => r
    | some keysym => ((r.removeKeysym keysym).sendKey keysym false).answered event.keyCode false
  | .flagsChanged =>
    match QEMUKeyMapper.modifierKeysym event.keyCode with
    | none => r
    | some keysym =>
      if event.keyCode = 57 then (r.sendKey keysym true).sendKey keysym false
      else if !QEMUKeyMapper.isModifierDown event then
        ((r.removeModifier event.keyCode).removeKeysym keysym).sendKey keysym false
      else ((r.insertModifier event.keyCode).insertKeysym keysym).sendKey keysym true
  | .other => r

def sendKeyEvent (r : KeyRuntime) (event : NSEvent) : KeyRuntime :=
  if r.spiceController.isSome then r.sendSPICEKeyEvent event else r.sendVNCKeyEvent event

/-- The loop of `releaseAllKeys`, over the keysyms in some order. -/
def releaseKeysyms (r : KeyRuntime) : List UInt32 → KeyRuntime
  | [] => r
  | keysym :: rest => (r.sendKey keysym false).releaseKeysyms rest

/-- `SPICEConnectionController.releaseKeys`. -/
def releaseSPICEKeys (r : KeyRuntime) : KeyRuntime :=
  match r.spiceController with
  | some ⟨some input⟩ =>
    let (released, messages) := input.releaseKeys (List.range 512)
    { r with spiceController := some ⟨some released⟩, sent := r.sent ++ messages }
  | _ => r

def releaseAllKeys (r : KeyRuntime) : KeyRuntime :=
  { r.releaseSPICEKeys.releaseKeysyms r.pressedKeysyms with
    pressedKeysyms := []
    pressedModifierKeyCodes := [] }

end KeyRuntime

inductive DisplayView where
  | framebuffer
  | spice
deriving DecidableEq, Repr

/-- `SPICEFramebufferNSView.keyDown`: a key under Command goes up at once. -/
def spiceKeyDown (r : KeyRuntime) (event : NSEvent) : KeyRuntime :=
  if event.modifierFlags.contains .command then
    if event.isARepeat then r
    else (r.sendKeyEvent event).sendGuestKeyEvent (KeyRuntime.guestEvent event false false false)
  else r.sendKeyEvent event

/-- `SPICEFramebufferNSView.performKeyEquivalent`; `none` where it leaves the event to others. -/
def performKeyEquivalent (r : KeyRuntime) (event : NSEvent) : Option KeyRuntime :=
  if event.type = .keyDown ∧ event.modifierFlags.contains .command = true then
    some (spiceKeyDown r event)
  else none

/-- An event of the window goes to the view. -/
def DisplayView.deliver (view : DisplayView) (r : KeyRuntime) (event : NSEvent) : KeyRuntime :=
  match view with
  | .framebuffer => r.sendKeyEvent event
  | .spice =>
    match event.type with
    | .keyDown => (performKeyEquivalent r event).getD (spiceKeyDown r event)
    | _ => r.sendKeyEvent event

/-- Modifiers, Caps Lock and the function key report a change of flags. -/
def isFlagsKey (keyCode : UInt16) : Bool := decide (54 ≤ keyCode ∧ keyCode ≤ 63)

/-- The flags implied by the keys held. -/
def impliedFlags (held : List UInt16) : ModifierFlags :=
  held.foldl (fun flags keyCode =>
    flags.union ((QEMUKeyMapper.modifierFlag keyCode).getD .empty)) .empty

/-- A key held on the Mac, with the characters its press carried. -/
structure HeldKey where
  keyCode : UInt16
  characters : Option String
deriving DecidableEq, Repr

structure WindowedDisplay where
  view : DisplayView
  keyboard : List HeldKey
  runtime : KeyRuntime
deriving DecidableEq, Repr

namespace WindowedDisplay

def start (view : DisplayView) (runtime : KeyRuntime) : WindowedDisplay :=
  ⟨view, [], { runtime with sent := [] }⟩

def isHeld (w : WindowedDisplay) (keyCode : UInt16) : Bool :=
  w.keyboard.any fun key => decide (key.keyCode = keyCode)

/-- What happens at the keyboard, with the characters the event carries. `releaseAll` is the
app's own doing. -/
inductive KeyStep where
  | press (keyCode : UInt16) (characters : Option String)
  | repeats (keyCode : UInt16) (characters : Option String)
  | release (keyCode : UInt16) (characters : Option String)
  | releaseAll
deriving DecidableEq, Repr

/-- The event of a key while `held` are down. -/
def keyEvent (held : List HeldKey) (keyCode : UInt16) (isDown isARepeat : Bool)
    (characters : Option String) : NSEvent where
  type := if isFlagsKey keyCode then .flagsChanged else if isDown then .keyDown else .keyUp
  keyCode := keyCode
  modifierFlags := impliedFlags (held.map HeldKey.keyCode)
  isARepeat := isARepeat
  charactersIgnoringModifiers := characters

def without (held : List HeldKey) (keyCode : UInt16) : List HeldKey :=
  held.filter fun key => decide (key.keyCode ≠ keyCode)

def step (w : WindowedDisplay) : KeyStep → Option WindowedDisplay
  | .press keyCode characters =>
    if w.isHeld keyCode then none
    else
      let held := ⟨keyCode, characters⟩ :: w.keyboard
      some { w with
        keyboard := held
        runtime := w.view.deliver w.runtime (keyEvent held keyCode true false characters) }
  | .repeats keyCode characters =>
    if w.isHeld keyCode && !isFlagsKey keyCode then
      some { w with
        runtime := w.view.deliver w.runtime (keyEvent w.keyboard keyCode true true characters) }
    else none
  | .release keyCode characters =>
    if w.isHeld keyCode then
      let held := without w.keyboard keyCode
      some { w with
        keyboard := held
        runtime := w.view.deliver w.runtime (keyEvent held keyCode false false characters) }
    else none
  | .releaseAll => some { w with runtime := w.runtime.releaseAllKeys }

end WindowedDisplay

end SimpleVM.QEMU
