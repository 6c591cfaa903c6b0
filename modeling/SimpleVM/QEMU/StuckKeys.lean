import SimpleVM.Input.KeyReplay
import SimpleVM.QEMU.HeldKeys
import SimpleVM.Transition.Run

/-!
# Stuck keys

In a window, what the guest holds are codes of keys that the user holds. It stays so as long as a
modifier is not released under its twin, and a key that has no keysym of its own keeps its
character while it is held.
-/
namespace SimpleVM.QEMU

open SimpleVM.Input SimpleVM.Transition

namespace KeyRuntime

/-- The code of a guest event. -/
def guestCode (spice : Bool) (event : GuestKeyEvent) : Option GuestCode :=
  if spice then (PCXTKeyMapper.scancode event.keyCode).map .scancode
  else (QEMUKeyMapper.keysymForGuest event).map .keysym

/-- The code of a host event. -/
def eventCode (spice : Bool) (event : NSEvent) : Option GuestCode :=
  if spice then (PCXTKeyMapper.scancode event.keyCode).map .scancode
  else (QEMUKeyMapper.keysymForEvent event).map .keysym

variable {r : KeyRuntime} {event : NSEvent} {e : GuestKeyEvent}

theorem answered_controller (r : KeyRuntime) (keyCode : UInt16) (isDown : Bool) :
    (r.answered keyCode isDown).spiceController = r.spiceController := by
  obtain ⟨asked, shape⟩ := answered_cases r keyCode isDown
  rw [shape]

theorem sendGuestKeyEvent_down (r : KeyRuntime) (down : e.isDown = true) :
    Pressed r (r.sendGuestKeyEvent e) (guestCode r.spiceController.isSome e) := by
  apply Pressed.answered_before
  unfold sendGuestKeyEvent
  rw [← answered_controller r e.keyCode e.isDown]
  generalize r.answered e.keyCode e.isDown = r
  cases connection : r.spiceController with
  | some controller =>
    simp only [connection]
    exact sendSPICEKey_down connection down
  | none =>
    simp only [connection, guestCode, Option.isSome_none, Bool.false_eq_true, if_false]
    cases QEMUKeyMapper.keysymForGuest e with
    | none => exact .refl r _
    | some keysym =>
      simp only [down, if_true, Option.map_some]
      apply sendKey_down connection
      · intro k known
        split <;> simpa [insertKeysym, insertModifier] using known
      · split <;> simp [insertKeysym, insertModifier]

theorem sendGuestKeyEvent_up (r : KeyRuntime) (up : e.isDown = false) :
    Released r (r.sendGuestKeyEvent e) (guestCode r.spiceController.isSome e) := by
  apply Released.answered_before
  unfold sendGuestKeyEvent
  rw [← answered_controller r e.keyCode e.isDown]
  generalize r.answered e.keyCode e.isDown = r
  cases connection : r.spiceController with
  | some controller =>
    simp only [connection]
    exact sendSPICEKey_up connection up
  | none =>
    simp only [connection, guestCode, Option.isSome_none, Bool.false_eq_true, if_false]
    cases QEMUKeyMapper.keysymForGuest e with
    | none => exact .refl r
    | some keysym =>
      simp only [up, Bool.false_eq_true, if_false, Option.map_some]
      apply sendKey_up connection
      · intro k different known
        simpa [removeKeysym, removeModifier, different] using known
      · simp [removeKeysym, removeModifier]

/-- The SPICE branch sends one press or one release. -/
theorem send_pressed (r : KeyRuntime) (present : r.spiceController.isSome = true)
    (event : NSEvent) (isDown isRepeat isModifier : Bool) :
    Pressed r ((r.sendGuestKeyEvent (guestEvent event isDown isRepeat isModifier)).answered
      event.keyCode isDown) (eventCode true event) := by
  apply Pressed.answered_after
  cases isDown with
  | true =>
    have pressed := sendGuestKeyEvent_down (e := guestEvent event true isRepeat isModifier) r rfl
    rw [present] at pressed
    exact pressed
  | false =>
    have released := sendGuestKeyEvent_up (e := guestEvent event false isRepeat isModifier) r rfl
    exact released.pressed _

theorem send_released (r : KeyRuntime) (present : r.spiceController.isSome = true)
    (event : NSEvent) (isRepeat isModifier : Bool) :
    Released r ((r.sendGuestKeyEvent (guestEvent event false isRepeat isModifier)).answered
      event.keyCode false) (eventCode true event) := by
  apply Released.answered_after
  have released := sendGuestKeyEvent_up (e := guestEvent event false isRepeat isModifier) r rfl
  rw [present] at released
  exact released

/-- Caps Lock goes down and up. -/
theorem capsLock_released (r : KeyRuntime) (present : r.spiceController.isSome = true)
    (event : NSEvent) :
    Released r ((r.sendGuestKeyEvent (guestEvent event true false true)).sendGuestKeyEvent
      (guestEvent event false false true)) (eventCode true event) := by
  have pressed := sendGuestKeyEvent_down (e := guestEvent event true false true) r rfl
  have released := sendGuestKeyEvent_up (e := guestEvent event false false true)
    (r.sendGuestKeyEvent (guestEvent event true false true)) rfl
  rw [pressed.spice] at released
  rw [present] at pressed released
  exact pressed.released released

/-- An event that ends a press. -/
def EndsPress (event : NSEvent) : Prop :=
  event.type = .keyUp ∨
    event.type = .flagsChanged ∧
      (event.keyCode = 57 ∨ QEMUKeyMapper.isModifierDown event = false)

theorem sendSPICEKeyEvent_pressed (present : r.spiceController.isSome = true) (event : NSEvent) :
    Pressed r (r.sendSPICEKeyEvent event) (eventCode true event) := by
  unfold sendSPICEKeyEvent
  split
  · exact (capsLock_released r present event).pressed _
  · cases event.type with
    | keyDown => exact send_pressed r present event true _ _
    | keyUp => exact send_pressed r present event false _ _
    | flagsChanged => exact send_pressed r present event _ _ _
    | other => exact .refl r _

theorem sendSPICEKeyEvent_released (present : r.spiceController.isSome = true)
    (ends : EndsPress event) : Released r (r.sendSPICEKeyEvent event) (eventCode true event) := by
  unfold sendSPICEKeyEvent
  split
  · exact capsLock_released r present event
  · rename_i other
    rcases ends with keyUp | ⟨flags, capsLock | up⟩
    · simp only [keyUp]
      exact send_released r present event _ _
    · exact absurd capsLock other
    · simp only [flags, up]
      exact send_released r present event _ _

/-- Down and up at once, without a record. -/
theorem tap_released (absent : r.spiceController = none) (keysym : UInt32) :
    Released r ((r.sendKey keysym true).sendKey keysym false) (some (.keysym keysym)) := by
  unfold sendKey
  by_cases connected : r.vncClient = true
  · simp only [connected, if_true]
    have member_iff : ∀ c, c ∈ heldAfter (r.sent ++ [⟨.keysym keysym, true⟩] ++
        [⟨.keysym keysym, false⟩]) ↔ c ∈ r.held ∧ c ≠ .keysym keysym := by
      intro c
      rw [heldAfter_append, heldAfter_append]
      simp [applyMessage, KeyRuntime.held]
    refine ⟨rfl, ?_, ?_, ?_⟩
    · simp [KeyRuntime.delivers, absent, connected]
    · intro tracked
      simp only [Tracked, absent] at tracked ⊢
      intro c member
      obtain ⟨k, rfl, _, known⟩ := tracked c ((member_iff c).mp member).1
      exact ⟨k, rfl, trivial, known⟩
    · intro _ c member
      obtain ⟨old, different⟩ := (member_iff c).mp member
      refine ⟨old, ?_⟩
      rintro ⟨rfl⟩
      exact different rfl
  · simp only [connected, Bool.false_eq_true, if_false]
    refine ⟨rfl, rfl, id, fun tracked c member => ?_⟩
    simp only [Tracked, absent] at tracked
    obtain ⟨_, _, sending, _⟩ := tracked c member
    exact absurd sending connected

theorem keyUp_released (absent : r.spiceController = none) {keysym : UInt32} :
    Released r (((r.removeKeysym keysym).sendKey keysym false).answered event.keyCode false)
      (some (.keysym keysym)) := by
  apply Released.answered_after
  apply sendKey_up absent
  · intro k different known
    simpa [removeKeysym, different] using known
  · simp [removeKeysym]

theorem modifierUp_released (absent : r.spiceController = none) {keysym : UInt32} :
    Released r (((r.removeModifier event.keyCode).removeKeysym keysym).sendKey keysym false)
      (some (.keysym keysym)) := by
  apply sendKey_up absent
  · intro k different known
    simpa [removeKeysym, removeModifier, different] using known
  · simp [removeKeysym, removeModifier]

theorem modifierDown_pressed (absent : r.spiceController = none) {keysym : UInt32} :
    Pressed r (((r.insertModifier event.keyCode).insertKeysym keysym).sendKey keysym true)
      (some (.keysym keysym)) := by
  apply sendKey_down absent
  · intro k known
    simpa [insertKeysym, insertModifier] using known
  · simp [insertKeysym, insertModifier]

theorem sendVNCKeyEvent_pressed (absent : r.spiceController = none) (event : NSEvent) :
    Pressed r (r.sendVNCKeyEvent event) (eventCode false event) := by
  unfold sendVNCKeyEvent eventCode
  cases kind : event.type with
  | keyDown =>
    cases QEMUKeyMapper.keysymForEvent event with
    | none => exact .refl r _
    | some keysym =>
      apply sendKey_down absent
      · intro k known
        simpa [insertKeysym] using known
      · simp [insertKeysym]
  | keyUp =>
    cases QEMUKeyMapper.keysymForEvent event with
    | none => exact .refl r _
    | some keysym => exact (keyUp_released absent).pressed _
  | flagsChanged =>
    have mapped : QEMUKeyMapper.keysymForEvent event =
        QEMUKeyMapper.modifierKeysym event.keyCode := by
      simp [QEMUKeyMapper.keysymForEvent, kind]
    rw [mapped]
    cases QEMUKeyMapper.modifierKeysym event.keyCode with
    | none => exact .refl r _
    | some keysym =>
      simp only
      split
      · exact (tap_released absent keysym).pressed _
      · split
        · exact (modifierUp_released absent).pressed _
        · exact modifierDown_pressed absent
  | other => exact .refl r _

theorem sendVNCKeyEvent_released (absent : r.spiceController = none) (ends : EndsPress event) :
    Released r (r.sendVNCKeyEvent event) (eventCode false event) := by
  unfold sendVNCKeyEvent eventCode
  rcases ends with keyUp | ⟨flags, ended⟩
  · simp only [keyUp]
    cases QEMUKeyMapper.keysymForEvent event with
    | none => exact .refl r
    | some keysym => exact keyUp_released absent
  · have mapped : QEMUKeyMapper.keysymForEvent event =
        QEMUKeyMapper.modifierKeysym event.keyCode := by
      simp [QEMUKeyMapper.keysymForEvent, flags]
    rw [mapped]
    simp only [flags]
    cases QEMUKeyMapper.modifierKeysym event.keyCode with
    | none => exact .refl r
    | some keysym =>
      simp only
      split
      · exact tap_released absent keysym
      · rename_i other
        rcases ended with capsLock | up
        · exact absurd capsLock other
        · simp only [up, Bool.not_false, if_true]
          exact modifierUp_released absent

theorem sendKeyEvent_pressed (r : KeyRuntime) (event : NSEvent) :
    Pressed r (r.sendKeyEvent event) (eventCode r.spiceController.isSome event) := by
  unfold sendKeyEvent
  cases connection : r.spiceController.isSome with
  | true => exact sendSPICEKeyEvent_pressed connection event
  | false =>
    have absent : r.spiceController = none := by simpa using connection
    exact sendVNCKeyEvent_pressed absent event

theorem sendKeyEvent_released (r : KeyRuntime) (ends : EndsPress event) :
    Released r (r.sendKeyEvent event) (eventCode r.spiceController.isSome event) := by
  unfold sendKeyEvent
  cases connection : r.spiceController.isSome with
  | true => exact sendSPICEKeyEvent_released connection ends
  | false =>
    have absent : r.spiceController = none := by simpa using connection
    exact sendVNCKeyEvent_released absent ends

/-- With a SPICE connection no keysym was sent. -/
theorem Tracked.no_keysym {controller : SPICEKeys} (tracked : r.Tracked)
    (present : r.spiceController = some controller) {c : GuestCode} (member : c ∈ r.held) :
    ∃ input scancode, controller = ⟨some input⟩ ∧ c = .scancode scancode ∧ scancode < 512 := by
  obtain ⟨input⟩ := controller
  cases input with
  | none =>
    simp only [Tracked, present] at tracked
    rw [tracked] at member
    cases member
  | some input =>
    simp only [Tracked, present] at tracked
    obtain ⟨scancode, rfl, _, _, _, inside, _⟩ := tracked c member
    exact ⟨input, scancode, rfl, rfl, inside⟩

/-- Keysyms sent up disturb no scancode. -/
theorem releaseKeysyms_scancodes (r : KeyRuntime) (keysyms : List UInt32)
    (scancodes : r.held = []) :
    (r.releaseKeysyms keysyms).held = [] ∧
      (r.releaseKeysyms keysyms).spiceController = r.spiceController ∧
      (r.releaseKeysyms keysyms).vncClient = r.vncClient := by
  induction keysyms generalizing r with
  | nil => exact ⟨scancodes, rfl, rfl⟩
  | cons keysym rest ih =>
    have still : (r.sendKey keysym false).held = [] := by
      unfold sendKey KeyRuntime.held at *
      split
      · rw [heldAfter_append, scancodes]
        rfl
      · exact scancodes
    obtain ⟨empty, controller, client⟩ := ih (r.sendKey keysym false) still
    unfold releaseKeysyms
    refine ⟨empty, controller.trans ?_, client.trans ?_⟩
    · unfold sendKey
      split <;> rfl
    · unfold sendKey
      split <;> rfl

theorem releaseKeysyms_spec (absent : r.spiceController = none) (keysyms : List UInt32)
    (tracked : r.Tracked) :
    (r.releaseKeysyms keysyms).spiceController = none ∧
      (r.releaseKeysyms keysyms).vncClient = r.vncClient ∧
      ∀ c ∈ (r.releaseKeysyms keysyms).held,
        c ∈ r.held ∧ ∀ keysym ∈ keysyms, c ≠ .keysym keysym := by
  induction keysyms generalizing r with
  | nil =>
    refine ⟨absent, rfl, fun c member => ⟨member, ?_⟩⟩
    intro keysym none
    cases none
  | cons keysym rest ih =>
    have released : Released r (r.sendKey keysym false) (some (.keysym keysym)) :=
      sendKey_up absent (fun k _ known => known) rfl
    have absentNext : (r.sendKey keysym false).spiceController = none := by
      unfold sendKey
      split <;> exact absent
    have clientNext : (r.sendKey keysym false).vncClient = r.vncClient := by
      unfold sendKey
      split <;> rfl
    obtain ⟨stays, client, subset⟩ := ih absentNext (released.tracked tracked)
    refine ⟨stays, client.trans clientNext, fun c member => ?_⟩
    obtain ⟨between, others⟩ := subset c member
    obtain ⟨old, different⟩ := released.held tracked c between
    refine ⟨old, fun k listed => ?_⟩
    rcases List.mem_cons.mp listed with rfl | listed
    · rintro rfl
      exact different rfl
    · exact others k listed

/-- Nothing is held after `releaseAllKeys`, whatever was. -/
theorem releaseAllKeys_released (tracked : r.Tracked) :
    r.releaseAllKeys.held = [] ∧ r.releaseAllKeys.Tracked ∧
      r.releaseAllKeys.spiceController.isSome = r.spiceController.isSome ∧
      r.releaseAllKeys.delivers = r.delivers := by
  cases connection : r.spiceController with
  | none =>
    have same : r.releaseSPICEKeys = r := by simp [releaseSPICEKeys, connection]
    obtain ⟨absent, client, subset⟩ := releaseKeysyms_spec connection r.pressedKeysyms tracked
    have empty : (r.releaseKeysyms r.pressedKeysyms).held = [] := by
      apply List.eq_nil_iff_forall_not_mem.mpr
      intro c member
      obtain ⟨old, others⟩ := subset c member
      simp only [Tracked, connection] at tracked
      obtain ⟨keysym, rfl, _, known⟩ := tracked c old
      exact others keysym known rfl
    unfold releaseAllKeys
    rw [same]
    refine ⟨empty, ?_, ?_, ?_⟩
    · simp only [Tracked, absent]
      intro c member
      have inside : c ∈ (r.releaseKeysyms r.pressedKeysyms).held := member
      rw [empty] at inside
      cases inside
    · simp [absent]
    · simp [KeyRuntime.delivers, absent, connection, client]
  | some controller =>
    have before : ∀ c ∈ r.held, ∃ input scancode, controller = ⟨some input⟩ ∧
        c = .scancode scancode ∧ scancode < 512 :=
      fun c member => tracked.no_keysym connection member
    obtain ⟨input⟩ := controller
    cases input with
    | none =>
      have same : r.releaseSPICEKeys = r := by simp [releaseSPICEKeys, connection]
      have nothing : r.held = [] := by
        simp only [Tracked, connection] at tracked
        exact tracked
      obtain ⟨empty, controller, _⟩ := releaseKeysyms_scancodes r r.pressedKeysyms nothing
      unfold releaseAllKeys
      rw [same]
      refine ⟨empty, ?_, ?_, ?_⟩
      · simp only [Tracked, controller, connection]
        exact empty
      · simp [controller, connection]
      · simp [KeyRuntime.delivers, controller, connection]
    | some input =>
      have tracks : input.Tracks r.held := by
        simp only [Tracked, connection] at tracked
        exact tracked
      obtain ⟨_, subset, opened, enabled⟩ := CSInput.releaseKeys_spec tracks (List.range 512)
      have nothing : r.releaseSPICEKeys.held = [] := by
        apply List.eq_nil_iff_forall_not_mem.mpr
        intro c member
        simp only [releaseSPICEKeys, connection, KeyRuntime.held, heldAfter_append] at member
        obtain ⟨old, others⟩ := subset c member
        obtain ⟨_, scancode, _, rfl, inside⟩ := before c old
        exact others scancode (List.mem_range.mpr inside) rfl
      have released : r.releaseSPICEKeys.spiceController =
          some ⟨some (input.releaseKeys (List.range 512)).1⟩ := by
        simp only [releaseSPICEKeys, connection]
      obtain ⟨empty, controller, _⟩ :=
        releaseKeysyms_scancodes r.releaseSPICEKeys r.pressedKeysyms nothing
      rw [released] at controller
      unfold releaseAllKeys
      refine ⟨empty, ?_, ?_, ?_⟩
      · simp only [Tracked, controller]
        intro c member
        have inside : c ∈ (r.releaseSPICEKeys.releaseKeysyms r.pressedKeysyms).held := member
        rw [empty] at inside
        cases inside
      · simp [controller]
      · simp [KeyRuntime.delivers, controller, connection, opened, enabled]

end KeyRuntime

open KeyRuntime

section Views

variable {r : KeyRuntime} {event : NSEvent}

/-- The early release under Command takes nothing back. -/
theorem spiceKeyDown_pressed (r : KeyRuntime) (event : NSEvent) :
    Pressed r (spiceKeyDown r event) (eventCode r.spiceController.isSome event) := by
  unfold spiceKeyDown
  split
  · split
    · exact .refl r _
    · exact (sendKeyEvent_pressed r event).followed
        (sendGuestKeyEvent_up (r.sendKeyEvent event) rfl)
  · exact sendKeyEvent_pressed r event

theorem deliver_pressed (view : DisplayView) (r : KeyRuntime) (event : NSEvent) :
    Pressed r (view.deliver r event) (eventCode r.spiceController.isSome event) := by
  unfold DisplayView.deliver
  cases view with
  | framebuffer => exact sendKeyEvent_pressed r event
  | spice =>
    simp only
    split
    · unfold performKeyEquivalent
      split <;> exact spiceKeyDown_pressed r event
    · exact sendKeyEvent_pressed r event

theorem deliver_released (view : DisplayView) (r : KeyRuntime) (ends : EndsPress event) :
    Released r (view.deliver r event) (eventCode r.spiceController.isSome event) := by
  unfold DisplayView.deliver
  cases view with
  | framebuffer => exact sendKeyEvent_released r ends
  | spice =>
    simp only
    split
    · rename_i keyDown
      rcases ends with keyUp | ⟨flags, _⟩
      · rw [keyDown] at keyUp
        contradiction
      · rw [keyDown] at flags
        contradiction
    · exact sendKeyEvent_released r ends

end Views

section Flags

/-- The flags are those of the keys held. -/
theorem impliedFlags_contains (held : List UInt16) {i : Nat} (low : 17 ≤ i) (high : i ≤ 20) :
    (impliedFlags held).contains (.single i) = true ↔
      ∃ keyCode ∈ held, QEMUKeyMapper.modifierFlag keyCode = some (.single i) := by
  have run : ∀ (held : List UInt16) (flags : ModifierFlags),
      (held.foldl (fun flags keyCode =>
        flags.union ((QEMUKeyMapper.modifierFlag keyCode).getD .empty)) flags).contains
          (.single i) = true ↔
        flags.contains (.single i) = true ∨
          ∃ keyCode ∈ held, QEMUKeyMapper.modifierFlag keyCode = some (.single i) := by
    intro held
    induction held with
    | nil => simp
    | cons keyCode rest ih =>
      intro flags
      rw [List.foldl_cons, ih]
      cases mapped : QEMUKeyMapper.modifierFlag keyCode with
      | none =>
        have same : flags.union (Option.getD none ModifierFlags.empty) = flags := by
          apply ModifierFlags.ext_bits
          intro j
          simp [ModifierFlags.union, ModifierFlags.empty]
        rw [Option.getD_none] at same ⊢
        simp [same, mapped]
      | some flag =>
        obtain ⟨bit, lowBit, highBit, rfl⟩ := QEMUKeyMapper.modifierFlag_single mapped
        rw [Option.getD_some, ModifierFlags.union_contains (by omega) (by omega)]
        have equal : ModifierFlags.single bit = ModifierFlags.single i ↔ bit = i := by
          constructor
          · exact single_injective (by omega)
          · intro same
            rw [same]
        simp [mapped, equal, or_assoc]
  unfold impliedFlags
  rw [run held .empty]
  simp [ModifierFlags.contains_single (show i < 64 by omega), ModifierFlags.empty]

end Flags

namespace WindowedDisplay

/-- The code of a key: a flags key has that of its modifier. -/
def codeOf (spice : Bool) (keyCode : UInt16) (characters : Option String) : Option GuestCode :=
  if spice then (PCXTKeyMapper.scancode keyCode).map .scancode
  else if isFlagsKey keyCode then (QEMUKeyMapper.modifierKeysym keyCode).map .keysym
  else ((QEMUKeyMapper.keysymForKeyCode keyCode).or (firstScalar characters)).map .keysym

/-- No twin of the modifier is held. -/
def ReleasedAlone (w : WindowedDisplay) (keyCode : UInt16) : Prop :=
  (QEMUKeyMapper.modifierFlag keyCode).isSome = true → ∀ key ∈ w.keyboard, key.keyCode ≠ keyCode →
    QEMUKeyMapper.modifierFlag key.keyCode ≠ QEMUKeyMapper.modifierFlag keyCode

/-- Over VNC, a key without a keysym of its own has the character it was pressed with. -/
def SameCharacter (w : WindowedDisplay) (keyCode : UInt16) (characters : Option String) : Prop :=
  w.runtime.spiceController = none → isFlagsKey keyCode = false →
    QEMUKeyMapper.keysymForKeyCode keyCode = none →
      ∀ key ∈ w.keyboard, key.keyCode = keyCode →
        firstScalar key.characters = firstScalar characters

/-- As long as keys reach the guest, each is released as it was pressed. -/
def Matched (w : WindowedDisplay) : KeyStep → Prop
  | .press _ _ => True
  | .repeats keyCode characters =>
    w.runtime.delivers = true → w.SameCharacter keyCode characters
  | .release keyCode characters =>
    w.runtime.delivers = true → w.ReleasedAlone keyCode ∧ w.SameCharacter keyCode characters
  | .releaseAll => True

/-- With no key held on the Mac, the guest holds none. -/
def NoStuckKeys (w : WindowedDisplay) : Prop := w.keyboard = [] → w.runtime.held = []

/-- What the guest holds are codes of keys held. -/
structure Covered (w : WindowedDisplay) : Prop where
  tracked : w.runtime.Tracked
  covered : ∀ c ∈ w.runtime.held, ∃ key ∈ w.keyboard,
    codeOf w.runtime.spiceController.isSome key.keyCode key.characters = some c

variable {w t : WindowedDisplay} {l : KeyStep}

theorem start_covered (view : DisplayView) (runtime : KeyRuntime) :
    (start view runtime).Covered := by
  have nothing : (start view runtime).runtime.held = [] := rfl
  constructor
  · unfold Tracked
    split
    · rw [nothing]
      intro c member
      cases member
    · exact nothing
    · rw [nothing]
      intro c member
      cases member
  · rw [nothing]
    intro c member
    cases member

theorem eventCode_keyEvent (spice : Bool) (held : List HeldKey) (keyCode : UInt16)
    (isDown isARepeat : Bool) (characters : Option String) :
    eventCode spice (keyEvent held keyCode isDown isARepeat characters) =
      codeOf spice keyCode characters := by
  unfold eventCode codeOf keyEvent QEMUKeyMapper.keysymForEvent
  cases spice with
  | true => rfl
  | false =>
    cases flags : isFlagsKey keyCode with
    | true => simp
    | false => cases isDown <;> simp

/-- The characters matter only to keys that have no keysym. -/
theorem SameCharacter.code {keyCode : UInt16} {characters : Option String}
    (same : w.SameCharacter keyCode characters) {key : HeldKey} (member : key ∈ w.keyboard)
    (pressed : key.keyCode = keyCode) :
    codeOf w.runtime.spiceController.isSome keyCode characters =
      codeOf w.runtime.spiceController.isSome key.keyCode key.characters := by
  rw [pressed]
  unfold codeOf
  cases connection : w.runtime.spiceController with
  | some controller => rfl
  | none =>
    simp only [Option.isSome_none, Bool.false_eq_true, if_false]
    cases flags : isFlagsKey keyCode with
    | true => rfl
    | false =>
      simp only [Bool.false_eq_true, if_false]
      cases table : QEMUKeyMapper.keysymForKeyCode keyCode with
      | some keysym => rfl
      | none => rw [same connection flags table key member pressed]

/-- A modifier released alone is not among the flags of its event. -/
theorem release_ends {keyCode : UInt16} (alone : w.ReleasedAlone keyCode)
    (characters : Option String) :
    EndsPress (keyEvent (without w.keyboard keyCode) keyCode false false characters) := by
  unfold EndsPress
  cases flags : isFlagsKey keyCode with
  | false =>
    left
    simp [keyEvent, flags]
  | true =>
    right
    refine ⟨by simp [keyEvent, flags], .inr ?_⟩
    unfold QEMUKeyMapper.isModifierDown
    simp only [keyEvent]
    cases mapped : QEMUKeyMapper.modifierFlag keyCode with
    | none => rfl
    | some flag =>
      obtain ⟨i, low, high, rfl⟩ := QEMUKeyMapper.modifierFlag_single mapped
      apply Bool.eq_false_iff.mpr
      intro down
      obtain ⟨other, member, twin⟩ := (impliedFlags_contains _ low high).mp down
      obtain ⟨key, listed, rfl⟩ := List.mem_map.mp member
      obtain ⟨stays, different⟩ := List.mem_filter.mp listed
      apply alone (by rw [mapped]; rfl) key stays (by simpa using different)
      rw [mapped]
      exact twin

/-- Nothing is held where nothing arrives. -/
theorem covered_of_silent (tracked : t.runtime.Tracked) (silent : t.runtime.delivers ≠ true) :
    t.Covered where
  tracked := tracked
  covered := fun _ member => absurd (tracked.delivers member) silent

theorem Covered.step (covered : w.Covered) (matched : w.Matched l)
    (taken : WindowedDisplay.step w l = some t) : t.Covered := by
  cases l with
  | press keyCode characters =>
    simp only [WindowedDisplay.step] at taken
    split at taken
    · contradiction
    · simp only [Option.some.injEq] at taken
      subst taken
      have pressed := deliver_pressed w.view w.runtime
        (keyEvent (⟨keyCode, characters⟩ :: w.keyboard) keyCode true false characters)
      rw [eventCode_keyEvent] at pressed
      refine ⟨pressed.tracked covered.tracked, fun c member => ?_⟩
      simp only [pressed.spice]
      rcases pressed.held covered.tracked c member with old | code
      · obtain ⟨key, listed, same⟩ := covered.covered c old
        exact ⟨key, List.mem_cons_of_mem _ listed, same⟩
      · exact ⟨⟨keyCode, characters⟩, List.mem_cons_self, code⟩
  | repeats keyCode characters =>
    simp only [WindowedDisplay.step] at taken
    split at taken
    · rename_i enabled
      simp only [Bool.and_eq_true] at enabled
      simp only [Option.some.injEq] at taken
      subst taken
      have pressed := deliver_pressed w.view w.runtime
        (keyEvent w.keyboard keyCode true true characters)
      rw [eventCode_keyEvent] at pressed
      by_cases arrives : w.runtime.delivers = true
      · refine ⟨pressed.tracked covered.tracked, fun c member => ?_⟩
        simp only [pressed.spice]
        rcases pressed.held covered.tracked c member with old | code
        · exact covered.covered c old
        · obtain ⟨key, listed, isKey⟩ := List.any_eq_true.mp enabled.1
          have pressedKey : key.keyCode = keyCode := by simpa using isKey
          refine ⟨key, listed, ?_⟩
          rw [← (matched arrives).code listed pressedKey]
          exact code
      · apply covered_of_silent (pressed.tracked covered.tracked)
        simp only [pressed.delivers]
        exact arrives
    · contradiction
  | release keyCode characters =>
    simp only [WindowedDisplay.step] at taken
    split at taken
    · simp only [Option.some.injEq] at taken
      subst taken
      by_cases arrives : w.runtime.delivers = true
      · obtain ⟨alone, sameCharacter⟩ := matched arrives
        have released := deliver_released w.view w.runtime (release_ends alone characters)
        rw [eventCode_keyEvent] at released
        refine ⟨released.tracked covered.tracked, fun c member => ?_⟩
        simp only [released.spice]
        obtain ⟨old, different⟩ := released.held covered.tracked c member
        obtain ⟨key, listed, code⟩ := covered.covered c old
        refine ⟨key, List.mem_filter.mpr ⟨listed, ?_⟩, code⟩
        apply decide_eq_true
        intro isKey
        apply different
        rw [sameCharacter.code listed isKey]
        exact code
      · have pressed := deliver_pressed w.view w.runtime
          (keyEvent (without w.keyboard keyCode) keyCode false false characters)
        apply covered_of_silent (pressed.tracked covered.tracked)
        simp only [pressed.delivers]
        exact arrives
    · contradiction
  | releaseAll =>
    simp only [WindowedDisplay.step] at taken
    simp only [Option.some.injEq] at taken
    subst taken
    obtain ⟨nothing, tracked, _⟩ := releaseAllKeys_released covered.tracked
    refine ⟨tracked, fun c member => ?_⟩
    rw [nothing] at member
    cases member

theorem Covered.noStuckKeys (covered : w.Covered) : w.NoStuckKeys := by
  intro released
  apply List.eq_nil_iff_forall_not_mem.mpr
  intro c member
  obtain ⟨key, listed, _⟩ := covered.covered c member
  rw [released] at listed
  cases listed

/-- **No stuck keys**: in every state of a run in which each key is released as it was pressed,
the guest holds no key when the user holds none. -/
theorem no_stuck_keys (view : DisplayView) (runtime : KeyRuntime) (steps : List KeyStep)
    (matched : Meets step Matched (start view runtime) steps) :
    Always step NoStuckKeys (start view runtime) steps :=
  always_of_meets (I := Covered) (V := fun _ => True)
    (fun _ _ _ covered _ matched taken => covered.step matched taken)
    (fun _ covered => covered.noStuckKeys) _ _ (start_covered view runtime)
    (fun _ _ => trivial) matched

/-- A runtime with a VNC connection. -/
def connected : KeyRuntime := ⟨none, true, false, [], [], []⟩

/-- Shift and A, released in the other order. -/
theorem no_stuck_keys_capital :
    Always step NoStuckKeys (start .framebuffer connected)
      [.press 56 none, .press 0 (some "A"), .release 56 none, .release 0 (some "a")] := by
  apply no_stuck_keys
  apply Meets.next rfl trivial
  apply Meets.next rfl trivial
  apply Meets.next rfl
  · intro _
    constructor
    · unfold ReleasedAlone
      decide +kernel
    · unfold SameCharacter
      decide +kernel
  apply Meets.next rfl
  · intro _
    constructor
    · unfold ReleasedAlone
      decide +kernel
    · unfold SameCharacter
      decide +kernel
  trivial

/-- Left Shift released under right Shift goes down once more, and stays so. -/
theorem twin_release_sticks :
    ¬ Always step NoStuckKeys (start .framebuffer connected)
      [.press 56 none, .press 60 none, .release 56 none, .release 60 none] := by
  intro always
  obtain ⟨t, executed⟩ : ∃ t, execute step (start .framebuffer connected)
      [.press 56 none, .press 60 none, .release 56 none, .release 60 none] = some t := ⟨_, rfl⟩
  have stuck := always.last (run_of_execute executed)
  cases executed
  unfold NoStuckKeys at stuck
  exact absurd stuck (by decide +kernel)

end WindowedDisplay

end SimpleVM.QEMU
