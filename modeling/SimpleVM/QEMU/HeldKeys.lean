import SimpleVM.QEMU.KeySink

/-!
# The keys a QEMU guest holds

What the runtime remembers covers what the guest holds: a keysym is among `pressedKeysyms`, a
scancode has its bit. From that follows what a press and a release of one key do.
-/
namespace SimpleVM.QEMU

open SimpleVM.Input

theorem heldAfter_append (messages later : List KeyMessage) :
    heldAfter (messages ++ later) = later.foldl applyMessage (heldAfter messages) := by
  unfold heldAfter
  rw [List.foldl_append]

theorem mem_applyMessage {held : List GuestCode} {message : KeyMessage} {code : GuestCode} :
    code ∈ applyMessage held message ↔
      (message.isDown = true ∧ code = message.code) ∨
        (code ∈ held ∧ (message.isDown = true ∨ code ≠ message.code)) := by
  unfold applyMessage
  split
  · rename_i down
    simp [down]
  · rename_i up
    simp [up]

namespace CSInput

/-- Every code held is one of this input, with its bit set. -/
def Tracks (input : CSInput) (held : List GuestCode) : Prop :=
  ∀ code ∈ held, ∃ scancode, code = .scancode scancode ∧ input.channel = true ∧
    input.disableInputs = false ∧ 0 < scancode ∧ scancode < 512 ∧
    input.keyState.getLsbD scancode = true

variable {input : CSInput} {held : List GuestCode} {scancode : Nat}

@[simp]
theorem sendKey_channel (input : CSInput) (isDown : Bool) (scancode : Nat) :
    (input.sendKey isDown scancode).1.channel = input.channel := by
  unfold sendKey
  repeat' split
  all_goals rfl

@[simp]
theorem sendKey_disableInputs (input : CSInput) (isDown : Bool) (scancode : Nat) :
    (input.sendKey isDown scancode).1.disableInputs = input.disableInputs := by
  unfold sendKey
  repeat' split
  all_goals rfl

/-- A key is sent only by an open input and in range. -/
theorem sendKey_cases (input : CSInput) (isDown : Bool) (scancode : Nat) :
    input.sendKey isDown scancode = (input, []) ∧
        (isDown = true ∨ ¬ (input.channel = true ∧ input.disableInputs = false ∧ 0 < scancode ∧
          scancode < 512 ∧ input.keyState.getLsbD scancode = true)) ∨
      (input.channel = true ∧ input.disableInputs = false ∧ 0 < scancode ∧ scancode < 512) ∧
        (isDown = true ∧ input.sendKey isDown scancode =
            ({ input with keyState := input.keyState ||| BitVec.twoPow 512 scancode },
              [⟨.scancode scancode, true⟩]) ∨
          isDown = false ∧ input.sendKey isDown scancode =
            ({ input with keyState := input.keyState &&& ~~~(BitVec.twoPow 512 scancode) },
              [⟨.scancode scancode, false⟩])) := by
  unfold sendKey
  by_cases zero : scancode = 0
  · left
    simp [zero]
  · by_cases closed : input.channel = true
    · by_cases disabled : input.disableInputs = true
      · left
        simp [zero, closed, disabled]
      · by_cases far : 16 ≤ scancode / 32
        · left
          have outside : ¬ scancode < 512 := by omega
          simp [zero, closed, disabled, far, outside]
        · have inside : scancode < 512 := by omega
          have positive : 0 < scancode := by omega
          cases isDown with
          | true =>
            right
            simp [zero, closed, disabled, far, inside, positive]
          | false =>
            cases bit : input.keyState.getLsbD scancode with
            | true =>
              right
              simp [zero, closed, disabled, far, inside, positive]
            | false =>
              left
              simp [zero, closed, disabled, far]
    · left
      simp [zero, closed]

theorem sendKey_press (tracks : input.Tracks held) (scancode : Nat) :
    (input.sendKey true scancode).1.Tracks
        ((input.sendKey true scancode).2.foldl applyMessage held) ∧
      ∀ code ∈ (input.sendKey true scancode).2.foldl applyMessage held,
        code ∈ held ∨ code = .scancode scancode := by
  rcases sendKey_cases input true scancode with ⟨kept, _⟩ | ⟨inside, ⟨_, sent⟩ | ⟨up, _⟩⟩
  · rw [kept]
    exact ⟨tracks, fun code member => .inl member⟩
  · rw [sent]
    simp only [List.foldl_cons, List.foldl_nil]
    constructor
    · intro code member
      rcases mem_applyMessage.mp member with ⟨_, rfl⟩ | ⟨old, _⟩
      · refine ⟨scancode, rfl, inside.1, inside.2.1, inside.2.2.1, inside.2.2.2, ?_⟩
        simp [inside.2.2.2]
      · obtain ⟨other, rfl, opened, enabled, low, high, bit⟩ := tracks code old
        refine ⟨other, rfl, opened, enabled, low, high, ?_⟩
        simp [bit]
    · intro code member
      rcases mem_applyMessage.mp member with ⟨_, rfl⟩ | ⟨old, _⟩
      · exact .inr rfl
      · exact .inl old
  · contradiction

theorem sendKey_release (tracks : input.Tracks held) (scancode : Nat) :
    (input.sendKey false scancode).1.Tracks
        ((input.sendKey false scancode).2.foldl applyMessage held) ∧
      ∀ code ∈ (input.sendKey false scancode).2.foldl applyMessage held,
        code ∈ held ∧ code ≠ .scancode scancode := by
  rcases sendKey_cases input false scancode with ⟨kept, silent⟩ | ⟨_, ⟨down, _⟩ | ⟨_, sent⟩⟩
  · rw [kept]
    refine ⟨tracks, fun code member => ⟨member, ?_⟩⟩
    rintro rfl
    obtain ⟨other, same, held⟩ := tracks _ member
    cases same
    rcases silent with down | silent
    · contradiction
    · exact silent held
  · contradiction
  · rw [sent]
    simp only [List.foldl_cons, List.foldl_nil]
    have remains : ∀ code ∈ applyMessage held ⟨.scancode scancode, false⟩,
        code ∈ held ∧ code ≠ .scancode scancode := by
      intro code member
      rcases mem_applyMessage.mp member with ⟨down, _⟩ | ⟨old, down | other⟩
      · contradiction
      · contradiction
      · exact ⟨old, other⟩
    refine ⟨fun code member => ?_, remains⟩
    obtain ⟨old, different⟩ := remains code member
    obtain ⟨other, rfl, opened, enabled, low, high, bit⟩ := tracks code old
    refine ⟨other, rfl, opened, enabled, low, high, ?_⟩
    have apart : other ≠ scancode := fun same => different (by rw [same])
    simp [bit, high, apart]

/-- The loop of `releaseKeys` takes up what it goes through. -/
theorem releaseKeys_spec (tracks : input.Tracks held) (scancodes : List Nat) :
    (input.releaseKeys scancodes).1.Tracks
        ((input.releaseKeys scancodes).2.foldl applyMessage held) ∧
      (∀ code ∈ (input.releaseKeys scancodes).2.foldl applyMessage held,
        code ∈ held ∧ ∀ scancode ∈ scancodes, code ≠ .scancode scancode) ∧
      (input.releaseKeys scancodes).1.channel = input.channel ∧
      (input.releaseKeys scancodes).1.disableInputs = input.disableInputs := by
  induction scancodes generalizing input held with
  | nil =>
    refine ⟨tracks, fun code member => ⟨member, ?_⟩, rfl, rfl⟩
    intro scancode none
    cases none
  | cons scancode rest ih =>
    unfold releaseKeys
    by_cases zero : scancode = 0
    · simp only [zero, if_true, List.nil_append]
      obtain ⟨stays, subset, opened, enabled⟩ := ih tracks
      refine ⟨stays, fun code member => ⟨(subset code member).1, ?_⟩, opened, enabled⟩
      intro other listed
      rcases List.mem_cons.mp listed with rfl | listed
      · rintro rfl
        -- No key has the scancode 0.
        obtain ⟨found, same, _, _, positive, _⟩ := tracks _ (subset _ member).1
        cases same
        omega
      · exact (subset code member).2 other listed
    · simp only [zero, if_false, List.foldl_append]
      obtain ⟨tracked, first⟩ := sendKey_release tracks scancode
      obtain ⟨stays, subset, opened, enabled⟩ := ih tracked
      rw [sendKey_channel] at opened
      rw [sendKey_disableInputs] at enabled
      refine ⟨stays, fun code member => ?_, opened, enabled⟩
      obtain ⟨old, others⟩ := subset code member
      obtain ⟨before, different⟩ := first code old
      refine ⟨before, fun other listed => ?_⟩
      rcases List.mem_cons.mp listed with rfl | listed
      · exact different
      · exact others other listed

end CSInput

namespace KeyRuntime

/-- What the guest holds. -/
def held (r : KeyRuntime) : List GuestCode := heldAfter r.sent

/-- What is sent arrives. -/
def delivers (r : KeyRuntime) : Bool :=
  match r.spiceController with
  | none => r.vncClient
  | some ⟨none⟩ => false
  | some ⟨some input⟩ => input.channel && !input.disableInputs

/-- The runtime knows of every code the guest holds. -/
def Tracked (r : KeyRuntime) : Prop :=
  match r.spiceController with
  | none => ∀ code ∈ r.held, ∃ keysym, code = .keysym keysym ∧ r.vncClient = true ∧
      keysym ∈ r.pressedKeysyms
  | some ⟨none⟩ => r.held = []
  | some ⟨some input⟩ => input.Tracks r.held

/-- The guest may hold `code` afterwards. -/
structure Pressed (r r' : KeyRuntime) (code : Option GuestCode) : Prop where
  spice : r'.spiceController.isSome = r.spiceController.isSome
  delivers : r'.delivers = r.delivers
  tracked : r.Tracked → r'.Tracked
  held : r.Tracked → ∀ c ∈ r'.held, c ∈ r.held ∨ code = some c

/-- The guest does not hold `code` afterwards, and nothing it did not hold. -/
structure Released (r r' : KeyRuntime) (code : Option GuestCode) : Prop where
  spice : r'.spiceController.isSome = r.spiceController.isSome
  delivers : r'.delivers = r.delivers
  tracked : r.Tracked → r'.Tracked
  held : r.Tracked → ∀ c ∈ r'.held, c ∈ r.held ∧ code ≠ some c

variable {r r' s : KeyRuntime} {code other : Option GuestCode}

theorem Tracked.delivers (tracked : r.Tracked) {c : GuestCode} (member : c ∈ r.held) :
    r.delivers = true := by
  unfold Tracked at tracked
  unfold KeyRuntime.delivers
  split at tracked
  · rename_i absent
    obtain ⟨_, _, connected, _⟩ := tracked c member
    simp [connected]
  · rw [tracked] at member
    cases member
  · rename_i input present
    obtain ⟨_, _, opened, enabled, _⟩ := tracked c member
    simp [opened, enabled]

theorem Pressed.refl (r : KeyRuntime) (code : Option GuestCode) : Pressed r r code where
  spice := rfl
  delivers := rfl
  tracked := id
  held := fun _ _ member => .inl member

theorem Released.refl (r : KeyRuntime) : Released r r none where
  spice := rfl
  delivers := rfl
  tracked := id
  held := by
    intro _ c member
    refine ⟨member, ?_⟩
    intro same
    cases same

theorem Released.pressed (released : Released r r' code) (other : Option GuestCode) :
    Pressed r r' other where
  spice := released.spice
  delivers := released.delivers
  tracked := released.tracked
  held := fun tracked c member => .inl (released.held tracked c member).1

/-- What is pressed and released again is not held. -/
theorem Pressed.released (pressed : Pressed r r' code) (released : Released r' s code) :
    Released r s code where
  spice := released.spice.trans pressed.spice
  delivers := released.delivers.trans pressed.delivers
  tracked := fun tracked => released.tracked (pressed.tracked tracked)
  held := by
    intro tracked c member
    obtain ⟨between, different⟩ := released.held (pressed.tracked tracked) c member
    rcases pressed.held tracked c between with before | same
    · exact ⟨before, different⟩
    · exact absurd same different

/-- A later release takes nothing back from what may be held. -/
theorem Pressed.followed (pressed : Pressed r r' code) (released : Released r' s other) :
    Pressed r s code where
  spice := released.spice.trans pressed.spice
  delivers := released.delivers.trans pressed.delivers
  tracked := fun tracked => released.tracked (pressed.tracked tracked)
  held := fun tracked c member =>
    pressed.held tracked c (released.held (pressed.tracked tracked) c member).1

section Fields

theorem answered_cases (r : KeyRuntime) (keyCode : UInt16) (isDown : Bool) :
    ∃ asked, r.answered keyCode isDown = { r with requiresDiskPassword := asked } := by
  unfold answered
  split
  · exact ⟨false, rfl⟩
  · exact ⟨r.requiresDiskPassword, rfl⟩

/-- The question for the password has nothing to do with keys. -/
theorem Pressed.answered_after (pressed : Pressed r r' code) (keyCode : UInt16) (isDown : Bool) :
    Pressed r (r'.answered keyCode isDown) code := by
  obtain ⟨asked, shape⟩ := answered_cases r' keyCode isDown
  rw [shape]
  exact ⟨pressed.spice, pressed.delivers, pressed.tracked, pressed.held⟩

theorem Released.answered_after (released : Released r r' code) (keyCode : UInt16)
    (isDown : Bool) : Released r (r'.answered keyCode isDown) code := by
  obtain ⟨asked, shape⟩ := answered_cases r' keyCode isDown
  rw [shape]
  exact ⟨released.spice, released.delivers, released.tracked, released.held⟩

theorem Pressed.answered_before {keyCode : UInt16} {isDown : Bool}
    (pressed : Pressed (r.answered keyCode isDown) r' code) : Pressed r r' code := by
  obtain ⟨asked, shape⟩ := answered_cases r keyCode isDown
  rw [shape] at pressed
  exact ⟨pressed.spice, pressed.delivers, pressed.tracked, pressed.held⟩

theorem Released.answered_before {keyCode : UInt16} {isDown : Bool}
    (released : Released (r.answered keyCode isDown) r' code) : Released r r' code := by
  obtain ⟨asked, shape⟩ := answered_cases r keyCode isDown
  rw [shape] at released
  exact ⟨released.spice, released.delivers, released.tracked, released.held⟩

end Fields

section VNC

variable {keysym : UInt32} {codes : List UInt16}

/-- A keysym is remembered and sent down. -/
theorem sendKey_down (absent : r.spiceController = none)
    (remembered : ∀ k, k = keysym ∨ k ∈ r.pressedKeysyms → k ∈ r'.pressedKeysyms)
    (same : r' = { r with
      pressedKeysyms := r'.pressedKeysyms
      pressedModifierKeyCodes := r'.pressedModifierKeyCodes }) :
    Pressed r (r'.sendKey keysym true) (some (.keysym keysym)) := by
  rw [same]
  unfold sendKey
  by_cases connected : r.vncClient = true
  · rw [if_pos connected]
    have member_iff : ∀ c, c ∈ heldAfter (r.sent ++ [⟨.keysym keysym, true⟩]) ↔
        c = .keysym keysym ∨ c ∈ r.held := by
      intro c
      rw [heldAfter_append]
      simp [applyMessage, KeyRuntime.held]
    refine ⟨rfl, ?_, ?_, ?_⟩
    · simp [KeyRuntime.delivers, absent]
    · intro tracked
      simp only [Tracked, absent] at tracked ⊢
      intro c member
      rcases (member_iff c).mp member with rfl | old
      · exact ⟨keysym, rfl, connected, remembered keysym (.inl rfl)⟩
      · obtain ⟨k, rfl, _, known⟩ := tracked c old
        exact ⟨k, rfl, connected, remembered k (.inr known)⟩
    · intro _ c member
      rcases (member_iff c).mp member with rfl | old
      · exact .inr rfl
      · exact .inl old
  · rw [if_neg connected]
    refine ⟨rfl, ?_, ?_, fun _ c member => .inl member⟩
    · simp [KeyRuntime.delivers, absent]
    · intro tracked
      simp only [Tracked, absent] at tracked ⊢
      intro c member
      obtain ⟨k, rfl, sending, known⟩ := tracked c member
      exact ⟨k, rfl, sending, remembered k (.inr known)⟩

/-- A keysym is forgotten, if at all, and sent up. -/
theorem sendKey_up (absent : r.spiceController = none)
    (remembered : ∀ k, k ≠ keysym → k ∈ r.pressedKeysyms → k ∈ r'.pressedKeysyms)
    (same : r' = { r with
      pressedKeysyms := r'.pressedKeysyms
      pressedModifierKeyCodes := r'.pressedModifierKeyCodes }) :
    Released r (r'.sendKey keysym false) (some (.keysym keysym)) := by
  rw [same]
  unfold sendKey
  by_cases connected : r.vncClient = true
  · rw [if_pos connected]
    have member_iff : ∀ c, c ∈ heldAfter (r.sent ++ [⟨.keysym keysym, false⟩]) ↔
        c ∈ r.held ∧ c ≠ .keysym keysym := by
      intro c
      rw [heldAfter_append]
      simp [applyMessage, KeyRuntime.held]
    refine ⟨rfl, ?_, ?_, ?_⟩
    · simp [KeyRuntime.delivers, absent]
    · intro tracked
      simp only [Tracked, absent] at tracked ⊢
      intro c member
      obtain ⟨old, different⟩ := (member_iff c).mp member
      obtain ⟨k, rfl, _, known⟩ := tracked c old
      refine ⟨k, rfl, connected, remembered k ?_ known⟩
      rintro rfl
      exact different rfl
    · intro _ c member
      obtain ⟨old, different⟩ := (member_iff c).mp member
      refine ⟨old, ?_⟩
      rintro ⟨rfl⟩
      exact different rfl
  · rw [if_neg connected]
    -- Without a client the guest holds nothing.
    have empty : r.Tracked → ∀ c, c ∉ r.held := by
      intro tracked c member
      simp only [Tracked, absent] at tracked
      obtain ⟨_, _, sending, _⟩ := tracked c member
      exact connected sending
    refine ⟨rfl, ?_, ?_, fun tracked c member => absurd member (empty tracked c)⟩
    · simp [KeyRuntime.delivers, absent]
    · intro tracked
      simp only [Tracked, absent]
      intro c member
      exact absurd member (empty tracked c)

end VNC

section SPICE

variable {controller : SPICEKeys} {event : GuestKeyEvent}

theorem sendSPICEKey_down (present : r.spiceController = some controller)
    (down : event.isDown = true) :
    Pressed r (r.sendSPICEKey controller event)
      ((PCXTKeyMapper.scancode event.keyCode).map .scancode) := by
  unfold sendSPICEKey
  cases PCXTKeyMapper.scancode event.keyCode with
  | none => exact .refl r _
  | some scancode =>
    obtain ⟨input⟩ := controller
    cases input with
    | none => exact .refl r _
    | some input =>
      rw [down]
      refine ⟨?_, ?_, ?_, ?_⟩
      · simp [present]
      · simp [KeyRuntime.delivers, present]
      · intro tracked
        simp only [Tracked, present, KeyRuntime.held, heldAfter_append] at tracked ⊢
        exact (CSInput.sendKey_press tracked scancode).1
      · intro tracked c member
        simp only [Tracked, present, KeyRuntime.held, heldAfter_append] at tracked member ⊢
        rcases (CSInput.sendKey_press tracked scancode).2 c member with old | rfl
        · exact .inl old
        · exact .inr rfl

theorem sendSPICEKey_up (present : r.spiceController = some controller)
    (up : event.isDown = false) :
    Released r (r.sendSPICEKey controller event)
      ((PCXTKeyMapper.scancode event.keyCode).map .scancode) := by
  unfold sendSPICEKey
  cases PCXTKeyMapper.scancode event.keyCode with
  | none => exact .refl r
  | some scancode =>
    obtain ⟨input⟩ := controller
    cases input with
    | none =>
      refine ⟨rfl, rfl, id, fun tracked c member => ?_⟩
      simp only [Tracked, present] at tracked
      rw [tracked] at member
      cases member
    | some input =>
      rw [up]
      refine ⟨?_, ?_, ?_, ?_⟩
      · simp [present]
      · simp [KeyRuntime.delivers, present]
      · intro tracked
        simp only [Tracked, present, KeyRuntime.held, heldAfter_append] at tracked ⊢
        exact (CSInput.sendKey_release tracked scancode).1
      · intro tracked c member
        simp only [Tracked, present, KeyRuntime.held, heldAfter_append] at tracked member ⊢
        obtain ⟨old, different⟩ := (CSInput.sendKey_release tracked scancode).2 c member
        refine ⟨old, ?_⟩
        rintro ⟨rfl⟩
        exact different rfl

end SPICE

end KeyRuntime

end SimpleVM.QEMU
