import SimpleVM.Input.GuestInputRouter

/-!
# Replaying a keyboard

The modifiers a guest holds after some events, and what it takes for events to make sense to it:
a modifier goes down only when it is up and up only when it is down, and a key goes down while
the modifiers of its chord are held.
-/
namespace SimpleVM.Input

/-- The modifiers held after an event. -/
def applyEvent (held : ModifierFlags) (e : GuestKeyEvent) : ModifierFlags :=
  if e.isModifier then
    match QEMUKeyMapper.modifierFlag e.keyCode with
    | some flag => if e.isDown then held.union flag else held.subtracting flag
    | none => held
  else held

def replay (held : ModifierFlags) (events : List GuestKeyEvent) : ModifierFlags :=
  events.foldl applyEvent held

/-- The event makes sense to a guest that holds `held`. -/
def Proper (held : ModifierFlags) (e : GuestKeyEvent) : Prop :=
  (e.isModifier = true →
    ∃ flag, (flag, e.keyCode) ∈ modifierKeys ∧ e.isDown = !held.contains flag) ∧
  (e.isModifier = false → e.isDown = true → held.contains e.modifiers = true)

/-- Each event makes sense where it comes. -/
def Fits : ModifierFlags → List GuestKeyEvent → Prop
  | _, [] => True
  | held, e :: rest => Proper held e ∧ Fits (applyEvent held e) rest

/-- How often a key or a modifier was emitted one way. -/
def emissions (isModifier isDown : Bool) (keyCode : UInt16) (events : List GuestKeyEvent) : Nat :=
  events.countP fun e =>
    decide (e.isModifier = isModifier ∧ e.isDown = isDown ∧ e.keyCode = keyCode)

/-- Modifier events that lead from one set of modifiers to another. -/
structure Synchronizes (held after : ModifierFlags) (events : List GuestKeyEvent) : Prop where
  fits : Fits held events
  replayed : replay held events = after
  modifiers : ∀ e ∈ events, e.isModifier = true

variable {held after last target current : ModifierFlags} {events later : List GuestKeyEvent}
  {e : GuestKeyEvent} {keys : List (ModifierFlags × UInt16)} {i : Nat}

theorem replay_append (held : ModifierFlags) (events later : List GuestKeyEvent) :
    replay held (events ++ later) = replay (replay held events) later := by
  unfold replay
  rw [List.foldl_append]

theorem fits_append : Fits held (events ++ later) ↔
    Fits held events ∧ Fits (replay held events) later := by
  induction events generalizing held with
  | nil => simp [Fits, replay]
  | cons e events ih =>
    simp only [List.cons_append, Fits, ih, and_assoc]
    rfl

theorem Fits.proper (fits : Fits held events) {front rest : List GuestKeyEvent}
    (split : events = front ++ e :: rest) : Proper (replay held front) e := by
  subst split
  exact (fits_append.mp fits).2.1

theorem Synchronizes.refl (held : ModifierFlags) : Synchronizes held held [] where
  fits := trivial
  replayed := rfl
  modifiers := by
    intro e member
    cases member

theorem Synchronizes.append (first : Synchronizes held after events)
    (second : Synchronizes after last later) : Synchronizes held last (events ++ later) where
  fits := by
    rw [fits_append, first.replayed]
    exact ⟨first.fits, second.fits⟩
  replayed := by
    rw [replay_append, first.replayed]
    exact second.replayed
  modifiers := by
    intro e member
    rcases List.mem_append.mp member with member | member
    · exact first.modifiers e member
    · exact second.modifiers e member

theorem Synchronizes.cons (proper : Proper held e) (isModifier : e.isModifier = true)
    (rest : Synchronizes (applyEvent held e) after events) :
    Synchronizes held after (e :: events) where
  fits := ⟨proper, rest.fits⟩
  replayed := rest.replayed
  modifiers := by
    intro other member
    rcases List.mem_cons.mp member with rfl | member
    · exact isModifier
    · exact rest.modifiers other member

/-- A modifier event is neither a press nor a release of a key. -/
theorem emissions_of_modifiers (modifiers : ∀ e ∈ events, e.isModifier = true) (isDown : Bool)
    (keyCode : UInt16) : emissions false isDown keyCode events = 0 := by
  apply List.countP_eq_zero.mpr
  intro e member
  simp [modifiers e member]

theorem emissions_append (isModifier isDown : Bool) (keyCode : UInt16)
    (events later : List GuestKeyEvent) :
    emissions isModifier isDown keyCode (events ++ later) =
      emissions isModifier isDown keyCode events + emissions isModifier isDown keyCode later :=
  List.countP_append

/-- Each key has one flag, of one bit, and its key code is mapped to it. -/
theorem modifierKeys_spec {flag : ModifierFlags} {keyCode : UInt16}
    (listed : (flag, keyCode) ∈ modifierKeys) :
    QEMUKeyMapper.modifierFlag keyCode = some flag ∧
      ∃ i, 17 ≤ i ∧ i ≤ 20 ∧ flag = ModifierFlags.single i := by
  simp only [modifierKeys, List.mem_cons, Prod.mk.injEq, List.not_mem_nil, or_false] at listed
  rcases listed with ⟨rfl, rfl⟩ | ⟨rfl, rfl⟩ | ⟨rfl, rfl⟩ | ⟨rfl, rfl⟩
  · exact ⟨by decide, 18, by decide, by decide, rfl⟩
  · exact ⟨by decide, 19, by decide, by decide, rfl⟩
  · exact ⟨by decide, 17, by decide, by decide, rfl⟩
  · exact ⟨by decide, 20, by decide, by decide, rfl⟩

/-- Every modifier is among the keys. -/
theorem modifierKeys_all (low : 17 ≤ i) (high : i ≤ 20) :
    modifierKeys.any (fun key => decide (key.1 = ModifierFlags.single i)) = true := by
  have cases_ : i = 17 ∨ i = 18 ∨ i = 19 ∨ i = 20 := by omega
  rcases cases_ with rfl | rfl | rfl | rfl <;> decide

theorem single_injective {j : Nat} (bound : i < 64)
    (same : ModifierFlags.single i = ModifierFlags.single j) : i = j := by
  have bits := congrArg (fun flags => flags.rawValue.getLsbD i) same
  simp only [ModifierFlags.single, BitVec.getLsbD_twoPow] at bits
  simp only [bound, decide_true, Bool.and_true] at bits
  by_cases equal : j = i
  · exact equal.symm
  · simp [equal] at bits

theorem single_differs {j : Nat} (bound : i < 64) (different : ¬i = j) :
    decide (ModifierFlags.single i = ModifierFlags.single j) = false := by
  apply decide_eq_false
  exact fun equal => different (single_injective bound equal)

theorem subtracting_normalized (flag : ModifierFlags) (normal : current.normalized = current) :
    (current.subtracting flag).normalized = current.subtracting flag := by
  apply ModifierFlags.ext_bits
  intro i
  have bit := congrArg (fun flags => flags.rawValue.getLsbD i) normal
  simp only [ModifierFlags.normalized_bit] at bit
  rw [ModifierFlags.normalized_bit]
  simp only [ModifierFlags.subtracting, BitVec.getLsbD_and]
  cases range : decide (17 ≤ i ∧ i ≤ 20) with
  | true => simp
  | false =>
    rw [range, Bool.and_false] at bit
    simp [← bit]

theorem union_normalized (low : 17 ≤ i) (high : i ≤ 20) (normal : current.normalized = current) :
    (current.union (ModifierFlags.single i)).normalized =
      current.union (ModifierFlags.single i) := by
  apply ModifierFlags.ext_bits
  intro j
  have bit := congrArg (fun flags => flags.rawValue.getLsbD j) normal
  simp only [ModifierFlags.normalized_bit] at bit
  rw [ModifierFlags.normalized_bit]
  simp only [ModifierFlags.union, ModifierFlags.single, BitVec.getLsbD_or, BitVec.getLsbD_twoPow]
  by_cases same : i = j
  · subst same
    simp [low, high]
  · cases range : decide (17 ≤ j ∧ j ≤ 20) with
    | true => simp
    | false =>
      rw [range, Bool.and_false] at bit
      simp [same, ← bit]

/-- The first loop takes away what is not wanted. -/
theorem releaseModifiers_spec (target : ModifierFlags) (keys : List (ModifierFlags × UInt16))
    (current : ModifierFlags) (listed : ∀ key ∈ keys, key ∈ modifierKeys)
    (normal : current.normalized = current) :
    Synchronizes current (releaseModifiers target keys current).1
        (releaseModifiers target keys current).2 ∧
      (releaseModifiers target keys current).1.normalized =
        (releaseModifiers target keys current).1 ∧
      ∀ i, 17 ≤ i → i ≤ 20 →
        (releaseModifiers target keys current).1.contains (.single i) =
          (current.contains (.single i) && (target.contains (.single i) ||
            !keys.any fun key => decide (key.1 = .single i))) := by
  -- On the keys, for any current flags: a key that is lifted takes its bit away before the rest are
  -- gone through, and a key that is not leaves the flags.
  induction keys generalizing current with
  | nil =>
    refine ⟨.refl current, normal, fun i _ _ => ?_⟩
    simp [releaseModifiers]
  | cons key keys ih =>
    obtain ⟨flag, keyCode⟩ := key
    have here := listed _ List.mem_cons_self
    obtain ⟨mapped, bit, low, high, isSingle⟩ := modifierKeys_spec here
    have rest : ∀ key ∈ keys, key ∈ modifierKeys :=
      fun key member => listed key (List.mem_cons_of_mem _ member)
    unfold releaseModifiers
    split
    · rename_i lifted
      simp only [Bool.and_eq_true, Bool.not_eq_true'] at lifted
      obtain ⟨steps, stays, bits⟩ :=
        ih (current.subtracting flag) rest (subtracting_normalized flag normal)
      have up : (current.subtracting flag).contains flag = false := by
        rw [isSingle, ModifierFlags.subtracting_contains (by omega) (by omega)]
        simp
      have applied : applyEvent current (emitModifier keyCode (current.subtracting flag)) =
          current.subtracting flag := by
        simp [applyEvent, emitModifier, mapped, up]
      refine ⟨.cons ⟨fun _ => ⟨flag, here, ?_⟩, fun key => ?_⟩ rfl ?_, stays, ?_⟩
      · simp [emitModifier, mapped, up, lifted.1]
      · cases key
      · rw [applied]
        exact steps
      · intro i lowI highI
        rw [bits i lowI highI, isSingle,
          ModifierFlags.subtracting_contains (by omega) (by omega), List.any_cons]
        by_cases same : bit = i
        · subst same
          rw [isSingle] at lifted
          simp [lifted.2]
        · have other := single_differs (by omega) same
          simp [same, other]
    · rename_i wanted
      obtain ⟨steps, stays, bits⟩ := ih current rest normal
      refine ⟨steps, stays, fun i lowI highI => ?_⟩
      rw [bits i lowI highI, isSingle, List.any_cons]
      by_cases same : bit = i
      · subst same
        rw [isSingle] at wanted
        cases held : current.contains (.single bit) with
        | false => simp
        | true =>
          rw [held] at wanted
          have kept : target.contains (.single bit) = true := by simpa using wanted
          simp [kept]
      · have other := single_differs (by omega) same
        simp [other]

/-- The second loop adds what is wanted. -/
theorem pressModifiers_spec (target : ModifierFlags) (keys : List (ModifierFlags × UInt16))
    (current : ModifierFlags) (listed : ∀ key ∈ keys, key ∈ modifierKeys)
    (normal : current.normalized = current) :
    Synchronizes current (pressModifiers target keys current).1
        (pressModifiers target keys current).2 ∧
      (pressModifiers target keys current).1.normalized =
        (pressModifiers target keys current).1 ∧
      ∀ i, 17 ≤ i → i ≤ 20 →
        (pressModifiers target keys current).1.contains (.single i) =
          (current.contains (.single i) || (target.contains (.single i) &&
            keys.any fun key => decide (key.1 = .single i))) := by
  -- As for the releases, with each key that is pressed adding its bit.
  induction keys generalizing current with
  | nil =>
    refine ⟨.refl current, normal, fun i _ _ => ?_⟩
    simp [pressModifiers]
  | cons key keys ih =>
    obtain ⟨flag, keyCode⟩ := key
    have here := listed _ List.mem_cons_self
    obtain ⟨mapped, bit, low, high, isSingle⟩ := modifierKeys_spec here
    have rest : ∀ key ∈ keys, key ∈ modifierKeys :=
      fun key member => listed key (List.mem_cons_of_mem _ member)
    unfold pressModifiers
    split
    · rename_i pressed
      simp only [Bool.and_eq_true, Bool.not_eq_true'] at pressed
      have normalNext : (current.union flag).normalized = current.union flag := by
        rw [isSingle]
        exact union_normalized low high normal
      obtain ⟨steps, stays, bits⟩ := ih (current.union flag) rest normalNext
      have down : (current.union flag).contains flag = true := by
        rw [isSingle, ModifierFlags.union_contains (by omega) (by omega)]
        simp
      have applied : applyEvent current (emitModifier keyCode (current.union flag)) =
          current.union flag := by
        simp [applyEvent, emitModifier, mapped, down]
      refine ⟨.cons ⟨fun _ => ⟨flag, here, ?_⟩, fun key => ?_⟩ rfl ?_, stays, ?_⟩
      · simp [emitModifier, mapped, down, pressed.1]
      · cases key
      · rw [applied]
        exact steps
      · intro i lowI highI
        rw [bits i lowI highI, isSingle, ModifierFlags.union_contains (by omega) (by omega),
          List.any_cons]
        by_cases same : bit = i
        · subst same
          rw [isSingle] at pressed
          simp [pressed.2]
        · have other := single_differs (by omega) same
          simp [same, other]
    · rename_i kept
      obtain ⟨steps, stays, bits⟩ := ih current rest normal
      refine ⟨steps, stays, fun i lowI highI => ?_⟩
      rw [bits i lowI highI, isSingle, List.any_cons]
      by_cases same : bit = i
      · subst same
        rw [isSingle] at kept
        cases held : current.contains (.single bit) with
        | true => simp
        | false =>
          rw [held] at kept
          have unwanted : target.contains (.single bit) = false := by simpa using kept
          simp [unwanted]
      · have other := single_differs (by omega) same
        simp [other]

/-- `synchronizeGuestModifiers` leads to its target. -/
theorem synchronize_spec (r : GuestInputRouter) (additional : ModifierFlags)
    (normal : r.guestModifierFlags.normalized = r.guestModifierFlags) :
    (r.synchronizeGuestModifiers additional).1 =
        { r with guestModifierFlags := r.target additional } ∧
      Synchronizes r.guestModifierFlags (r.target additional)
        (r.synchronizeGuestModifiers additional).2 := by
  refine ⟨rfl, ?_⟩
  obtain ⟨releases, lowered, lowBits⟩ := releaseModifiers_spec (r.target additional) modifierKeys
    r.guestModifierFlags (fun _ listed => listed) normal
  obtain ⟨presses, raised, highBits⟩ := pressModifiers_spec (r.target additional) modifierKeys
    (releaseModifiers (r.target additional) modifierKeys r.guestModifierFlags).1
    (fun _ listed => listed) lowered
  have reached : (pressModifiers (r.target additional) modifierKeys
      (releaseModifiers (r.target additional) modifierKeys r.guestModifierFlags).1).1 =
      r.target additional := by
    apply ModifierFlags.eq_of_normalized raised
    · exact ModifierFlags.normalized_normalized _
    · intro i low high
      rw [highBits i low high, lowBits i low high, modifierKeys_all low high]
      cases (r.target additional).contains (.single i) <;> simp
  rw [reached] at presses
  exact releases.append presses

end SimpleVM.Input
