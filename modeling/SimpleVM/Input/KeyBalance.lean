import SimpleVM.Input.KeyReplay
import SimpleVM.Transition.Run

/-!
# Balance of the guest keyboard

Every operation of the router, from a router whose modifiers are those its sources ask for, emits
events that make sense to the guest and leads to such a router again, with as many keys more down
as chords are active more.
-/
namespace SimpleVM.Input

open Transition

namespace GuestInputRouter

/-- How many active chords hold a key down. -/
def holders (r : GuestInputRouter) (keyCode : UInt16) : Nat :=
  r.activeChords.countP fun entry => decide (entry.2.keyCode = keyCode)

/-- The guest holds what the chords, the pointer and the latch ask for. -/
structure Settled (r : GuestInputRouter) : Prop where
  flags : r.guestModifierFlags = r.target .empty
  distinct : (r.activeChords.map Prod.fst).Nodup

/-- What an operation that emits `events` does. -/
structure Moves (r t : GuestInputRouter) (events : List GuestKeyEvent) : Prop where
  settled : t.Settled
  fits : Fits r.guestModifierFlags events
  replayed : replay r.guestModifierFlags events = t.guestModifierFlags
  keys : ∀ keyCode, emissions false true keyCode events + r.holders keyCode =
    emissions false false keyCode events + t.holders keyCode

variable {r t u : GuestInputRouter} {events later : List GuestKeyEvent}

theorem target_normalized (r : GuestInputRouter) (additional : ModifierFlags) :
    (r.target additional).normalized = r.target additional :=
  ModifierFlags.normalized_normalized _

theorem Settled.normalized (settled : r.Settled) :
    r.guestModifierFlags.normalized = r.guestModifierFlags := by
  rw [settled.flags]
  exact target_normalized r .empty

/-- The modifiers of the active chords together. -/
theorem chords_bit (chords : List (UInt16 × GuestChord)) (start : ModifierFlags) (i : Nat) :
    (chords.foldl (fun result entry => ModifierFlags.union result entry.2.modifiers)
      start).rawValue.getLsbD i = true ↔
      start.rawValue.getLsbD i = true ∨
        ∃ entry ∈ chords, entry.2.modifiers.rawValue.getLsbD i = true := by
  induction chords generalizing start with
  | nil => simp
  | cons entry chords ih =>
    rw [List.foldl_cons, ih]
    simp only [ModifierFlags.union, BitVec.getLsbD_or, Bool.or_eq_true, List.mem_cons]
    constructor
    · rintro ((first | here) | ⟨other, member, set⟩)
      · exact .inl first
      · exact .inr ⟨entry, .inl rfl, here⟩
      · exact .inr ⟨other, .inr member, set⟩
    · rintro (first | ⟨other, rfl | member, set⟩)
      · exact .inl (.inl first)
      · exact .inl (.inr set)
      · exact .inr ⟨other, member, set⟩

/-- A modifier is wanted if one of the four sources asks for it. -/
theorem target_bit (r : GuestInputRouter) (additional : ModifierFlags) (i : Nat) :
    (r.target additional).rawValue.getLsbD i = true ↔
      ((∃ entry ∈ r.activeChords, entry.2.modifiers.rawValue.getLsbD i = true) ∨
        r.pointerModifierFlags.rawValue.getLsbD i = true ∨
        (r.hostModifierFlags.isEmpty = false ∧
          r.latchedModifierFlags.rawValue.getLsbD i = true) ∨
        additional.rawValue.getLsbD i = true) ∧ 17 ≤ i ∧ i ≤ 20 := by
  have none_ : ModifierFlags.empty.rawValue.getLsbD i = false := by simp [ModifierFlags.empty]
  unfold target
  simp only [ModifierFlags.normalized_bit, Bool.and_eq_true, decide_eq_true_eq]
  rw [ModifierFlags.union, ModifierFlags.union, ModifierFlags.union]
  simp only [BitVec.getLsbD_or, Bool.or_eq_true, chords_bit, none_]
  cases r.hostModifierFlags.isEmpty with
  | true => simp [none_, or_assoc]
  | false => simp [or_assoc]

/-- A lookup that finds something takes one entry away with it. -/
theorem countP_removeValue {Value : Type} (dictionary : List (UInt16 × Value)) {key : UInt16}
    {value : Value} (distinct : (dictionary.map Prod.fst).Nodup)
    (found : dictionary.lookup key = some value) (p : Value → Bool) :
    dictionary.countP (fun entry => p entry.2) =
      (removeValue dictionary key).countP (fun entry => p entry.2) + if p value then 1 else 0 := by
  induction dictionary with
  | nil => cases found
  | cons entry rest ih =>
    obtain ⟨k, v⟩ := entry
    simp only [List.map_cons, List.nodup_cons] at distinct
    by_cases same : k = key
    · subst same
      simp only [List.lookup_cons, beq_self_eq_true, Option.some.injEq] at found
      subst found
      have untouched : removeValue rest k = rest := by
        apply List.filter_eq_self.mpr
        intro other member
        have apart : other.1 ≠ k := by
          rintro rfl
          exact distinct.1 (List.mem_map_of_mem member)
        simpa using apart
      have gone : removeValue ((k, v) :: rest) k = removeValue rest k := by simp [removeValue]
      rw [gone, untouched, List.countP_cons]
    · have differs : (key == k) = false := by simpa using fun equal => same equal.symm
      rw [List.lookup_cons, differs] at found
      have kept : removeValue ((k, v) :: rest) key = (k, v) :: removeValue rest key := by
        simp [removeValue, same]
      rw [kept, List.countP_cons, List.countP_cons, ih distinct.2 found]
      omega

theorem nodup_removeValue {Value : Type} {dictionary : List (UInt16 × Value)} (key : UInt16)
    (distinct : (dictionary.map Prod.fst).Nodup) :
    ((removeValue dictionary key).map Prod.fst).Nodup := by
  unfold removeValue
  exact (List.filter_sublist.map Prod.fst).nodup distinct

theorem lookup_none {Value : Type} {dictionary : List (UInt16 × Value)} {key : UInt16}
    (absent : dictionary.lookup key = none) : key ∉ dictionary.map Prod.fst := by
  intro member
  obtain ⟨entry, listed, rfl⟩ := List.mem_map.mp member
  have none_ := List.lookup_eq_none_iff.mp absent entry listed
  simp at none_

namespace Moves

theorem refl (settled : r.Settled) : Moves r r [] where
  settled := settled
  fits := trivial
  replayed := rfl
  keys := fun _ => rfl

theorem append (first : Moves r t events) (second : Moves t u later) :
    Moves r u (events ++ later) where
  settled := second.settled
  fits := by
    rw [fits_append, first.replayed]
    exact ⟨first.fits, second.fits⟩
  replayed := by
    rw [replay_append, first.replayed]
    exact second.replayed
  keys := by
    intro keyCode
    have before := first.keys keyCode
    have after := second.keys keyCode
    rw [emissions_append, emissions_append]
    omega

end Moves

theorem emissions_emitKey (isDown way : Bool) (keyCode other : UInt16) (modifiers : ModifierFlags)
    (events : List GuestKeyEvent) :
    emissions false isDown keyCode (emitKey other way modifiers :: events) =
      emissions false isDown keyCode events + if way = isDown ∧ other = keyCode then 1 else 0 := by
  simp only [emissions, List.countP_cons, emitKey]
  simp

theorem proper_up (held : ModifierFlags) (keyCode : UInt16) (modifiers : ModifierFlags) :
    Proper held (emitKey keyCode false modifiers) := by
  constructor
  · intro isModifier
    cases isModifier
  · intro _ down
    cases down

theorem proper_down {held : ModifierFlags} (keyCode : UInt16) {modifiers : ModifierFlags}
    (inside : held.contains modifiers.normalized = true) :
    Proper held (emitKey keyCode true modifiers) := by
  constructor
  · intro isModifier
    cases isModifier
  · exact fun _ _ => inside

/-- What is asked for in addition is held. -/
theorem target_contains (r : GuestInputRouter) (additional : ModifierFlags) :
    (r.target additional).contains additional.normalized = true := by
  apply ModifierFlags.contains_iff.mpr
  intro i set
  rw [ModifierFlags.normalized_bit] at set
  simp only [Bool.and_eq_true, decide_eq_true_eq] at set
  exact (target_bit r additional i).mpr ⟨.inr (.inr (.inr set.1)), set.2⟩

/-- A change of the sources, synchronized. -/
theorem moves_synchronize (settled : r.Settled) (same : t.guestModifierFlags = r.guestModifierFlags)
    (chords : t.activeChords = r.activeChords) :
    Moves r (t.synchronizeGuestModifiers .empty).1 (t.synchronizeGuestModifiers .empty).2 := by
  have normal : t.guestModifierFlags.normalized = t.guestModifierFlags := by
    rw [same]
    exact settled.normalized
  obtain ⟨reached, steps⟩ := synchronize_spec t .empty normal
  rw [same] at steps
  refine ⟨⟨?_, ?_⟩, steps.fits, ?_, fun keyCode => ?_⟩
  · rw [reached]
    rfl
  · rw [reached]
    exact chords ▸ settled.distinct
  · rw [reached]
    exact steps.replayed
  · rw [emissions_of_modifiers steps.modifiers, emissions_of_modifiers steps.modifiers, reached]
    simp only [holders, chords]

/-- The router between the change of `press` and its synchronization. -/
def pressed (r : GuestInputRouter) (hostKeyCode : UInt16) (chord : GuestChord)
    (hostModifiers : ModifierFlags) : GuestInputRouter :=
  { r with
    latchedModifierFlags := chord.modifiers
    activeChords := (hostKeyCode, chord) :: r.activeChords
    activeHostModifiers :=
      (hostKeyCode, hostModifiers.normalized) :: removeValue r.activeHostModifiers hostKeyCode }

theorem press_eq {hostKeyCode : UInt16} {chord : GuestChord} {hostModifiers : ModifierFlags}
    (free : r.activeChords.lookup hostKeyCode = none) :
    r.press hostKeyCode chord false hostModifiers =
      (((r.pressed hostKeyCode chord hostModifiers).synchronizeGuestModifiers chord.modifiers).1,
        ((r.pressed hostKeyCode chord hostModifiers).synchronizeGuestModifiers
          chord.modifiers).2 ++ [emitKey chord.keyCode true chord.modifiers]) := by
  unfold press
  rw [free]
  rfl

/-- An active chord asks for its modifiers anyway. -/
theorem pressed_target (r : GuestInputRouter) (hostKeyCode : UInt16) (chord : GuestChord)
    (hostModifiers : ModifierFlags) :
    (r.pressed hostKeyCode chord hostModifiers).target chord.modifiers =
      (r.pressed hostKeyCode chord hostModifiers).target .empty := by
  apply ModifierFlags.ext_bits
  intro i
  apply Bool.eq_iff_iff.mpr
  rw [target_bit, target_bit]
  have none_ : ModifierFlags.empty.rawValue.getLsbD i = false := by simp [ModifierFlags.empty]
  simp only [none_, Bool.false_eq_true, or_false]
  constructor
  · rintro ⟨asked, range⟩
    refine ⟨?_, range⟩
    rcases asked with chords | pointer | latched | additional
    · exact .inl chords
    · exact .inr (.inl pointer)
    · exact .inr (.inr latched)
    · exact .inl ⟨_, List.mem_cons_self, additional⟩
  · rintro ⟨asked, range⟩
    refine ⟨?_, range⟩
    rcases asked with chords | pointer | latched
    · exact .inl chords
    · exact .inr (.inl pointer)
    · exact .inr (.inr (.inl latched))

theorem moves_press (settled : r.Settled) (hostKeyCode : UInt16) (chord : GuestChord)
    (repeats : Bool) (hostModifiers : ModifierFlags) :
    Moves r (r.press hostKeyCode chord repeats hostModifiers).1
      (r.press hostKeyCode chord repeats hostModifiers).2 := by
  -- A repeated key and a key already held change nothing.
  cases repeats with
  | true => exact Moves.refl settled
  | false =>
    cases free : r.activeChords.lookup hostKeyCode with
    | some other =>
      have refused : r.press hostKeyCode chord false hostModifiers = (r, []) := by
        unfold press
        rw [free]
        rfl
      rw [refused]
      exact Moves.refl settled
    | none =>
      rw [press_eq free]
      obtain ⟨reached, steps⟩ := synchronize_spec (r.pressed hostKeyCode chord hostModifiers)
        chord.modifiers settled.normalized
      refine ⟨⟨?_, ?_⟩, ?_, ?_, fun keyCode => ?_⟩
      · rw [reached]
        exact pressed_target r hostKeyCode chord hostModifiers
      · rw [reached]
        exact List.nodup_cons.mpr ⟨lookup_none free, settled.distinct⟩
      · rw [fits_append]
        refine ⟨steps.fits, ?_, trivial⟩
        have replayed : replay r.guestModifierFlags _ = _ := steps.replayed
        rw [replayed]
        exact proper_down _ (target_contains _ _)
      · rw [replay_append]
        have replayed : replay r.guestModifierFlags _ = _ := steps.replayed
        rw [replayed, reached]
        rfl
      · rw [emissions_append, emissions_append, emissions_of_modifiers steps.modifiers,
          emissions_of_modifiers steps.modifiers, reached]
        simp only [emissions_emitKey, holders, pressed, List.countP_cons]
        -- The press counts for the chord's own key and for no other.
        by_cases same : chord.keyCode = keyCode
        · simp [same, emissions]
          omega
        · simp [same, emissions]

theorem moves_release (settled : r.Settled) (hostKeyCode : UInt16) :
    Moves r (r.release hostKeyCode).1 (r.release hostKeyCode).2 := by
  unfold release
  cases found : r.activeChords.lookup hostKeyCode with
  | none => exact Moves.refl settled
  | some chord =>
    simp only
    obtain ⟨reached, steps⟩ := synchronize_spec { r with
      activeChords := removeValue r.activeChords hostKeyCode
      activeHostModifiers := removeValue r.activeHostModifiers hostKeyCode } .empty
      settled.normalized
    refine ⟨⟨?_, ?_⟩, ⟨proper_up _ _ _, steps.fits⟩, ?_, fun keyCode => ?_⟩
    · rw [reached]
      rfl
    · rw [reached]
      exact nodup_removeValue hostKeyCode settled.distinct
    · rw [reached]
      exact steps.replayed
    · have counted := countP_removeValue r.activeChords settled.distinct found
        fun other => decide (other.keyCode = keyCode)
      rw [emissions_emitKey, emissions_emitKey, emissions_of_modifiers steps.modifiers,
        emissions_of_modifiers steps.modifiers, reached]
      simp only [holders]
      by_cases same : chord.keyCode = keyCode
      · simp [same] at counted ⊢
        omega
      · simp [same] at counted ⊢
        omega

theorem moves_releaseKeys (settled : r.Settled) (keys : List UInt16) :
    Moves r (r.releaseKeys keys).1 (r.releaseKeys keys).2 := by
  induction keys generalizing r with
  | nil => exact Moves.refl settled
  | cons keyCode keys ih =>
    have first := moves_release settled keyCode
    exact first.append (ih first.settled)

theorem moves_updateHostModifiers (settled : r.Settled) (modifiers : ModifierFlags)
    (keys : List UInt16) : Moves r (r.updateHostModifiers modifiers keys).1
      (r.updateHostModifiers modifiers keys).2 := by
  have released := moves_releaseKeys settled keys
  exact released.append (moves_synchronize released.settled rfl rfl)

theorem moves_sendChord (settled : r.Settled) (chord : GuestChord) :
    Moves r (r.sendChord chord).1 (r.sendChord chord).2 := by
  obtain ⟨held, before⟩ := synchronize_spec r chord.modifiers settled.normalized
  have normal : (r.synchronizeGuestModifiers chord.modifiers).1.guestModifierFlags.normalized =
      (r.synchronizeGuestModifiers chord.modifiers).1.guestModifierFlags := by
    rw [held]
    exact target_normalized r chord.modifiers
  obtain ⟨reached, after⟩ :=
    synchronize_spec (r.synchronizeGuestModifiers chord.modifiers).1 .empty normal
  have flags : (r.synchronizeGuestModifiers chord.modifiers).1.guestModifierFlags =
      r.target chord.modifiers := by rw [held]
  rw [flags] at after
  unfold sendChord
  simp only
  refine ⟨⟨?_, ?_⟩, ?_, ?_, fun keyCode => ?_⟩
  · rw [reached]
    rfl
  · rw [reached, held]
    exact settled.distinct
  · rw [fits_append, before.replayed]
    exact ⟨before.fits, proper_down _ (target_contains _ _), proper_up _ _ _, after.fits⟩
  · rw [replay_append, before.replayed, reached]
    exact after.replayed
  · rw [emissions_append, emissions_append, emissions_of_modifiers before.modifiers,
      emissions_of_modifiers before.modifiers, emissions_emitKey, emissions_emitKey,
      emissions_emitKey, emissions_emitKey, emissions_of_modifiers after.modifiers,
      emissions_of_modifiers after.modifiers, reached, held]
    simp [holders]

theorem fits_ups (held modifiers : ModifierFlags) (chords : List GuestChord) :
    Fits held (chords.map fun chord => emitKey chord.keyCode false modifiers) ∧
      replay held (chords.map fun chord => emitKey chord.keyCode false modifiers) = held := by
  induction chords with
  | nil => exact ⟨trivial, rfl⟩
  | cons chord chords ih =>
    exact ⟨⟨proper_up _ _ _, ih.1⟩, ih.2⟩

theorem emissions_ups (modifiers : ModifierFlags) (keyCode : UInt16) (chords : List GuestChord) :
    emissions false true keyCode (chords.map fun chord => emitKey chord.keyCode false modifiers) =
        0 ∧
      emissions false false keyCode
          (chords.map fun chord => emitKey chord.keyCode false modifiers) =
        chords.countP fun chord => decide (chord.keyCode = keyCode) := by
  induction chords with
  | nil => exact ⟨rfl, rfl⟩
  | cons chord chords ih =>
    simp only [List.map_cons, emissions_emitKey, ih.1, ih.2, List.countP_cons]
    simp

theorem moves_releaseAll (settled : r.Settled) {chords : List GuestChord}
    (order : chords.Perm (r.activeChords.map Prod.snd)) :
    Moves r (r.releaseAll chords).1 (r.releaseAll chords).2 := by
  obtain ⟨reached, steps⟩ := synchronize_spec { r with
    activeChords := []
    activeHostModifiers := []
    pointerModifierFlags := .empty
    hostModifierFlags := .empty
    latchedModifierFlags := .empty } .empty settled.normalized
  obtain ⟨fits, kept⟩ := fits_ups r.guestModifierFlags r.guestModifierFlags chords
  unfold releaseAll
  simp only
  refine ⟨⟨?_, ?_⟩, ?_, ?_, fun keyCode => ?_⟩
  · rw [reached]
    rfl
  · rw [reached]
    exact List.nodup_nil
  · rw [fits_append, kept]
    exact ⟨fits, steps.fits⟩
  · rw [replay_append, kept, reached]
    exact steps.replayed
  · -- One key goes up for each active chord.
    have counted := order.countP_eq fun chord => decide (chord.keyCode = keyCode)
    rw [List.countP_map] at counted
    obtain ⟨downs, ups⟩ := emissions_ups r.guestModifierFlags keyCode chords
    rw [emissions_append, emissions_append, downs, ups, counted,
      emissions_of_modifiers steps.modifiers, emissions_of_modifiers steps.modifiers, reached]
    simp only [holders, List.countP_nil, Nat.zero_add, Nat.add_zero]
    rfl

end GuestInputRouter

variable {held : ModifierFlags} {events : List GuestKeyEvent}

/-- No two modifiers have one flag, and no two one key code. -/
theorem modifierKeys_injective {flag flag' : ModifierFlags} {keyCode keyCode' : UInt16}
    (left : (flag, keyCode) ∈ modifierKeys) (right : (flag', keyCode') ∈ modifierKeys) :
    flag = flag' ↔ keyCode = keyCode' := by
  have all : ∀ key ∈ modifierKeys, ∀ key' ∈ modifierKeys, key.1 = key'.1 ↔ key.2 = key'.2 := by
    decide +kernel
  exact all _ left _ right

/-- The flag of a modifier after an event of a modifier. -/
theorem contains_applyEvent (held : ModifierFlags) {e : GuestKeyEvent} {flag flag' : ModifierFlags} {keyCode : UInt16}
    (isModifier : e.isModifier = true) (listed : (flag, keyCode) ∈ modifierKeys)
    (own : (flag', e.keyCode) ∈ modifierKeys) :
    (applyEvent held e).contains flag =
      if e.keyCode = keyCode then e.isDown else held.contains flag := by
  obtain ⟨-, i, lowI, highI, isFlag⟩ := modifierKeys_spec listed
  obtain ⟨mapped, j, lowJ, highJ, isFlag'⟩ := modifierKeys_spec own
  have codes := modifierKeys_injective own listed
  rw [isFlag, isFlag'] at codes
  -- Each of the four modifiers has one bit and one key, so bits and keys differ together.
  have bits : j = i ↔ e.keyCode = keyCode := by
    rw [← codes]
    constructor
    · rintro rfl
      rfl
    · exact single_injective (by omega)
  unfold applyEvent
  rw [if_pos isModifier, mapped]
  simp only
  rw [isFlag, isFlag']
  cases e.isDown with
  | true =>
    rw [if_pos rfl, ModifierFlags.union_contains (by omega) (by omega)]
    by_cases same : e.keyCode = keyCode
    · simp [same, bits.mpr same]
    · simp [same, mt bits.mp same]
  | false =>
    rw [if_neg (by simp), ModifierFlags.subtracting_contains (by omega) (by omega)]
    by_cases same : e.keyCode = keyCode
    · simp [same, bits.mpr same]
    · simp [same, mt bits.mp same]

/-- A modifier that is held was emitted down once more than up. -/
theorem modifier_balance {flag : ModifierFlags} {keyCode : UInt16} (fits : Fits held events)
    (listed : (flag, keyCode) ∈ modifierKeys) :
    emissions true true keyCode events + (held.contains flag).toNat =
      emissions true false keyCode events + ((replay held events).contains flag).toNat := by
  -- On the events. An event of the key turns its flag over, and counts on the side the flag leaves.
  induction events generalizing held with
  | nil => rfl
  | cons e events ih =>
    obtain ⟨⟨modifier, -⟩, rest⟩ := fits
    have later := ih rest
    have whole : replay held (e :: events) = replay (applyEvent held e) events := rfl
    rw [whole]
    simp only [emissions, List.countP_cons] at later ⊢
    cases kind : e.isModifier with
    | false =>
      have same : applyEvent held e = held := by simp [applyEvent, kind]
      rw [same] at later ⊢
      simpa [kind] using later
    | true =>
      obtain ⟨flag', own, down⟩ := modifier kind
      have contained := contains_applyEvent held kind listed own
      by_cases same : e.keyCode = keyCode
      · -- Down only when it is up, and up only when it is down.
        have flags := (modifierKeys_injective own listed).mpr same
        subst flags
        rw [if_pos same] at contained
        rw [contained] at later
        cases before : held.contains flag' with
        | true =>
          rw [before, Bool.not_true] at down
          simp only [down, same, Bool.toNat_false, Bool.toNat_true] at later ⊢
          simp at later ⊢
          omega
        | false =>
          rw [before, Bool.not_false] at down
          simp only [down, same, Bool.toNat_false, Bool.toNat_true] at later ⊢
          simp at later ⊢
          omega
      · rw [if_neg same] at contained
        rw [contained] at later
        simpa [same] using later

/-- Modifiers are emitted under their own key codes only. -/
theorem emissions_unlisted {keyCode : UInt16} (fits : Fits held events)
    (unlisted : ∀ flag, (flag, keyCode) ∉ modifierKeys) (isDown : Bool) :
    emissions true isDown keyCode events = 0 := by
  apply List.countP_eq_zero.mpr
  intro e member isEmission
  simp only [decide_eq_true_eq] at isEmission
  obtain ⟨front, rest, split⟩ := List.append_of_mem member
  obtain ⟨flag, own, -⟩ := (fits.proper split).1 isEmission.1
  rw [isEmission.2.2] at own
  exact unlisted flag own

namespace RouterRun

/-- All that was emitted down was emitted up as often. -/
def AllReleased (s : RouterRun) : Prop :=
  ∀ isModifier keyCode,
    emissions isModifier true keyCode s.emitted = emissions isModifier false keyCode s.emitted

/-- What the guest has received so far makes a consistent keyboard. -/
structure Consistent (s : RouterRun) : Prop where
  modifiers : replay .empty s.emitted = s.router.guestModifierFlags
  alternating : ∀ front e rest, s.emitted = front ++ e :: rest → e.isModifier = true →
    ∃ flag, (flag, e.keyCode) ∈ modifierKeys ∧ e.isDown = !(replay .empty front).contains flag
  chords : ∀ front e rest, s.emitted = front ++ e :: rest → e.isModifier = false →
    e.isDown = true → (replay .empty front).contains e.modifiers = true
  released : s.router.activeChords = [] → s.pointerOpen = false →
    s.router.hostModifierFlags = .empty → s.AllReleased

/-- What one operation does. The key-down of a chord carries the chord's modifiers, and so does the
key-up with which its release takes it out of the active ones. -/
structure Balanced (s : RouterRun) (e : RouterEvent) (t : RouterRun) : Prop where
  consistent : t.Consistent
  press : ∀ hostKeyCode chord hostModifiers, e = .press hostKeyCode chord false hostModifiers →
    s.router.activeChords.lookup hostKeyCode = none →
    ∃ modifiers, (∀ m ∈ modifiers, m.isModifier = true) ∧
      t.emitted = s.emitted ++ modifiers ++ [emitKey chord.keyCode true chord.modifiers] ∧
      (s.router.activeChords = [] → s.pointerOpen = false →
        replay .empty (s.emitted ++ modifiers) = chord.modifiers.normalized)
  release : ∀ hostKeyCode chord, e = .release hostKeyCode →
    s.router.activeChords.lookup hostKeyCode = some chord →
    t.router.activeChords = removeValue s.router.activeChords hostKeyCode ∧
      ∃ modifiers, (∀ m ∈ modifiers, m.isModifier = true) ∧
        t.emitted = s.emitted ++ emitKey chord.keyCode false chord.modifiers :: modifiers
  sendChord : ∀ chord, e = .sendChord chord →
    ∃ before after, (∀ m ∈ before ++ after, m.isModifier = true) ∧
      t.emitted = s.emitted ++ before ++ emitKey chord.keyCode true chord.modifiers ::
        emitKey chord.keyCode false chord.modifiers :: after
  releaseAll : ∀ chords, e = .releaseAll chords → t.AllReleased

structure Sound (s : RouterRun) : Prop where
  settled : s.router.Settled
  fits : Fits .empty s.emitted
  replayed : replay .empty s.emitted = s.router.guestModifierFlags
  keys : ∀ keyCode, emissions false true keyCode s.emitted =
    emissions false false keyCode s.emitted + s.router.holders keyCode
  pointer : s.pointerOpen = false → s.router.pointerModifierFlags = .empty

variable {s t : RouterRun}

/-- Without a source there is nothing to hold. -/
theorem target_empty {r : GuestInputRouter} (chords : r.activeChords = [])
    (pointer : r.pointerModifierFlags = .empty) (host : r.hostModifierFlags = .empty) :
    r.target .empty = .empty := by
  apply ModifierFlags.ext_bits
  intro i
  have none_ : ModifierFlags.empty.rawValue.getLsbD i = false := by simp [ModifierFlags.empty]
  rw [none_]
  apply Bool.eq_false_iff.mpr
  intro set
  obtain ⟨asked, -⟩ := (GuestInputRouter.target_bit r .empty i).mp set
  rw [chords, pointer, host, none_] at asked
  rcases asked with ⟨entry, member, -⟩ | impossible | ⟨held, -⟩ | impossible
  · cases member
  · cases impossible
  · simp [ModifierFlags.isEmpty] at held
  · cases impossible

theorem Sound.allReleased (sound : s.Sound) (chords : s.router.activeChords = [])
    (flags : s.router.guestModifierFlags = .empty) : s.AllReleased := by
  intro isModifier keyCode
  cases isModifier with
  | false =>
    have keys := sound.keys keyCode
    simpa [GuestInputRouter.holders, chords] using keys
  | true =>
    by_cases known : ∃ flag, (flag, keyCode) ∈ modifierKeys
    · obtain ⟨flag, listed⟩ := known
      have balance := modifier_balance sound.fits listed
      rw [sound.replayed, flags] at balance
      omega
    · have unlisted : ∀ flag, (flag, keyCode) ∉ modifierKeys :=
        fun flag listed => known ⟨flag, listed⟩
      rw [emissions_unlisted sound.fits unlisted, emissions_unlisted sound.fits unlisted]

theorem Sound.consistent (sound : s.Sound) : s.Consistent where
  modifiers := sound.replayed
  alternating := fun _ _ _ split => (sound.fits.proper split).1
  chords := fun _ _ _ split => (sound.fits.proper split).2
  released := by
    intro chords pointer host
    apply sound.allReleased chords
    rw [sound.settled.flags]
    exact target_empty chords (sound.pointer pointer) host

/-- The operations of a router, one by one. -/
theorem operate_moves {r t : GuestInputRouter} (settled : r.Settled) {e : RouterEvent}
    {events : List GuestKeyEvent} (operated : operate r e = some (t, events)) :
    r.Moves t events := by
  -- Each operation of the router has its own lemma; two of them have a precondition to check.
  cases e with
  | press hostKeyCode chord repeats hostModifiers =>
    have moved := GuestInputRouter.moves_press settled hostKeyCode chord repeats hostModifiers
    rwa [Option.some.inj operated] at moved
  | release hostKeyCode =>
    have moved := GuestInputRouter.moves_release settled hostKeyCode
    rwa [Option.some.inj operated] at moved
  | beginPointerInteraction modifiers =>
    cases operated
    exact GuestInputRouter.moves_synchronize settled rfl rfl
  | endPointerInteraction =>
    cases operated
    exact GuestInputRouter.moves_synchronize settled rfl rfl
  | updateHostModifiers modifiers keys =>
    simp only [operate] at operated
    split at operated
    · cases operated
      exact GuestInputRouter.moves_updateHostModifiers settled modifiers keys
    · cases operated
  | sendChord chord =>
    cases operated
    exact GuestInputRouter.moves_sendChord settled chord
  | releaseAll chords =>
    simp only [operate] at operated
    split at operated
    · rename_i order
      cases operated
      exact GuestInputRouter.moves_releaseAll settled order
    · cases operated

theorem release_pointer (r : GuestInputRouter) (hostKeyCode : UInt16) :
    (r.release hostKeyCode).1.pointerModifierFlags = r.pointerModifierFlags := by
  unfold GuestInputRouter.release
  cases r.activeChords.lookup hostKeyCode <;> rfl

theorem releaseKeys_pointer (r : GuestInputRouter) (keys : List UInt16) :
    (r.releaseKeys keys).1.pointerModifierFlags = r.pointerModifierFlags := by
  induction keys generalizing r with
  | nil => rfl
  | cons keyCode keys ih => exact (ih _).trans (release_pointer r keyCode)

/-- A closed pointer interaction asks for nothing. -/
theorem operate_pointer {r t : GuestInputRouter} {e : RouterEvent} {events : List GuestKeyEvent}
    (operated : operate r e = some (t, events)) {wasOpen : Bool}
    (closed : wasOpen = false → r.pointerModifierFlags = .empty)
    (closes : opensPointer wasOpen e = false) : t.pointerModifierFlags = .empty := by
  cases e with
  | press hostKeyCode chord repeats hostModifiers =>
    have kept : (r.press hostKeyCode chord repeats hostModifiers).1.pointerModifierFlags =
        r.pointerModifierFlags := by
      unfold GuestInputRouter.press
      split <;> rfl
    rw [Option.some.inj operated] at kept
    exact kept.trans (closed closes)
  | release hostKeyCode =>
    have kept := release_pointer r hostKeyCode
    rw [Option.some.inj operated] at kept
    exact kept.trans (closed closes)
  | beginPointerInteraction modifiers => cases closes
  | endPointerInteraction =>
    cases operated
    rfl
  | updateHostModifiers modifiers keys =>
    simp only [operate] at operated
    split at operated
    · cases operated
      exact (releaseKeys_pointer r keys).trans (closed closes)
    · cases operated
  | sendChord chord =>
    cases operated
    exact closed closes
  | releaseAll chords =>
    simp only [operate] at operated
    split at operated
    · cases operated
      rfl
    · cases operated

/-- The router and the events of a step. -/
theorem step_eq {e : RouterEvent} (stepped : s.step e = some t) :
    ∃ events, operate s.router e = some (t.router, events) ∧ t.emitted = s.emitted ++ events ∧
      t.pointerOpen = opensPointer s.pointerOpen e := by
  unfold step at stepped
  split at stepped
  · cases stepped
  · rename_i router events operated
    cases stepped
    exact ⟨events, operated, rfl, rfl⟩

theorem Sound.step (sound : s.Sound) {e : RouterEvent} (stepped : s.step e = some t) :
    t.Sound := by
  obtain ⟨events, operated, emitted, pointer⟩ := step_eq stepped
  have moves := operate_moves sound.settled operated
  refine ⟨moves.settled, ?_, ?_, fun keyCode => ?_, fun closed => ?_⟩
  · rw [emitted, fits_append, sound.replayed]
    exact ⟨sound.fits, moves.fits⟩
  · rw [emitted, replay_append, sound.replayed]
    exact moves.replayed
  · have before := sound.keys keyCode
    have after := moves.keys keyCode
    rw [emitted, emissions_append, emissions_append]
    omega
  · rw [pointer] at closed
    exact operate_pointer operated sound.pointer closed

theorem Sound.balanced (sound : s.Sound) {e : RouterEvent} (stepped : s.step e = some t) :
    s.Balanced e t := by
  have after := sound.step stepped
  obtain ⟨events, operated, emitted, -⟩ := step_eq stepped
  refine ⟨after.consistent, ?_, ?_, ?_, ?_⟩
  · rintro hostKeyCode chord hostModifiers rfl free
    have pair := Option.some.inj operated
    rw [GuestInputRouter.press_eq free, Prod.mk.injEq] at pair
    obtain ⟨reached, steps⟩ := synchronize_spec
      (s.router.pressed hostKeyCode chord hostModifiers) chord.modifiers sound.settled.normalized
    refine ⟨_, steps.modifiers, ?_, fun alone closed => ?_⟩
    · rw [emitted, ← pair.2, List.append_assoc]
    · have replayed : replay s.router.guestModifierFlags _ = _ := steps.replayed
      rw [replay_append, sound.replayed, replayed]
      -- The new chord is the only source.
      apply ModifierFlags.ext_bits
      intro i
      apply Bool.eq_iff_iff.mpr
      rw [GuestInputRouter.target_bit, ModifierFlags.normalized_bit, Bool.and_eq_true,
        decide_eq_true_eq]
      have none_ : ModifierFlags.empty.rawValue.getLsbD i = false := by
        simp [ModifierFlags.empty]
      simp only [GuestInputRouter.pressed, alone, sound.pointer closed, none_, List.mem_singleton,
        exists_eq_left, Bool.false_eq_true, false_or, and_congr_left_iff]
      intro _
      constructor
      · rintro (own | ⟨-, latched⟩ | additional)
        · exact own
        · exact latched
        · exact additional
      · exact fun own => .inl own
  · rintro hostKeyCode chord rfl active
    have pair := Option.some.inj operated
    simp only [GuestInputRouter.release, active, Prod.mk.injEq] at pair
    obtain ⟨reached, steps⟩ := synchronize_spec { s.router with
      activeChords := removeValue s.router.activeChords hostKeyCode
      activeHostModifiers := removeValue s.router.activeHostModifiers hostKeyCode } .empty
      sound.settled.normalized
    constructor
    · rw [← pair.1, reached]
    · exact ⟨_, steps.modifiers, by rw [emitted, ← pair.2]⟩
  · rintro chord rfl
    have pair := Option.some.inj operated
    unfold GuestInputRouter.sendChord at pair
    simp only [Prod.mk.injEq] at pair
    obtain ⟨held, before⟩ := synchronize_spec s.router chord.modifiers sound.settled.normalized
    have normal : (s.router.synchronizeGuestModifiers
        chord.modifiers).1.guestModifierFlags.normalized =
        (s.router.synchronizeGuestModifiers chord.modifiers).1.guestModifierFlags := by
      rw [held]
      exact GuestInputRouter.target_normalized s.router chord.modifiers
    obtain ⟨-, later⟩ := synchronize_spec
      (s.router.synchronizeGuestModifiers chord.modifiers).1 .empty normal
    refine ⟨(s.router.synchronizeGuestModifiers chord.modifiers).2,
      ((s.router.synchronizeGuestModifiers chord.modifiers).1.synchronizeGuestModifiers .empty).2,
      ?_, ?_⟩
    · intro m member
      rcases List.mem_append.mp member with member | member
      · exact before.modifiers m member
      · exact later.modifiers m member
    · rw [emitted, ← pair.2, List.append_assoc]
  · rintro chords rfl
    simp only [operate] at operated
    split at operated
    · have pair := Option.some.inj operated
      have cleared : t.router.activeChords = [] ∧ t.router.pointerModifierFlags = .empty ∧
          t.router.hostModifierFlags = .empty := by
        have router := congrArg Prod.fst pair
        simp only at router
        rw [← router]
        exact ⟨rfl, rfl, rfl⟩
      apply after.allReleased cleared.1
      rw [after.settled.flags]
      exact target_empty cleared.1 cleared.2.1 cleared.2.2
    · cases operated

theorem sound_create : Sound {} where
  settled := ⟨by decide, List.nodup_nil⟩
  fits := trivial
  replayed := rfl
  keys := fun _ => rfl
  pointer := fun _ => rfl

/-- Every operation in every run of a router keeps the guest's keyboard consistent. -/
theorem guest_keyboard_balanced (labels : List RouterEvent) :
    Along step Balanced {} labels := by
  apply along_of_keeps (I := Sound)
  · exact fun s e t sound stepped => sound.step stepped
  · exact fun s e t sound stepped => sound.balanced stepped
  · exact sound_create

end RouterRun

end SimpleVM.Input
