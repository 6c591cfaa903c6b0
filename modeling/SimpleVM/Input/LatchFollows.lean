import SimpleVM.Input.KeyBalance

/-!
# The latch and the host modifiers

Modifiers of the last chord stay down in the guest while the host holds the modifiers it was
pressed with. The latch holds guest modifiers and is cleared by what the host lifts, so that it
follows the host where a lifted modifier is Command, the last one, or all that is latched.
-/
namespace SimpleVM.Input

open Transition

/-- A router whose chords are pressed with the modifiers of the last `updateHostModifiers`. -/
structure LatchRun where
  run : RouterRun := {}
  /-- The modifiers of the last `updateHostModifiers`. -/
  held : ModifierFlags := .empty
  /-- The host modifiers when the latest chord was pressed. -/
  pressHeld : ModifierFlags := .empty
deriving DecidableEq, Repr

namespace LatchRun

/-- A press passes the modifiers the host holds. -/
def passes (s : LatchRun) : RouterEvent → Bool
  | .press _ _ _ hostModifiers => decide (hostModifiers = s.held)
  | _ => true

def heldAfter (s : LatchRun) : RouterEvent → ModifierFlags
  | .updateHostModifiers modifiers _ => modifiers
  | _ => s.held

/-- A repeat, or a key that is down, presses no chord. -/
def pressHeldAfter (s : LatchRun) : RouterEvent → ModifierFlags
  | .press hostKeyCode _ repeats hostModifiers =>
    if repeats || (s.run.router.activeChords.lookup hostKeyCode).isSome then s.pressHeld
    else hostModifiers
  | _ => s.pressHeld

def step (s : LatchRun) (e : RouterEvent) : Option LatchRun :=
  if s.passes e then
    (s.run.step e).map fun run => ⟨run, s.heldAfter e, s.pressHeldAfter e⟩
  else none

/-- Every modifier the host held when the latest chord was pressed is held. -/
def StillHeld (s : LatchRun) : Prop :=
  s.held.normalized.contains s.pressHeld.normalized = true

instance (s : LatchRun) : Decidable s.StillHeld :=
  inferInstanceAs (Decidable (_ = true))

/-- A guest modifier that is down without a chord or a pointer means that the host has not moved,
and once it has, only chords and the pointer hold modifiers down. -/
structure Follows (s : LatchRun) : Prop where
  held : s.run.router.activeChords = [] → s.run.pointerOpen = false →
    s.run.router.guestModifierFlags ≠ .empty → s.StillHeld
  released : ¬s.StillHeld → ∀ i, s.run.router.guestModifierFlags.rawValue.getLsbD i = true →
    (∃ entry ∈ s.run.router.activeChords, entry.2.modifiers.rawValue.getLsbD i = true) ∨
      s.run.router.pointerModifierFlags.rawValue.getLsbD i = true

/-- The change from the host modifiers of the router to `updated` lifts `flag`. -/
def lifted (r : GuestInputRouter) (updated flag : ModifierFlags) : Bool :=
  r.hostModifierFlags.contains flag && !updated.contains flag

/-- A change that lifts a modifier of the latest chord lifts Command, or all modifiers, or each
one that is latched. -/
def LiftsLatched (s : LatchRun) : RouterEvent → Prop
  | .updateHostModifiers modifiers _ =>
    modifiers.normalized.contains s.pressHeld.normalized = false →
      lifted s.run.router modifiers.normalized .command = true ∨
        modifiers.normalized.isEmpty = true ∨
        ∀ key ∈ modifierKeys, s.run.router.latchedModifierFlags.contains key.1 = true →
          lifted s.run.router modifiers.normalized key.1 = true
  | _ => True

/-- Nothing is latched once the host has let go of the latest chord. -/
structure Unlatched (s : LatchRun) : Prop where
  sound : s.run.Sound
  latch : ¬s.StillHeld → s.run.router.latchedModifierFlags.normalized = .empty

variable {s t : LatchRun}

/-- One of the four assignments of `updateHostModifiers`. -/
theorem remove_bit {removes : Bool} {flags : ModifierFlags} {i j : Nat} (bound : j < 64)
    (set : (if removes then flags.subtracting (.single j) else flags).rawValue.getLsbD i = true) :
    flags.rawValue.getLsbD i = true ∧ (i = j → removes = false) := by
  cases removes with
  | false => exact ⟨set, fun _ => rfl⟩
  | true =>
    have inside : i < 64 := by
      rcases Nat.lt_or_ge i 64 with inside | outside
      · exact inside
      · rw [BitVec.getLsbD_of_ge _ _ outside] at set
        cases set
    rw [if_pos rfl, ← ModifierFlags.contains_single inside,
      ModifierFlags.subtracting_contains bound inside] at set
    simp only [Bool.and_eq_true, Bool.not_eq_true', decide_eq_false_iff_not] at set
    rw [← ModifierFlags.contains_single inside]
    exact ⟨set.1, fun same => absurd same.symm set.2⟩

/-- What stays latched was latched, and is not lifted, and neither is Command nor the last. -/
theorem unlatch_bit {r : GuestInputRouter} {updated latched : ModifierFlags} {i : Nat}
    (set : (GuestInputRouter.unlatch r.hostModifierFlags updated latched).rawValue.getLsbD i =
      true) :
    latched.rawValue.getLsbD i = true ∧ lifted r updated .command = false ∧
      updated.isEmpty = false ∧
      (i = 17 ∨ i = 18 ∨ i = 19 → lifted r updated (.single i) = false) := by
  have none_ : ModifierFlags.empty.rawValue.getLsbD i = false := by simp [ModifierFlags.empty]
  simp only [GuestInputRouter.unlatch] at set
  split at set
  · rw [none_] at set
    cases set
  · rename_i left
    obtain ⟨set, option⟩ := remove_bit (by omega) set
    obtain ⟨set, control⟩ := remove_bit (by omega) set
    obtain ⟨set, shift⟩ := remove_bit (by omega) set
    split at set
    · rw [none_] at set
      cases set
    · rename_i command
      refine ⟨set, by simpa [lifted] using command, by simpa using left, ?_⟩
      rintro (rfl | rfl | rfl)
      · exact shift rfl
      · exact control rfl
      · exact option rfl

/-- A change that lifts all that is latched, or Command, or all modifiers, clears the latch. -/
theorem unlatch_clears {r : GuestInputRouter} {updated latched : ModifierFlags}
    (lifts : lifted r updated .command = true ∨ updated.isEmpty = true ∨
      ∀ key ∈ modifierKeys, latched.contains key.1 = true → lifted r updated key.1 = true) :
    (GuestInputRouter.unlatch r.hostModifierFlags updated latched).normalized = .empty := by
  apply ModifierFlags.ext_bits
  intro i
  have none_ : ModifierFlags.empty.rawValue.getLsbD i = false := by simp [ModifierFlags.empty]
  rw [none_, ModifierFlags.normalized_bit]
  apply Bool.eq_false_iff.mpr
  intro both
  simp only [Bool.and_eq_true, decide_eq_true_eq] at both
  obtain ⟨set, range⟩ := both
  -- A bit that is left was latched, its modifier and command are not lifted, and one is still down.
  obtain ⟨before, command, left, kept⟩ := unlatch_bit set
  rcases lifts with first | last | each
  · rw [first] at command
    cases command
  · rw [last] at left
    cases left
  · -- The modifier of this bit is latched, so it is lifted.
    have bound : i < 64 := by omega
    rw [← ModifierFlags.contains_single bound] at before
    have which : i = 17 ∨ i = 18 ∨ i = 19 ∨ i = 20 := by omega
    rcases which with rfl | rfl | rfl | rfl
    · have lift := each (.shift, 56) (by decide) before
      cases (kept (.inl rfl)).symm.trans lift
    · have lift := each (.control, 59) (by decide) before
      cases (kept (.inr (.inl rfl))).symm.trans lift
    · have lift := each (.option, 58) (by decide) before
      cases (kept (.inr (.inr rfl))).symm.trans lift
    · have lift := each (.command, 55) (by decide) before
      cases command.symm.trans lift

theorem release_latch (r : GuestInputRouter) (hostKeyCode : UInt16) :
    (r.release hostKeyCode).1.latchedModifierFlags = r.latchedModifierFlags ∧
      (r.release hostKeyCode).1.hostModifierFlags = r.hostModifierFlags := by
  unfold GuestInputRouter.release
  cases r.activeChords.lookup hostKeyCode <;> exact ⟨rfl, rfl⟩

theorem releaseKeys_latch (r : GuestInputRouter) (keys : List UInt16) :
    (r.releaseKeys keys).1.latchedModifierFlags = r.latchedModifierFlags ∧
      (r.releaseKeys keys).1.hostModifierFlags = r.hostModifierFlags := by
  induction keys generalizing r with
  | nil => exact ⟨rfl, rfl⟩
  | cons keyCode keys ih =>
    obtain ⟨latched, host⟩ := ih (r.release keyCode).1
    obtain ⟨latched', host'⟩ := release_latch r keyCode
    exact ⟨latched.trans latched', host.trans host'⟩

/-- The latch after an update, and what the router knows of the host. -/
theorem updateHostModifiers_latch (r : GuestInputRouter) (modifiers : ModifierFlags)
    (keys : List UInt16) : (r.updateHostModifiers modifiers keys).1.latchedModifierFlags =
      GuestInputRouter.unlatch r.hostModifierFlags modifiers.normalized
        r.latchedModifierFlags := by
  obtain ⟨latched, host⟩ := releaseKeys_latch r keys
  rw [← latched, ← host]
  rfl

/-- Without a latch only chords and the pointer hold modifiers down. -/
theorem target_unlatched {r : GuestInputRouter} (latch : r.latchedModifierFlags.normalized = .empty)
    {i : Nat} (set : (r.target .empty).rawValue.getLsbD i = true) :
    (∃ entry ∈ r.activeChords, entry.2.modifiers.rawValue.getLsbD i = true) ∨
      r.pointerModifierFlags.rawValue.getLsbD i = true := by
  obtain ⟨asked, range⟩ := (GuestInputRouter.target_bit r .empty i).mp set
  have none_ : ModifierFlags.empty.rawValue.getLsbD i = false := by simp [ModifierFlags.empty]
  rcases asked with chords | pointer | ⟨-, latched⟩ | impossible
  · exact .inl chords
  · exact .inr pointer
  · have bit := congrArg (fun flags => flags.rawValue.getLsbD i) latch
    simp [ModifierFlags.normalized_bit, latched, range, none_] at bit
  · rw [none_] at impossible
    cases impossible

theorem Unlatched.follows (unlatched : s.Unlatched) : s.Follows := by
  have released : ¬s.StillHeld →
      ∀ i, s.run.router.guestModifierFlags.rawValue.getLsbD i = true →
        (∃ entry ∈ s.run.router.activeChords, entry.2.modifiers.rawValue.getLsbD i = true) ∨
          s.run.router.pointerModifierFlags.rawValue.getLsbD i = true := by
    intro moved i set
    rw [unlatched.sound.settled.flags] at set
    exact target_unlatched (unlatched.latch moved) set
  refine ⟨fun chords pointer down => Decidable.byContradiction fun moved => down ?_, released⟩
  apply ModifierFlags.ext_bits
  intro i
  have none_ : ModifierFlags.empty.rawValue.getLsbD i = false := by simp [ModifierFlags.empty]
  rw [none_]
  apply Bool.eq_false_iff.mpr
  intro set
  have asked := released moved i set
  rw [chords, unlatched.sound.pointer pointer, none_] at asked
  rcases asked with ⟨entry, member, -⟩ | impossible
  · cases member
  · cases impossible

/-- What a step does to the run, to the modifiers of the host and to those of the latest chord. -/
theorem step_spec {e : RouterEvent} (taken : s.step e = some t) :
    s.passes e = true ∧ s.run.step e = some t.run ∧ t.held = s.heldAfter e ∧
      t.pressHeld = s.pressHeldAfter e := by
  simp only [LatchRun.step] at taken
  split at taken
  · rename_i passes
    obtain ⟨run, stepped, rfl⟩ := Option.map_eq_some_iff.mp taken
    exact ⟨passes, stepped, rfl, rfl⟩
  · cases taken

theorem contains_self (flags : ModifierFlags) : flags.contains flags = true :=
  ModifierFlags.contains_iff.mpr fun _ set => set

theorem Unlatched.step (unlatched : s.Unlatched) {e : RouterEvent} (lifts : s.LiftsLatched e)
    (taken : s.step e = some t) : t.Unlatched := by
  obtain ⟨passes, stepped, held, pressHeld⟩ := step_spec taken
  refine ⟨unlatched.sound.step stepped, fun moved => ?_⟩
  obtain ⟨events, operated, -, -⟩ := RouterRun.step_eq stepped
  unfold StillHeld at moved
  rw [held, pressHeld] at moved
  generalize t.run.router = last at operated ⊢
  -- Only a press and a change of the host's modifiers touch the latch; the other operations keep it
  -- as it is.
  cases e with
  | press hostKeyCode chord repeats hostModifiers =>
    simp only [LatchRun.passes, decide_eq_true_eq] at passes
    simp only [RouterRun.operate, Option.some.injEq] at operated
    simp only [heldAfter, pressHeldAfter] at moved
    unfold GuestInputRouter.press at operated
    split at operated
    · rename_i ignored
      rw [if_pos ignored] at moved
      cases operated
      exact unlatched.latch moved
    · -- A chord that is pressed was pressed with what is held.
      rename_i pressed
      rw [if_neg pressed, passes, contains_self] at moved
      exact absurd rfl moved
  | release hostKeyCode =>
    have kept := (release_latch s.run.router hostKeyCode).1
    rw [Option.some.inj operated] at kept
    rw [kept]
    exact unlatched.latch moved
  | beginPointerInteraction modifiers =>
    cases operated
    exact unlatched.latch moved
  | endPointerInteraction =>
    cases operated
    exact unlatched.latch moved
  | updateHostModifiers modifiers keys =>
    simp only [RouterRun.operate] at operated
    split at operated
    · have latch := updateHostModifiers_latch s.run.router modifiers keys
      rw [Option.some.inj operated] at latch
      rw [latch]
      apply unlatch_clears
      exact lifts (Bool.eq_false_iff.mpr moved)
    · cases operated
  | sendChord chord =>
    cases operated
    exact unlatched.latch moved
  | releaseAll chords =>
    simp only [RouterRun.operate] at operated
    split at operated
    · cases operated
      exact (by decide : ModifierFlags.empty.normalized = .empty)
    · cases operated

theorem unlatched_create : Unlatched {} where
  sound := RouterRun.sound_create
  latch := fun _ => (by decide : ModifierFlags.empty.normalized = .empty)

/-- In every run whose changes lift what is latched, the latch follows the host. -/
theorem latch_follows_host (labels : List RouterEvent)
    (lifts : Meets LatchRun.step LiftsLatched {} labels) :
    Always LatchRun.step Follows {} labels := by
  apply always_of_meets (I := Unlatched) (V := fun _ => True)
  · exact fun s e t unlatched _ lifts taken => unlatched.step lifts taken
  · exact fun s unlatched => unlatched.follows
  · exact unlatched_create
  · exact fun _ _ => trivial
  · exact lifts

/-- Command is lifted, and the chord of Command and Tab is gone. -/
theorem switcher_follows : Always LatchRun.step Follows {}
    [.updateHostModifiers .command [], .press 48 ⟨48, .option⟩ false .command, .release 48,
      .updateHostModifiers .empty []] := by
  apply latch_follows_host
  apply Meets.next (t := ⟨_, _, _⟩) rfl
  · intro moved
    cases moved
  apply Meets.next (t := ⟨_, _, _⟩) rfl trivial
  apply Meets.next (t := ⟨_, _, _⟩) rfl trivial
  apply Meets.next (t := ⟨_, _, _⟩) rfl
  · intro _
    exact .inl (by decide +kernel)
  trivial

/-- Option and Shift with the left arrow are Control and Shift with it. Option is lifted and Shift
is not, and Control stays down. -/
theorem option_arrow_stays_latched :
    ¬∀ labels : List RouterEvent, Always LatchRun.step Follows {} labels := by
  intro follows
  have always := follows [.updateHostModifiers (ModifierFlags.option.union .shift) [],
    .press 123 ⟨123, ModifierFlags.control.union .shift⟩ false (ModifierFlags.option.union .shift),
    .release 123, .updateHostModifiers .shift []]
  have run : Run LatchRun.step {} [.updateHostModifiers (ModifierFlags.option.union .shift) [],
      .press 123 ⟨123, ModifierFlags.control.union .shift⟩ false
        (ModifierFlags.option.union .shift),
      .release 123, .updateHostModifiers .shift []] _ := run_of_execute rfl
  have here := (always.last run).held (by decide +kernel) (by decide +kernel) (by decide +kernel)
  revert here
  decide +kernel

end LatchRun

end SimpleVM.Input
