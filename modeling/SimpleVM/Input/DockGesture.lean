import SimpleVM.Input.KeyboardMappingSettings
import SimpleVM.Transition.Run

/-!
# Dock gestures

A swipe between desktops on the track pad becomes a swipe between workspaces of the guest. A gesture
is a beginning, changes that carry its progress, and an end that carries its velocity; it fires the
swipe of its first reading that is not zero, once. Where Karabiner maps the keys a gesture also
holds Command, from its beginning to its end or to the moment the capture is disabled.
-/
namespace SimpleVM.Input

open Transition

/-- A number of an event, of which only the comparisons with zero are used. -/
structure Reading where
  isNonzero : Bool
  isPositive : Bool
deriving DecidableEq, Repr

def Reading.zero : Reading := ⟨false, false⟩

def Reading.direction (reading : Reading) : WorkspaceSwipeDirection :=
  if reading.isPositive then .next else .previous

/-- What a gesture has told so far, and the swipes it fired. -/
structure Gesture where
  readings : List Reading := []
  swipes : List WorkspaceSwipeDirection := []
deriving DecidableEq, Repr

/-- The swipe of the first reading that is not zero. -/
def Gesture.expected (gesture : Gesture) : List WorkspaceSwipeDirection :=
  ((gesture.readings.find? Reading.isNonzero).map Reading.direction).toList

inductive GestureDisposition
  | ignored | suppress | forward
deriving DecidableEq, Repr

inductive GestureEvent
  /-- A horizontal swipe of the Dock. -/
  | dockSwipe (phase : Int) (progress velocity : Reading)
  /-- Any other event of a gesture. -/
  | gesture
  | other
deriving DecidableEq, Repr

/-- The part of `ImmersiveInputCapture` that gestures concern. -/
structure GestureCapture where
  usesNativeKeyboardMapping : Bool
  tracksDockSwipe : Bool := false
  swipeFired : Bool := false
  dockSwipeProgress : Reading := .zero
  nativeGestureModifierDown : Bool := false
  /-- The gestures that began, the last one first. -/
  gestures : List Gesture := []
  /-- Whether the events that were forwarded or posted leave Command down. -/
  isCommandDown : Bool := false
  /-- Whether the event that was to release it could not be made. -/
  isStuck : Bool := false
deriving DecidableEq, Repr

inductive CaptureEvent
  | handle (event : GestureEvent)
  /-- The tap is disabled, by the system or by `setEnabled`. -/
  | disable (isMade : Bool)
  | stop (isMade : Bool)
deriving DecidableEq, Repr

namespace GestureCapture

def gestureBegan : Int := 1
def gestureChanged : Int := 2
def gestureEnded : Int := 4
def gestureCancelled : Int := 8

/-- The gesture that began last is told something. -/
def told (s : GestureCapture) (change : Gesture → Gesture) : GestureCapture :=
  { s with gestures := s.gestures.modifyHead change }

def read (s : GestureCapture) (reading : Reading) : GestureCapture :=
  s.told fun gesture => { gesture with readings := gesture.readings ++ [reading] }

def fireSwipe (s : GestureCapture) (directionValue : Reading) : GestureCapture :=
  { s with swipeFired := true }.told fun gesture =>
    { gesture with swipes := gesture.swipes ++ [directionValue.direction] }

def makeNativeModifierEvent (s : GestureCapture) (isDown : Bool) : GestureCapture :=
  { s with nativeGestureModifierDown := isDown, isCommandDown := isDown }

/-- `isMade` is whether the event can be made. -/
def releaseNativeGestureModifier (s : GestureCapture) (isMade : Bool) : GestureCapture :=
  if s.nativeGestureModifierDown then
    if isMade then { s with nativeGestureModifierDown := false, isCommandDown := false }
    else { s with isStuck := true }
  else s

def reset (s : GestureCapture) : GestureCapture :=
  { s with tracksDockSwipe := false, swipeFired := false, dockSwipeProgress := .zero }

def begin (s : GestureCapture) : GestureCapture × GestureDisposition :=
  let begun := { s with
    tracksDockSwipe := true
    swipeFired := false
    dockSwipeProgress := .zero
    gestures := {} :: s.gestures }
  if s.usesNativeKeyboardMapping then (begun.makeNativeModifierEvent true, .forward)
  else (begun, .suppress)

/-- Both ends of a gesture. -/
def finish (s : GestureCapture) : GestureCapture × GestureDisposition :=
  if s.usesNativeKeyboardMapping then (s.reset.makeNativeModifierEvent false, .forward)
  else (s.reset, .suppress)

/-- A progress or a velocity fires the swipe if none has yet. -/
def follow (s : GestureCapture) (reading : Reading) : GestureCapture :=
  let known := s.read reading
  if !s.swipeFired && reading.isNonzero then known.fireSwipe reading else known

def handleDockGesture (s : GestureCapture) : GestureEvent → GestureCapture × GestureDisposition
  | .dockSwipe phase progress velocity =>
    if phase = gestureBegan then s.begin
    else
      let tracked := if s.tracksDockSwipe then { s with dockSwipeProgress := progress } else s
      if phase = gestureChanged ∧ s.tracksDockSwipe = true then
        (tracked.follow tracked.dockSwipeProgress, .suppress)
      else if phase = gestureEnded ∧ s.tracksDockSwipe = true then
        (tracked.follow velocity).finish
      else if phase = gestureCancelled then tracked.finish
      else (tracked, .suppress)
  | .gesture => (s, if s.tracksDockSwipe then .suppress else .ignored)
  | .other => (s, .ignored)

def step (s : GestureCapture) : CaptureEvent → Option GestureCapture
  | .handle event => some (s.handleDockGesture event).1
  | .disable isMade => some (s.releaseNativeGestureModifier isMade)
  | .stop isMade => some (s.releaseNativeGestureModifier isMade).reset

variable {s t : GestureCapture}

/-- The invariant: every gesture has fired what its readings call for, and Command is held by a
gesture. -/
structure Faithful (s : GestureCapture) : Prop where
  fired : ∀ gesture ∈ s.gestures, gesture.swipes = gesture.expected
  current : s.tracksDockSwipe = true → ∃ gesture rest, s.gestures = gesture :: rest ∧
    s.swipeFired = gesture.readings.any Reading.isNonzero
  command : s.isCommandDown = s.nativeGestureModifierDown
  held : s.isStuck = false → s.nativeGestureModifierDown = true → s.tracksDockSwipe = true
  native : s.nativeGestureModifierDown = true → s.usesNativeKeyboardMapping = true

/-- A reading after one that was not zero changes nothing. -/
theorem expected_of_fired {gesture : Gesture} (fired : gesture.readings.any Reading.isNonzero = true)
    (reading : Reading) :
    { gesture with readings := gesture.readings ++ [reading] }.expected = gesture.expected := by
  obtain ⟨first, member, nonzero⟩ := List.any_eq_true.mp fired
  have found : gesture.readings.find? Reading.isNonzero ≠ none := by
    intro none
    exact absurd nonzero (by simpa using List.find?_eq_none.mp none first member)
  obtain ⟨first, found⟩ := Option.ne_none_iff_exists'.mp found
  simp only [Gesture.expected, List.find?_append, found, Option.some_or]

/-- Before it, only a reading that is not zero itself counts. -/
theorem expected_of_unfired {gesture : Gesture}
    (unfired : gesture.readings.any Reading.isNonzero = false) (reading : Reading) :
    { gesture with readings := gesture.readings ++ [reading] }.expected =
      (if reading.isNonzero then [reading.direction] else []) ∧ gesture.expected = [] := by
  have none : gesture.readings.find? Reading.isNonzero = none := by
    rw [List.find?_eq_none]
    intro other member
    simpa using List.any_eq_false.mp unfired other member
  constructor
  · simp only [Gesture.expected, List.find?_append, none, Option.none_or, List.find?_singleton]
    split <;> rfl
  · rw [Gesture.expected, none]
    rfl

theorem Faithful.follow (faithful : s.Faithful) (tracks : s.tracksDockSwipe = true)
    (reading : Reading) : (s.follow reading).Faithful := by
  obtain ⟨gesture, rest, here, flag⟩ := faithful.current tracks
  have own : gesture.swipes = gesture.expected := faithful.fired gesture (by simp [here])
  have told : ∀ swipes,
      swipes = { gesture with readings := gesture.readings ++ [reading] }.expected →
      ∀ other ∈ (⟨gesture.readings ++ [reading], swipes⟩ : Gesture) :: rest,
        other.swipes = other.expected := by
    intro swipes same other member
    rcases List.mem_cons.mp member with rfl | later
    · exact same
    · exact faithful.fired other (by simp [here, later])
  have read : (s.read reading).gestures =
      ⟨gesture.readings ++ [reading], gesture.swipes⟩ :: rest := by
    simp [GestureCapture.read, GestureCapture.told, here]
  rw [GestureCapture.follow]
  cases fired : s.swipeFired with
  | true =>
    rw [fired] at flag
    have same := expected_of_fired flag.symm reading
    simp only [Bool.not_true, Bool.false_and, Bool.false_eq_true, if_false]
    refine ⟨?_, ?_, faithful.command, faithful.held, faithful.native⟩
    · rw [read]
      exact told _ (own.trans same.symm)
    · intro _
      refine ⟨_, _, read, ?_⟩
      rw [List.any_append, ← flag]
      exact fired
  | false =>
    rw [fired] at flag
    obtain ⟨same, none⟩ := expected_of_unfired flag.symm reading
    rw [none] at own
    cases nonzero : reading.isNonzero with
    | false =>
      -- Nothing to fire yet.
      rw [nonzero] at same
      simp only [Bool.not_false, Bool.and_false, Bool.false_eq_true, if_false]
      refine ⟨?_, ?_, faithful.command, faithful.held, faithful.native⟩
      · rw [read]
        exact told _ (own.trans same.symm)
      · intro _
        refine ⟨_, _, read, ?_⟩
        have zero : [reading].any Reading.isNonzero = false := by simp [nonzero]
        rw [List.any_append, ← flag, zero]
        exact fired
    | true =>
      rw [nonzero] at same
      have swiped : ((s.read reading).fireSwipe reading).gestures =
          ⟨gesture.readings ++ [reading], [reading.direction]⟩ :: rest := by
        simp [GestureCapture.fireSwipe, GestureCapture.told, read, own]
      simp only [Bool.not_false, Bool.and_true, if_true]
      refine ⟨?_, ?_, faithful.command, faithful.held, faithful.native⟩
      · rw [swiped]
        exact told _ same.symm
      · intro _
        refine ⟨_, _, swiped, ?_⟩
        rw [List.any_append]
        simp [GestureCapture.fireSwipe, GestureCapture.told, nonzero]

theorem Faithful.begin (faithful : s.Faithful) : s.begin.1.Faithful := by
  have fired : ∀ gesture ∈ {} :: s.gestures, gesture.swipes = gesture.expected := by
    intro gesture member
    rcases List.mem_cons.mp member with rfl | earlier
    · rfl
    · exact faithful.fired gesture earlier
  rw [GestureCapture.begin]
  split
  · next native => exact ⟨fired, fun _ => ⟨_, _, rfl, rfl⟩, rfl, fun _ _ => rfl, fun _ => native⟩
  · exact ⟨fired, fun _ => ⟨_, _, rfl, rfl⟩, faithful.command, fun _ _ => rfl, faithful.native⟩

theorem Faithful.finish (faithful : s.Faithful) : s.finish.1.Faithful := by
  rw [GestureCapture.finish]
  split
  · refine ⟨faithful.fired, ?_, rfl, ?_, ?_⟩
    · intro tracks
      cases tracks
    · intro _ down
      cases down
    · intro down
      cases down
  · next plain =>
    refine ⟨faithful.fired, ?_, faithful.command, ?_, faithful.native⟩
    · intro tracks
      cases tracks
    · intro _ down
      exact absurd (faithful.native down) plain

theorem Faithful.track (faithful : s.Faithful) (progress : Reading) :
    { s with dockSwipeProgress := progress }.Faithful :=
  { faithful with }

theorem Faithful.handleDockGesture (faithful : s.Faithful) (event : GestureEvent) :
    (s.handleDockGesture event).1.Faithful := by
  cases event with
  | dockSwipe phase progress velocity =>
    have tracked : (if s.tracksDockSwipe then { s with dockSwipeProgress := progress }
        else s).Faithful := by
      split
      · exact faithful.track progress
      · exact faithful
    have same : (if s.tracksDockSwipe then { s with dockSwipeProgress := progress }
        else s).tracksDockSwipe = s.tracksDockSwipe := by
      split
      · rfl
      · rfl
    simp only [GestureCapture.handleDockGesture]
    split
    · exact faithful.begin
    · split
      · next changes => exact tracked.follow (same.trans changes.2) _
      · split
        · next ends => exact (tracked.follow (same.trans ends.2) velocity).finish
        · split
          · exact tracked.finish
          · exact tracked
  | gesture => exact faithful
  | other => exact faithful

theorem Faithful.release (faithful : s.Faithful) (isMade : Bool) :
    (s.releaseNativeGestureModifier isMade).Faithful ∧
      ((s.releaseNativeGestureModifier isMade).isStuck = false →
        (s.releaseNativeGestureModifier isMade).nativeGestureModifierDown = false) := by
  rw [releaseNativeGestureModifier]
  split
  · cases isMade with
    | true =>
      refine ⟨⟨faithful.fired, faithful.current, rfl, ?_, ?_⟩, fun _ => rfl⟩
      · intro _ down
        cases down
      · intro down
        cases down
    | false =>
      refine ⟨⟨faithful.fired, faithful.current, faithful.command, ?_, faithful.native⟩, ?_⟩
      · intro stuck
        cases stuck
      · intro stuck
        cases stuck
  · next up => exact ⟨faithful, fun _ => Bool.eq_false_iff.mpr up⟩

theorem Faithful.step (faithful : s.Faithful) {event : CaptureEvent}
    (taken : s.step event = some t) : t.Faithful := by
  cases event with
  | handle event =>
    cases taken
    exact faithful.handleDockGesture event
  | disable isMade =>
    cases taken
    exact (faithful.release isMade).1
  | stop isMade =>
    cases taken
    obtain ⟨released, up⟩ := faithful.release isMade
    refine ⟨released.fired, ?_, released.command, ?_, released.native⟩
    · intro tracks
      cases tracks
    · intro free down
      have free : (s.releaseNativeGestureModifier isMade).isStuck = false := free
      have down : (s.releaseNativeGestureModifier isMade).nativeGestureModifierDown = true := down
      rw [up free] at down
      cases down

def initial (usesNativeKeyboardMapping : Bool) : GestureCapture where
  usesNativeKeyboardMapping := usesNativeKeyboardMapping

end GestureCapture

end SimpleVM.Input
