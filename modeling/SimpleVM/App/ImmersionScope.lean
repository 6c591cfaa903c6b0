import SimpleVM.App.ImmersionController
import SimpleVM.Transition.Run

/-!
# What an immersion leaves behind

A session holds one capture, one set of observers and one hidden toolbar, whatever tasks of earlier
sessions still run. There is always a way out of it: its tap, or the monitor that stands in for the
tap. The step that ends it leaves nothing of it, releases the keys of its machine and deactivates
the mappings.
-/
namespace SimpleVM.App

open Domain Transition

namespace Immersion

variable {s t : Immersion} {machineID : UUID} {capture : ImmersiveInputCapture} {window : Nat}
  {usesKarabinerInput : Bool}

/-- Nothing of a session is left. -/
structure Clear (s : Immersion) : Prop where
  controller : s.controller = {}
  taps : s.taps = []
  monitors : s.monitors = []
  observing : s.observing = []
  toolbars : s.hiddenToolbars = []
  karabiner : s.isSwitchedOff = true → s.isKarabinerActive = false

/-- A machine is immersed, and only what this takes is held. -/
structure Immersed (s : Immersion) (machineID : UUID) (capture : ImmersiveInputCapture)
    (window : Nat) (usesKarabinerInput : Bool) : Prop where
  active : s.controller.activeMachineID = some machineID
  handler : s.controller.releaseKeysHandler = some machineID
  presented : s.controller.window = some window
  captured : s.controller.inputCapture = some capture
  observers : s.controller.observers = some capture.session
  permission : s.controller.requiresAccessibilityPermission = capture.tap.isNone
  monitor : s.controller.fallbackEventMonitor =
    if capture.tap.isNone then some capture.session else none
  taps : s.taps = if capture.tap.isNone then [] else [capture.session]
  monitors : s.monitors = if capture.tap.isNone then [capture.session] else []
  observing : s.observing = [⟨capture.session, usesKarabinerInput⟩]
  toolbars : s.hiddenToolbars = [window]

/-- The invariant: no machine is immersed, or one; and the keys of those that were are released. -/
structure Scoped (s : Immersion) : Prop where
  one : s.Clear ∨ ∃ machineID capture window usesKarabinerInput,
    s.Immersed machineID capture window usesKarabinerInput
  released : s.ended.Sublist s.released

/-- Once switched off, Karabiner is off. -/
theorem inactive_of_off {wasActive isOff : Bool} (off : isOff = true) :
    (wasActive && !isOff) = false := by
  rw [off]
  exact Bool.and_false wasActive

theorem Clear.inactive (clear : s.Clear) : s.controller.activeMachineID = none := by
  rw [clear.controller]

/-! ### What the mappings touch -/

/-- Only the message and the variable of Karabiner. -/
theorem prepareKarabiner_eq (s : Immersion) (calls : KarabinerCalls) : ∃ message isActive,
    s.prepareKarabiner calls = { s with
      controller := { s.controller with karabinerErrorMessage := message }
      isKarabinerActive := isActive } := by
  rw [prepareKarabiner]
  split
  · exact ⟨_, _, rfl⟩
  · split
    · exact ⟨_, _, rfl⟩
    · exact ⟨_, _, rfl⟩

theorem Immersed.mapped (immersed : s.Immersed machineID capture window usesKarabinerInput)
    (message : Option String) (isActive : Bool) :
    { s with
      controller := { s.controller with karabinerErrorMessage := message }
      isKarabinerActive := isActive }.Immersed machineID capture window usesKarabinerInput :=
  { immersed with }

/-! ### The session that begins -/

theorem begin_mapped (s : Immersion) (machineID : UUID) (window : Nat) (usesKarabinerInput : Bool)
    (calls : KarabinerCalls) : ∃ message isActive,
    (if usesKarabinerInput then (s.present machineID window).prepareKarabiner calls
      else s.present machineID window) = { s.present machineID window with
        controller := { (s.present machineID window).controller with
          karabinerErrorMessage := message }
        isKarabinerActive := isActive } := by
  cases usesKarabinerInput with
  | false => exact ⟨_, _, rfl⟩
  | true => exact prepareKarabiner_eq (s.present machineID window) calls

theorem Clear.begin (clear : s.Clear) (machineID : UUID) (window : Nat) (usesKarabinerInput : Bool)
    (calls : KarabinerCalls) (access : Bool) :
    (s.begin machineID window usesKarabinerInput calls access).Immersed machineID
      ⟨s.sessions, if access then some true else none⟩ window usesKarabinerInput := by
  obtain ⟨message, isActive, mapped⟩ := begin_mapped s machineID window usesKarabinerInput calls
  simp only [Immersion.begin, mapped]
  cases access
  · constructor <;> simp [startCapture, present, clear.controller, clear.taps, clear.monitors,
      clear.observing, clear.toolbars]
  · constructor <;> simp [startCapture, present, clear.controller, clear.taps, clear.monitors,
      clear.observing, clear.toolbars]

theorem begin_released (s : Immersion) (machineID : UUID) (window : Nat)
    (usesKarabinerInput : Bool) (calls : KarabinerCalls) (access : Bool) :
    (s.begin machineID window usesKarabinerInput calls access).ended = s.ended ∧
      (s.begin machineID window usesKarabinerInput calls access).released = s.released := by
  obtain ⟨message, isActive, mapped⟩ := begin_mapped s machineID window usesKarabinerInput calls
  simp only [Immersion.begin, mapped]
  cases access
  · exact ⟨rfl, rfl⟩
  · exact ⟨rfl, rfl⟩

/-- A call while a machine is immersed, or without a window that has the keys, does nothing. -/
theorem Scoped.enter (held : s.Scoped) (keyWindow : Option Nat) (calls : KarabinerCalls)
    (access : Bool) : (s.enter machineID keyWindow usesKarabinerInput calls access).Scoped := by
  rw [Immersion.enter]
  split
  · exact held
  · next inactive =>
    cases keyWindow with
    | none => exact held
    | some window =>
      have kept := begin_released s machineID window usesKarabinerInput calls access
      constructor
      · rcases held.one with clear | ⟨_, _, _, _, immersed⟩
        · exact .inr ⟨_, _, _, _, clear.begin machineID window usesKarabinerInput calls access⟩
        · rw [immersed.active] at inactive
          exact absurd rfl inactive
      · change ((s.begin machineID window usesKarabinerInput calls access).ended).Sublist
          (s.begin machineID window usesKarabinerInput calls access).released
        rw [kept.1, kept.2]
        exact held.released

/-! ### The session that ends -/

theorem Immersed.leave (immersed : s.Immersed machineID capture window usesKarabinerInput)
    (isOff : Bool) : (s.leave machineID isOff).Clear := by
  -- The controller refers to all that is held: its tap or its monitor, its observers, its window.
  have taps : s.stopCapture.taps = [] := by
    simp only [stopCapture, immersed.captured, immersed.taps, Option.elim]
    cases capture.tap <;> simp
  have monitors : s.controller.fallbackEventMonitor.elim s.monitors s.monitors.erase = [] := by
    rw [immersed.monitor, immersed.monitors]
    cases capture.tap <;> simp
  constructor
  · rfl
  · exact taps
  · exact monitors
  · simp [Immersion.leave, removeObservers, releaseKeys, removeFallbackEventMonitor, stopCapture,
      immersed.observers, immersed.observing]
  · simp [Immersion.leave, removeObservers, releaseKeys, removeFallbackEventMonitor, stopCapture,
      immersed.presented, immersed.toolbars]
  · exact inactive_of_off

theorem Scoped.exit (held : s.Scoped) (isOff : Bool) : (s.exit isOff).Scoped := by
  rw [Immersion.exit]
  rcases held.one with clear | ⟨machineID, capture, window, _, immersed⟩
  · rw [clear.inactive]
    exact held
  · rw [immersed.active]
    refine ⟨.inl (immersed.leave isOff), ?_⟩
    have handler : s.controller.releaseKeysHandler.toList = [machineID] := by
      rw [immersed.handler]
      rfl
    change (s.ended ++ [machineID]).Sublist (s.released ++ s.controller.releaseKeysHandler.toList)
    rw [handler]
    exact held.released.append (List.Sublist.refl _)

/-! ### Tasks of any session -/

theorem Immersed.resignedActive
    (immersed : s.Immersed machineID capture window usesKarabinerInput) :
    s.resignedActive.Immersed machineID { capture with tap := capture.tap.map fun _ => false }
      window usesKarabinerInput := by
  have same : (capture.tap.map fun _ => false).isNone = capture.tap.isNone := Option.isNone_map
  refine ⟨immersed.active, immersed.handler, immersed.presented, ?_, immersed.observers, ?_, ?_, ?_,
    ?_, immersed.observing, immersed.toolbars⟩
  · simp only [Immersion.resignedActive, setCaptureEnabled, releaseKeys, immersed.captured,
      Option.map_some]
  · rw [same]
    exact immersed.permission
  · rw [same]
    exact immersed.monitor
  · rw [same]
    exact immersed.taps
  · rw [same]
    exact immersed.monitors

theorem Clear.resignedActive (clear : s.Clear) : s.resignedActive.Clear := by
  refine ⟨?_, clear.taps, clear.monitors, clear.observing, clear.toolbars, clear.karabiner⟩
  simp only [Immersion.resignedActive, setCaptureEnabled, releaseKeys, clear.controller,
    Option.map_none]

theorem Scoped.resignedActive (held : s.Scoped) : s.resignedActive.Scoped := by
  refine ⟨?_, held.released.trans (List.sublist_append_left _ _)⟩
  rcases held.one with clear | ⟨_, _, _, _, immersed⟩
  · exact .inl clear.resignedActive
  · exact .inr ⟨_, _, _, _, immersed.resignedActive⟩

theorem Immersed.resumeCapture
    (immersed : s.Immersed machineID capture window usesKarabinerInput) (access : Bool) :
    ∃ resumed, (s.resumeCapture capture access).Immersed machineID resumed window
      usesKarabinerInput := by
  have permission := immersed.permission
  have monitor := immersed.monitor
  have taps := immersed.taps
  have monitors := immersed.monitors
  cases tapped : capture.tap with
  | none =>
    rw [tapped] at permission monitor taps monitors
    cases access with
    | false =>
      -- The permission is still missing.
      have same : s.resumeCapture capture false = { s with
          controller := { s.controller with inputCapture := some capture } } := by
        simp [Immersion.resumeCapture, permission, startCapture, tapped]
      rw [same]
      exact ⟨capture, { immersed with captured := rfl }⟩
    | true =>
      -- The tap takes the place of the monitor.
      have same : s.resumeCapture capture true = { s with
          controller := { s.controller with
            inputCapture := some { capture with tap := some true }
            requiresAccessibilityPermission := false
            fallbackEventMonitor := none }
          taps := capture.session :: s.taps
          monitors := s.controller.fallbackEventMonitor.elim s.monitors s.monitors.erase } := by
        simp [Immersion.resumeCapture, permission, startCapture, removeFallbackEventMonitor, tapped]
      rw [same]
      refine ⟨{ capture with tap := some true }, ?_⟩
      constructor <;> simp [immersed.active, immersed.handler, immersed.presented,
        immersed.observers, immersed.observing, immersed.toolbars, monitor, taps, monitors]
  | some isEnabled =>
    rw [tapped] at permission monitor taps monitors
    have same : s.resumeCapture capture access = s.setCaptureEnabled true := by
      simp [Immersion.resumeCapture, permission]
    rw [same]
    refine ⟨{ capture with tap := some true }, ?_⟩
    constructor <;> simp [setCaptureEnabled, immersed.active, immersed.handler, immersed.presented,
      immersed.captured, immersed.observers, immersed.observing, immersed.toolbars, monitor, taps,
      monitors, permission, tapped]

theorem Immersed.becameActive
    (immersed : s.Immersed machineID capture window usesKarabinerInput) (uses : Bool)
    (calls : KarabinerCalls) (access : Bool) : ∃ resumed,
    (s.becameActive uses calls access).Immersed machineID resumed window usesKarabinerInput := by
  obtain ⟨resumed, again⟩ := immersed.resumeCapture access
  refine ⟨resumed, ?_⟩
  rw [Immersion.becameActive, immersed.captured]
  -- The task may be of an earlier session, which used Karabiner or did not.
  cases uses with
  | false => exact again
  | true =>
    obtain ⟨message, isActive, mapped⟩ :=
      prepareKarabiner_eq (s.resumeCapture capture access) calls
    simp only [Option.elim, if_true]
    split
    · exact again.mapped none true
    · rw [mapped]
      exact again.mapped message isActive

theorem startCapture_released (s : Immersion) (capture : ImmersiveInputCapture) (access : Bool) :
    (s.startCapture capture access).ended = s.ended ∧
      (s.startCapture capture access).released = s.released := by
  rw [startCapture]
  split
  · exact ⟨rfl, rfl⟩
  · exact ⟨rfl, rfl⟩

theorem resumeCapture_released (s : Immersion) (capture : ImmersiveInputCapture) (access : Bool) :
    (s.resumeCapture capture access).ended = s.ended ∧
      (s.resumeCapture capture access).released = s.released := by
  rw [resumeCapture]
  split
  · simp only []
    split
    · exact startCapture_released s capture access
    · exact startCapture_released s capture access
  · exact ⟨rfl, rfl⟩

theorem becameActive_released (s : Immersion) (uses : Bool) (calls : KarabinerCalls)
    (access : Bool) : (s.becameActive uses calls access).ended = s.ended ∧
      (s.becameActive uses calls access).released = s.released := by
  rw [becameActive]
  cases s.controller.inputCapture with
  | none => exact ⟨rfl, rfl⟩
  | some capture =>
    have resumed := resumeCapture_released s capture access
    cases uses with
    | false => exact resumed
    | true =>
      obtain ⟨message, isActive, mapped⟩ :=
        prepareKarabiner_eq (s.resumeCapture capture access) calls
      simp only [Option.elim, if_true]
      split
      · exact resumed
      · rw [mapped]
        exact resumed

/-- A task that meets no session does nothing. -/
theorem Clear.becameActive (clear : s.Clear) (uses : Bool) (calls : KarabinerCalls)
    (access : Bool) : (s.becameActive uses calls access).Clear := by
  have none : s.controller.inputCapture = none := by
    rw [clear.controller]
  rw [Immersion.becameActive, none]
  exact clear

theorem Scoped.becameActive (held : s.Scoped) (uses : Bool) (calls : KarabinerCalls)
    (access : Bool) : (s.becameActive uses calls access).Scoped := by
  have kept := becameActive_released s uses calls access
  constructor
  · rcases held.one with clear | ⟨machineID, _, _, _, immersed⟩
    · exact .inl (clear.becameActive uses calls access)
    · obtain ⟨resumed, again⟩ := immersed.becameActive uses calls access
      exact .inr ⟨_, _, _, _, again⟩
  · rw [kept.1, kept.2]
    exact held.released

/-! ### Every step -/

theorem Scoped.withSettings (held : s.Scoped) (settings : Input.KeyboardMappingSettings) :
    { s with settings := settings }.Scoped := by
  refine ⟨?_, held.released⟩
  rcases held.one with clear | ⟨_, _, _, _, immersed⟩
  · exact .inl { clear with }
  · exact .inr ⟨_, _, _, _, { immersed with }⟩

theorem Scoped.withTasks (held : s.Scoped) (tasks : List ImmersionTask) :
    { s with tasks := tasks }.Scoped := by
  refine ⟨?_, held.released⟩
  rcases held.one with clear | ⟨_, _, _, _, immersed⟩
  · exact .inl { clear with }
  · exact .inr ⟨_, _, _, _, { immersed with }⟩

theorem Scoped.hideExitHint (held : s.Scoped) :
    { s with controller := { s.controller with showsExitHint := false } }.Scoped := by
  refine ⟨?_, held.released⟩
  rcases held.one with clear | ⟨_, _, _, _, immersed⟩
  · have hidden : { s.controller with showsExitHint := false } = ({} : ImmersionController) := by
      rw [clear.controller]
    exact .inl { clear with controller := hidden }
  · exact .inr ⟨_, _, _, _, { immersed with }⟩

theorem Scoped.perform (held : s.Scoped) (calls : KarabinerCalls) (access isOff : Bool)
    (task : ImmersionTask) : (s.perform calls access isOff task).Scoped := by
  cases task with
  | exit => exact held.exit isOff
  | resignedActive => exact held.resignedActive
  | becameActive uses => exact held.becameActive uses calls access

theorem Scoped.step (held : s.Scoped) {event : ImmersionEvent} (taken : s.step event = some t) :
    t.Scoped := by
  cases event with
  | enter selected machineID keyWindow usesKarabinerInput calls access =>
    cases taken
    exact (held.withSettings _).enter keyWindow calls access
  | exit isOff =>
    cases taken
    exact held.exit isOff
  | exitShortcut session =>
    rw [Immersion.step] at taken
    split at taken
    · cases taken
      exact held.withTasks _
    · cases taken
  | fallbackShortcut session =>
    rw [Immersion.step] at taken
    split at taken
    · cases taken
      exact held.withTasks _
    · cases taken
  | didExitFullScreen =>
    cases taken
    exact held.withTasks _
  | didResignActive =>
    cases taken
    exact held.withTasks _
  | didBecomeActive =>
    cases taken
    exact held.withTasks _
  | hintTimeout =>
    rw [Immersion.step] at taken
    split at taken
    · cases taken
      exact held.hideExitHint
    · cases taken
  | run index calls access isOff =>
    obtain ⟨task, _, rfl⟩ := Option.map_eq_some_iff.mp taken
    exact (held.withTasks _).perform calls access isOff task

/-- The session of a machine ends: the keys of the machine are released, and the mappings
deactivated. -/
structure Ends (s t : Immersion) (machineID : UUID) : Prop where
  clear : t.Clear
  ended : t.ended = s.ended ++ [machineID]
  released : t.released = s.released ++ [machineID]
  settings : t.settings = s.settings.deactivate

theorem Immersed.ends (immersed : s.Immersed machineID capture window usesKarabinerInput)
    (isOff : Bool) : s.Ends (s.exit isOff) machineID := by
  have handler : s.controller.releaseKeysHandler.toList = [machineID] := by
    rw [immersed.handler]
    rfl
  rw [Immersion.exit, immersed.active]
  refine ⟨immersed.leave isOff, rfl, ?_, rfl⟩
  change s.released ++ s.controller.releaseKeysHandler.toList = _
  rw [handler]

theorem Immersed.perform (immersed : s.Immersed machineID capture window usesKarabinerInput)
    (calls : KarabinerCalls) (access isOff : Bool) (task : ImmersionTask) :
    (s.perform calls access isOff task).controller.activeMachineID = some machineID ∧
        (s.perform calls access isOff task).ended = s.ended ∨
      s.Ends (s.perform calls access isOff task) machineID := by
  cases task with
  | exit => exact .inr (immersed.ends isOff)
  | resignedActive => exact .inl ⟨immersed.active, rfl⟩
  | becameActive uses =>
    obtain ⟨resumed, again⟩ := immersed.becameActive uses calls access
    exact .inl ⟨again.active, (becameActive_released s uses calls access).1⟩

/-- A step keeps the session of a machine or ends it. -/
theorem Immersed.step (immersed : s.Immersed machineID capture window usesKarabinerInput)
    {event : ImmersionEvent} (taken : s.step event = some t) :
    t.controller.activeMachineID = some machineID ∧ t.ended = s.ended ∨
      s.Ends t machineID := by
  cases event with
  | enter selected other keyWindow uses calls access =>
    -- While a machine is immersed only the mappings change.
    have same : s.enterImmersion selected other keyWindow uses calls access = { s with
        settings := s.settings.activate selected.hyprlandName selected.profile
          selected.entries } := by
      simp [enterImmersion, Immersion.enter, immersed.active]
    cases taken
    rw [same]
    exact .inl ⟨immersed.active, rfl⟩
  | exit isOff =>
    cases taken
    exact .inr (immersed.ends isOff)
  | exitShortcut session =>
    rw [Immersion.step] at taken
    split at taken
    · cases taken
      exact .inl ⟨immersed.active, rfl⟩
    · cases taken
  | fallbackShortcut session =>
    rw [Immersion.step] at taken
    split at taken
    · cases taken
      exact .inl ⟨immersed.active, rfl⟩
    · cases taken
  | didExitFullScreen =>
    cases taken
    exact .inl ⟨immersed.active, rfl⟩
  | didResignActive =>
    cases taken
    exact .inl ⟨immersed.active, rfl⟩
  | didBecomeActive =>
    cases taken
    exact .inl ⟨immersed.active, rfl⟩
  | hintTimeout =>
    rw [Immersion.step] at taken
    split at taken
    · cases taken
      exact .inl ⟨immersed.active, rfl⟩
    · cases taken
  | run index calls access isOff =>
    obtain ⟨task, _, rfl⟩ := Option.map_eq_some_iff.mp taken
    have waiting : { s with tasks := s.tasks.eraseIdx index }.Immersed machineID capture window
        usesKarabinerInput := { immersed with }
    rcases waiting.perform calls access isOff task with goes | ends
    · exact .inl goes
    · exact .inr ⟨ends.clear, ends.ended, ends.released, ends.settings⟩

theorem scoped_initial (isLeftOn isOff : Bool) : (initial isLeftOn isOff).Scoped := by
  have clear : (initial isLeftOn isOff).Clear := ⟨rfl, rfl, rfl, rfl, rfl, inactive_of_off⟩
  exact ⟨.inl clear, List.Sublist.refl _⟩

/-- **A session leaves nothing behind**: in every run, while no machine is immersed nothing of a
session is left; while one is, only what its session takes is held, and its tap or the monitor is a
way out of it; at the end of each session the keys of its machine were released, namely by the step
that ends it, which deactivates the mappings too. -/
theorem immersion_scoped {isLeftOn isOff : Bool} {events : List ImmersionEvent}
    (run : Run Immersion.step (initial isLeftOn isOff) events s) :
    (s.controller.activeMachineID = none → s.Clear) ∧
      (∀ machineID, s.controller.activeMachineID = some machineID →
        ∃ capture window usesKarabinerInput,
          s.Immersed machineID capture window usesKarabinerInput) ∧
      s.ended.Sublist s.released ∧
      ∀ machineID event t, s.controller.activeMachineID = some machineID →
        s.step event = some t →
        t.controller.activeMachineID = some machineID ∧ t.ended = s.ended ∨
          s.Ends t machineID := by
  have held := run.keeps (I := Scoped) (fun _ _ _ held taken => held.step taken)
    (scoped_initial isLeftOn isOff)
  have immersed : ∀ machineID, s.controller.activeMachineID = some machineID →
      ∃ capture window usesKarabinerInput,
        s.Immersed machineID capture window usesKarabinerInput := by
    intro machineID active
    rcases held.one with clear | ⟨_, capture, window, usesKarabinerInput, immersed⟩
    · rw [clear.inactive] at active
      cases active
    · have same := immersed.active
      rw [active] at same
      cases same
      exact ⟨capture, window, usesKarabinerInput, immersed⟩
  refine ⟨?_, immersed, held.released, ?_⟩
  · intro inactive
    rcases held.one with clear | ⟨machineID, _, _, _, immersed⟩
    · exact clear
    · rw [immersed.active] at inactive
      cases inactive
  · intro machineID event t active taken
    obtain ⟨capture, window, usesKarabinerInput, held⟩ := immersed machineID active
    exact held.step taken

/-- The permission comes while a machine is immersed, and the tap is the way out. -/
def grantedSession : List ImmersionEvent :=
  [.enter ⟨true, .macOSHyprland, []⟩ ⟨7⟩ (some 0) true ⟨true, true, none⟩ false, .didBecomeActive,
    .run 0 ⟨true, true, none⟩ true true, .exitShortcut 0]

theorem immersion_scoped_granted : ∃ s t, Run Immersion.step (initial true true) grantedSession s ∧
    s.settings.activePreset = .hyprland ∧
    s.step (.run 0 ⟨true, true, none⟩ true true) = some t ∧ s.Ends t ⟨7⟩ ∧
    t.released = [⟨7⟩] ∧ t.settings.activePreset = .gnome := by
  have run : Run Immersion.step (initial true true) grantedSession _ := run_of_execute rfl
  obtain ⟨-, -, -, steps⟩ := immersion_scoped run
  refine ⟨_, _, run, rfl, rfl, ?_, rfl, rfl⟩
  rcases steps ⟨7⟩ (.run 0 ⟨true, true, none⟩ true true) _ rfl rfl with ⟨still, _⟩ | ends
  · cases still
  · exact ends

end Immersion

end SimpleVM.App
