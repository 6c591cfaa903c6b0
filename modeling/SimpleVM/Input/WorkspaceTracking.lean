import SimpleVM.Input.InputPaths

/-!
# Tracking of the Hyprland workspace

The event tap looks at the chord that it sends, and beside Karabiner the chord of the host is
looked at. A preset maps a chord that selects a workspace to one that selects the same. A custom
rule is not looked at by the event tap.
-/
namespace SimpleVM.Input

open Swift Domain

namespace KeyboardMappingSettings

open KeyboardProfileRuleParser

variable {it it' : Iteration} {s : KeyboardMappingSettings} {keyCode : UInt16}
  {modifiers : ModifierFlags}

/-- The position of the workspace that a chord of the guest selects. -/
def selected (keyCode : UInt16) (modifiers : ModifierFlags) : Option Nat :=
  if modifiers = .command then hyprlandWorkspaceKeyCodes.idxOf? keyCode else none

/-- No custom rule is for a chord that selects a workspace. -/
def Unshadowed (customMappings : List (HostChord × GuestChord)) : Prop :=
  ∀ entry ∈ customMappings, ¬ (entry.1.modifiers = .command ∧
    entry.1.keyCode ∈ hyprlandWorkspaceKeyCodes)

theorem synchronized_eq (keyCode : UInt16) (modifiers : ModifierFlags)
    (hyprland : s.activePreset = .hyprland) : s.synchronized keyCode modifiers =
      ((selected keyCode modifiers).elim s fun index => s.setWorkspace (index + 1)) := by
  unfold synchronized selected
  by_cases command : modifiers = .command
  · simp only [hyprland, command, and_self, if_true]
    cases hyprlandWorkspaceKeyCodes.idxOf? keyCode <;> rfl
  · simp only [command, and_false, if_false]
    rfl

theorem synchronized_otherwise (keyCode : UInt16) (modifiers : ModifierFlags)
    (otherwise : s.activePreset ≠ .hyprland) : s.synchronized keyCode modifiers = s := by
  unfold synchronized
  simp only [otherwise, false_and, if_false]

/-- A preset keeps the workspace that a chord selects. -/
theorem selected_added {entry : HostChord × GuestChord} (listed : entry ∈ added .hyprland) :
    selected entry.2.keyCode entry.2.modifiers = selected entry.1.keyCode entry.1.modifiers := by
  have all : ∀ entry ∈ added .hyprland,
      selected entry.2.keyCode entry.2.modifiers =
        selected entry.1.keyCode entry.1.modifiers := by decide +kernel
  exact all entry listed

/-- A chord of the host that no custom rule is for selects the same workspace as the one that is
sent. -/
theorem selected_resolved (it : Iteration) (custom : s.Custom) (hyprland : s.activePreset = .hyprland)
    {host : HostChord} (free : s.customMappings.lookup host = none) :
    let resolved := ((s.mappings it).lookup host).getD ⟨host.keyCode, host.modifiers⟩
    selected resolved.keyCode resolved.modifiers = selected host.keyCode host.modifiers := by
  rw [lookup_mappings it custom, free, Option.none_or, hyprland]
  cases found : (added .hyprland).lookup host with
  | none => rfl
  | some guest => exact selected_added (mem_of_lookup found)

/-- A custom rule is returned as it is. -/
theorem chord_custom {guest : GuestChord}
    (found : s.customMappings.lookup ⟨keyCode, modifiers.normalized⟩ = some guest) :
    s.chord it keyCode modifiers = (guest, s) := by
  unfold chord
  simp only [found]

/-- Any other chord is looked at after it is looked up. -/
theorem chord_resolved
    (free : s.customMappings.lookup ⟨keyCode, modifiers.normalized⟩ = none)
    (hyprland : s.activePreset = .hyprland) :
    s.chord it keyCode modifiers =
      let resolved := ((s.mappings it).lookup ⟨keyCode, modifiers.normalized⟩).getD
        ⟨keyCode, modifiers.normalized⟩
      (resolved, s.synchronized resolved.keyCode resolved.modifiers) := by
  have mapped : s.activePreset ≠ .passthrough := by
    rw [hyprland]
    decide
  unfold chord synchronizeHyprlandWorkspace
  simp only [free, mapped, if_false]

theorem chord_otherwise (it : Iteration) (keyCode : UInt16) (modifiers : ModifierFlags)
    (otherwise : s.activePreset ≠ .hyprland) : (s.chord it keyCode modifiers).2 = s := by
  cases found : s.customMappings.lookup ⟨keyCode, modifiers.normalized⟩ with
  | some guest => rw [chord_custom found]
  | none =>
    unfold chord
    by_cases passthrough : s.activePreset = .passthrough
    · simp only [found, passthrough, if_true]
    · simp only [found, passthrough, if_false]
      exact synchronized_otherwise _ _ otherwise

/-- Both paths track a chord alike. -/
theorem chord_observed (it : Iteration) (custom : s.Custom)
    (apart : s.activePreset ≠ .hyprland ∨ Unshadowed s.customMappings) (keyCode : UInt16)
    (modifiers : ModifierFlags) :
    (s.chord it keyCode modifiers).2 = s.observeHostChord keyCode modifiers := by
  unfold observeHostChord
  by_cases hyprland : s.activePreset = .hyprland
  · have unshadowed := apart.resolve_left (not_not_intro hyprland)
    rw [synchronized_eq _ _ hyprland]
    cases found : s.customMappings.lookup ⟨keyCode, modifiers.normalized⟩ with
    | some guest =>
      -- The rule is for another chord than one that selects.
      have unselected : selected keyCode modifiers.normalized = none := by
        have other := unshadowed _ (mem_of_lookup found)
        unfold selected
        split
        · rename_i command
          rw [List.idxOf?_eq_none_iff]
          exact fun listed => other ⟨command, listed⟩
        · rfl
      rw [chord_custom found, unselected]
      rfl
    | none =>
      have same := selected_resolved it custom hyprland found
      rw [chord_resolved found hyprland]
      simp only
      rw [synchronized_eq _ _ hyprland, same]
  · rw [synchronized_otherwise _ _ hyprland, chord_otherwise _ _ _ hyprland]

/-! ## Runs -/

/-- What a step of either path leaves as it is. -/
theorem synchronized_frame (s : KeyboardMappingSettings) (keyCode : UInt16)
    (modifiers : ModifierFlags) :
    (s.synchronized keyCode modifiers).activePreset = s.activePreset ∧
      (s.synchronized keyCode modifiers).customMappings = s.customMappings := by
  unfold synchronized
  split
  · split
    · exact ⟨rfl, rfl⟩
    · exact ⟨rfl, rfl⟩
  · exact ⟨rfl, rfl⟩

theorem native_frame (s : KeyboardMappingSettings) (step : InputStep) :
    (s.native step).activePreset = s.activePreset ∧
      (s.native step).customMappings = s.customMappings := by
  cases step with
  | chord keyCode modifiers => exact synchronized_frame s keyCode _
  | swipe direction workspaceCount =>
    unfold native workspaceChord
    simp only
    split
    · exact ⟨rfl, rfl⟩
    · exact ⟨rfl, rfl⟩

theorem tap_native (it : Iteration) (custom : s.Custom)
    (apart : s.activePreset ≠ .hyprland ∨ Unshadowed s.customMappings) (step : InputStep) :
    s.tap it step = s.native step := by
  cases step with
  | chord keyCode modifiers => exact chord_observed it custom apart keyCode modifiers
  | swipe direction workspaceCount => rfl

/-- After any steps both paths are at the same settings. -/
theorem foldl_tap_native (it : Iteration) (steps : List InputStep) (custom : s.Custom)
    (apart : s.activePreset ≠ .hyprland ∨ Unshadowed s.customMappings) :
    steps.foldl (tap it) s = steps.foldl native s := by
  induction steps generalizing s with
  | nil => rfl
  | cons step steps ih =>
    obtain ⟨samePreset, sameCustom⟩ := native_frame s step
    rw [List.foldl_cons, List.foldl_cons, tap_native it custom apart step]
    apply ih
    · refine ⟨?_, ?_⟩
      · rw [sameCustom]
        exact custom.distinct
      · rw [sameCustom]
        exact custom.mappable
    · rwa [samePreset, sameCustom]

/-! ## The rule that comes between -/

/-- Beside Karabiner the host chord moves the index, and the event tap leaves it. -/
theorem shadowed_apart (it : Iteration) {guest : GuestChord} {index : Nat}
    (hyprland : s.activePreset = .hyprland)
    (found : s.customMappings.lookup ⟨keyCode, .command⟩ = some guest)
    (isAt : hyprlandWorkspaceKeyCodes.idxOf? keyCode = some index) :
    s.tap it (.chord keyCode .command) = s ∧
      s.native (.chord keyCode .command) = s.setWorkspace (index + 1) := by
  have plain : ModifierFlags.command.normalized = .command := by decide
  constructor
  · have looked := found
    rw [← plain] at looked
    unfold tap
    simp only
    rw [chord_custom looked]
  · unfold native observeHostChord
    simp only
    rw [plain, synchronized_eq _ _ hyprland]
    unfold selected
    rw [if_pos rfl, isAt]
    rfl

/-- From the first workspace, a rule that shadows one takes the paths apart. -/
theorem exists_apart (it : Iteration) {guest : GuestChord} (hyprland : s.activePreset = .hyprland)
    (first : s.hyprlandWorkspaceIndex = 1)
    (found : s.customMappings.lookup ⟨keyCode, .command⟩ = some guest)
    (listed : keyCode ∈ hyprlandWorkspaceKeyCodes) : ∃ steps : List InputStep,
      (steps.foldl (tap it) s).hyprlandWorkspaceIndex ≠
        (steps.foldl native s).hyprlandWorkspaceIndex := by
  cases isAt : hyprlandWorkspaceKeyCodes.idxOf? keyCode with
  | none =>
    rw [List.idxOf?_eq_none_iff] at isAt
    exact absurd listed isAt
  | some index =>
    cases index with
    | succ index =>
      refine ⟨[.chord keyCode .command], ?_⟩
      obtain ⟨tapped, observed⟩ := shadowed_apart it hyprland found isAt
      simp only [List.foldl_cons, List.foldl_nil]
      rw [tapped, observed, first]
      unfold setWorkspace
      simp only
      omega
    | zero =>
      -- The chord selects the first workspace, so a swipe leaves it before.
      refine ⟨[.swipe .next 10, .chord keyCode .command], ?_⟩
      have swiped : (s.workspaceChord .next 10).2 = s.setWorkspace 2 := by
        have next : nextIndex .next (min (max 10 2) hyprlandWorkspaceCount)
            (min (max 1 1) (min (max 10 2) hyprlandWorkspaceCount)) = 2 := by decide
        unfold workspaceChord
        simp only [hyprland, if_true, first]
        rw [next]
      obtain ⟨tapped, observed⟩ := shadowed_apart (s := s.setWorkspace 2) it hyprland found isAt
      have tapSwipe : s.tap it (.swipe .next 10) = s.setWorkspace 2 := swiped
      have nativeSwipe : s.native (.swipe .next 10) = s.setWorkspace 2 := swiped
      simp only [List.foldl_cons, List.foldl_nil]
      rw [tapSwipe, nativeSwipe, tapped, observed]
      unfold setWorkspace
      simp only
      omega

/-! ## The rules of a text -/

theorem activate_custom (s : KeyboardMappingSettings) (hyprlandName : Bool)
    (profile : MachineInputProfile) (entries : List KeyboardMappingEntry) :
    (s.activate hyprlandName profile entries).customMappings =
      entries.map fun entry => (entry.host, entry.guest) := by
  unfold activate
  simp only
  split <;> rfl

theorem activate_preset (s : KeyboardMappingSettings) (hyprlandName : Bool)
    (profile : MachineInputProfile) (entries : List KeyboardMappingEntry) :
    (s.activate hyprlandName profile entries).activePreset = preset hyprlandName profile := by
  unfold activate
  simp only
  split <;> rfl

/-- The rules of a text that is accepted are those of the parser. -/
theorem custom_activate {u : Unicode} {rules : List Char} {entries : List KeyboardMappingEntry}
    (accepted : parse u it rules = .ok entries) (s : KeyboardMappingSettings)
    (hyprlandName : Bool) (profile : MachineInputProfile) :
    (s.activate hyprlandName profile entries).Custom := by
  have mappable := mappable_parsed accepted
  obtain ⟨-, distinct, rfl⟩ := parse_iff.mp accepted
  refine ⟨?_, ?_⟩
  · rw [activate_custom, List.map_map]
    have hosts := (sortedEntries_perm it (rulesOf u (lines u rules)).reverse).map
      KeyboardMappingEntry.host
    rw [List.map_map] at hosts
    have reversed := (List.reverse_perm (rulesOf u (lines u rules))).map Prod.fst
    exact hosts.nodup_iff.mpr (reversed.nodup_iff.mpr distinct)
  · intro entry listed
    rw [activate_custom] at listed
    obtain ⟨rule, inEntries, rfl⟩ := List.mem_map.mp listed
    exact mappable rule inEntries

/-- With any profile and any custom rules that are accepted, the event tap and Karabiner send the
same chords. They track the same workspace if the profile is not the one for Hyprland or no rule
is for Command and a digit. -/
theorem paths_agree_iff (u : Unicode) (it it' it'' : Iteration) (s : KeyboardMappingSettings)
    (hyprlandName : Bool) (profile : MachineInputProfile) (rules : List Char)
    (entries : List KeyboardMappingEntry) (accepted : parse u it rules = .ok entries) :
    PathsAgree it' it'' (s.activate hyprlandName profile entries) ↔
      preset hyprlandName profile ≠ .hyprland ∨ ∀ entry ∈ entries,
        ¬ (entry.host.modifiers = .command ∧
          entry.host.keyCode ∈ hyprlandWorkspaceKeyCodes) := by
  have custom := custom_activate accepted s hyprlandName profile
  constructor
  · rintro ⟨-, tracked⟩
    by_cases hyprland : preset hyprlandName profile = .hyprland
    · right
      rintro entry listed ⟨command, selects⟩
      have isPreset := (activate_preset s hyprlandName profile entries).trans hyprland
      have first : (s.activate hyprlandName profile entries).hyprlandWorkspaceIndex = 1 := by
        unfold activate
        simp only [hyprland, if_true]
        rfl
      have found : (s.activate hyprlandName profile entries).customMappings.lookup
          ⟨entry.host.keyCode, .command⟩ = some entry.guest := by
        rw [lookup_iff_mem custom.distinct, activate_custom, ← command]
        exact List.mem_map.mpr ⟨entry, listed, rfl⟩
      -- A custom rule on a workspace key lets the two paths track different workspaces.
      obtain ⟨steps, apart⟩ := exists_apart it'' isPreset first found selects
      exact absurd (tracked steps) apart
    · exact .inl hyprland
  · intro apart
    refine ⟨exists_sameChords it' it'' custom, ?_⟩
    intro steps
    -- Without a custom rule on a workspace key the two never differ.
    have unshadowed : (s.activate hyprlandName profile entries).activePreset ≠ .hyprland ∨
        Unshadowed (s.activate hyprlandName profile entries).customMappings := by
      rw [activate_preset, activate_custom]
      rcases apart with otherwise | free
      · exact .inl otherwise
      · right
        intro entry listed
        obtain ⟨rule, inEntries, rfl⟩ := List.mem_map.mp listed
        exact free rule inEntries
    rw [foldl_tap_native it'' steps custom unshadowed]

theorem parse_single {u : Unicode} {rules : List Char} {host : HostChord} {guest : GuestChord}
    (read : parseLines u 0 (lines u rules) [] = .ok [(host, guest)]) :
    parse u inOrder rules = .ok [⟨host, guest⟩] := by
  unfold parse
  rw [read]
  unfold sortedEntries inOrder
  simp only [id, List.map_cons, List.map_nil, List.mergeSort_singleton]

/-- A rule may send a chord that selects a workspace. -/
theorem digit_sent_agrees : PathsAgree inOrder inOrder
    (({} : KeyboardMappingSettings).activate false .macOSHyprland
      [⟨⟨7, .command⟩, ⟨19, .command⟩⟩]) :=
  (paths_agree_iff ascii inOrder inOrder inOrder {} false .macOSHyprland
    "cmd+x -> cmd+2".toList [⟨⟨7, .command⟩, ⟨19, .command⟩⟩] (parse_single rfl)).mpr
    (.inr (by decide))

/-- Command+2 is mapped to Command+X. Beside Karabiner the index becomes 2, and in the event tap it
stays at 1. -/
theorem digit_rule_apart :
    parse ascii inOrder "cmd+2 -> cmd+x".toList = .ok [⟨⟨19, .command⟩, ⟨7, .command⟩⟩] ∧
      ¬ PathsAgree inOrder inOrder (({} : KeyboardMappingSettings).activate false .macOSHyprland
        [⟨⟨19, .command⟩, ⟨7, .command⟩⟩]) := by
  refine ⟨parse_single rfl, ?_⟩
  rintro ⟨-, tracked⟩
  have found : (({} : KeyboardMappingSettings).activate false .macOSHyprland
      [⟨⟨19, .command⟩, ⟨7, .command⟩⟩]).customMappings.lookup ⟨19, .command⟩ =
        some ⟨7, .command⟩ := by decide
  have isAt : hyprlandWorkspaceKeyCodes.idxOf? 19 = some 1 := by decide
  have apart := shadowed_apart inOrder rfl found isAt
  have same := tracked [.chord 19 .command]
  simp only [List.foldl_cons, List.foldl_nil, apart.1, apart.2] at same
  revert same
  decide

end KeyboardMappingSettings

end SimpleVM.Input
