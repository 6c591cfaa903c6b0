import SimpleVM.Input.KarabinerInputBridge
import SimpleVM.Input.KeyboardMappingSettings
import SimpleVM.Input.CanonicalRules

/-!
# The two input paths

The event tap looks each chord up, and Karabiner has a manipulator for each mapping. Both send the
same chords. They keep the same Hyprland workspace unless a custom rule is for a chord that selects
one.
-/
namespace SimpleVM.Input

open Swift Domain

/-! ## Chords that Karabiner has names for -/

/-- A mapping that Karabiner can represent, of a host chord with the four modifiers only. -/
structure Mappable (entry : HostChord × GuestChord) : Prop where
  host : (KarabinerInputBridge.keyName entry.1.keyCode).isSome = true
  guest : (KarabinerInputBridge.keyName entry.2.keyCode).isSome = true
  normalized : entry.1.modifiers.normalized = entry.1.modifiers

theorem mappable_added (preset : KeyboardPreset) :
    ∀ entry ∈ KeyboardMappingSettings.added preset, Mappable entry := by
  intro entry member
  have all : ∀ preset : KeyboardPreset, ∀ entry ∈ KeyboardMappingSettings.adds preset,
      (KarabinerInputBridge.keyName entry.1.keyCode).isSome = true ∧
        (KarabinerInputBridge.keyName entry.2.keyCode).isSome = true ∧
        entry.1.modifiers.normalized = entry.1.modifiers := by
    intro preset
    cases preset <;> decide +kernel
  rcases mem_assigned member with listed | impossible
  · obtain ⟨host, guest, normalized⟩ := all preset entry listed
    exact ⟨host, guest, normalized⟩
  · cases impossible

namespace KeyboardProfileRuleParser

variable {u : Unicode} {it : Iteration}

theorem flagsOf_normalized {names : List (List Char)} {start result : ModifierFlags}
    (plain : start.normalized = start) (read : flagsOf u names start = some result) :
    result.normalized = result := by
  -- On the names: every name is one of the four modifiers, and a union of normalized flags is
  -- normalized.
  induction names generalizing start with
  | nil =>
    cases read
    exact plain
  | cons name names ih =>
    simp only [flagsOf] at read
    cases found : modifierNamed (String.ofList (u.lowercased name)) with
    | none =>
      rw [found] at read
      cases read
    | some flag =>
      rw [found] at read
      apply ih _ read
      have single : flag.normalized = flag := by
        unfold modifierNamed at found
        split at found
        · cases found
          decide
        split at found
        · cases found
          decide
        split at found
        · cases found
          decide
        split at found
        · cases found
          decide
        · cases found
      rw [ModifierFlags.normalized_union, plain, single]

/-- What the tables of the encoder hold. -/
theorem chord_named {character : List Char} {key : GuestChord}
    (read : GuestTextEncoder.chord character = .ok key) :
    (KarabinerInputBridge.keyName key.keyCode).isSome = true ∧
      key.modifiers.normalized = key.modifiers := by
  have all : ∀ entry ∈ GuestTextEncoder.characterMappings,
      (KarabinerInputBridge.keyName entry.2.keyCode).isSome = true := by decide +kernel
  unfold GuestTextEncoder.chord at read
  split at read
  · cases read
    decide
  split at read
  · cases read
    decide
  cases found : GuestTextEncoder.mapping character with
  | none =>
    rw [found] at read
    cases read
  | some mapping =>
    rw [found] at read
    cases read
    unfold GuestTextEncoder.mapping at found
    split at found
    · refine ⟨all _ (mem_of_lookup found), ?_⟩
      have shift : ModifierFlags.shift.normalized = .shift := by decide
      cases mapping.shifted with
      | true => exact shift
      | false => exact ModifierFlags.normalized_empty
    · cases found

theorem chordForKeyName_named {name : List Char} {key : GuestChord}
    (read : GuestTextEncoder.chordForKeyName u name = .ok key) :
    (KarabinerInputBridge.keyName key.keyCode).isSome = true ∧
      key.modifiers.normalized = key.modifiers := by
  have all : ∀ entry ∈ GuestTextEncoder.namedKeyCodes,
      (KarabinerInputBridge.keyName entry.2).isSome = true := by decide +kernel
  unfold GuestTextEncoder.chordForKeyName at read
  simp only at read
  split at read
  · exact chord_named read
  split at read
  · exact chord_named read
  split at read
  · rename_i keyCode found
    cases read
    exact ⟨all _ (mem_of_lookup found), ModifierFlags.normalized_empty⟩
  · cases read

theorem shortcut_named {source : List Char} {chord : GuestChord}
    (read : shortcut u source = some chord) :
    (KarabinerInputBridge.keyName chord.keyCode).isSome = true ∧
      chord.modifiers.normalized = chord.modifiers := by
  unfold shortcut readParts at read
  split at read
  · cases read
  split at read
  · cases read
  obtain ⟨modifiers, flags, rest⟩ := Option.bind_eq_some_iff.mp read
  obtain ⟨key, named, rfl⟩ := Option.map_eq_some_iff.mp rest
  have plain := flagsOf_normalized (by decide) flags
  have isNamed : (KarabinerInputBridge.keyName key.keyCode).isSome = true ∧
      key.modifiers.normalized = key.modifiers := by
    rename_i keyName _ _
    cases reads : GuestTextEncoder.chordForKeyName u keyName with
    | error _ =>
      rw [reads] at named
      cases named
    | ok other =>
      rw [reads] at named
      cases named
      exact chordForKeyName_named reads
  obtain ⟨isNamed, normalized⟩ := isNamed
  refine ⟨isNamed, ?_⟩
  rw [ModifierFlags.normalized_union, plain, normalized]

/-- The entries of a text are mappable. -/
theorem mappable_parsed {rules : List Char} {entries : List KeyboardMappingEntry}
    (accepted : parse u it rules = .ok entries) :
    ∀ entry ∈ entries, Mappable (entry.host, entry.guest) := by
  intro entry member
  obtain ⟨-, -, rfl⟩ := parse_iff.mp accepted
  have listed := (sortedEntries_perm it _).mem_iff.mp member
  obtain ⟨rule, inRules, rfl⟩ := List.mem_map.mp listed
  obtain ⟨line, -, joined⟩ := List.mem_filterMap.mp (List.mem_reverse.mp inRules)
  have means : meaning u line = some (some rule) := Option.join_eq_some_iff.mp joined
  unfold meaning at means
  rw [parseLine_toOption] at means
  split at means
  · cases means
  unfold ruleOf at means
  split at means
  · rename_i host? guest? sides
    obtain ⟨host, isHost, rest⟩ := Option.bind_eq_some_iff.mp means
    obtain ⟨guest, isGuest, same⟩ := Option.map_eq_some_iff.mp rest
    cases same
    -- Both sides of the rule were read by `shortcut`.
    have read : ∀ side ∈ [host?, guest?], ∃ source, shortcut u source = side := by
      intro side inSides
      rw [← sides] at inSides
      obtain ⟨source, -, rfl⟩ := List.mem_map.mp inSides
      exact ⟨source, rfl⟩
    obtain ⟨hostSource, hostRead⟩ := read host? (by simp)
    obtain ⟨guestSource, guestRead⟩ := read guest? (by simp)
    obtain ⟨hostNamed, normalized⟩ := shortcut_named (hostRead.trans isHost)
    obtain ⟨guestNamed, -⟩ := shortcut_named (guestRead.trans isGuest)
    exact ⟨hostNamed, guestNamed, normalized⟩
  · cases means

end KeyboardProfileRuleParser

/-! ## What Karabiner does -/

/-- The key codes that Karabiner's names stand for. -/
def karabinerKeys : List (String × UInt16) :=
  [("a", 0), ("b", 11), ("c", 8), ("d", 2), ("e", 14), ("f", 3), ("g", 5), ("h", 4), ("i", 34),
    ("j", 38), ("k", 40), ("l", 37), ("m", 46), ("n", 45), ("o", 31), ("p", 35), ("q", 12),
    ("r", 15), ("s", 1), ("t", 17), ("u", 32), ("v", 9), ("w", 13), ("x", 7), ("y", 16), ("z", 6),
    ("1", 18), ("2", 19), ("3", 20), ("4", 21), ("5", 23), ("6", 22), ("7", 26), ("8", 28),
    ("9", 25), ("0", 29), ("return_or_enter", 36), ("escape", 53), ("delete_or_backspace", 51),
    ("delete_forward", 117), ("tab", 48), ("spacebar", 49), ("hyphen", 27), ("equal_sign", 24),
    ("open_bracket", 33), ("close_bracket", 30), ("backslash", 42), ("semicolon", 41),
    ("quote", 39), ("grave_accent_and_tilde", 50), ("comma", 43), ("period", 47), ("slash", 44),
    ("up_arrow", 126), ("down_arrow", 125), ("left_arrow", 123), ("right_arrow", 124),
    ("page_up", 116), ("page_down", 121), ("home", 115), ("end", 119), ("f1", 122), ("f2", 120),
    ("f3", 99), ("f4", 118), ("f5", 96), ("f6", 97), ("f7", 98), ("f8", 100), ("f9", 101),
    ("f10", 109), ("f11", 103), ("f12", 111)]

/-- The modifiers that Karabiner's names stand for on the left side. -/
def karabinerModifiers : List (String × ModifierFlags) :=
  [("left_command", .command), ("left_control", .control), ("left_option", .option),
    ("left_shift", .shift)]

/-- The modifiers it takes on either side. -/
def karabinerSides : List (String × ModifierFlags) :=
  [("command", .command), ("control", .control), ("option", .option), ("shift", .shift)]

/-- The key goes down with the mandatory modifiers. Others but caps lock and fn prevent it. -/
def Manipulator.fires (m : Manipulator) (keyCode : UInt16) (modifiers : ModifierFlags) : Bool :=
  decide (karabinerKeys.lookup m.fromKey = some keyCode) &&
    karabinerSides.all fun entry =>
      modifiers.contains entry.2 == decide (entry.1 ∈ m.fromModifiers)

/-- The key and the modifiers that are sent instead. -/
def Manipulator.sends (m : Manipulator) : Option GuestChord :=
  (karabinerKeys.lookup m.toKey).map fun keyCode =>
    ⟨keyCode, m.toModifiers.foldl (fun held name =>
      ModifierFlags.union held ((karabinerModifiers.lookup name).getD .empty)) .empty⟩

/-- A host chord, or a swipe. -/
inductive InputStep
  | chord (keyCode : UInt16) (modifiers : ModifierFlags)
  | swipe (direction : WorkspaceSwipeDirection) (workspaceCount : Int)
deriving DecidableEq, Repr

namespace KeyboardMappingSettings

/-- A step of the event tap. -/
def tap (it : Iteration) (s : KeyboardMappingSettings) : InputStep → KeyboardMappingSettings
  | .chord keyCode modifiers => (s.chord it keyCode modifiers).2
  | .swipe direction workspaceCount => (s.workspaceChord direction workspaceCount).2

/-- A step while Karabiner maps the keys. -/
def native (s : KeyboardMappingSettings) : InputStep → KeyboardMappingSettings
  | .chord keyCode modifiers => s.observeHostChord keyCode modifiers
  | .swipe direction workspaceCount => (s.workspaceChord direction workspaceCount).2

/-- The rule that is generated has one manipulator for each mapping, and what they do is what the
event tap does. -/
structure SameChords (it it' : Iteration) (s : KeyboardMappingSettings)
    (ms : List Manipulator) : Prop where
  generated : KarabinerInputBridge.generatedRule (s.activeMappingEntries it) =
    .ok (Dictionary.of [("description", .string KarabinerInputBridge.ruleDescription),
      ("manipulators", .array (ms.map KarabinerInputBridge.Manipulator.json))])
  each : (s.activeMappingEntries it).map KarabinerInputBridge.mapping = ms.map some
  distinct : (ms.map fun m => (m.fromKey, m.fromModifiers)).Nodup
  mapped : ∀ m ∈ ms, ∀ keyCode modifiers, m.fires keyCode modifiers = true →
    m.sends = some ⟨(s.chord it' keyCode modifiers).1.keyCode,
      (s.chord it' keyCode modifiers).1.modifiers.normalized⟩
  unmapped : ∀ keyCode modifiers, (∀ m ∈ ms, m.fires keyCode modifiers = false) →
    (s.chord it' keyCode modifiers).1 = ⟨keyCode, modifiers.normalized⟩

/-- The paths agree on the chords, and after any steps on the workspace. -/
def PathsAgree (it it' : Iteration) (s : KeyboardMappingSettings) : Prop :=
  (∃ ms, SameChords it it' s ms) ∧ ∀ steps : List InputStep,
    (steps.foldl (tap it') s).hyprlandWorkspaceIndex =
      (steps.foldl native s).hyprlandWorkspaceIndex

end KeyboardMappingSettings

/-! ## Manipulators and mappings -/

namespace KarabinerInputBridge

variable {entry : KeyboardMappingEntry} {m : Manipulator}

theorem karabinerKeys_keyName {keyCode : UInt16} {name : String}
    (named : keyName keyCode = some name) : karabinerKeys.lookup name = some keyCode := by
  have all : ∀ key ∈ keyNames, karabinerKeys.lookup key.2 = some key.1 := by decide +kernel
  exact all _ (mem_of_lookup named)

/-- What a mapping puts into its manipulator. -/
theorem mapping_eq_some (mapped : mapping entry = some m) :
    keyName entry.host.keyCode = some m.fromKey ∧ keyName entry.guest.keyCode = some m.toKey ∧
      m.fromModifiers = modifierNames entry.host.modifiers false ∧
      m.toModifiers = modifierNames entry.guest.modifiers true := by
  unfold mapping at mapped
  split at mapped
  · rename_i fromKey toKey host guest
    cases mapped
    exact ⟨host, guest, rfl, rfl⟩
  · cases mapped

theorem contains_normalized (modifiers : ModifierFlags) :
    modifiers.normalized.contains .command = modifiers.contains .command ∧
      modifiers.normalized.contains .control = modifiers.contains .control ∧
      modifiers.normalized.contains .option = modifiers.contains .option ∧
      modifiers.normalized.contains .shift = modifiers.contains .shift :=
  ⟨ModifierFlags.contains_normalized (by omega), ModifierFlags.contains_normalized (by omega),
    ModifierFlags.contains_normalized (by omega), ModifierFlags.contains_normalized (by omega)⟩

/-- The four modifiers make a normalized set. -/
theorem normalized_eq {a b : ModifierFlags} (command : a.contains .command = b.contains .command)
    (control : a.contains .control = b.contains .control)
    (option : a.contains .option = b.contains .option)
    (shift : a.contains .shift = b.contains .shift) : a.normalized = b.normalized := by
  apply ModifierFlags.eq_of_normalized (ModifierFlags.normalized_normalized a)
    (ModifierFlags.normalized_normalized b)
  intro i low high
  rw [ModifierFlags.contains_normalized ⟨low, high⟩, ModifierFlags.contains_normalized ⟨low, high⟩]
  have which : i = 17 ∨ i = 18 ∨ i = 19 ∨ i = 20 := by omega
  rcases which with rfl | rfl | rfl | rfl
  · exact shift
  · exact control
  · exact option
  · exact command

/-- The names of the modifiers that are there. -/
def namesOf (list : List (Bool × String)) : List String :=
  list.filterMap fun entry => if entry.1 then some entry.2 else none

theorem modifierNames_left (modifiers : ModifierFlags) : modifierNames modifiers true =
    namesOf [(modifiers.contains .command, "left_command"),
      (modifiers.contains .control, "left_control"), (modifiers.contains .option, "left_option"),
      (modifiers.contains .shift, "left_shift"), (modifiers.contains .function, "fn")] := rfl

theorem modifierNames_sides (modifiers : ModifierFlags) : modifierNames modifiers false =
    namesOf [(modifiers.contains .command, "command"),
      (modifiers.contains .control, "control"), (modifiers.contains .option, "option"),
      (modifiers.contains .shift, "shift"), (modifiers.contains .function, "fn")] := rfl

/-- The names on the left side are sent as the modifiers they are for. -/
theorem sent_modifiers (modifiers : ModifierFlags) :
    (modifierNames modifiers true).foldl (fun held name =>
      ModifierFlags.union held ((karabinerModifiers.lookup name).getD .empty)) .empty =
      modifiers.normalized := by
  have table : ∀ command control option shift function : Bool,
      let sent := (namesOf [(command, "left_command"), (control, "left_control"),
        (option, "left_option"), (shift, "left_shift"), (function, "fn")]).foldl
          (fun held name =>
            ModifierFlags.union held ((karabinerModifiers.lookup name).getD .empty)) .empty
      sent.normalized = sent ∧ sent.contains .command = command ∧
        sent.contains .control = control ∧ sent.contains .option = option ∧
        sent.contains .shift = shift := by decide +kernel
  obtain ⟨normalized, command, control, option, shift⟩ := table (modifiers.contains .command)
    (modifiers.contains .control) (modifiers.contains .option) (modifiers.contains .shift)
    (modifiers.contains .function)
  rw [modifierNames_left, ← normalized]
  exact normalized_eq command control option shift

/-- A name on either side is there if its modifier is. -/
theorem side_names (modifiers : ModifierFlags) :
    decide ("command" ∈ modifierNames modifiers false) = modifiers.contains .command ∧
      decide ("control" ∈ modifierNames modifiers false) = modifiers.contains .control ∧
      decide ("option" ∈ modifierNames modifiers false) = modifiers.contains .option ∧
      decide ("shift" ∈ modifierNames modifiers false) = modifiers.contains .shift := by
  have table : ∀ command control option shift function : Bool,
      let names := namesOf [(command, "command"), (control, "control"), (option, "option"),
        (shift, "shift"), (function, "fn")]
      decide ("command" ∈ names) = command ∧ decide ("control" ∈ names) = control ∧
        decide ("option" ∈ names) = option ∧ decide ("shift" ∈ names) = shift := by
    decide +kernel
  rw [modifierNames_sides]
  exact table _ _ _ _ _

/-- A manipulator sends the guest chord of its mapping. -/
theorem sends_mapping (mapped : mapping entry = some m) :
    m.sends = some ⟨entry.guest.keyCode, entry.guest.modifiers.normalized⟩ := by
  obtain ⟨-, toKey, -, toModifiers⟩ := mapping_eq_some mapped
  unfold Manipulator.sends
  rw [karabinerKeys_keyName toKey, toModifiers, sent_modifiers]
  rfl

/-- A manipulator fires for the host chord of its mapping only. -/
theorem fires_mapping (mapped : mapping entry = some m)
    (plain : entry.host.modifiers.normalized = entry.host.modifiers) {keyCode : UInt16}
    {modifiers : ModifierFlags} :
    m.fires keyCode modifiers = true ↔ entry.host = ⟨keyCode, modifiers.normalized⟩ := by
  obtain ⟨fromKey, -, fromModifiers, -⟩ := mapping_eq_some mapped
  obtain ⟨command, control, option, shift⟩ := side_names entry.host.modifiers
  unfold Manipulator.fires
  simp only [karabinerKeys_keyName fromKey, fromModifiers, karabinerSides, List.all_cons,
    List.all_nil, command, control, option, shift, Bool.and_true, Bool.and_eq_true,
    decide_eq_true_eq, Option.some.injEq, beq_iff_eq]
  constructor
  · rintro ⟨key, hasCommand, hasControl, hasOption, hasShift⟩
    have flags := normalized_eq hasCommand hasControl hasOption hasShift
    rw [plain] at flags
    rw [flags, ← key]
  · intro host
    obtain ⟨hasCommand, hasControl, hasOption, hasShift⟩ := contains_normalized modifiers
    rw [host]
    exact ⟨rfl, hasCommand.symm, hasControl.symm, hasOption.symm, hasShift.symm⟩

end KarabinerInputBridge

namespace KeyboardMappingSettings

open KarabinerInputBridge KeyboardProfileRuleParser

variable {it it' : Iteration} {s : KeyboardMappingSettings} {host : HostChord}
  {guest : GuestChord}

/-- Settings with custom mappings that came out of the parser. -/
structure Custom (s : KeyboardMappingSettings) : Prop where
  distinct : (s.customMappings.map Prod.fst).Nodup
  mappable : ∀ entry ∈ s.customMappings, Mappable entry

theorem nodup_added (preset : KeyboardPreset) : ((added preset).map Prod.fst).Nodup :=
  nodup_assigned List.nodup_nil

theorem mappingEntries_perm (it : Iteration) (preset : KeyboardPreset) :
    ((mappingEntries it preset).map fun entry => (entry.host, entry.guest)).Perm
      (added preset) := by
  have perm := (sortedEntries_perm it (added preset)).map fun entry => (entry.host, entry.guest)
  have same : ((added preset).map fun entry => (⟨entry.1, entry.2⟩ : KeyboardMappingEntry)).map
      (fun entry => (entry.host, entry.guest)) = added preset := by
    rw [List.map_map]
    exact List.map_id' _
  rw [same] at perm
  exact perm

theorem nodup_mappings (it : Iteration) (s : KeyboardMappingSettings) :
    ((s.mappings it).map Prod.fst).Nodup :=
  nodup_assigned (((mappingEntries_perm it s.activePreset).map Prod.fst).nodup_iff.mpr
    (nodup_added s.activePreset))

/-- The custom mapping of a host chord, or the one of the preset. -/
theorem lookup_mappings (it : Iteration) (custom : s.Custom) (host : HostChord) :
    (s.mappings it).lookup host =
      (s.customMappings.lookup host).or ((added s.activePreset).lookup host) := by
  have perm := mappingEntries_perm it s.activePreset
  have distinct := (perm.map Prod.fst).nodup_iff.mpr (nodup_added s.activePreset)
  have base : ((mappingEntries it s.activePreset).map
      fun entry => (entry.host, entry.guest)).lookup host =
      (added s.activePreset).lookup host := by
    apply Option.ext
    intro guest
    rw [lookup_iff_mem distinct, lookup_iff_mem (nodup_added s.activePreset)]
    exact perm.mem_iff
  unfold mappings
  rw [lookup_assigned custom.distinct, base]

theorem mappable_mappings (custom : s.Custom) :
    ∀ entry ∈ s.mappings it, Mappable entry := by
  intro entry member
  rcases mem_assigned member with inCustom | inPreset
  · exact custom.mappable entry inCustom
  · exact mappable_added _ entry ((mappingEntries_perm it s.activePreset).mem_iff.mp inPreset)

/-- An entry is active if its host chord is mapped to its guest chord. -/
theorem mem_active {entry : KeyboardMappingEntry} : entry ∈ s.activeMappingEntries it ↔
    (s.mappings it).lookup entry.host = some entry.guest := by
  rw [lookup_iff_mem (nodup_mappings it s)]
  unfold activeMappingEntries
  rw [(sortedEntries_perm it (s.mappings it)).mem_iff, List.mem_map]
  constructor
  · rintro ⟨pair, member, rfl⟩
    exact member
  · exact fun member => ⟨_, member, rfl⟩

/-- A mapped chord is looked up. -/
theorem chord_mapped (custom : s.Custom) {keyCode : UInt16} {modifiers : ModifierFlags}
    (found : (s.mappings it).lookup ⟨keyCode, modifiers.normalized⟩ = some guest) :
    (s.chord it' keyCode modifiers).1 = guest := by
  have found' := found
  rw [lookup_mappings it custom, ← lookup_mappings it' custom] at found'
  rw [lookup_mappings it custom] at found
  unfold chord
  simp only
  cases inCustom : s.customMappings.lookup ⟨keyCode, modifiers.normalized⟩ with
  | some other =>
    rw [inCustom] at found
    exact Option.some.inj found
  | none =>
    rw [inCustom, Option.none_or] at found
    by_cases passthrough : s.activePreset = .passthrough
    · rw [passthrough] at found
      cases found
    · simp only [passthrough, if_false]
      rw [found']
      rfl

/-- Another chord is left as it is. -/
theorem chord_unmapped (it : Iteration) (custom : s.Custom) {keyCode : UInt16} {modifiers : ModifierFlags}
    (missing : (s.mappings it).lookup ⟨keyCode, modifiers.normalized⟩ = none) :
    (s.chord it' keyCode modifiers).1 = ⟨keyCode, modifiers.normalized⟩ := by
  have missing' := missing
  rw [lookup_mappings it custom, ← lookup_mappings it' custom] at missing'
  rw [lookup_mappings it custom, Option.or_eq_none_iff] at missing
  unfold chord
  simp only [missing.1]
  split
  · rfl
  · rw [missing']
    rfl

/-- Every active entry has its manipulator. -/
theorem exists_manipulators {entries : List KeyboardMappingEntry}
    (mappable : ∀ entry ∈ entries, Mappable (entry.host, entry.guest)) :
    ∃ ms : List Manipulator, entries.map mapping = ms.map some ∧
      entries.filterMap mapping = ms := by
  induction entries with
  | nil => exact ⟨[], rfl, rfl⟩
  | cons entry entries ih =>
    obtain ⟨ms, each, collected⟩ :=
      ih fun other listed => mappable other (List.mem_cons_of_mem _ listed)
    have here := mappable entry List.mem_cons_self
    obtain ⟨fromKey, isFrom⟩ := Option.isSome_iff_exists.mp here.host
    obtain ⟨toKey, isTo⟩ := Option.isSome_iff_exists.mp here.guest
    have mapped : mapping entry = some ⟨fromKey, modifierNames entry.host.modifiers false, toKey,
        modifierNames entry.guest.modifiers true⟩ := by
      simp only at isFrom isTo
      unfold mapping
      rw [isFrom, isTo]
    exact ⟨_ :: ms, by rw [List.map_cons, List.map_cons, mapped, each],
      by rw [List.filterMap_cons, mapped, collected]⟩

/-- Manipulators of two host chords differ in what they fire for. -/
theorem patterns_distinct {entries : List KeyboardMappingEntry} {ms : List Manipulator}
    (mappable : ∀ entry ∈ entries, Mappable (entry.host, entry.guest))
    (hosts : (entries.map KeyboardMappingEntry.host).Nodup)
    (each : entries.map mapping = ms.map some) :
    (ms.map fun m => (m.fromKey, m.fromModifiers)).Nodup := by
  induction entries generalizing ms with
  | nil =>
    cases ms with
    | nil => exact List.nodup_nil
    | cons _ _ => cases each
  | cons entry entries ih =>
    cases ms with
    | nil => cases each
    | cons m ms =>
      simp only [List.map_cons, List.cons.injEq, List.nodup_cons] at each hosts ⊢
      refine ⟨?_, ih (fun other listed => mappable other (List.mem_cons_of_mem _ listed))
        hosts.2 each.2⟩
      intro listed
      obtain ⟨other, member, same⟩ := List.mem_map.mp listed
      rw [Prod.mk.injEq] at same
      have isMapped : some other ∈ entries.map mapping := by
        rw [each.2]
        exact List.mem_map_of_mem member
      obtain ⟨entry', inEntries, mapped'⟩ := List.mem_map.mp isMapped
      have plain := (mappable entry List.mem_cons_self).normalized
      have plain' := (mappable entry' (List.mem_cons_of_mem _ inEntries)).normalized
      -- The manipulator of the entry fires for its host chord, and so does the other one.
      have fires : m.fires entry.host.keyCode entry.host.modifiers = true :=
        (fires_mapping each.1 plain).mpr (by rw [plain])
      have fires' : other.fires entry.host.keyCode entry.host.modifiers = true := by
        unfold Manipulator.fires at fires ⊢
        rwa [same.1, same.2]
      have sameHost := (fires_mapping mapped' plain').mp fires'
      rw [plain] at sameHost
      exact hosts.1 (List.mem_map.mpr ⟨entry', inEntries, sameHost⟩)

/-- The manipulators do what the event tap does. -/
theorem exists_sameChords (it it' : Iteration) (custom : s.Custom) :
    ∃ ms, SameChords it it' s ms := by
  have mappable : ∀ entry ∈ s.activeMappingEntries it, Mappable (entry.host, entry.guest) := by
    intro entry listed
    exact mappable_mappings custom _ ((lookup_iff_mem (nodup_mappings it s)).mp
      (mem_active.mp listed))
  obtain ⟨ms, each, collected⟩ := exists_manipulators mappable
  have lengths : ms.length = (s.activeMappingEntries it).length := by
    have same := congrArg List.length each
    rwa [List.length_map, List.length_map, eq_comm] at same
  have hosts : ((s.activeMappingEntries it).map KeyboardMappingEntry.host).Nodup := by
    have listed := (sortedEntries_perm it (s.mappings it)).map KeyboardMappingEntry.host
    rw [List.map_map] at listed
    exact listed.nodup_iff.mpr (nodup_mappings it s)
  refine ⟨ms, ?_, each, patterns_distinct mappable hosts each, ?_, ?_⟩
  · unfold generatedRule manipulators
    simp only [collected, lengths, ne_eq, not_true_eq_false, if_false]
  · intro m listed keyCode modifiers fires
    rw [← collected] at listed
    obtain ⟨entry, inEntries, mapped⟩ := List.mem_filterMap.mp listed
    have isHost := (fires_mapping mapped (mappable entry inEntries).normalized).mp fires
    have found := mem_active.mp inEntries
    rw [isHost] at found
    rw [sends_mapping mapped, chord_mapped custom found]
  · intro keyCode modifiers silent
    apply chord_unmapped it custom
    -- A host chord that has a guest chord would be an entry, and the manipulator of that entry
    -- fires for it.
    cases found : (s.mappings it).lookup ⟨keyCode, modifiers.normalized⟩ with
    | none => rfl
    | some guest =>
      have inEntries : (⟨⟨keyCode, modifiers.normalized⟩, guest⟩ : KeyboardMappingEntry) ∈
          s.activeMappingEntries it := mem_active.mpr found
      have isMapped : mapping ⟨⟨keyCode, modifiers.normalized⟩, guest⟩ ∈ ms.map some := by
        rw [← each]
        exact List.mem_map_of_mem inEntries
      obtain ⟨m, listed, mapped⟩ := List.mem_map.mp isMapped
      have fires := (fires_mapping mapped.symm
        (ModifierFlags.normalized_normalized modifiers)).mpr rfl
      rw [silent m listed] at fires
      cases fires

end KeyboardMappingSettings

end SimpleVM.Input
