import SimpleVM.Input.GuestTextInput
import SimpleVM.Input.KeyBalance

/-!
# Typed text

The chords of a text, sent one after another, type that text on a US keyboard, with line feeds for
the other line ends, and leave the keyboard as it was. A text with a character that cannot be
typed has no chords.
-/
namespace SimpleVM.Input

open Swift Transition

/-- The keys of a US keyboard that type a character, with the one they type with Shift. -/
def usKeys : List (UInt16 × Char × Char) :=
  [(0, 'a', 'A'), (1, 's', 'S'), (2, 'd', 'D'), (3, 'f', 'F'), (4, 'h', 'H'), (5, 'g', 'G'),
    (6, 'z', 'Z'), (7, 'x', 'X'), (8, 'c', 'C'), (9, 'v', 'V'), (11, 'b', 'B'), (12, 'q', 'Q'),
    (13, 'w', 'W'), (14, 'e', 'E'), (15, 'r', 'R'), (16, 'y', 'Y'), (17, 't', 'T'),
    (18, '1', '!'), (19, '2', '@'), (20, '3', '#'), (21, '4', '$'), (22, '6', '^'),
    (23, '5', '%'), (24, '=', '+'), (25, '9', '('), (26, '7', '&'), (27, '-', '_'),
    (28, '8', '*'), (29, '0', ')'), (30, ']', '}'), (31, 'o', 'O'), (32, 'u', 'U'),
    (33, '[', '{'), (34, 'i', 'I'), (35, 'p', 'P'), (37, 'l', 'L'), (38, 'j', 'J'),
    (39, '\'', '"'), (40, 'k', 'K'), (41, ';', ':'), (42, '\\', '|'), (43, ',', '<'),
    (44, '/', '?'), (45, 'n', 'N'), (46, 'm', 'M'), (47, '.', '>'), (49, ' ', ' '),
    (50, '`', '~')]

/-- What a key types while `held` is down. Return and Tab do without modifiers. -/
def usCharacter (held : ModifierFlags) (keyCode : UInt16) : Option Char :=
  if held = .empty then
    if keyCode = 36 then some '\n'
    else if keyCode = 48 then some '\t'
    else (usKeys.lookup keyCode).map Prod.fst
  else if held = .shift then (usKeys.lookup keyCode).map Prod.snd
  else none

/-- The text that events type, unless a key goes down that types nothing. -/
def typed : ModifierFlags → List GuestKeyEvent → Option (List Char)
  | _, [] => some []
  | held, e :: rest =>
    if e.isModifier || !e.isDown then typed (applyEvent held e) rest
    else do
      let c ← usCharacter held e.keyCode
      let text ← typed (applyEvent held e) rest
      return c :: text

/-- CR LF and CR become LF. -/
def withLineFeeds : List Char → List Char
  | [] => []
  | [c] => [if c = '\r' then '\n' else c]
  | c :: d :: rest =>
    if c = '\r' ∧ d = '\n' then '\n' :: withLineFeeds rest
    else (if c = '\r' then '\n' else c) :: withLineFeeds (d :: rest)

namespace GuestTextEncoder

/-- A character the encoder has a chord for. -/
def Typable (character : List Char) : Prop :=
  character.map canonical = ['\n'] ∨ character.map canonical = ['\t'] ∨
    ∃ c ∈ characterMappings.map Prod.fst, character.map canonical = [c]

variable {character : List Char} {found : GuestChord}

/-- Each entry of the table types its character. -/
theorem mapping_types {c : Char} {mapping : CharacterMapping}
    (listed : (c, mapping) ∈ characterMappings) :
    usCharacter (if mapping.shifted then .shift else .empty) mapping.keyCode = some c := by
  have all : ∀ entry ∈ characterMappings,
      usCharacter (if entry.2.shifted then .shift else .empty) entry.2.keyCode = some entry.1 := by
    decide +kernel
  exact all _ listed

/-- The chord of a character types it, and needs Shift at most. -/
theorem chord_types (succeeds : chord character = .ok found) :
    ∃ c, character.map canonical = [c] ∧ usCharacter found.modifiers found.keyCode = some c ∧
      (found.modifiers = .empty ∨ found.modifiers = .shift) := by
  unfold chord at succeeds
  split at succeeds
  · rename_i isNewline
    cases succeeds
    exact ⟨'\n', of_decide_eq_true isNewline, by decide, .inl rfl⟩
  split at succeeds
  · rename_i isTab
    cases succeeds
    exact ⟨'\t', of_decide_eq_true isTab, by decide, .inl rfl⟩
  cases lookup : mapping character with
  | none =>
    rw [lookup] at succeeds
    cases succeeds
  | some entry =>
    rw [lookup] at succeeds
    cases succeeds
    unfold mapping at lookup
    split at lookup
    · rename_i c single
      obtain ⟨front, back, split, -⟩ := List.lookup_eq_some_iff.mp lookup
      have listed : (c, entry) ∈ characterMappings := by simp [split]
      refine ⟨c, single, mapping_types listed, ?_⟩
      cases entry.shifted with
      | false => exact .inl rfl
      | true => exact .inr rfl
    · cases lookup

theorem mapping_single {c : Char} (single : character.map canonical = [c]) :
    mapping character = characterMappings.lookup c := by
  unfold mapping
  rw [single]

/-- A character has a chord exactly if it is in the table, or a line feed or a tab. -/
theorem chord_ok_iff : (∃ chord, GuestTextEncoder.chord character = .ok chord) ↔
    Typable character := by
  -- Both directions follow the order of the source: the newline, the tab, then the table.
  constructor
  · rintro ⟨found, succeeds⟩
    unfold chord at succeeds
    split at succeeds
    · rename_i isNewline
      exact .inl (of_decide_eq_true isNewline)
    split at succeeds
    · rename_i isTab
      exact .inr (.inl (of_decide_eq_true isTab))
    cases lookup : mapping character with
    | none =>
      rw [lookup] at succeeds
      cases succeeds
    | some entry =>
      unfold mapping at lookup
      split at lookup
      · rename_i c single
        obtain ⟨front, back, split, -⟩ := List.lookup_eq_some_iff.mp lookup
        exact .inr (.inr ⟨c, List.mem_map_of_mem (a := (c, entry)) (by simp [split]), single⟩)
      · cases lookup
  · intro typable
    unfold chord
    split
    · exact ⟨_, rfl⟩
    rename_i notNewline
    split
    · exact ⟨_, rfl⟩
    rename_i notTab
    rcases typable with isNewline | isTab | ⟨c, listed, single⟩
    · exact absurd (decide_eq_true isNewline) notNewline
    · exact absurd (decide_eq_true isTab) notTab
    · obtain ⟨entry, member, rfl⟩ := List.mem_map.mp listed
      cases lookup : mapping character with
      | none =>
        rw [mapping_single single] at lookup
        have missing := List.lookup_eq_none_iff.mp lookup entry member
        simp at missing
      | some found => exact ⟨_, rfl⟩

end GuestTextEncoder

/-! ## Sending chords -/

theorem typed_append (held : ModifierFlags) (events later : List GuestKeyEvent) :
    typed held (events ++ later) = (typed held events).bind fun text =>
      (typed (replay held events) later).map fun more => text ++ more := by
  induction events generalizing held with
  | nil => simp [typed, replay]
  | cons e events ih =>
    simp only [List.cons_append, typed, replay, List.foldl_cons] at ih ⊢
    split
    · exact ih _
    · rw [ih]
      cases usCharacter held e.keyCode with
      | none => rfl
      | some c =>
        cases typed (applyEvent held e) events with
        | none => rfl
        | some text =>
          cases typed (events.foldl applyEvent (applyEvent held e)) later with
          | none => rfl
          | some more => rfl

/-- Modifiers alone type nothing. -/
theorem typed_modifiers {events : List GuestKeyEvent}
    (modifiers : ∀ e ∈ events, e.isModifier = true) (held : ModifierFlags) :
    typed held events = some [] := by
  induction events generalizing held with
  | nil => rfl
  | cons e events ih =>
    have here := modifiers e List.mem_cons_self
    simp only [typed, here, Bool.true_or, if_true]
    exact ih (fun later listed => modifiers later (List.mem_cons_of_mem _ listed)) _

namespace RouterRun

/-- Nothing asks for a modifier and no chord is active. -/
structure Idle (s : RouterRun) : Prop where
  sound : s.Sound
  chords : s.router.activeChords = []
  pointer : s.router.pointerModifierFlags = .empty
  host : s.router.hostModifierFlags = .empty

variable {s t : RouterRun} {chord : GuestChord}

theorem Idle.flags (idle : s.Idle) : s.router.guestModifierFlags = .empty := by
  rw [idle.sound.settled.flags]
  exact target_empty idle.chords idle.pointer idle.host

/-- Only what is asked for in addition is wanted. -/
theorem Idle.target (idle : s.Idle) (additional : ModifierFlags) :
    s.router.target additional = additional.normalized := by
  apply ModifierFlags.ext_bits
  intro i
  apply Bool.eq_iff_iff.mpr
  rw [GuestInputRouter.target_bit, ModifierFlags.normalized_bit, Bool.and_eq_true,
    decide_eq_true_eq, idle.chords, idle.pointer, idle.host]
  have none_ : ModifierFlags.empty.rawValue.getLsbD i = false := by simp [ModifierFlags.empty]
  have empty : ModifierFlags.empty.isEmpty = true := by decide
  simp [none_, empty]

theorem sendChord_events (r : GuestInputRouter) (chord : GuestChord) :
    (r.sendChord chord).2 = (r.synchronizeGuestModifiers chord.modifiers).2 ++
      (emitKey chord.keyCode true chord.modifiers :: emitKey chord.keyCode false chord.modifiers ::
        ((r.synchronizeGuestModifiers chord.modifiers).1.synchronizeGuestModifiers .empty).2) :=
  rfl

/-- A chord that is sent types its character. -/
theorem Idle.sendChord (idle : s.Idle) {c : Char} {text : List Char}
    (types : usCharacter chord.modifiers chord.keyCode = some c)
    (plain : chord.modifiers.normalized = chord.modifiers)
    (before : typed .empty s.emitted = some text) :
    ∃ t, s.step (.sendChord chord) = some t ∧ t.Idle ∧
      typed .empty t.emitted = some (text ++ [c]) := by
  refine ⟨⟨(s.router.sendChord chord).1, s.emitted ++ (s.router.sendChord chord).2,
    s.pointerOpen⟩, rfl, ?_, ?_⟩
  · exact ⟨idle.sound.step (e := .sendChord chord) rfl, idle.chords, idle.pointer, idle.host⟩
  · obtain ⟨reached, press⟩ := synchronize_spec s.router chord.modifiers
      idle.sound.settled.normalized
    have wanted := idle.target chord.modifiers
    rw [plain] at wanted
    have normal : (s.router.synchronizeGuestModifiers
        chord.modifiers).1.guestModifierFlags.normalized =
        (s.router.synchronizeGuestModifiers chord.modifiers).1.guestModifierFlags := by
      rw [reached]
      exact GuestInputRouter.target_normalized s.router chord.modifiers
    obtain ⟨-, lift⟩ := synchronize_spec
      (s.router.synchronizeGuestModifiers chord.modifiers).1 .empty normal
    -- The modifiers of the chord are down when its key goes down.
    have held : replay .empty (s.router.synchronizeGuestModifiers chord.modifiers).2 =
        chord.modifiers := by
      have replayed := press.replayed
      rwa [wanted, idle.flags] at replayed
    rw [sendChord_events, typed_append, before, Option.bind_some, idle.sound.replayed, idle.flags,
      typed_append, typed_modifiers press.modifiers, Option.bind_some, held]
    simp [typed, emitKey, applyEvent, types, typed_modifiers lift.modifiers]

/-- The chords of characters, sent one after another, type the characters. -/
theorem Idle.sendChords (idle : s.Idle) {characters : List (List Char)}
    {chords : List GuestChord} (encoded : characters.mapM GuestTextEncoder.chord = .ok chords)
    {text : List Char} (before : typed .empty s.emitted = some text) :
    ∃ t, Run step s (chords.map .sendChord) t ∧ t.Idle ∧
      typed .empty t.emitted = some (text ++ characters.flatten.map canonical) := by
  -- On the characters, with the text typed so far in general: each chord types its character and
  -- leaves the session idle.
  induction characters generalizing s chords text with
  | nil =>
    cases encoded
    exact ⟨s, .done s, idle, by simpa using before⟩
  | cons character characters ih =>
    rw [List.mapM_cons] at encoded
    cases here : GuestTextEncoder.chord character with
    | error _ =>
      rw [here] at encoded
      cases encoded
    | ok chord =>
      cases rest : characters.mapM GuestTextEncoder.chord with
      | error _ =>
        rw [here, rest] at encoded
        cases encoded
      | ok more =>
        rw [here, rest] at encoded
        cases encoded
        obtain ⟨c, single, types, modifiers⟩ := GuestTextEncoder.chord_types here
        have plain : chord.modifiers.normalized = chord.modifiers := by
          rcases modifiers with empty | shift
          · rw [empty]
            decide
          · rw [shift]
            decide
        obtain ⟨t, sent, idle', types'⟩ := idle.sendChord types plain before
        obtain ⟨last, run, idle'', typesAll⟩ := ih idle' rest types'
        refine ⟨last, .next sent run, idle'', ?_⟩
        rw [typesAll, List.flatten_cons, List.map_append, single, List.append_assoc]

theorem idle_create : Idle {} where
  sound := sound_create
  chords := rfl
  pointer := rfl
  host := rfl

end RouterRun

/-! ## Line ends -/

theorem replacing_return (text : List Char) :
    replacingOccurrences ['\r'] ['\n'] text =
      text.map fun c => if c = '\r' then '\n' else c := by
  induction text with
  | nil => rfl
  | cons c rest ih =>
    have next : replacing ['\r'] ['\n'] 0 rest = _ := ih
    simp only [replacingOccurrences, replacing, List.length_singleton, next, List.map_cons]
    by_cases isReturn : c = '\r'
    · simp [isReturn]
    · have apart : ['\r'].isPrefixOf (c :: rest) = false := by
        simpa [List.isPrefixOf] using Ne.symm isReturn
      simp [isReturn, apart]

/-- The two replacements leave line feeds only. -/
theorem normalized_eq (text : List Char) :
    replacingOccurrences ['\r'] ['\n'] (replacingOccurrences ['\r', '\n'] ['\n'] text) =
      withLineFeeds text := by
  rw [replacing_return]
  fun_induction withLineFeeds text with
  | case1 => rfl
  | case2 c =>
    by_cases isReturn : c = '\r'
    · simp [isReturn, replacingOccurrences, replacing]
    · simp [isReturn, replacingOccurrences, replacing]
  | case3 c d rest together ih =>
    obtain ⟨rfl, rfl⟩ := together
    simp only [replacingOccurrences] at ih ⊢
    simp [replacing, ih]
  | case4 c d rest apart ih =>
    simp only [replacingOccurrences] at ih ⊢
    have goesOn : ['\r', '\n'].isPrefixOf (c :: d :: rest) = false := by
      apply Bool.eq_false_iff.mpr
      intro starts
      simp only [List.isPrefixOf, Bool.and_true, Bool.and_eq_true, beq_iff_eq] at starts
      exact apart ⟨starts.1.symm, starts.2.symm⟩
    rw [replacing, goesOn]
    simp [ih]

theorem mem_withLineFeeds {text : List Char} {c : Char} (member : c ∈ text)
    (other : c ≠ '\r') : c ∈ withLineFeeds text := by
  fun_induction withLineFeeds text with
  | case1 => cases member
  | case2 d =>
    have same := List.mem_singleton.mp member
    subst same
    simp [other]
  | case3 a b rest together ih =>
    obtain ⟨rfl, rfl⟩ := together
    rcases List.mem_cons.mp member with first | member
    · exact absurd first other
    rcases List.mem_cons.mp member with rfl | member
    · exact List.mem_cons_self
    · exact List.mem_cons_of_mem _ (ih member)
  | case4 a b rest apart ih =>
    rcases List.mem_cons.mp member with rfl | member
    · simp [other]
    · exact List.mem_cons_of_mem _ (ih member)

namespace GuestTextEncoder

variable {u : Unicode} {text : List Char}

/-- Each character of a list that is encoded has a chord. -/
theorem chord_of_encoded {characters : List (List Char)} {chords : List GuestChord}
    (encoded : characters.mapM chord = .ok chords) :
    ∀ character ∈ characters, Typable character := by
  induction characters generalizing chords with
  | nil => simp
  | cons character characters ih =>
    rw [List.mapM_cons] at encoded
    cases here : chord character with
    | error _ =>
      rw [here] at encoded
      cases encoded
    | ok found =>
      cases rest : characters.mapM chord with
      | error _ =>
        rw [here, rest] at encoded
        cases encoded
      | ok more =>
        intro other listed
        rcases List.mem_cons.mp listed with rfl | later
        · exact chord_ok_iff.mp ⟨found, here⟩
        · exact ih rest other later

theorem Typable.single {character : List Char} (typable : Typable character) :
    ∃ c, character = [c] ∧ IsASCII (canonical c) := by
  have ascii : ∀ c ∈ characterMappings.map Prod.fst, IsASCII c := by
    have all : (characterMappings.map Prod.fst).all (fun c => c.toNat < 128) = true := by
      decide +kernel
    exact fun c listed => of_decide_eq_true (List.all_eq_true.mp all c listed)
  have one : ∃ d, character.map canonical = [d] ∧ IsASCII d := by
    rcases typable with isNewline | isTab | ⟨d, listed, single⟩
    · exact ⟨_, isNewline, by decide⟩
    · exact ⟨_, isTab, by decide⟩
    · exact ⟨d, single, ascii d listed⟩
  obtain ⟨d, single, isASCII⟩ := one
  obtain ⟨c, rfl, rfl⟩ := List.map_eq_singleton_iff.mp single
  exact ⟨c, rfl, isASCII⟩

/-- Every character of an encoded text is typable or ends a line. -/
theorem typable_of_accepted {chords : List GuestChord}
    (accepted : GuestTextEncoder.chords u text = .ok chords) :
    ∀ character ∈ u.characters text,
      Typable character ∨ character = ['\r'] ∨ character = ['\r', '\n'] := by
  unfold GuestTextEncoder.chords at accepted
  simp only [normalized_eq] at accepted
  have typable := chord_of_encoded accepted
  -- The scalars of the text are those of typable characters, and returns.
  have scalar : ∀ c ∈ text, c ≠ '\r' → Typable [c] := by
    intro c member other
    obtain ⟨character, listed, inside⟩ := u.mem_text.mp (mem_withLineFeeds member other)
    obtain ⟨d, rfl, -⟩ := (typable character listed).single
    cases List.mem_singleton.mp inside
    exact typable _ listed
  have plain : ∀ c ∈ text, IsASCII (canonical c) := by
    intro c member
    by_cases isReturn : c = '\r'
    · rw [isReturn]
      decide
    · obtain ⟨d, single, isASCII⟩ := (scalar c member isReturn).single
      cases single
      exact isASCII
  intro character listed
  rcases u.apart text plain character listed with rfl | ⟨c, rfl⟩
  · exact .inr (.inr rfl)
  · by_cases isReturn : c = '\r'
    · exact .inr (.inl (by rw [isReturn]))
    · exact .inl (scalar c (u.mem_text.mpr ⟨[c], listed, List.mem_singleton.mpr rfl⟩) isReturn)

/-- The chords of a text type it, with line feeds for its line ends, and leave nothing down. A
text with another character has no chords. -/
theorem typed_text_arrives (u : Unicode) (text : List Char) :
    (∀ chords, GuestTextEncoder.chords u text = .ok chords →
      ∃ t, Run RouterRun.step {} (chords.map .sendChord) t ∧
        typed .empty t.emitted = some ((withLineFeeds text).map canonical) ∧
        t.AllReleased ∧ t.router.activeChords = [] ∧ t.router.guestModifierFlags = .empty) ∧
    ((∃ character ∈ u.characters text,
        ¬Typable character ∧ character ≠ ['\r'] ∧ character ≠ ['\r', '\n']) →
      ∃ error, GuestTextEncoder.chords u text = .error error) := by
  constructor
  · intro chords accepted
    unfold GuestTextEncoder.chords at accepted
    simp only [normalized_eq] at accepted
    have nothing : typed .empty ({} : RouterRun).emitted = some [] := rfl
    obtain ⟨t, run, idle, types⟩ := RouterRun.idle_create.sendChords accepted nothing
    rw [u.joined, List.nil_append] at types
    exact ⟨t, run, types, idle.sound.allReleased idle.chords idle.flags, idle.chords, idle.flags⟩
  · rintro ⟨character, listed, other, notReturn, notLineEnd⟩
    cases accepted : GuestTextEncoder.chords u text with
    | error error => exact ⟨error, rfl⟩
    | ok chords =>
      rcases typable_of_accepted accepted character listed with typable | isReturn | isLineEnd
      · exact absurd typable other
      · exact absurd isReturn notReturn
      · exact absurd isLineEnd notLineEnd

example : GuestTextEncoder.chords ascii ['F', '0', ':', '\r', '\n'] =
    .ok [⟨3, .shift⟩, ⟨29, .empty⟩, ⟨41, .shift⟩, ⟨36, .empty⟩] := by
  rfl

end GuestTextEncoder

end SimpleVM.Input
