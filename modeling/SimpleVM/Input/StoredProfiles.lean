import SimpleVM.Input.KarabinerRules
import SimpleVM.Input.KeyboardProfileStore
import SimpleVM.Transition.Run
import Mathlib.Data.List.Nodup
import Mathlib.Data.List.Perm.Subperm

/-!
# Stored profiles are not lost

Whatever is stored, and whatever is called, profiles come back equal and in order, entries that are
no profiles stay as they are, and storage that cannot be read stays untouched, exactly when no entry
is a plain value: such an entry ends the app when it starts.
-/
namespace SimpleVM.Input

open Domain Effects Swift
open Storage (uuidString uuidOfString uuidOfString_uuidString)

section Entries

variable {Data : Type} {json : ArraySerialization Data}

theorem encoded_serializable {isNumber : Rat → Prop} (profile : CustomKeyboardProfile) :
    Serializable isNumber profile.encoded := by
  apply Serializable.of
  intro entry member
  simp only [List.mem_cons, List.not_mem_nil, or_false] at member
  rcases member with rfl | rfl | rfl | rfl <;> exact .string _

theorem baseProfileOf_rawValue (profile : MachineInputProfile) :
    CustomKeyboardProfile.baseProfileOf profile.rawValue = some profile := by
  cases profile <;> decide

/-- A profile is read back as it was. -/
theorem decoded_encoded (profile : CustomKeyboardProfile) :
    CustomKeyboardProfile.decoded profile.encoded = some profile := by
  simp [CustomKeyboardProfile.decoded, CustomKeyboardProfile.encoded,
    CustomKeyboardProfile.stringMember, Dictionary.of, JSONValue.asString,
    uuidOfString_uuidString, baseProfileOf_rawValue, List.lookup_cons]

theorem reencoded_eq (json : ArraySerialization Data) (profile : CustomKeyboardProfile) :
    KeyboardProfileStore.reencoded json profile = some profile.encoded := by
  have whole : Serializable json.isNumber profile.encoded := encoded_serializable profile
  have written : (json.data profile.encoded).isSome = true := json.writes _ whole
  obtain ⟨d, isData⟩ := Option.isSome_iff_exists.mp written
  simp [KeyboardProfileStore.reencoded, isData, json.reads _ _ isData]

theorem mapM_reencoded (json : ArraySerialization Data) (profiles : List CustomKeyboardProfile) :
    profiles.mapM (KeyboardProfileStore.reencoded json) =
      some (profiles.map CustomKeyboardProfile.encoded) := by
  induction profiles with
  | nil => rfl
  | cons profile profiles ih => simp [List.mapM_cons, reencoded_eq, ih]

/-- The entries of the stored array; without a value there are none. -/
def storedEntries (json : ArraySerialization Data) : Option Data → Option (List JSONValue)
  | none => some []
  | some data => (json.jsonObject data).bind JSONValue.asArray

/-- The entries that are no profiles. -/
def unknownEntries (items : List JSONValue) : List JSONValue :=
  items.filter fun item => (CustomKeyboardProfile.decoded item).isNone

theorem storedEntries_serializable {stored : Option Data} {items : List JSONValue}
    (read : storedEntries json stored = some items) :
    ∀ item ∈ items, Serializable json.isNumber item := by
  intro item member
  cases stored with
  | none =>
    cases read
    cases member
  | some data =>
    obtain ⟨value, parsed, isArray⟩ := Option.bind_eq_some_iff.mp read
    have whole := json.parsed data value parsed
    rw [JSONValue.asArray_eq_some.mp isArray] at whole
    exact whole.item member

/-- An array or a dictionary is written, and read back as it was. -/
theorem dataWithJSONObject_of_topLevel {item : JSONValue} (top : item.isTopLevel = true)
    (whole : Serializable json.isNumber item) :
    ∃ d, json.dataWithJSONObject item = .data d ∧ json.jsonObject d = some item := by
  have written : (json.data item).isSome = true := by
    cases item with
    | array items => exact json.writesArray items whole
    | object members => exact json.writes members whole
    | null | bool | number | string => cases top
  obtain ⟨d, isData⟩ := Option.isSome_iff_exists.mp written
  refine ⟨d, ?_, json.reads item d isData⟩
  simp [ArraySerialization.dataWithJSONObject, top, isData]

open KeyboardProfileStore

theorem loadEntries_eq {items : List JSONValue} (top : ∀ item ∈ items, item.isTopLevel = true)
    (whole : ∀ item ∈ items, Serializable json.isNumber item)
    (decoded : List CustomKeyboardProfile) (preserved : List JSONValue) :
    loadEntries json decoded preserved items =
      .finished (decoded ++ items.filterMap CustomKeyboardProfile.decoded)
        (preserved ++ unknownEntries items) := by
  induction items generalizing decoded preserved with
  | nil => simp [loadEntries, unknownEntries]
  | cons item items ih =>
    obtain ⟨d, written, read⟩ := dataWithJSONObject_of_topLevel (top item List.mem_cons_self)
      (whole item List.mem_cons_self)
    have rest := ih (fun other member => top other (List.mem_cons_of_mem _ member))
      fun other member => whole other (List.mem_cons_of_mem _ member)
    unfold loadEntries
    rw [written]
    simp only [decodeEntry, read, Option.bind_some]
    cases known : CustomKeyboardProfile.decoded item with
    | some profile =>
      simp only
      rw [rest]
      simp [known, unknownEntries]
    | none =>
      simp only
      rw [rest]
      simp [known, unknownEntries]

/-- A plain value among the entries raises. -/
theorem loadEntries_raised {items : List JSONValue}
    (whole : ∀ item ∈ items, Serializable json.isNumber item) {plain : JSONValue}
    (member : plain ∈ items) (notTop : plain.isTopLevel = false)
    (decoded : List CustomKeyboardProfile) (preserved : List JSONValue) :
    loadEntries json decoded preserved items = .raised := by
  induction items generalizing decoded preserved with
  | nil => cases member
  | cons item items ih =>
    have rest (later : plain ∈ items) :=
      ih (fun other member => whole other (List.mem_cons_of_mem _ member)) later
    unfold loadEntries
    cases top : item.isTopLevel with
    | false => simp [ArraySerialization.dataWithJSONObject, top]
    | true =>
      have later : plain ∈ items := by
        rcases List.mem_cons.mp member with rfl | later
        · rw [top] at notTop
          cases notTop
        · exact later
      obtain ⟨d, written, -⟩ := dataWithJSONObject_of_topLevel top (whole item List.mem_cons_self)
      rw [written]
      simp only
      split
      · exact rest later _ _
      · exact rest later _ _

/-- A launch that completes has the profiles, and the entries that are none, in order. -/
theorem launch_eq {stored : Option Data} {items : List JSONValue}
    (read : storedEntries json stored = some items) (top : ∀ item ∈ items, item.isTopLevel = true) :
    launch json stored = some {
      profiles := items.filterMap CustomKeyboardProfile.decoded
      preservedEntries := unknownEntries items } := by
  have whole := storedEntries_serializable read
  cases stored with
  | none =>
    cases read
    rfl
  | some data =>
    have objects : (json.jsonObject data).bind JSONValue.asArray = some items := read
    unfold launch
    simp only [objects, loadEntries_eq top whole, List.nil_append]

theorem launch_unreadable {stored : Option Data} (unread : storedEntries json stored = none) :
    launch json stored = some { profiles := [], storageIsUnreadable := true } := by
  cases stored with
  | none => cases unread
  | some data =>
    have objects : (json.jsonObject data).bind JSONValue.asArray = none := unread
    unfold launch
    simp only [objects]

theorem launch_raised {stored : Option Data} {items : List JSONValue}
    (read : storedEntries json stored = some items) {plain : JSONValue} (member : plain ∈ items)
    (notTop : plain.isTopLevel = false) : launch json stored = none := by
  have whole := storedEntries_serializable read
  cases stored with
  | none =>
    cases read
    cases member
  | some data =>
    have objects : (json.jsonObject data).bind JSONValue.asArray = some items := read
    unfold launch
    simp only [objects, loadEntries_raised whole member notTop]

end Entries

section Names

open KeyboardProfileStore

variable (eq : StringEquality) (names : List String) (proposed : String)

/-- The name with a number is the name of a profile. -/
def taken (suffix : Nat) : Bool :=
  names.any (eq.equal · (proposed ++ " " ++ toString suffix))

/-- One of the numbers from `first` on is free. -/
theorem exists_free (first : Nat) :
    ∃ i, i ≤ names.length ∧ taken eq names proposed (first + i) = false := by
  apply Classical.byContradiction
  intro none
  -- Were every number up to the count of the names taken, there would be as many distinct names and
  -- one more.
  have each (i : Nat) (below : i ≤ names.length) :
      ∃ name ∈ names, eq.equal name (proposed ++ " " ++ toString (first + i)) = true := by
    cases free : taken eq names proposed (first + i) with
    | false => exact absurd ⟨i, below, free⟩ none
    | true => exact List.any_eq_true.mp free
  let nameAt (i : Nat) : String :=
    (names.find? (eq.equal · (proposed ++ " " ++ toString (first + i)))).getD ""
  have found (i : Nat) (below : i ≤ names.length) : nameAt i ∈ names ∧
      eq.equal (nameAt i) (proposed ++ " " ++ toString (first + i)) = true := by
    obtain ⟨name, member, same⟩ := each i below
    cases search : names.find? (eq.equal · (proposed ++ " " ++ toString (first + i))) with
    | none => exact absurd same (List.find?_eq_none.mp search name member)
    | some other =>
      have matching := List.find?_some search
      have here : nameAt i = other := by
        show (names.find? _).getD "" = other
        rw [search]
        rfl
      rw [here]
      exact ⟨List.mem_of_find?_eq_some search, matching⟩
  have distinct : ((List.range (names.length + 1)).map nameAt).Nodup := by
    rw [List.nodup_map_iff_inj_on List.nodup_range]
    intro i iListed j jListed same
    have iBelow := List.mem_range.mp iListed
    have jBelow := List.mem_range.mp jListed
    have left := (found i (by omega)).2
    have right := (found j (by omega)).2
    rw [same] at left
    have numbers := eq.numbered _ _ _ (eq.equivalence.trans (eq.equivalence.symm left) right)
    omega
  have inside : (List.range (names.length + 1)).map nameAt ⊆ names := by
    intro name member
    obtain ⟨i, listed, rfl⟩ := List.mem_map.mp member
    exact (found i (by have := List.mem_range.mp listed; omega)).1
  have length := (List.subperm_of_subset distinct inside).length_le
  rw [List.length_map, List.length_range] at length
  omega

/-- The loop ends at a number that is free. -/
theorem freeSuffix_free {fuel first : Nat}
    (free : ∃ i, i ≤ fuel ∧ taken eq names proposed (first + i) = false) :
    taken eq names proposed (freeSuffix eq names proposed fuel first) = false := by
  obtain ⟨i, within, isFree⟩ := free
  induction fuel generalizing first i with
  | zero =>
    rw [show i = 0 by omega] at isFree
    exact isFree
  | succ fuel ih =>
    unfold freeSuffix
    split
    · next inUse =>
      -- the number that is free comes later
      cases i with
      | zero =>
        have here : taken eq names proposed first = true := inUse
        rw [Nat.add_zero, here] at isFree
        cases isFree
      | succ i =>
        refine ih i (by omega) ?_
        rwa [show first + 1 + i = first + (i + 1) by omega]
    · next unused => exact eq_false_of_ne_true unused

/-- A new profile has a name of its own. -/
theorem uniqueName_free (store : KeyboardProfileStore) :
    ∀ profile ∈ store.profiles,
      eq.equal profile.name (uniqueName eq store proposed) = false := by
  intro profile member
  have listed : profile.name ∈ store.profiles.map (·.name) := List.mem_map_of_mem member
  have distinct {text : String} (free : (store.profiles.map (·.name)).any (eq.equal · text) = false) :
      eq.equal profile.name text = false := by
    rw [List.any_eq_false] at free
    exact eq_false_of_ne_true (free _ listed)
  unfold uniqueName
  dsimp only
  split
  · exact distinct (freeSuffix_free eq _ proposed (exists_free eq _ proposed 2))
  · next unused => exact distinct (eq_false_of_ne_true unused)

end Names

section Calls

open KeyboardProfileStore ProfileContext

variable {Data : Type} {json : ArraySerialization Data} {unknown : List JSONValue}
  {s t : ProfileDefaults Data} {updated : List CustomKeyboardProfile}

/-- The storage holds the profiles of the store and these other entries, all of them arrays or
dictionaries. -/
structure Readable (json : ArraySerialization Data) (unknown : List JSONValue)
    (s : ProfileDefaults Data) : Prop where
  stored : ∃ items, storedEntries json s.storage = some items ∧
    (∀ item ∈ items, item.isTopLevel = true) ∧
    items.filterMap CustomKeyboardProfile.decoded = s.store.profiles ∧
    unknownEntries items = unknown
  preserved : s.store.preservedEntries = unknown
  readable : s.store.storageIsUnreadable = false

/-- The storage was not understood and has not been touched. -/
structure Unreadable (json : ArraySerialization Data) (stored : Option Data)
    (s : ProfileDefaults Data) : Prop where
  unread : storedEntries json stored = none
  untouched : s.storage = stored
  store : s.store = { profiles := [], storageIsUnreadable := true }

theorem unknownEntries_unknownEntries (items : List JSONValue) :
    unknownEntries (unknownEntries items) = unknownEntries items := by
  simp [unknownEntries, List.filter_filter]

theorem filterMap_unknownEntries (items : List JSONValue) :
    (unknownEntries items).filterMap CustomKeyboardProfile.decoded = [] := by
  rw [List.filterMap_eq_nil_iff]
  intro item member
  simpa using (List.mem_filter.mp member).2

theorem filterMap_encoded (profiles : List CustomKeyboardProfile) :
    (profiles.map CustomKeyboardProfile.encoded).filterMap CustomKeyboardProfile.decoded =
      profiles := by
  simp [List.filterMap_map, decoded_encoded]

theorem unknownEntries_encoded (profiles : List CustomKeyboardProfile) :
    unknownEntries (profiles.map CustomKeyboardProfile.encoded) = [] := by
  unfold unknownEntries
  rw [List.filter_eq_nil_iff]
  intro item member
  obtain ⟨profile, -, rfl⟩ := List.mem_map.mp member
  simp [decoded_encoded]

/-- Writing profiles keeps the other entries, behind the profiles. -/
theorem persist_readable (here : Readable json unknown s) (updated : List CustomKeyboardProfile) :
    ∃ data, persist json updated s =
        (.ok (), ⟨some data, { s.store with profiles := updated }⟩) ∧
      Readable json unknown ⟨some data, { s.store with profiles := updated }⟩ := by
  obtain ⟨items, read, top, -, others⟩ := here.stored
  have whole := storedEntries_serializable read
  -- What is preserved was read from the store, so it can be serialized again.
  have mine (item : JSONValue) (member : item ∈ unknown) : item ∈ items := by
    rw [← others] at member
    exact (List.mem_filter.mp member).1
  have new : Serializable json.isNumber
      (.array (updated.map CustomKeyboardProfile.encoded ++ unknown)) := by
    apply Serializable.array
    intro item member
    rcases List.mem_append.mp member with profile | other
    · obtain ⟨p, -, rfl⟩ := List.mem_map.mp profile
      exact encoded_serializable p
    · exact whole item (mine item other)
  obtain ⟨data, written, back⟩ := dataWithJSONObject_of_topLevel rfl new
  refine ⟨data, ?_, ?_⟩
  · unfold persist
    rw [← here.preserved] at written
    rw [Failing.bind_of_ok _ (Failing.getState_eq_ok.mpr ⟨rfl, rfl⟩),
      if_neg (by simp [here.readable]), mapM_reencoded]
    simp only [written]
    rfl
  · refine ⟨⟨updated.map CustomKeyboardProfile.encoded ++ unknown, ?_, ?_, ?_, ?_⟩,
      here.preserved, here.readable⟩
    · show (json.jsonObject data).bind JSONValue.asArray = _
      rw [back]
      rfl
    · intro item member
      rcases List.mem_append.mp member with profile | other
      · obtain ⟨p, -, rfl⟩ := List.mem_map.mp profile
        rfl
      · exact top item (mine item other)
    · rw [List.filterMap_append, filterMap_encoded, ← others, filterMap_unknownEntries,
        List.append_nil]
    · unfold unknownEntries
      rw [List.filter_append]
      show unknownEntries _ ++ unknownEntries _ = _
      rw [unknownEntries_encoded, ← others, unknownEntries_unknownEntries, List.nil_append]

theorem persist_unreadable (unreadable : s.store.storageIsUnreadable = true)
    (updated : List CustomKeyboardProfile) :
    persist json updated s = (.error (.profile .unreadableStorage), s) := by
  unfold persist
  rw [Failing.bind_of_ok _ (Failing.getState_eq_ok.mpr ⟨rfl, rfl⟩)]
  simp only [unreadable]
  rfl

theorem persist_error {error : StoreError} (run : persist json updated s = (.error error, t)) :
    t = s := by
  unfold persist at run
  rw [Failing.bind_of_ok _ (Failing.getState_eq_ok.mpr ⟨rfl, rfl⟩)] at run
  cases unreadable : s.store.storageIsUnreadable with
  | true =>
    rw [if_pos unreadable] at run
    cases run
    rfl
  | false =>
    rw [if_neg (by simp [unreadable]), mapM_reencoded] at run
    simp only at run
    cases written : json.dataWithJSONObject (.array
        (updated.map CustomKeyboardProfile.encoded ++ s.store.preservedEntries)) with
    | data d =>
      rw [written] at run
      cases run
    | throws =>
      rw [written] at run
      cases run
      rfl
    | raises =>
      rw [written] at run
      cases run
      rfl

/-- A call throws at once, or writes new profiles; a launch reads them. -/
theorem perform_cases (c : ProfileContext Data) {call : ProfileCall}
    {result : Except StoreError Unit} (run : c.perform s call = some (result, t)) :
    (∃ error, result = .error error ∧ t = s) ∨
      (∃ updated, persist c.json updated s = (result, t)) ∨
      ∃ store, launch c.json s.storage = some store ∧ result = .ok () ∧
        t = { s with store := store } := by
  -- Every call persists a list, launches the store anew, or fails before it has changed anything.
  cases call with
  | create id baseProfile =>
    exact .inr (.inl ⟨_, Option.some.inj run⟩)
  | duplicate id source =>
    exact .inr (.inl ⟨_, Option.some.inj run⟩)
  | delete id =>
    exact .inr (.inl ⟨_, Option.some.inj run⟩)
  | save id name baseProfile rules =>
    have saved := Option.some.inj run
    unfold KeyboardProfileStore.save at saved
    dsimp only at saved
    by_cases noName : (String.ofList (c.unicode.trimmed name.toList)).isEmpty = true
    · rw [if_pos noName] at saved
      cases saved
      exact .inl ⟨_, rfl, rfl⟩
    rw [if_neg noName] at saved
    by_cases builtIn : allowedBaseProfiles.contains baseProfile = true
    · rw [if_neg (not_not_intro builtIn)] at saved
      cases parsed : KeyboardProfileRuleParser.parse c.unicode c.iteration rules.toList with
      | error error =>
        rw [parsed] at saved
        cases saved
        exact .inl ⟨_, rfl, rfl⟩
      | ok _ =>
        rw [parsed] at saved
        simp only at saved
        rw [Failing.bind_of_ok _ (Failing.getState_eq_ok.mpr ⟨rfl, rfl⟩)] at saved
        cases found : s.store.profiles.findIdx? fun profile => decide (profile.id = id) with
        | none =>
          rw [found] at saved
          cases saved
          exact .inl ⟨_, rfl, rfl⟩
        | some index =>
          rw [found] at saved
          exact .inr (.inl ⟨_, saved⟩)
    · rw [if_pos builtIn] at saved
      cases saved
      exact .inl ⟨_, rfl, rfl⟩
  | relaunch =>
    obtain ⟨store, launched, same⟩ := Option.map_eq_some_iff.mp run
    cases same
    exact .inr (.inr ⟨store, launched, rfl, rfl⟩)

/-- The stored value was an array whose entries are arrays and dictionaries, or no array. -/
def Sound (json : ArraySerialization Data) (stored : Option Data) (s : ProfileDefaults Data) :
    Prop :=
  (∃ items, storedEntries json stored = some items ∧ Readable json (unknownEntries items) s) ∨
    Unreadable json stored s

theorem Readable.launch (here : Readable json unknown s) :
    ∃ store, KeyboardProfileStore.launch json s.storage = some store ∧
      store.profiles = s.store.profiles ∧ Readable json unknown { s with store := store } := by
  obtain ⟨items, read, top, profiles, others⟩ := here.stored
  refine ⟨_, launch_eq read top, profiles, ⟨items, read, top, rfl, others⟩, others, rfl⟩

theorem Unreadable.launch {stored : Option Data} (here : Unreadable json stored s) :
    KeyboardProfileStore.launch json s.storage = some s.store := by
  rw [here.untouched, launch_unreadable here.unread, here.store]

theorem Sound.step {stored : Option Data} (c : ProfileContext Data) {call : ProfileCall}
    (sound : Sound c.json stored s) (stepped : c.step s call = some t) :
    Sound c.json stored t := by
  obtain ⟨⟨result, u⟩, run, rfl⟩ := Option.map_eq_some_iff.mp stepped
  rcases perform_cases c run with ⟨error, -, rfl⟩ | ⟨updated, written⟩ |
    ⟨store, launched, -, rfl⟩
  · exact sound
  · rcases sound with ⟨items, read, here⟩ | here
    · obtain ⟨data, persisted, after⟩ := persist_readable here updated
      rw [persisted] at written
      cases written
      exact .inl ⟨items, read, after⟩
    · rw [persist_unreadable (by rw [here.store])] at written
      cases written
      exact .inr here
  · rcases sound with ⟨items, read, here⟩ | here
    · obtain ⟨other, again, -, after⟩ := here.launch
      rw [launched, Option.some.injEq] at again
      subst again
      exact .inl ⟨items, read, after⟩
    · rw [here.launch, Option.some.injEq] at launched
      subst launched
      exact .inr here

/-- A call always completes. -/
theorem Sound.completes {stored : Option Data} (c : ProfileContext Data)
    (sound : Sound c.json stored s) (call : ProfileCall) : ∃ t, c.step s call = some t := by
  cases call with
  | relaunch =>
    rcases sound with ⟨items, -, here⟩ | here
    · obtain ⟨store, launched, -⟩ := here.launch
      simp [ProfileContext.step, ProfileContext.perform, launched]
    · simp [ProfileContext.step, ProfileContext.perform, here.launch]
  | _ => exact ⟨_, rfl⟩

/-- What holds of every state: the next launch completes and has the same profiles, the entries
that are no profiles are still stored, a value that is no array is still stored, a call that
throws changes nothing, and the loop for the name of a new profile ends at a free one. -/
structure Kept (c : ProfileContext Data) (stored : Option Data) (s : ProfileDefaults Data) :
    Prop where
  reloads : ∃ store, launch c.json s.storage = some store ∧ store.profiles = s.store.profiles
  others : ∀ items, storedEntries c.json stored = some items →
    ∃ now, storedEntries c.json s.storage = some now ∧ unknownEntries now = unknownEntries items
  foreign : storedEntries c.json stored = none → s.storage = stored
  undone : ∀ call error t, c.perform s call = some (.error error, t) → t = s
  named : ∀ proposed, ∀ profile ∈ s.store.profiles,
    c.equality.equal profile.name (uniqueName c.equality s.store proposed) = false

theorem Sound.kept {stored : Option Data} (c : ProfileContext Data)
    (sound : Sound c.json stored s) : Kept c stored s := by
  refine ⟨?_, ?_, ?_, ?_, fun proposed => uniqueName_free c.equality proposed s.store⟩
  · rcases sound with ⟨items, -, here⟩ | here
    · obtain ⟨store, launched, same, -⟩ := here.launch
      exact ⟨store, launched, same⟩
    · exact ⟨s.store, here.launch, rfl⟩
  · intro items read
    rcases sound with ⟨same, readSame, here⟩ | here
    · rw [read, Option.some.injEq] at readSame
      subst readSame
      obtain ⟨now, readNow, -, -, others⟩ := here.stored
      exact ⟨now, readNow, others⟩
    · rw [here.unread] at read
      cases read
  · intro unread
    rcases sound with ⟨items, read, -⟩ | here
    · rw [unread] at read
      cases read
    · exact here.untouched
  · intro call error t run
    rcases perform_cases c run with ⟨_, -, same⟩ | ⟨updated, written⟩ | ⟨_, -, ended, -⟩
    · exact same
    · exact persist_error written
    · cases ended

/-- The first launch completes and has the profiles that are stored, and so it goes on. -/
def LosesNothing (c : ProfileContext Data) (stored : Option Data) : Prop :=
  ∃ store, launch c.json stored = some store ∧
    (∀ items, storedEntries c.json stored = some items →
      store.profiles = items.filterMap CustomKeyboardProfile.decoded) ∧
    ∀ calls, ∃ s, Transition.execute c.step ⟨stored, store⟩ calls = some s ∧ Kept c stored s

/-- Sound states are followed by sound states, whatever is called. -/
theorem Sound.execute {stored : Option Data} (c : ProfileContext Data)
    (sound : Sound c.json stored s) (calls : List ProfileCall) :
    ∃ t, Transition.execute c.step s calls = some t ∧ Sound c.json stored t := by
  induction calls generalizing s with
  | nil => exact ⟨s, rfl, sound⟩
  | cons call calls ih =>
    obtain ⟨next, stepped⟩ := sound.completes c call
    obtain ⟨t, rest, after⟩ := ih (sound.step c stepped)
    exact ⟨t, Option.bind_eq_some_iff.mpr ⟨next, stepped, rest⟩, after⟩

/-- Nothing is lost if and only if no entry of the stored array is a plain value. -/
theorem loses_nothing_iff (c : ProfileContext Data) (stored : Option Data) :
    LosesNothing c stored ↔
      ∀ items, storedEntries c.json stored = some items →
        ∀ item ∈ items, item.isTopLevel = true := by
  constructor
  · rintro ⟨store, launched, -⟩ items read item member
    cases top : item.isTopLevel with
    | true => rfl
    | false =>
      rw [launch_raised read member top] at launched
      cases launched
  · intro top
    -- The store that is launched is sound either way, and soundness lasts through all calls.
    cases read : storedEntries c.json stored with
    | none =>
      have started : Sound c.json stored ⟨stored, { profiles := [], storageIsUnreadable := true }⟩ :=
        .inr ⟨read, rfl, rfl⟩
      refine ⟨_, launch_unreadable read, ?_, fun calls => ?_⟩
      · intro items other
        rw [read] at other
        cases other
      · obtain ⟨t, executed, after⟩ := started.execute c calls
        exact ⟨t, executed, after.kept c⟩
    | some items =>
      have started : Sound c.json stored ⟨stored, {
          profiles := items.filterMap CustomKeyboardProfile.decoded
          preservedEntries := unknownEntries items }⟩ :=
        .inl ⟨items, read, ⟨items, read, top items read, rfl, rfl⟩, rfl, rfl⟩
      refine ⟨_, launch_eq read (top items read), ?_, fun calls => ?_⟩
      · intro others same
        rw [read, Option.some.injEq] at same
        rw [same]
      · obtain ⟨t, executed, after⟩ := started.execute c calls
        exact ⟨t, executed, after.kept c⟩

end Calls

/-- `==` of strings of ASCII. -/
def sameString : StringEquality where
  equal := fun a b => decide (a = b)
  equivalence := by
    refine ⟨fun a => by simp, fun {a b} same => ?_, fun {a b c} first second => ?_⟩
    · simp only [decide_eq_true_eq] at same ⊢
      exact same.symm
    · simp only [decide_eq_true_eq] at first second ⊢
      exact first.trans second
  numbered := by
    intro text m n same
    have chars := congrArg String.toList (of_decide_eq_true same)
    simp only [String.toList_append, List.append_cancel_left_eq] at chars
    have left := wholeLiteral_int m
    have right := wholeLiteral_int n
    have same : (toString (m : Int)).toList = (toString (n : Int)).toList := chars
    rw [same, right, Option.some.injEq] at left
    exact Int.ofNat_inj.mp left.symm

/-- Files in memory hold arrays, too. -/
noncomputable def inMemoryArrays :
    ArraySerialization { value : JSONValue // Serializable (fun _ => True) value } :=
  { KarabinerInputBridge.inMemory with
    writesArray := by
      intro items held
      have stored : KarabinerInputBridge.inMemory.data (.array items) =
          some ⟨.array items, held⟩ := dif_pos held
      rw [stored]
      rfl }

/-- An array with a number in it. -/
def numberEntry : { value : JSONValue // Serializable (fun _ => True) value } :=
  ⟨.array [.number 1], .array fun item member => by
    rw [List.mem_singleton.mp member]
    exact .number trivial⟩

/-- With a number in the stored array the app does not start. -/
theorem number_entry_ends_app : ¬∀ (Data : Type) (c : ProfileContext Data)
    (stored : Option Data), LosesNothing c stored := by
  intro all
  obtain ⟨store, launched, -⟩ :=
    all _ ⟨inMemoryArrays, ascii, ⟨id, List.Perm.refl⟩, sameString⟩ (some numberEntry)
  have read : storedEntries inMemoryArrays (some numberEntry) = some [.number 1] := rfl
  have raised : KeyboardProfileStore.launch inMemoryArrays (some numberEntry) = none :=
    launch_raised read List.mem_cons_self rfl
  rw [raised] at launched
  cases launched

end SimpleVM.Input
