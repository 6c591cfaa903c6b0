import SimpleVM.Input.KarabinerInputBridge

/-!
# Karabiner's configuration

An installation leaves everything outside the rules of the selected profile alone, and keeps the
rules of others, where it can read those rules. Where it cannot it starts from none, and drops what
it has not read. A second installation changes nothing.
-/
namespace SimpleVM.Input

open Swift

namespace KarabinerInputBridge

/-- A configuration: an object with profiles, at least one, that are objects. -/
structure Configuration where
  root : Dictionary
  profiles : List Dictionary
  nonempty : profiles ≠ []
  listed : root "profiles" = some (.array (profiles.map .object))

theorem profileIndex_lt {profiles : List Dictionary} (nonempty : profiles ≠ []) :
    profileIndex profiles < profiles.length := by
  have positive := List.length_pos_iff.mpr nonempty
  unfold profileIndex
  cases found : profiles.findIdx? fun profile =>
      decide ((profile "selected").bind JSONValue.asBool = some true) with
  | none => exact positive
  | some i => exact (List.findIdx?_eq_some_iff_getElem.mp found).1

/-- The selected profile, or the first one. -/
def Configuration.selected (c : Configuration) : Dictionary :=
  c.profiles.get ⟨profileIndex c.profiles, profileIndex_lt c.nonempty⟩

/-- The object under a key, which is empty if there is none. -/
def objectAt (dictionary : Dictionary) (key : String) : Option Dictionary :=
  match dictionary key with
  | none => some .empty
  | some value => value.asDictionary

/-- The elements of the array under a key. -/
def elementsAt (dictionary : Dictionary) (key : String) : Option (List JSONValue) :=
  match dictionary key with
  | none => some []
  | some (.array items) => some items
  | some _ => none

/-- An element of the rules that is SimpleVM's. -/
def isOwnValue (value : JSONValue) : Bool := value.asDictionary.any isOwn

/-- The new configuration has other rules in the selected profile and differs in nothing else.
Rules that are not SimpleVM's are as before, and one is SimpleVM's. -/
structure Preserves (c : Configuration) (root profile modifications before : Dictionary)
    (rules rules' : List JSONValue) : Prop where
  elsewhere : ∀ key, key ≠ "profiles" → root key = c.root key
  written : root "profiles" =
    some (.array ((c.profiles.set (profileIndex c.profiles) profile).map .object))
  inProfile : ∀ key, key ≠ "complex_modifications" → profile key = c.selected key
  read : objectAt c.selected "complex_modifications" = some before
  writtenModifications : profile "complex_modifications" = some (.object modifications)
  inModifications : ∀ key, key ≠ "rules" → modifications key = before key
  readRules : elementsAt before "rules" = some rules
  writtenRules : modifications "rules" = some (.array rules')
  others : rules'.filter (fun value => !isOwnValue value) =
    rules.filter (fun value => !isOwnValue value)
  own : (rules'.filter isOwnValue).length = 1

/-- The installation throws and the file is as before, or it writes a configuration that differs
in the rules only, and another installation leaves the file as it is. -/
def Installs {Data : Type} (json : JSONSerialization Data) (c : Configuration)
    (entries : List KeyboardMappingEntry) (config : Data)
    (result : Files Data × Except KarabinerBridgeError Unit) : Prop :=
  (∃ error, result.2 = .error error ∧ result.1.config = some config) ∨
    (result.2 = .ok () ∧ ∃ written root profile modifications before rules rules',
      result.1.config = some written ∧ json.jsonObject written = some (.object root) ∧
      Preserves c root profile modifications before rules rules' ∧
      ∀ outcome, (installRules json entries outcome result.1).1.config = result.1.config)

/-- What the rules of the selected profile have to be: an object, if there is one, in which the
rules, if there are any, are an array of objects. -/
def Configuration.Readable (c : Configuration) : Prop :=
  ∃ modifications rules, objectAt c.selected "complex_modifications" = some modifications ∧
    elementsAt modifications "rules" = some (List.map .object rules)

/-! ## Reading and writing the rules -/

variable {c : Configuration} {profile rule : Dictionary}

theorem modifications_of_objectAt {before : Dictionary}
    (held : objectAt profile "complex_modifications" = some before) :
    modifications profile = before := by
  unfold objectAt at held
  unfold modifications
  cases found : profile "complex_modifications" with
  | none =>
    rw [found] at held
    cases held
    rfl
  | some value =>
    rw [found] at held
    simp only at held
    rw [Option.bind_some, held]
    rfl

/-- Rules that are all objects are read as they are. -/
theorem rules_of_elementsAt {dictionaries : List Dictionary}
    (held : elementsAt (modifications profile) "rules" =
      some (dictionaries.map .object)) : rules profile = dictionaries := by
  unfold elementsAt at held
  unfold rules
  cases found : modifications profile "rules" with
  | none =>
    rw [found] at held
    have nothing : dictionaries = [] := by simpa using held
    rw [nothing]
    rfl
  | some value =>
    rw [found] at held
    cases value with
    | array items =>
      cases held
      rw [Option.bind_some, JSONValue.asDictionaries_eq_some.mpr rfl]
      rfl
    | _ => cases held

/-- And rules of which one is not are read as none. -/
theorem rules_of_unreadable {items : List JSONValue}
    (held : elementsAt (modifications profile) "rules" = some items)
    (other : ∃ item ∈ items, item.asDictionary = none) : rules profile = [] := by
  unfold elementsAt at held
  unfold rules
  cases found : modifications profile "rules" with
  | none => rfl
  | some value =>
    rw [found] at held
    cases value with
    | array list =>
      cases held
      rw [Option.bind_some]
      cases read : (JSONValue.array items).asDictionaries with
      | none => rfl
      | some dictionaries =>
        cases JSONValue.asDictionaries_eq_some.mp read
        obtain ⟨item, listed, isOther⟩ := other
        obtain ⟨members, -, rfl⟩ := List.mem_map.mp listed
        cases isOther
    | _ => cases held

theorem isOwnValue_object (rule : Dictionary) : isOwnValue (.object rule) = isOwn rule := rfl

theorem filter_objects (p : Dictionary → Bool) (q : JSONValue → Bool)
    (same : ∀ dictionary, q (.object dictionary) = p dictionary) (list : List Dictionary) :
    (list.map JSONValue.object).filter q = (list.filter p).map .object := by
  rw [List.filter_map]
  apply congrArg
  apply List.filter_congr
  exact fun dictionary _ => same dictionary

/-- The rules as they are written. -/
def rulesAfter (profile rule : Dictionary) : List JSONValue :=
  ((rules profile).filter (fun rule => !isOwn rule) ++ [rule]).map .object

theorem rulesAfter_others (own : isOwn rule = true) :
    (rulesAfter profile rule).filter (fun value => !isOwnValue value) =
      ((rules profile).filter fun rule => !isOwn rule).map .object := by
  unfold rulesAfter
  rw [filter_objects (fun rule => !isOwn rule) _ fun dictionary => rfl, List.filter_append,
    List.filter_filter]
  simp [own]

theorem rulesAfter_own (own : isOwn rule = true) :
    ((rulesAfter profile rule).filter isOwnValue).length = 1 := by
  unfold rulesAfter
  rw [filter_objects isOwn _ isOwnValue_object, List.filter_append, List.filter_filter]
  simp [own]

/-- The generated rule is SimpleVM's. -/
theorem isOwn_generated {entries : List KeyboardMappingEntry}
    (generated : generatedRule entries = .ok rule) : isOwn rule = true := by
  unfold generatedRule at generated
  split at generated
  · cases generated
  · cases generated
    simp [isOwn, Dictionary.of, JSONValue.asString]

theorem mapping_none {entries : List KeyboardMappingEntry} :
    (entries.filterMap mapping).length = entries.length ↔
      ∀ entry ∈ entries, mapping entry ≠ none := by
  induction entries with
  | nil => simp
  | cons entry entries ih =>
    rw [List.filterMap_cons, List.forall_mem_cons]
    cases mapped : mapping entry with
    | none =>
      have bound := List.length_filterMap_le mapping entries
      simp only [List.length_cons, ne_eq, not_true_eq_false, false_and, iff_false]
      omega
    | some manipulator => simp [ih]

/-- A rule is generated if every entry has a manipulator. -/
theorem generatedRule_ok_iff {entries : List KeyboardMappingEntry} :
    (∃ rule, generatedRule entries = .ok rule) ↔ ∀ entry ∈ entries, mapping entry ≠ none := by
  rw [← mapping_none]
  unfold generatedRule manipulators
  simp only
  by_cases all : (entries.filterMap mapping).length = entries.length
  · simp [all]
  · simp [all]

theorem modify_eq_set {α : Type} {f : α → α} {list : List α} {i : Nat} (bound : i < list.length) :
    list.modify i f = list.set i (f (list.get ⟨i, bound⟩)) := by
  induction list generalizing i with
  | nil => cases bound
  | cons first list ih =>
    cases i with
    | zero => rfl
    | succ i =>
      rw [List.modify_succ_cons, ih (Nat.lt_of_succ_lt_succ bound)]
      rfl

theorem withRules_profiles (c : Configuration) (rule : Dictionary) :
    withRules c.root c.profiles rule "profiles" = some (.array
      ((c.profiles.set (profileIndex c.profiles) (withRule c.selected rule)).map .object)) := by
  unfold withRules
  rw [Dictionary.set_self, modify_eq_set (profileIndex_lt c.nonempty)]
  rfl

theorem withRule_modifications (profile rule : Dictionary) :
    withRule profile rule "complex_modifications" =
      some (.object ((modifications profile).set "rules" (.array (rulesAfter profile rule)))) :=
  Dictionary.set_self

/-- What is written differs in the rules only, if these could be read. -/
theorem preserves_withRules (own : isOwn rule = true) (readable : c.Readable) :
    ∃ before rules, Preserves c (withRules c.root c.profiles rule) (withRule c.selected rule)
      ((modifications c.selected).set "rules" (.array (rulesAfter c.selected rule))) before rules
      (rulesAfter c.selected rule) := by
  obtain ⟨before, dictionaries, read, held⟩ := readable
  have started := modifications_of_objectAt read
  have list : rules c.selected = dictionaries := by
    apply rules_of_elementsAt
    rw [started]
    exact held
  refine ⟨before, dictionaries.map .object, fun key other => Dictionary.set_other other,
    withRules_profiles c rule, fun key other => Dictionary.set_other other, read,
    withRule_modifications _ _, fun key other => ?_, held, Dictionary.set_self, ?_,
    rulesAfter_own own⟩
  · rw [started]
    exact Dictionary.set_other other
  · rw [rulesAfter_others own, list]
    exact (filter_objects (fun rule => !isOwn rule) (fun value => !isOwnValue value)
      (fun _ => rfl) dictionaries).symm

theorem exists_dictionaries {items : List JSONValue}
    (each : ∀ item ∈ items, item.asDictionary ≠ none) :
    ∃ dictionaries : List Dictionary, items = dictionaries.map .object := by
  induction items with
  | nil => exact ⟨[], rfl⟩
  | cons item items ih =>
    obtain ⟨rest, rfl⟩ := ih fun other listed => each other (List.mem_cons_of_mem _ listed)
    obtain ⟨members, isObject⟩ :=
      Option.ne_none_iff_exists'.mp (each item List.mem_cons_self)
    cases JSONValue.asDictionary_eq_some.mp isObject
    exact ⟨members :: rest, rfl⟩

theorem objects_injective {list list' : List Dictionary}
    (same : list.map JSONValue.object = list'.map .object) : list = list' := by
  induction list generalizing list' with
  | nil =>
    cases list' with
    | nil => rfl
    | cons _ _ => cases same
  | cons first list ih =>
    cases list' with
    | nil => cases same
    | cons first' list' =>
      simp only [List.map_cons, List.cons.injEq, JSONValue.object.injEq] at same
      rw [same.1, ih same.2]

/-- And only then. -/
theorem readable_of_preserves (own : isOwn rule = true)
    {profile modified before : Dictionary} {list list' : List JSONValue}
    (preserves : Preserves c (withRules c.root c.profiles rule) profile modified before list
      list') : c.Readable := by
  have index := profileIndex_lt c.nonempty
  have started := modifications_of_objectAt preserves.read
  -- What is said to be written is what is written.
  have sameProfile : profile = withRule c.selected rule := by
    have profiles := preserves.written
    rw [withRules_profiles, Option.some.injEq, JSONValue.array.injEq] at profiles
    have here := congrArg (fun list => list[profileIndex c.profiles]?) (objects_injective profiles)
    simpa [index] using here.symm
  have sameRules : list' = rulesAfter c.selected rule := by
    have modifications := preserves.writtenModifications
    rw [sameProfile, withRule_modifications, Option.some.injEq, JSONValue.object.injEq]
      at modifications
    have rules := preserves.writtenRules
    rw [← modifications, Dictionary.set_self, Option.some.injEq, JSONValue.array.injEq] at rules
    exact rules.symm
  have each : ∀ item ∈ list, item.asDictionary ≠ none := by
    intro item listed isOther
    have read : elementsAt (modifications c.selected) "rules" = some list := by
      rw [started]
      exact preserves.readRules
    have nothing := rules_of_unreadable read ⟨item, listed, isOther⟩
    have others := preserves.others
    rw [sameRules, rulesAfter_others own, nothing] at others
    have kept : item ∈ list.filter fun value => !isOwnValue value :=
      List.mem_filter.mpr ⟨listed, by simp [isOwnValue, isOther]⟩
    rw [← others] at kept
    cases kept
  obtain ⟨dictionaries, rfl⟩ := exists_dictionaries each
  exact ⟨before, dictionaries, preserves.read, preserves.readRules⟩

/-! ## A second installation -/

theorem withRule_twice (own : isOwn rule = true) (profile : Dictionary) :
    withRule (withRule profile rule) rule = withRule profile rule := by
  have held := withRule_modifications profile rule
  have modified : modifications (withRule profile rule) =
      (modifications profile).set "rules" (.array (rulesAfter profile rule)) := by
    unfold modifications
    rw [held]
    rfl
  have list : rules (withRule profile rule) =
      (rules profile).filter (fun rule => !isOwn rule) ++ [rule] := by
    unfold rules
    rw [modified, Dictionary.set_self, Option.bind_some, rulesAfter,
      JSONValue.asDictionaries_eq_some.mpr rfl]
    rfl
  have same : rulesAfter (withRule profile rule) rule = rulesAfter profile rule := by
    unfold rulesAfter
    rw [list, List.filter_append, List.filter_filter]
    simp [own]
  have again : withRule (withRule profile rule) rule =
      (withRule profile rule).set "complex_modifications" (.object
        ((modifications (withRule profile rule)).set "rules"
          (.array (rulesAfter (withRule profile rule) rule)))) := rfl
  rw [again, same, modified, Dictionary.set_of_eq Dictionary.set_self, Dictionary.set_of_eq held]

theorem findIdx?_modify {α : Type} {p : α → Bool} {f : α → α} (same : ∀ x, p (f x) = p x)
    (list : List α) (i : Nat) : (list.modify i f).findIdx? p = list.findIdx? p := by
  induction list generalizing i with
  | nil => simp
  | cons first list ih =>
    cases i with
    | zero => rw [List.modify_zero_cons, List.findIdx?_cons, List.findIdx?_cons, same]
    | succ i => rw [List.modify_succ_cons, List.findIdx?_cons, List.findIdx?_cons, ih]

/-- The same profile is selected afterwards. -/
theorem profileIndex_modify (rule : Dictionary) (profiles : List Dictionary) (i : Nat) :
    profileIndex (profiles.modify i fun profile => withRule profile rule) =
      profileIndex profiles := by
  unfold profileIndex
  rw [findIdx?_modify]
  intro profile
  have selected : withRule profile rule "selected" = profile "selected" :=
    Dictionary.set_other (by decide)
  rw [selected]

/-- The same rule in place of the first one changes nothing. -/
theorem withRules_twice (own : isOwn rule = true) (root : Dictionary)
    (profiles : List Dictionary) :
    withRules (withRules root profiles rule)
      (profiles.modify (profileIndex profiles) fun profile => withRule profile rule) rule =
      withRules root profiles rule := by
  have twice : (profiles.modify (profileIndex profiles) fun profile =>
      withRule profile rule).modify (profileIndex profiles) (fun profile =>
        withRule profile rule) =
      profiles.modify (profileIndex profiles) fun profile => withRule profile rule := by
    rw [List.modify_modify_eq]
    apply congrArg
    funext profile
    exact withRule_twice own profile
  have again : withRules (withRules root profiles rule)
      (profiles.modify (profileIndex profiles) fun profile => withRule profile rule) rule =
      (withRules root profiles rule).set "profiles" (.array
        (((profiles.modify (profileIndex profiles) fun profile => withRule profile rule).modify
          (profileIndex (profiles.modify (profileIndex profiles) fun profile =>
            withRule profile rule)) fun profile => withRule profile rule).map .object)) := rfl
  rw [again, profileIndex_modify, twice]
  exact Dictionary.set_of_eq Dictionary.set_self

/-! ## What can be written -/

variable {Data : Type} {json : JSONSerialization Data}

theorem serializable_strings (list : List String) :
    Serializable json.isNumber (strings list) := by
  apply Serializable.array
  intro item listed
  obtain ⟨s, -, rfl⟩ := List.mem_map.mp listed
  exact .string s

theorem serializable_manipulator (m : Manipulator) :
    Serializable json.isNumber (Manipulator.json m) := by
  have target : Serializable json.isNumber
      (.object (Dictionary.of [("key_code", .string m.toKey)])) := by
    apply Serializable.of
    simp [Serializable.string]
  have target : Serializable json.isNumber (.object (if m.toModifiers.isEmpty then
      Dictionary.of [("key_code", .string m.toKey)] else (Dictionary.of
        [("key_code", .string m.toKey)]).set "modifiers" (strings m.toModifiers))) := by
    split
    · exact target
    · exact target.set (serializable_strings _)
  apply Serializable.of
  simp only [List.forall_mem_cons, List.not_mem_nil, false_implies, implies_true, and_true]
  refine ⟨.string _, Serializable.of ?_, .array ?_, .array ?_⟩
  · simp only [List.forall_mem_cons, List.not_mem_nil, false_implies, implies_true, and_true]
    refine ⟨.string _, Serializable.of ?_⟩
    simp [serializable_strings]
  · simpa using target
  · simp only [List.forall_mem_cons, List.not_mem_nil, false_implies, implies_true, and_true]
    refine ⟨Serializable.of ?_, Serializable.of ?_⟩
    · simp [Serializable.string, serializable_strings]
    · simp [Serializable.string, Serializable.number json.one]

theorem serializable_generated {entries : List KeyboardMappingEntry}
    (generated : generatedRule entries = .ok rule) :
    Serializable json.isNumber (.object rule) := by
  unfold generatedRule at generated
  split at generated
  · cases generated
  · cases generated
    apply Serializable.of
    simp only [List.forall_mem_cons, List.not_mem_nil, false_implies, implies_true, and_true]
    refine ⟨.string _, .array ?_⟩
    intro item listed
    obtain ⟨m, -, rfl⟩ := List.mem_map.mp listed
    exact serializable_manipulator m

/-- What is under a key of what can be written can be written. -/
theorem serializable_modifications (whole : Serializable json.isNumber (.object profile)) :
    Serializable json.isNumber (.object (modifications profile)) := by
  unfold modifications
  cases held : profile "complex_modifications" with
  | none => exact Serializable.empty
  | some value =>
    rw [Option.bind_some]
    cases read : value.asDictionary with
    | none => exact Serializable.empty
    | some members =>
      cases JSONValue.asDictionary_eq_some.mp read
      exact whole.member held

theorem serializable_rules (whole : Serializable json.isNumber (.object profile)) :
    ∀ rule ∈ rules profile, Serializable json.isNumber (.object rule) := by
  have inner := serializable_modifications whole
  unfold rules
  cases held : modifications profile "rules" with
  | none =>
    intro rule listed
    cases listed
  | some value =>
    rw [Option.bind_some]
    cases read : value.asDictionaries with
    | none =>
      intro rule listed
      cases listed
    | some dictionaries =>
      cases JSONValue.asDictionaries_eq_some.mp read
      intro rule listed
      exact (inner.member held).item (List.mem_map_of_mem listed)

theorem serializable_withRule (whole : Serializable json.isNumber (.object profile))
    (new : Serializable json.isNumber (.object rule)) :
    Serializable json.isNumber (.object (withRule profile rule)) := by
  have after : Serializable json.isNumber (.array (rulesAfter profile rule)) := by
    apply Serializable.array
    intro item listed
    obtain ⟨member, inside, rfl⟩ := List.mem_map.mp listed
    rcases List.mem_append.mp inside with earlier | isNew
    · exact serializable_rules whole member (List.mem_filter.mp earlier).1
    · cases List.mem_singleton.mp isNew
      exact new
  exact whole.set ((serializable_modifications whole).set after)

theorem serializable_withRules {root : Dictionary} {profiles : List Dictionary}
    (whole : Serializable json.isNumber (.object root))
    (listed : root "profiles" = some (.array (profiles.map .object)))
    (new : Serializable json.isNumber (.object rule)) :
    Serializable json.isNumber (.object (withRules root profiles rule)) := by
  have each : ∀ profile ∈ profiles, Serializable json.isNumber (.object profile) :=
    fun profile member => (whole.member listed).item (List.mem_map_of_mem member)
  apply whole.set
  apply Serializable.array
  intro item member
  obtain ⟨profile, inside, rfl⟩ := List.mem_map.mp member
  obtain ⟨i, bound, rfl⟩ := List.getElem_of_mem inside
  rw [List.getElem_modify]
  split
  · exact serializable_withRule (each _ (List.getElem_mem _)) new
  · exact each _ (List.getElem_mem _)

/-! ## The installation -/

/-- An installation into a configuration that can be read. -/
theorem installRules_eq {c : Configuration} {data : Data} {backup : Option Data}
    {outcome : FileOutcome} {entries : List KeyboardMappingEntry}
    (read : json.jsonObject data = some (.object c.root)) :
    installRules json entries outcome ⟨some data, backup⟩ =
      match generatedRule entries with
      | .error error => (⟨some data, backup⟩, .error error)
      | .ok rule =>
        match backUp outcome ⟨some data, backup⟩ with
        | none =>
          (⟨some data, if outcome.removes then none else backup⟩, .error .cocoa)
        | some backedUp =>
          match json.data (.object (withRules c.root c.profiles rule)) with
          | none => (backedUp, .error .cocoa)
          | some output =>
            if outcome.writes then ({ backedUp with config := some output }, .ok ())
            else (backedUp, .error .cocoa) := by
  have profiles : (c.root "profiles").bind JSONValue.asDictionaries = some c.profiles := by
    rw [c.listed, Option.bind_some, JSONValue.asDictionaries_eq_some]
  unfold installRules
  simp only [read, JSONValue.asDictionary, profiles]
  cases list : c.profiles with
  | nil => exact absurd list c.nonempty
  | cons first rest => rfl

theorem backUp_config {files backedUp : Files Data} {outcome : FileOutcome}
    (backed : backUp outcome files = some backedUp) : backedUp.config = files.config := by
  simp only [backUp, Option.ite_none_right_eq_some, Option.some.injEq] at backed
  rw [← backed.2]

/-- An installation of a rule that is there already leaves the file as it is. -/
theorem installRules_again {c : Configuration} {written : Data} {backup : Option Data}
    {outcome : FileOutcome} {entries : List KeyboardMappingEntry}
    (generated : generatedRule entries = .ok rule)
    (read : json.jsonObject written = some (.object c.root))
    (again : json.data (.object (withRules c.root c.profiles rule)) = some written) :
    (installRules json entries outcome ⟨some written, backup⟩).1.config = some written := by
  rw [installRules_eq read, generated]
  simp only
  cases backed : backUp outcome ⟨some written, backup⟩ with
  | none => rfl
  | some backedUp =>
    simp only [again]
    split
    · rfl
    · exact backUp_config backed

/-- The configuration after an installation. -/
def Configuration.after (c : Configuration) (rule : Dictionary) : Configuration where
  root := withRules c.root c.profiles rule
  profiles := c.profiles.modify (profileIndex c.profiles) fun profile => withRule profile rule
  nonempty := by
    intro empty
    have lengths := congrArg List.length empty
    simp only [List.length_modify, List.length_nil, List.length_eq_zero_iff] at lengths
    exact c.nonempty lengths
  listed := Dictionary.set_self

variable {c : Configuration} {config : Data} {backup : Option Data} {outcome : FileOutcome}
  {entries : List KeyboardMappingEntry}

/-- What an installation comes to that writes. -/
theorem installRules_written {backedUp : Files Data}
    (read : json.jsonObject config = some (.object c.root))
    (generated : generatedRule entries = .ok rule)
    (backed : backUp outcome ⟨some config, backup⟩ = some backedUp)
    (writes : outcome.writes = true) :
    ∃ output, installRules json entries outcome ⟨some config, backup⟩ =
        ({ backedUp with config := some output }, .ok ()) ∧
      json.data (.object (withRules c.root c.profiles rule)) = some output ∧
      json.jsonObject output = some (.object (withRules c.root c.profiles rule)) := by
  have root := json.parsed _ _ read
  have written := json.writes _
    (serializable_withRules root c.listed (serializable_generated generated))
  obtain ⟨output, serialized⟩ := Option.isSome_iff_exists.mp written
  refine ⟨output, ?_, serialized, json.reads _ _ serialized⟩
  rw [installRules_eq read, generated]
  simp only [backed, serialized]
  rw [writes, if_pos rfl]

/-- An installation that writes preserves a configuration that can be read. -/
theorem installs_of_readable {backedUp : Files Data} {output : Data}
    (readable : c.Readable) (generated : generatedRule entries = .ok rule)
    (serialized : json.data (.object (withRules c.root c.profiles rule)) = some output)
    (reads : json.jsonObject output = some (.object (withRules c.root c.profiles rule))) :
    Installs json c entries config ({ backedUp with config := some output }, .ok ()) := by
  have own := isOwn_generated generated
  obtain ⟨before, list, preserves⟩ := preserves_withRules own readable
  refine .inr ⟨rfl, output, _, _, _, before, list, _, rfl, reads, preserves, fun later => ?_⟩
  have again : json.data (.object (withRules (c.after rule).root (c.after rule).profiles rule)) =
      some output := by
    rw [← serialized]
    exact congrArg (fun root => json.data (.object root)) (withRules_twice own c.root c.profiles)
  exact installRules_again (c := c.after rule) generated reads again

/-- And no other. -/
theorem readable_of_installs {backedUp : Files Data} {output : Data}
    (generated : generatedRule entries = .ok rule)
    (reads : json.jsonObject output = some (.object (withRules c.root c.profiles rule)))
    (installs : Installs json c entries config ({ backedUp with config := some output }, .ok ())) :
    c.Readable := by
  rcases installs with ⟨error, thrown, -⟩ | ⟨-, out, root, profile, modified, before, list, list',
    held, parsed, preserves, -⟩
  · cases thrown
  · cases held
    rw [reads] at parsed
    cases parsed
    exact readable_of_preserves (isOwn_generated generated) preserves

/-- The configuration is preserved exactly if its rules can be read, or nothing is written. -/
theorem installRules_preserves_iff (json : JSONSerialization Data) (c : Configuration)
    (config : Data) (backup : Option Data) (outcome : FileOutcome)
    (entries : List KeyboardMappingEntry)
    (read : json.jsonObject config = some (.object c.root)) :
    Installs json c entries config (installRules json entries outcome ⟨some config, backup⟩) ↔
      c.Readable ∨ (∃ entry ∈ entries, mapping entry = none) ∨
        backUp outcome ⟨some config, backup⟩ = none ∨ outcome.writes = false := by
  -- Only where the rule is made, the backup taken and the file written does the configuration
  -- change; the three earlier failures leave it alone.
  cases generated : generatedRule entries with
  | error error =>
    have unmapped : ∃ entry ∈ entries, mapping entry = none := by
      refine Decidable.byContradiction fun all => ?_
      obtain ⟨rule, made⟩ := generatedRule_ok_iff.mpr fun entry listed missing =>
        all ⟨entry, listed, missing⟩
      rw [generated] at made
      cases made
    rw [installRules_eq read, generated]
    exact ⟨fun _ => .inr (.inl unmapped), fun _ => .inl ⟨error, rfl, rfl⟩⟩
  | ok rule =>
    have mapped := generatedRule_ok_iff.mp ⟨rule, generated⟩
    cases backed : backUp outcome ⟨some config, backup⟩ with
    | none =>
      rw [installRules_eq read, generated]
      simp only [backed]
      exact ⟨fun _ => .inr (.inr (.inl trivial)), fun _ => .inl ⟨_, rfl, rfl⟩⟩
    | some backedUp =>
      cases writes : outcome.writes with
      | false =>
        rw [installRules_eq read, generated]
        simp only [backed]
        refine ⟨fun _ => .inr (.inr (.inr trivial)), fun _ => .inl ⟨.cocoa, ?_⟩⟩
        cases json.data (.object (withRules c.root c.profiles rule)) with
        | none => exact ⟨rfl, backUp_config backed⟩
        | some output =>
          simp only [writes]
          exact ⟨rfl, backUp_config backed⟩
      | true =>
        obtain ⟨output, result, serialized, reads⟩ :=
          installRules_written read generated backed writes
        rw [result]
        constructor
        · exact fun installs => .inl (readable_of_installs generated reads installs)
        · rintro (readable | ⟨entry, listed, missing⟩ | impossible | impossible)
          · exact installs_of_readable readable generated serialized reads
          · exact absurd missing (mapped entry listed)
          · cases impossible
          · cases impossible

open Classical in
/-- Files that hold values. -/
noncomputable def inMemory :
    JSONSerialization { value : JSONValue // Serializable (fun _ => True) value } where
  isNumber := fun _ => True
  one := trivial
  jsonObject := fun d => some d.val
  data := fun value => if held : Serializable (fun _ => True) value then some ⟨value, held⟩ else none
  parsed := by
    intro d value parsed
    cases parsed
    exact d.property
  writes := by
    intro root held
    rw [dif_pos held]
    rfl
  reads := by
    intro value d written
    split at written
    · cases written
      rfl
    · cases written

/-- A configuration with one profile. -/
def oneProfile (profile : Dictionary) : Configuration where
  root := Dictionary.of [("profiles", .array [.object profile])]
  profiles := [profile]
  nonempty := List.cons_ne_nil _ _
  listed := rfl

theorem serializable_oneProfile (whole : Serializable (fun _ => True) (.object profile)) :
    Serializable (fun _ => True) (.object (oneProfile profile).root) := by
  apply Serializable.of
  have profiles : Serializable (fun _ => True) (.array [.object profile]) :=
    .array (by simpa using whole)
  simpa using profiles

/-- A profile with these rules. -/
def ruledProfile (rules : List JSONValue) : Dictionary :=
  Dictionary.of [("complex_modifications", .object (Dictionary.of [("rules", .array rules)]))]

/-- A rule that only has a description. -/
def described (description : String) : JSONValue :=
  .object (Dictionary.of [("description", .string description)])

theorem serializable_described (description : String) :
    Serializable (fun _ => True) (described description) :=
  Serializable.of (by simp [Serializable.string])

theorem serializable_ruledProfile {rules : List JSONValue}
    (each : ∀ rule ∈ rules, Serializable (fun _ => True) rule) :
    Serializable (fun _ => True) (.object (ruledProfile rules)) := by
  apply Serializable.of
  simp only [List.forall_mem_cons, List.not_mem_nil, false_implies, implies_true, and_true]
  apply Serializable.of
  simp only [List.forall_mem_cons, List.not_mem_nil, false_implies, implies_true, and_true]
  exact .array each

/-- The file of a profile with these rules. -/
def ruledFile {rules : List JSONValue}
    (each : ∀ rule ∈ rules, Serializable (fun _ => True) rule) :
    { value : JSONValue // Serializable (fun _ => True) value } :=
  ⟨_, serializable_oneProfile (serializable_ruledProfile each)⟩

/-- A rule of the user's, and an older one of SimpleVM's. -/
def mixedRules : List JSONValue := [described "Mine", described ruleDescription]

theorem serializable_mixedRules : ∀ rule ∈ mixedRules, Serializable (fun _ => True) rule := by
  simp only [mixedRules, List.forall_mem_cons, List.not_mem_nil, false_implies, implies_true,
    and_true]
  exact ⟨serializable_described _, serializable_described _⟩

/-- Command with A becomes Control with A. -/
def commandA : KeyboardMappingEntry := ⟨⟨0, .command⟩, ⟨0, .control⟩⟩

/-- The rule of the user's stays when the one of SimpleVM's is written anew. -/
theorem mixed_rules_preserved :
    Installs inMemory (oneProfile (ruledProfile mixedRules)) [commandA]
      (ruledFile serializable_mixedRules)
      (installRules inMemory [commandA] ⟨true, true, true⟩
        ⟨some (ruledFile serializable_mixedRules), none⟩) ∧
    (installRules inMemory [commandA] ⟨true, true, true⟩
      ⟨some (ruledFile serializable_mixedRules), none⟩).2 = .ok () := by
  constructor
  · apply (installRules_preserves_iff inMemory (oneProfile (ruledProfile mixedRules))
      (ruledFile serializable_mixedRules) none ⟨true, true, true⟩ [commandA] rfl).mpr
    exact .inl ⟨_, [Dictionary.of [("description", .string "Mine")],
      Dictionary.of [("description", .string ruleDescription)]], rfl, rfl⟩
  · have read : inMemory.jsonObject (ruledFile serializable_mixedRules) =
        some (.object (oneProfile (ruledProfile mixedRules)).root) := rfl
    have generated : generatedRule [commandA] = .ok _ := rfl
    have backed : backUp ⟨true, true, true⟩
        ⟨some (ruledFile serializable_mixedRules), none⟩ = some _ := rfl
    obtain ⟨output, result, -, -⟩ := installRules_written read generated backed rfl
    rw [result]

/-- A rule of the user's with a null behind it. -/
def nullRules : List JSONValue := [described "Mine", .null]

theorem serializable_nullRules : ∀ rule ∈ nullRules, Serializable (fun _ => True) rule := by
  simp only [nullRules, List.forall_mem_cons, List.not_mem_nil, false_implies, implies_true,
    and_true]
  exact ⟨serializable_described _, .null⟩

/-- The other rule is dropped with the null. -/
theorem null_drops_rules : ¬∀ (Data : Type) (json : JSONSerialization Data) (c : Configuration)
    (config : Data) (backup : Option Data) (outcome : FileOutcome)
    (entries : List KeyboardMappingEntry), json.jsonObject config = some (.object c.root) →
      Installs json c entries config
        (installRules json entries outcome ⟨some config, backup⟩) := by
  intro preserved
  have installs := preserved _ inMemory (oneProfile (ruledProfile nullRules))
    (ruledFile serializable_nullRules) none ⟨true, true, true⟩ [] rfl
  have read : inMemory.jsonObject (ruledFile serializable_nullRules) =
      some (.object (oneProfile (ruledProfile nullRules)).root) := rfl
  have generated : generatedRule [] = .ok _ := rfl
  have backed : backUp ⟨true, true, true⟩
      ⟨some (ruledFile serializable_nullRules), none⟩ = some _ := rfl
  obtain ⟨output, result, -, reads⟩ := installRules_written read generated backed rfl
  rw [result] at installs
  -- Its list of rules is then a list of objects, and `null` is none.
  obtain ⟨modifications, rules, held, list⟩ := readable_of_installs rfl reads installs
  cases held
  have items : nullRules = rules.map .object := Option.some.inj list
  have listed : JSONValue.null ∈ nullRules := List.mem_cons_of_mem _ List.mem_cons_self
  obtain ⟨rule, -, isNull⟩ := List.mem_map.mp (items ▸ listed)
  cases isNull

end KarabinerInputBridge

end SimpleVM.Input
