import SimpleVM.Agent.Daemon
import SimpleVM.Agent.GuestText
import SimpleVM.Python.Loaded

/-!
# Where the strings of a response come from

What the daemon says itself is made of words of the program and of parts of strings that it read. So
whatever holds of every code point that is read, and of every character, holds of every code point
that is said.
-/
namespace SimpleVM.Agent

open Effects Python Text

/-- Every code point of the string is as asked. -/
def Each (P : Nat → Prop) (s : Str) : Prop := ∀ n ∈ s, P n

variable {P : Nat → Prop}

section Strings

theorem Each.of_subset {s t : Str} (each : Each P s) (inside : t ⊆ s) : Each P t :=
  fun n member => each n (inside member)

theorem Each.append {s t : Str} (first : Each P s) (second : Each P t) : Each P (s ++ t) := by
  intro n member
  rcases List.mem_append.mp member with inside | inside
  · exact first n inside
  · exact second n inside

variable (characters : ∀ c : Char, P c.toNat)

include characters

theorem each_str (s : String) : Each P (str s) := by
  intro n member
  obtain ⟨c, -, rfl⟩ := List.mem_map.mp member
  exact characters c

theorem each_orElse {s : Str} (each : Each P s) (default : String) :
    Each P (orElse s (str default)) := by
  unfold Python.orElse
  split
  · exact each_str characters default
  · exact each

theorem each_intercalate (separator : String) {texts : List Str} (all : ∀ t ∈ texts, Each P t) :
    Each P (List.intercalate (str separator) texts) := by
  induction texts with
  | nil => exact each_str characters ""
  | cons t texts ih =>
    have first := all t List.mem_cons_self
    have rest := ih fun other member => all other (List.mem_cons_of_mem t member)
    cases texts with
    | nil => simpa using first
    | cons next texts =>
      rw [List.intercalate_cons_cons]
      exact (first.append (each_str characters separator)).append rest

end Strings

section Read

/-- Every line of the file. -/
def MountInfo.Each (P : Nat → Prop) (info : MountInfo) : Prop := ∀ line ∈ info.lines, Agent.Each P line

/-- What a command leaves, or the message of an exception. -/
def Completed.Each (P : Nat → Prop) : Completed → Prop
  | .exited _ stderr => Agent.Each P stderr
  | .undecodable => True
  | .failed message => Agent.Each P message

/-- Everything that is read while a request is carried out, short of what the session helper has
registered. -/
structure Surroundings.Each (P : Nat → Prop) (around : Surroundings) : Prop where
  hostname : Agent.Each P around.status.hostname
  release : ∀ entry ∈ around.status.release, Agent.Each P entry.2
  addresses : ∀ addresses, around.status.lookup = .found addresses →
    ∀ a ∈ addresses, Agent.Each P a
  mountInfo : around.status.mountInfo.Each P
  power : around.power.Each P
  before : around.mount.before.Each P
  makedirs : ∀ message ∈ around.mount.makedirs, Agent.Each P message
  run : ∀ filesystem, (around.mount.run filesystem).Each P
  after : around.mount.after.Each P

structure MountStatus.Each (P : Nat → Prop) (status : MountStatus) : Prop where
  filesystem : Agent.Each P status.filesystem
  error : ∀ message ∈ status.error, Agent.Each P message

theorem MountStatus.Each.withError {status : MountStatus} (each : status.Each P) {message : Str}
    (eachMessage : Agent.Each P message) (state : MountState) :
    ({ status with state := state, error := some message } : MountStatus).Each P :=
  ⟨each.filesystem, fun other same => by
    cases same
    exact eachMessage⟩

/-- What the loop over file systems leaves. -/
def TriedEach (P : Nat → Prop) : Except Str (Bool × List Str) → Prop
  | .error message => Each P message
  | .ok (_, errors) => ∀ e ∈ errors, Each P e

theorem ipAddresses_each {lookup : Lookup} {addresses : List Str}
    (each : ∀ found, lookup = .found found → ∀ address ∈ found, Each P address)
    (listed : ipAddresses lookup = .ok addresses) : ∀ address ∈ addresses, Each P address := by
  unfold ipAddresses at listed
  split at listed
  · next found =>
    cases listed
    intro address member
    rw [List.mem_mergeSort, List.mem_eraseDups] at member
    obtain ⟨whole, inside, rfl⟩ := List.mem_map.mp (List.mem_filter.mp member).1
    exact (each found rfl whole inside).of_subset (List.takeWhile_subset _)
  · cases listed
    exact fun _ member => by cases member
  · cases listed
  · cases listed

end Read

section Said

variable (characters : ∀ c : Char, P c.toNat)

include characters

theorem mountedAt_each {line : Str} {status : MountStatus} (each : Each P line)
    (found : mountedAt line = some status) : status.Each P := by
  unfold mountedAt at found
  split at found
  · cases found
  · next left right parts =>
    have inside := (partition_subset parts).2
    dsimp only at found
    split at found
    · cases found
      refine ⟨?_, fun _ absent => by cases absent⟩
      cases first : (split right)[0]? with
      | none => exact each_str characters "unknown"
      | some field =>
        have member := List.mem_of_getElem? first
        exact each.of_subset fun c within => inside (subset_of_mem_split member within)
    · cases found

theorem sharedMountStatus_each {info : MountInfo} {status : MountStatus} (each : info.Each P)
    (found : sharedMountStatus info = .ok status) : status.Each P := by
  unfold sharedMountStatus at found
  split at found
  · next mounted listed =>
    cases found
    obtain ⟨line, member, here⟩ := List.exists_of_findSome?_eq_some listed
    exact mountedAt_each characters (each line member) here
  · split at found
    · cases found
      exact ⟨each_str characters _, fun _ absent => by cases absent⟩
    · cases found
      exact ⟨each_str characters _, fun _ absent => by cases absent⟩
    · cases found

theorem tryMounts_each {run : String → Completed} (each : ∀ filesystem, (run filesystem).Each P)
    {filesystems : List String} {outcome : Except Str (Bool × List Str)}
    (tried : tryMounts run filesystems = .ok outcome) : TriedEach P outcome := by
  induction filesystems generalizing outcome with
  | nil =>
    cases tried
    exact fun _ member => by cases member
  | cons filesystem others ih =>
    have here := each filesystem
    unfold tryMounts at tried
    split at tried
    · next message failed =>
      cases tried
      rw [failed] at here
      exact here
    · cases tried
    · next returncode stderr exited =>
      rw [exited] at here
      split at tried
      · cases tried
        exact fun _ member => by cases member
      · split at tried
        · next mounted errors later =>
          cases tried
          intro e member
          rcases List.mem_cons.mp member with rfl | inside
          · exact (each_orElse characters here "mount failed").of_subset (strip_subset _)
          · exact ih later e inside
        · exact ih tried

theorem mountSharedDirectory_each {around : Surroundings} (each : around.Each P)
    {status : MountStatus} (found : mountSharedDirectory around.mount = .ok status) :
    status.Each P := by
  -- Every field comes from the table, from the tool's output or from a fixed text; each branch of
  -- the source is one of these.
  unfold mountSharedDirectory at found
  obtain ⟨before, first, found⟩ := bind_ok_iff.mp found
  have beforeEach := sharedMountStatus_each characters each.before first
  split at found
  · split at found
    · cases found
      exact beforeEach
    · cases found
      exact beforeEach.withError (each_str characters _) _
  · split at found
    · next message failed =>
      cases found
      exact beforeEach.withError (each.makedirs message failed) _
    · obtain ⟨outcome, tried, found⟩ := bind_ok_iff.mp found
      have outcomeEach := tryMounts_each characters each.run tried
      split at found
      · next message =>
        cases found
        exact beforeEach.withError outcomeEach _
      · next errors =>
        obtain ⟨raced, second, found⟩ := bind_ok_iff.mp found
        split at found
        · cases found
          exact sharedMountStatus_each characters each.after second
        · cases found
          have whole := each_intercalate characters "; " outcomeEach
          have cut := (whole.of_subset (strip_subset _)).of_subset (List.take_subset 512 _)
          exact beforeEach.withError (each_orElse characters cut "mount failed") _
      · obtain ⟨after, second, found⟩ := bind_ok_iff.mp found
        have afterEach := sharedMountStatus_each characters each.after second
        split at found
        · cases found
          exact afterEach.withError (each_str characters _) _
        · cases found
          exact afterEach

theorem power_each {completed : Completed} (each : completed.Each P) {message : Str}
    (failed : power completed = .ok (some message)) : Each P message := by
  unfold power at failed
  split at failed
  · cases failed
    exact each
  · cases failed
  · split at failed
    · cases failed
    · cases failed
      have cut := (each_orElse characters each "systemctl failed").of_subset (strip_subset _)
      exact cut.of_subset (List.take_subset 512 _)

theorem each_released {release : List (Str × Str)} (each : ∀ entry ∈ release, Each P entry.2)
    (key : Str) : Each P ((release.lookup key).getD (str "unknown")) := by
  induction release with
  | nil => exact each_str characters "unknown"
  | cons entry release ih =>
    obtain ⟨name, v⟩ := entry
    rw [List.lookup_cons]
    split
    · exact each _ List.mem_cons_self
    · exact ih fun other member => each other (List.mem_cons_of_mem _ member)

end Said

section Loaded

/-- Everything that the session helper has registered. -/
structure Session.IsPython (session : Session) : Prop where
  desktopEnvironment : Python.IsPython session.desktopEnvironment
  sessionType : Python.IsPython session.sessionType
  capabilities : ∀ capability ∈ session.capabilities, Python.IsPython capability
  distroID : Python.IsPython session.distroID
  distroVersion : Python.IsPython session.distroVersion

/-- Every string that the daemon holds is a string of Python. -/
structure Surroundings.IsPython (around : Surroundings) : Prop where
  each : around.Each (· < 0x110000)
  session : ∀ session ∈ around.status.session, session.IsPython

theorem isPython_str (s : String) : IsPython (str s) := each_str toNat_lt s

theorem loaded_label (s : String) : Loaded (.string (str s)) := .string _ (isPython_str s)

/-- A dict whose keys are different words of the program. -/
theorem loaded_fields {members : List (Str × Value)} (names : List String)
    (same : members.map Prod.fst = names.map str) (distinct : (names.map str).Nodup)
    (values : ∀ v ∈ members.map Prod.snd, Loaded v) : Loaded (.dict members) := by
  refine .dict members (same ▸ distinct) (fun member inside => ?_) fun member inside =>
    values member.2 (List.mem_map_of_mem inside)
  have key : member.1 ∈ names.map str := same ▸ List.mem_map_of_mem inside
  obtain ⟨name, -, here⟩ := List.mem_map.mp key
  rw [← here]
  exact isPython_str name

theorem loaded_strings {texts : List Str} (all : ∀ t ∈ texts, IsPython t) :
    Loaded (.list (texts.map .string)) := by
  refine .list _ fun item member => ?_
  obtain ⟨t, inside, rfl⟩ := List.mem_map.mp member
  exact .string t (all t inside)

theorem MountStatus.Each.loaded {status : MountStatus} (each : status.Each (· < 0x110000)) :
    Loaded (.dict status.members) := by
  have filesystem : Loaded (.string status.filesystem) := .string _ each.filesystem
  cases failed : status.error with
  | none =>
    refine loaded_fields ["mounted", "state", "mountPoint", "tag", "filesystem"]
      (by simp [MountStatus.members, failed]) (by decide) ?_
    simp [MountStatus.members, failed, loaded_label, filesystem, Loaded.bool]
  | some message =>
    have message : Loaded (.string message) := .string _ (each.error message failed)
    refine loaded_fields ["mounted", "state", "mountPoint", "tag", "filesystem", "error"]
      (by simp [MountStatus.members, failed]) (by decide) ?_
    simp [MountStatus.members, failed, loaded_label, filesystem, message, Loaded.bool]

theorem failure_loaded (code : String) {message : Str} (python : IsPython message)
    {state : Option MountStatus} (states : ∀ status ∈ state, status.Each (· < 0x110000)) :
    Loaded (.dict (failure code message state)) := by
  have cut : Loaded (.string (message.take 512)) :=
    .string _ (Each.of_subset python (List.take_subset 512 _))
  cases present : state with
  | none =>
    refine loaded_fields ["type", "code", "message"] (by simp [failure]) (by decide) ?_
    simp [failure, loaded_label, cut]
  | some status =>
    have mount := (states status present).loaded
    refine loaded_fields ["type", "code", "message", "sharedMountStatus"] (by simp [failure])
      (by decide) ?_
    simp [failure, loaded_label, cut, mount]

theorem accepted_loaded (operation : Operation) : Loaded (.dict (accepted operation)) := by
  refine loaded_fields ["type", "operation"] (by simp [accepted]) (by decide) ?_
  simp [accepted, loaded_label]

variable {around : Surroundings} {response : List (Str × Value)}

theorem status_loaded (python : around.IsPython)
    (reported : status around.status = .ok response) : Loaded (.dict response) := by
  -- The values first, one fact for each; then the dict that lists them.
  obtain ⟨addresses, listed, reported⟩ := bind_ok_iff.mp reported
  obtain ⟨mount, mounted, reported⟩ := bind_ok_iff.mp reported
  have addressList := loaded_strings (ipAddresses_each python.each.addresses listed)
  have mountStatus := (sharedMountStatus_each toNat_lt python.each.mountInfo mounted).loaded
  have hostname : Loaded (.string around.status.hostname) := .string _ python.each.hostname
  have version : Loaded (.int protocolVersion) := .int _ (by decide)
  have released (key : String) :
      IsPython ((around.status.release.lookup (str key)).getD (str "unknown")) :=
    each_released toNat_lt python.each.release (str key)
  have optional {f : Session → Str} {default : Str} (sound : ∀ s, s.IsPython → IsPython (f s))
      (other : IsPython default) :
      Loaded (.string ((around.status.session.map f).getD default)) := by
    cases present : around.status.session with
    | none => exact .string _ other
    | some session => exact .string _ (sound session (python.session session present))
  have capabilities : Loaded (.list ((["gracefulShutdown", "gracefulReboot",
      "mountSharedDirectory"].map str ++
        (around.status.session.map Session.capabilities).getD []).map .string)) := by
    refine loaded_strings fun name member => ?_
    rcases List.mem_append.mp member with own | offered
    · obtain ⟨word, -, rfl⟩ := List.mem_map.mp own
      exact isPython_str word
    · cases present : around.status.session with
      | none =>
        rw [present] at offered
        cases offered
      | some session =>
        rw [present] at offered
        exact (python.session session present).capabilities name offered
  have distroID := optional (fun _ sound => sound.distroID) (released "ID")
  have distroVersion := optional (fun _ sound => sound.distroVersion) (released "VERSION_ID")
  have desktop := optional (fun _ sound => sound.desktopEnvironment) (isPython_str "other")
  have kind := optional (fun _ sound => sound.sessionType) (isPython_str "other")
  cases reported
  refine loaded_fields ["type", "protocolVersion", "agentVersion", "hostname", "operatingSystem",
    "distroID", "distroVersion", "ipAddresses", "desktopEnvironment", "sessionType", "capabilities",
    "sharedMountStatus"] rfl (by decide) ?_
  intro v member
  simp only [List.map_cons, List.map_nil, List.mem_cons, List.not_mem_nil, or_false] at member
  rcases member with rfl | rfl | rfl | rfl | rfl | rfl | rfl | rfl | rfl | rfl | rfl | rfl
  · exact loaded_label "status"
  · exact version
  · exact loaded_label agentVersion
  · exact hostname
  · exact loaded_label "Linux"
  · exact distroID
  · exact distroVersion
  · exact addressList
  · exact desktop
  · exact kind
  · exact capabilities
  · exact mountStatus

theorem dispatchPower_loaded (python : around.IsPython) {operation : Operation}
    (dispatched : dispatchPower around operation = .ok response) : Loaded (.dict response) := by
  obtain ⟨outcome, ended, dispatched⟩ := bind_ok_iff.mp dispatched
  cases outcome with
  | none =>
    cases dispatched
    exact accepted_loaded operation
  | some message =>
    cases dispatched
    exact failure_loaded _ (power_each toNat_lt python.each.power ended)
      fun _ absent => by cases absent

theorem dispatchMount_loaded (python : around.IsPython)
    (dispatched : dispatchMount around = .ok response) : Loaded (.dict response) := by
  obtain ⟨state, mounted, dispatched⟩ := bind_ok_iff.mp dispatched
  have each := mountSharedDirectory_each toNat_lt python.each mounted
  split at dispatched
  · cases dispatched
    refine failure_loaded _ ?_ fun status member => ?_
    · cases failed : state.error with
      | none => exact isPython_str _
      | some message => exact each.error message failed
    · cases member
      exact each
  · cases dispatched
    have mount := each.loaded
    refine loaded_fields ["type", "operation", "sharedMountStatus"] (by simp [accepted])
      (by decide) ?_
    simp [accepted, loaded_label, mount]

end Loaded

end SimpleVM.Agent
