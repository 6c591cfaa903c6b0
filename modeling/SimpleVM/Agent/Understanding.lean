import SimpleVM.Agent.Crossing
import SimpleVM.Agent.HostDecoding
import SimpleVM.Agent.Registration
import SimpleVM.Agent.Sources

/-!
# Responses are understood

The frame the daemon writes for a request of its own, one that needs no session helper, is decoded
on the host as the response it stands for. Everything the daemon puts into a response is text, as
long as what it reads is; so the frame is parsed, and each field is found and taken.
-/
namespace SimpleVM.Agent

open Effects Python Swift Text

section Textual

/-- Each line is text, as in a file that is UTF-8. -/
def MountInfo.Textual (info : MountInfo) : Prop := ∀ line ∈ info.lines, IsText line

/-- What a command leaves is decoded strictly, and a message of an exception is text. -/
def Completed.Textual : Completed → Prop
  | .exited _ stderr => IsText stderr
  | .undecodable => True
  | .failed message => IsText message

/-- Everything that is read as text is text. -/
structure Surroundings.Textual (around : Surroundings) : Prop where
  hostname : IsText around.status.hostname
  release : ∀ entry ∈ around.status.release, IsText entry.2
  addresses : ∀ addresses, around.status.lookup = .found addresses → ∀ a ∈ addresses, IsText a
  mountInfo : around.status.mountInfo.Textual
  power : around.power.Textual
  before : around.mount.before.Textual
  makedirs : ∀ message ∈ around.mount.makedirs, IsText message
  run : ∀ filesystem, (around.mount.run filesystem).Textual
  after : around.mount.after.Textual

structure MountStatus.Textual (status : MountStatus) : Prop where
  filesystem : IsText status.filesystem
  error : ∀ message ∈ status.error, IsText message

/-- The code points of text. -/
def IsCharacter (n : Nat) : Prop := ∃ c : Char, c.toNat = n

theorem isCharacter (c : Char) : IsCharacter c.toNat := ⟨c, rfl⟩

theorem Completed.Textual.each {completed : Completed} (text : completed.Textual) :
    completed.Each IsCharacter := by
  cases completed <;> exact text

theorem Surroundings.Textual.each {around : Surroundings} (text : around.Textual) :
    around.Each IsCharacter :=
  { hostname := text.hostname, release := text.release, addresses := text.addresses
    mountInfo := text.mountInfo, power := text.power.each, before := text.before
    makedirs := text.makedirs, run := fun filesystem => (text.run filesystem).each
    after := text.after }

theorem MountStatus.Each.textual {status : MountStatus} (each : status.Each IsCharacter) :
    status.Textual := ⟨each.filesystem, each.error⟩

end Textual

section Portable

theorem portable_string {levels : Nat} {s : Str} (text : IsText s) :
    Portable levels (.string s) := by
  cases levels <;> exact text

theorem portable_label (levels : Nat) (s : String) : Portable levels (.string (str s)) :=
  portable_string (isText_str s)

theorem portable_int (levels : Nat) {n : Int}
    (short : (Nat.toDigits 10 n.natAbs).length ≤ maxStrDigits) : Portable levels (.int n) := by
  cases levels <;> exact short

theorem portable_bool (levels : Nat) (b : Bool) : Portable levels (.bool b) := by
  cases levels <;> simp [Portable]

/-- The members of a dict, each under a name of the program. -/
def Named (levels : Nat) (members : List (Str × Value)) : Prop :=
  ∀ member ∈ members, (∃ key : String, member.1 = str key) ∧ Portable levels member.2

theorem Named.portable {levels : Nat} {members : List (Str × Value)} (named : Named levels members) :
    Portable (levels + 1) (.dict members) := by
  intro member inside
  obtain ⟨⟨key, same⟩, portable⟩ := named member inside
  rw [same]
  exact ⟨isText_str key, portable⟩

theorem named_nil (levels : Nat) : Named levels [] := fun _ member => by cases member

theorem Named.cons {levels : Nat} {members : List (Str × Value)} (key : String) {v : Value}
    (portable : Portable levels v) (named : Named levels members) :
    Named levels ((str key, v) :: members) := by
  intro member inside
  rcases List.mem_cons.mp inside with rfl | later
  · exact ⟨⟨key, rfl⟩, portable⟩
  · exact named member later

theorem Named.append {levels : Nat} {members more : List (Str × Value)}
    (first : Named levels members) (second : Named levels more) :
    Named levels (members ++ more) := by
  intro member inside
  rcases List.mem_append.mp inside with here | there
  · exact first member here
  · exact second member there

theorem MountStatus.Textual.named {status : MountStatus} (text : status.Textual) :
    Named 0 status.members := by
  have error : Named 0 (status.error.map fun message => (str "error", Value.string message)).toList := by
    cases failed : status.error with
    | none => exact named_nil 0
    | some message => exact (named_nil 0).cons "error" (portable_string (text.error message failed))
  refine Named.append ?_ error
  exact ((((named_nil 0).cons "filesystem" (portable_string text.filesystem)).cons "tag"
    (portable_label 0 mountTag)).cons "mountPoint" (portable_label 0 mountPoint)).cons "state"
    (portable_label 0 status.state.label) |>.cons "mounted" (portable_bool 0 status.mounted)

theorem failure_named (code : String) {message : Str} (text : IsText message)
    {state : Option MountStatus} (states : ∀ status ∈ state, status.Textual) :
    Named 1 (failure code message state) := by
  have cut : IsText (message.take 512) := Each.of_subset text (List.take_subset 512 _)
  have mount : Named 1 (state.map fun status =>
      (str "sharedMountStatus", Value.dict status.members)).toList := by
    cases present : state with
    | none => exact named_nil 1
    | some status =>
      exact (named_nil 1).cons "sharedMountStatus" (states status present).named.portable
  refine Named.append ?_ mount
  exact (((named_nil 1).cons "message" (portable_string cut)).cons "code"
    (portable_label 1 code)).cons "type" (portable_label 1 "failure")

theorem accepted_named (operation : Operation) : Named 1 (accepted operation) :=
  ((named_nil 1).cons "operation" (portable_label 1 operation.kind)).cons "type"
    (portable_label 1 "accepted")

end Portable

section Correspondence

/-- What the host calls a state of the guest's mount. -/
def MountState.onHost : MountState → GuestSharedMountState
  | .notMounted => .unmounted
  | .mounted => .mounted
  | .unavailable => .unavailable
  | .occupied | .error => .failed

/-- The status that the host holds is the one the daemon reported. -/
structure StatusCorresponds (response : List (Str × Value)) (status : GuestAgentStatus) : Prop where
  protocolVersion : get? response "protocolVersion" = some (.int status.protocolVersion.toInt)
  agentVersion : get? response "agentVersion" = some (.string (str status.agentVersion))
  hostname : get? response "hostname" = some (.string (str status.hostname))
  ipAddresses : get? response "ipAddresses" =
    some (.list (status.ipAddresses.map fun address => .string (str address)))
  operatingSystem : get? response "operatingSystem" = some (.string (str status.operatingSystem))
  distroID : get? response "distroID" = some (.string (str status.distroID))
  distroVersion : get? response "distroVersion" = some (.string (str status.distroVersion))
  desktopEnvironment : get? response "desktopEnvironment" =
    some (.string (str status.desktopEnvironment.rawValue))
  sessionType : get? response "sessionType" = some (.string (str status.sessionType.rawValue))
  /-- As sets: the host keeps no order. -/
  capabilities : ∃ names : List Str, get? response "capabilities" = some (.list (names.map .string)) ∧
    ∀ name, name ∈ names ↔ ∃ capability ∈ status.capabilities, name = str capability.rawValue
  sharedMountStatus : ∃ mount : MountStatus,
    get? response "sharedMountStatus" = some (.dict mount.members) ∧
    status.sharedMountStatus =
      { state := mount.state.onHost, tag := mountTag, mountPoint := mountPoint, message := none }

/-- The host's response is the daemon's. -/
inductive Corresponds (response : List (Str × Value)) : GuestAgentResponse → Prop
  | status (status : GuestAgentStatus) :
      get? response "type" = some (.string (str "status")) → StatusCorresponds response status →
      Corresponds response (.status status)
  | accepted : get? response "type" = some (.string (str "accepted")) →
      Corresponds response .accepted
  | failure (code message : String) : get? response "type" = some (.string (str "failure")) →
      get? response "code" = some (.string (str code)) →
      get? response "message" = some (.string (str message)) →
      Corresponds response (.failure ⟨code, message⟩)

end Correspondence

section Decoding

@[simp] theorem get?_nil (key : String) : get? [] key = none := rfl

@[simp] theorem get?_cons (name key : String) (v : Value) (members : List (Str × Value)) :
    get? ((str name, v) :: members) key = if key = name then some v else get? members key := by
  simp only [get?, List.lookup_cons, str_beq]
  split <;> simp_all

variable (floatRepr : FloatRepr)

/-- A dict of the guest, as the host's containers see it. -/
def hosted (members : List (Str × Value)) : List (String × JSON) :=
  members.map fun member => (hostString member.1, json floatRepr member.2)

theorem json_dict (members : List (Str × Value)) :
    json floatRepr (.dict members) = .object (hosted floatRepr members) := by
  rw [json, hosted]

/-- The keys of a dict are text. -/
def TextKeys (members : List (Str × Value)) : Prop := ∀ member ∈ members, IsText member.1

theorem Named.keys {levels : Nat} {members : List (Str × Value)} (named : Named levels members) :
    TextKeys members := by
  intro member inside
  obtain ⟨⟨name, same⟩, -⟩ := named member inside
  rw [same]
  exact isText_str name

theorem lookup_hosted {members : List (Str × Value)} (keys : TextKeys members) (key : String) :
    (hosted floatRepr members).lookup key = (get? members key).map (json floatRepr) := by
  induction members with
  | nil => rfl
  | cons member members ih =>
    have text := keys member List.mem_cons_self
    have rest := ih fun other inside => keys other (List.mem_cons_of_mem member inside)
    obtain ⟨k, v⟩ := member
    have same : k = str (hostString k) := (str_hostString text).symm
    rw [same]
    simp only [hosted, get?, List.map_cons, hostString_str, List.lookup_cons, str_beq] at rest ⊢
    split
    · rfl
    · exact rest

variable {members : List (Str × Value)}

theorem container_json :
    container (json floatRepr (.dict members)) = .ok (hosted floatRepr members) := by
  rw [json_dict]
  rfl

/-- A field that is there is decoded as its value is. -/
theorem decode_hosted {α : Type} (keys : TextKeys members) {key : String} {v : Value}
    (found : get? members key = some v) (value : JSON → Except DecodingError α) :
    decode (hosted floatRepr members) key value = value (json floatRepr v) := by
  rw [decode, lookup_hosted floatRepr keys, found]
  rfl

/-- A field that is there and can be decoded is decoded. -/
theorem decode_of_get? {α : Type} (keys : TextKeys members) {key : String} {v : Value}
    (found : get? members key = some v) {value : JSON → Except DecodingError α} {a : α}
    (decodes : value (json floatRepr v) = .ok a) :
    decode (hosted floatRepr members) key value = .ok a := by
  rw [decode_hosted floatRepr keys found, decodes]

theorem decodeIfPresent_hosted {α : Type} (keys : TextKeys members) {key : String} {v : Value}
    (found : get? members key = some v) (present : json floatRepr v ≠ .null)
    (value : JSON → Except DecodingError α) :
    decodeIfPresent (hosted floatRepr members) key value =
      (value (json floatRepr v)).map some := by
  rw [decodeIfPresent, lookup_hosted floatRepr keys, found, Option.map_some]
  split
  · next absent => cases absent
  · next null => exact absurd (Option.some.inj null) present
  · next w same =>
    cases same
    rfl

theorem decodeIfPresent_of_get? {α : Type} (keys : TextKeys members) {key : String} {v : Value}
    (found : get? members key = some v) {value : JSON → Except DecodingError α} {a : α}
    (present : json floatRepr v ≠ .null) (decodes : value (json floatRepr v) = .ok a) :
    decodeIfPresent (hosted floatRepr members) key value = .ok (some a) := by
  rw [decodeIfPresent_hosted floatRepr keys found present, decodes]
  rfl

theorem decodeIfPresent_of_none {α : Type} (keys : TextKeys members) {key : String}
    (missing : get? members key = none) (value : JSON → Except DecodingError α) :
    decodeIfPresent (hosted floatRepr members) key value = .ok none := by
  rw [decodeIfPresent, lookup_hosted floatRepr keys, missing]
  rfl

theorem contains_hosted (keys : TextKeys members) (key : String) :
    contains (hosted floatRepr members) key = (get? members key).isSome := by
  rw [contains, lookup_hosted floatRepr keys, Option.isSome_map]

variable {floatRepr}

theorem decodeString_json {s : Str} : decodeString (json floatRepr (.string s)) = .ok (hostString s) := by
  rw [json]
  rfl

theorem string_ne_null (s : Str) : json floatRepr (.string s) ≠ .null := by
  rw [json]
  exact fun same => by cases same

theorem decodeRawValue_json {α : Type} {ofRawValue : String → Option α} {name : String} {a : α}
    (known : ofRawValue name = some a) :
    decodeRawValue ofRawValue (json floatRepr (.string (str name))) = .ok a := by
  simp only [decodeRawValue, decodeString_json, hostString_str, known, bind, Except.bind]
  rfl

/-- A list is decoded element by element. -/
theorem decodeArray_json {α : Type} {element : JSON → Except DecodingError α} (items : List Str)
    (f : Str → α) (each : ∀ s ∈ items, element (json floatRepr (.string s)) = .ok (f s)) :
    decodeArray element (json floatRepr (.list (items.map .string))) = .ok (items.map f) := by
  have whole : ((items.map Value.string).map (json floatRepr)).mapM element = .ok (items.map f) := by
    induction items with
    | nil => rfl
    | cons s items ih =>
      have first := each s List.mem_cons_self
      have rest := ih fun other member => each other (List.mem_cons_of_mem s member)
      simp only [List.map_cons, List.mapM_cons, first, rest, bind, Except.bind]
      rfl
  rw [json]
  exact whole

/-- The version that both sides speak. -/
theorem decodeInt_protocolVersion (foundation : Foundation) :
    foundation.decodeInt (json floatRepr (.int protocolVersion)) = .ok 2 := by
  rw [json]
  have literal : wholeLiteral (toString protocolVersion).toList = some 2 := by decide +kernel
  simp only [Foundation.decodeInt, literal]
  rfl

theorem ofLabel_label (state : MountState) :
    GuestSharedMountState.ofLabel state.label = some state.onHost := by
  cases state <;> rfl

/-- The host drops what it has no field for: `mounted`, `filesystem` and `error`. -/
theorem decodeSharedMountStatus_json {mount : MountStatus} (text : mount.Textual) :
    decodeSharedMountStatus (json floatRepr (.dict mount.members)) =
      .ok { state := mount.state.onHost, tag := mountTag, mountPoint := mountPoint,
            message := none } := by
  have named := text.named
  have state := decode_of_get? floatRepr named.keys (show get? mount.members "state" =
      some (.string (str mount.state.label)) by simp [MountStatus.members])
    (decodeRawValue_json (ofLabel_label mount.state))
  have tag := decode_of_get? floatRepr named.keys (show get? mount.members "tag" =
      some (.string (str mountTag)) by simp [MountStatus.members]) decodeString_json
  have point := decode_of_get? floatRepr named.keys (show get? mount.members "mountPoint" =
      some (.string (str mountPoint)) by simp [MountStatus.members]) decodeString_json
  have missing : get? mount.members "message" = none := by
    cases failed : mount.error <;> simp [MountStatus.members, failed]
  have message := decodeIfPresent_of_none floatRepr named.keys missing decodeString
  rw [hostString_str] at tag point
  simp only [decodeSharedMountStatus, container_json, state, tag, point, message, bind, Except.bind]
  rfl

theorem desktop_of_name {name : String} (known : name ∈ ["gnome", "hyprland", "other"]) :
    ∃ desktop, GuestDesktopEnvironment.ofRawValue name = some desktop ∧ desktop.rawValue = name := by
  simp only [List.mem_cons, List.not_mem_nil, or_false] at known
  rcases known with rfl | rfl | rfl
  · exact ⟨.gnome, rfl, rfl⟩
  · exact ⟨.hyprland, rfl, rfl⟩
  · exact ⟨.other, rfl, rfl⟩

theorem sessionType_of_name {name : String} (known : name ∈ ["wayland", "x11", "other"]) :
    ∃ kind, GuestSessionType.ofRawValue name = some kind ∧ kind.rawValue = name := by
  simp only [List.mem_cons, List.not_mem_nil, or_false] at known
  rcases known with rfl | rfl | rfl
  · exact ⟨.wayland, rfl, rfl⟩
  · exact ⟨.x11, rfl, rfl⟩
  · exact ⟨.other, rfl, rfl⟩

/-- Every capability a daemon names is one the host knows. -/
theorem capability_of_name {name : String}
    (known : name ∈ ["gracefulShutdown", "gracefulReboot", "mountSharedDirectory"] ∨
      name ∈ sessionCapabilities) :
    ∃ capability : GuestAgentCapability, name = capability.rawValue := by
  simp only [sessionCapabilities, List.mem_cons, List.not_mem_nil, or_false] at known
  rcases known with (rfl | rfl | rfl) | rfl | rfl | rfl
  · exact ⟨.gracefulShutdown, rfl⟩
  · exact ⟨.gracefulReboot, rfl⟩
  · exact ⟨.mountSharedDirectory, rfl⟩
  · exact ⟨.clipboardRead, rfl⟩
  · exact ⟨.clipboardWrite, rfl⟩
  · exact ⟨.displayResize, rfl⟩

end Decoding

section Status

/-- The members of a status report. -/
def report (hostname distroID distroVersion : Str) (desktop kind : String)
    (addresses capabilities : List Str) (mount : MountStatus) : List (Str × Value) :=
  [(str "type", .string (str "status")),
    (str "protocolVersion", .int protocolVersion),
    (str "agentVersion", .string (str agentVersion)),
    (str "hostname", .string hostname),
    (str "operatingSystem", .string (str "Linux")),
    (str "distroID", .string distroID),
    (str "distroVersion", .string distroVersion),
    (str "ipAddresses", .list (addresses.map .string)),
    (str "desktopEnvironment", .string (str desktop)),
    (str "sessionType", .string (str kind)),
    (str "capabilities", .list (capabilities.map .string)),
    (str "sharedMountStatus", .dict mount.members)]

/-- A report in the shape above, of text and of names the host knows. -/
structure Reportable (hostname distroID distroVersion : Str) (desktop kind : String)
    (addresses capabilities : List Str) (mount : MountStatus) : Prop where
  hostname : IsText hostname
  distroID : IsText distroID
  distroVersion : IsText distroVersion
  desktop : desktop ∈ ["gnome", "hyprland", "other"]
  kind : kind ∈ ["wayland", "x11", "other"]
  addresses : ∀ address ∈ addresses, IsText address
  capabilities : ∀ name ∈ capabilities, ∃ capability : GuestAgentCapability,
    name = str capability.rawValue
  mount : mount.Textual

theorem status_reports {around : Surroundings} (text : around.Textual)
    (sessions : ∀ session ∈ around.status.session, session.Valid) {response : List (Str × Value)}
    (reported : status around.status = .ok response) :
    ∃ hostname distroID distroVersion desktop kind addresses capabilities mount,
      Reportable hostname distroID distroVersion desktop kind addresses capabilities mount ∧
      response = report hostname distroID distroVersion desktop kind addresses capabilities mount := by
  obtain ⟨addresses, listed, reported⟩ := bind_ok_iff.mp reported
  obtain ⟨mount, mounted, reported⟩ := bind_ok_iff.mp reported
  have addressText := ipAddresses_each text.each.addresses listed
  have mountText := (sharedMountStatus_each isCharacter text.each.mountInfo mounted).textual
  have fixed : ∀ name ∈ ["gracefulShutdown", "gracefulReboot", "mountSharedDirectory"].map str,
      ∃ capability : GuestAgentCapability, name = str capability.rawValue := by
    intro name member
    obtain ⟨own, inside, rfl⟩ := List.mem_map.mp member
    obtain ⟨capability, rfl⟩ := capability_of_name (.inl inside)
    exact ⟨capability, rfl⟩
  cases present : around.status.session with
  | none =>
    rw [present] at reported
    cases reported
    refine ⟨_, _, _, "other", "other", addresses, _, mount,
      ⟨text.hostname, each_released isCharacter text.release _, each_released isCharacter text.release _, by decide,
        by decide, addressText, ?_, mountText⟩, rfl⟩
    simpa using fixed
  | some session =>
    have valid := sessions session present
    obtain ⟨desktop, known, sameDesktop⟩ := valid.desktopEnvironment
    obtain ⟨kind, knownKind, sameKind⟩ := valid.sessionType
    rw [present] at reported
    cases reported
    refine ⟨around.status.hostname, session.distroID, session.distroVersion, desktop, kind,
      addresses,
      ["gracefulShutdown", "gracefulReboot", "mountSharedDirectory"].map str ++ session.capabilities,
      mount,
      ⟨text.hostname, valid.distroID, valid.distroVersion, known, knownKind, addressText, ?_,
        mountText⟩, ?_⟩
    · intro name member
      rcases List.mem_append.mp member with own | offered
      · exact fixed name own
      · obtain ⟨listed, inside, rfl⟩ := valid.capabilities name offered
        obtain ⟨capability, rfl⟩ := capability_of_name (.inr inside)
        exact ⟨capability, rfl⟩
    · simp [report, sameDesktop, sameKind]

variable {floatRepr : FloatRepr} {hostname distroID distroVersion : Str} {desktop kind : String}
  {addresses capabilities : List Str} {mount : MountStatus}

theorem Reportable.named
    (sound : Reportable hostname distroID distroVersion desktop kind addresses capabilities mount) :
    Named 1 (report hostname distroID distroVersion desktop kind addresses capabilities mount) := by
  have strings {items : List Str} (texts : ∀ item ∈ items, IsText item) :
      Portable 1 (.list (items.map .string)) := by
    intro item member
    obtain ⟨s, inside, rfl⟩ := List.mem_map.mp member
    exact portable_string (texts s inside)
  have names : ∀ name ∈ capabilities, IsText name := by
    intro name member
    obtain ⟨capability, rfl⟩ := sound.capabilities name member
    exact isText_str _
  apply Named.cons "type" (portable_label 1 "status")
  apply Named.cons "protocolVersion" (portable_int 1 (n := protocolVersion) (by decide))
  apply Named.cons "agentVersion" (portable_label 1 agentVersion)
  apply Named.cons "hostname" (portable_string sound.hostname)
  apply Named.cons "operatingSystem" (portable_label 1 "Linux")
  apply Named.cons "distroID" (portable_string sound.distroID)
  apply Named.cons "distroVersion" (portable_string sound.distroVersion)
  apply Named.cons "ipAddresses" (strings sound.addresses)
  apply Named.cons "desktopEnvironment" (portable_label 1 desktop)
  apply Named.cons "sessionType" (portable_label 1 kind)
  apply Named.cons "capabilities" (strings names)
  apply Named.cons "sharedMountStatus" sound.mount.named.portable
  exact named_nil 1

/-- The names of capabilities, as the capabilities they name. -/
theorem exists_capabilities
    (known : ∀ name ∈ capabilities, ∃ capability : GuestAgentCapability,
      name = str capability.rawValue) :
    ∃ named : List GuestAgentCapability, capabilities = named.map fun c => str c.rawValue := by
  induction capabilities with
  | nil => exact ⟨[], rfl⟩
  | cons name others ih =>
    obtain ⟨capability, rfl⟩ := known name List.mem_cons_self
    obtain ⟨named, rfl⟩ := ih fun other member => known other (List.mem_cons_of_mem _ member)
    exact ⟨capability :: named, rfl⟩

theorem decodeCapabilities_json (named : List GuestAgentCapability) :
    decodeArray (decodeRawValue GuestAgentCapability.ofRawValue)
      (json floatRepr (.list ((named.map fun c => str c.rawValue).map .string))) = .ok named := by
  have whole : (((named.map fun c => str c.rawValue).map Value.string).map (json floatRepr)).mapM
      (decodeRawValue GuestAgentCapability.ofRawValue) = .ok named := by
    induction named with
    | nil => rfl
    | cons capability named ih =>
      have first : decodeRawValue GuestAgentCapability.ofRawValue
          (json floatRepr (.string (str capability.rawValue))) = .ok capability :=
        decodeRawValue_json (ofRawValue_rawValue capability)
      simp only [List.map_cons, List.mapM_cons, first, ih, bind, Except.bind]
      rfl
  rw [json]
  exact whole

/-- The host decodes a report to the status it reports. -/
theorem decodeStatus_report (floatRepr : FloatRepr) (foundation : Foundation)
    (sound : Reportable hostname distroID distroVersion desktop kind addresses capabilities mount) :
    ∃ reported, decodeStatus foundation
        (json floatRepr (.dict (report hostname distroID distroVersion desktop kind addresses capabilities mount))) =
        .ok reported ∧
      StatusCorresponds
        (report hostname distroID distroVersion desktop kind addresses capabilities mount) reported := by
  obtain ⟨environment, desktopKnown, desktopName⟩ := desktop_of_name sound.desktop
  obtain ⟨session, kindKnown, kindName⟩ := sessionType_of_name sound.kind
  obtain ⟨offered, rfl⟩ := exists_capabilities sound.capabilities
  have named := sound.named
  have list_ne_null (items : List Value) : json floatRepr (.list items) ≠ .null := by
    rw [json]
    exact fun same => by cases same
  have dict_ne_null : json floatRepr (.dict mount.members) ≠ .null := by
    rw [json]
    exact fun same => by cases same
  have hosts {s : Str} (text : IsText s) : Value.string (str (hostString s)) = .string s := by
    rw [str_hostString text]
  obtain ⟨members, same⟩ : ∃ members, members = report hostname distroID distroVersion desktop kind
    addresses (offered.map fun c => str c.rawValue) mount := ⟨_, rfl⟩
  rw [← same] at named ⊢
  have fields : get? members "protocolVersion" = some (.int protocolVersion) ∧
      get? members "agentVersion" = some (.string (str agentVersion)) ∧
      get? members "hostname" = some (.string hostname) ∧
      get? members "ipAddresses" = some (.list (addresses.map .string)) ∧
      get? members "operatingSystem" = some (.string (str "Linux")) ∧
      get? members "distroID" = some (.string distroID) ∧
      get? members "distroVersion" = some (.string distroVersion) ∧
      get? members "desktopEnvironment" = some (.string (str desktop)) ∧
      get? members "sessionType" = some (.string (str kind)) ∧
      get? members "capabilities" =
        some (.list ((offered.map fun c => str c.rawValue).map .string)) ∧
      get? members "sharedMountStatus" = some (.dict mount.members) := by
    rw [same]
    simp [report]
  obtain ⟨versionField, agentField, hostField, addressField, systemField, idField, releaseField,
    desktopField, kindField, capabilityField, mountField⟩ := fields
  have version := decode_of_get? floatRepr named.keys versionField (decodeInt_protocolVersion foundation)
  have agent := decodeIfPresent_of_get? floatRepr named.keys agentField (string_ne_null _) decodeString_json
  have host := decode_of_get? floatRepr named.keys hostField decodeString_json
  have addressList := decodeIfPresent_of_get? floatRepr named.keys addressField (list_ne_null _)
    (decodeArray_json addresses hostString fun _ _ => decodeString_json)
  have system := decodeIfPresent_of_get? floatRepr named.keys systemField (string_ne_null _) decodeString_json
  have distro := decodeIfPresent_of_get? floatRepr named.keys idField (string_ne_null _) decodeString_json
  have release := decodeIfPresent_of_get? floatRepr named.keys releaseField (string_ne_null _) decodeString_json
  have desktopDecoded := decodeIfPresent_of_get? floatRepr named.keys desktopField (string_ne_null _)
    (decodeRawValue_json desktopKnown)
  have kindDecoded := decodeIfPresent_of_get? floatRepr named.keys kindField (string_ne_null _)
    (decodeRawValue_json kindKnown)
  have capabilityList := decodeIfPresent_of_get? floatRepr named.keys capabilityField (list_ne_null _)
    (decodeCapabilities_json offered)
  have mountDecoded := decodeIfPresent_of_get? floatRepr named.keys mountField dict_ne_null
    (decodeSharedMountStatus_json sound.mount)
  refine ⟨_, by
    simp only [decodeStatus, container_json, version, agent, host, addressList, system, distro,
      release, desktopDecoded, kindDecoded, capabilityList, mountDecoded, bind, Except.bind, pure,
      Except.pure]
    rfl, ?_⟩
  have addressesBack : (addresses.map hostString).map (fun address => Value.string (str address)) =
      addresses.map .string := by
    rw [List.map_map]
    apply List.map_congr_left
    intro address member
    exact hosts (sound.addresses address member)
  refine ⟨versionField, ?_, ?_, ?_, ?_, ?_, ?_, ?_, ?_, ?_, ⟨mount, mountField, rfl⟩⟩
  · simpa using agentField
  · simp only [hostField, hosts sound.hostname]
  · simp only [addressField, Option.getD_some, addressesBack]
  · simpa using systemField
  · simp only [idField, Option.getD_some, hosts sound.distroID]
  · simp only [releaseField, Option.getD_some, hosts sound.distroVersion]
  · simp only [desktopField, Option.getD_some, desktopName]
  · simp only [kindField, Option.getD_some, kindName]
  · refine ⟨_, capabilityField, fun name => ?_⟩
    simp only [Option.getD_some, List.mem_map, List.mem_eraseDups, eq_comm]

end Status

section Response

variable {floatRepr : FloatRepr}

/-- The responses that the daemon makes itself, with text in every string. -/
inductive Produced : List (Str × Value) → Prop
  | status {hostname distroID distroVersion : Str} {desktop kind : String}
      {addresses capabilities : List Str} {mount : MountStatus} :
      Reportable hostname distroID distroVersion desktop kind addresses capabilities mount →
      Produced (report hostname distroID distroVersion desktop kind addresses capabilities mount)
  | accepted (operation : Operation) (extra : List (Str × Value)) : Named 1 extra →
      Produced (accepted operation ++ extra)
  | failure (code : String) {message : Str} {state : Option MountStatus} : IsText message →
      (∀ status ∈ state, status.Textual) → Produced (failure code message state)

theorem Produced.named {response : List (Str × Value)} (produced : Produced response) :
    Named 1 response := by
  cases produced with
  | status sound => exact sound.named
  | accepted operation extra named => exact (accepted_named operation).append named
  | failure code text states => exact failure_named code text states

/-- The operations that the daemon carries out without the session helper. -/
def Operation.isOwn : Operation → Bool
  | .status | .shutdown | .reboot | .mountSharedDirectory => true
  | .readClipboard | .writeClipboard _ | .resizeDisplay _ _ => false

/-- Only a report names itself a status. -/
theorem accepted_type_ne (operation : Operation) (extra : List (Str × Value)) :
    get? (accepted operation ++ extra) "type" ≠ some (.string (str "status")) := by
  simp [accepted]

theorem failure_type_ne (code : String) (message : Str) (state : Option MountStatus) :
    get? (failure code message state) "type" ≠ some (.string (str "status")) := by
  simp [failure]

theorem dispatchPower_produces {around : Surroundings} (text : around.Textual)
    {operation : Operation} {response : List (Str × Value)}
    (dispatched : dispatchPower around operation = .ok response) :
    Produced response ∧ get? response "type" ≠ some (.string (str "status")) := by
  obtain ⟨outcome, ended, dispatched⟩ := bind_ok_iff.mp dispatched
  cases outcome with
  | none =>
    cases dispatched
    rw [← List.append_nil (accepted operation)]
    exact ⟨.accepted operation [] (named_nil 1), accepted_type_ne operation []⟩
  | some message =>
    cases dispatched
    have textual := power_each isCharacter text.each.power ended
    exact ⟨.failure _ textual (fun _ absent => by cases absent), failure_type_ne _ _ _⟩

theorem dispatchMount_produces {around : Surroundings} (text : around.Textual)
    {response : List (Str × Value)} (dispatched : dispatchMount around = .ok response) :
    Produced response ∧ get? response "type" ≠ some (.string (str "status")) := by
  obtain ⟨state, mounted, dispatched⟩ := bind_ok_iff.mp dispatched
  have stateText := (mountSharedDirectory_each isCharacter text.each mounted).textual
  split at dispatched
  · cases dispatched
    refine ⟨.failure _ ?_ ?_, failure_type_ne _ _ _⟩
    · cases failed : state.error with
      | none => exact isText_str _
      | some message => exact stateText.error message failed
    · intro status member
      cases member
      exact stateText
  · cases dispatched
    have named := (named_nil 1).cons "sharedMountStatus" stateText.named.portable
    exact ⟨.accepted _ _ named, accepted_type_ne _ _⟩

/-- What is dispatched to the daemon itself: a report for a status request, and no report for any
other. -/
theorem dispatch_produces {python : Interpreter} {around : Surroundings} (text : around.Textual)
    (sessions : ∀ session ∈ around.status.session, session.Valid) {operation : Operation}
    (own : operation.isOwn = true) {response : List (Str × Value)}
    (dispatched : dispatch python around operation = .ok response) :
    Produced response ∧
      (get? response "type" = some (.string (str "status")) ↔ operation = .status) := by
  have other {operation : Operation} (different : operation ≠ .status)
      (produced : Produced response ∧ get? response "type" ≠ some (.string (str "status"))) :
      Produced response ∧
        (get? response "type" = some (.string (str "status")) ↔ operation = .status) :=
    ⟨produced.1, iff_of_false produced.2 different⟩
  cases operation with
  | status =>
    obtain ⟨_, _, _, _, _, _, _, _, sound, rfl⟩ := status_reports text sessions dispatched
    exact ⟨.status sound, iff_of_true (by simp [report]) rfl⟩
  | shutdown => exact other (by decide) (dispatchPower_produces text dispatched)
  | reboot => exact other (by decide) (dispatchPower_produces text dispatched)
  | mountSharedDirectory => exact other (by decide) (dispatchMount_produces text dispatched)
  | readClipboard => cases own
  | writeClipboard text => cases own
  | resizeDisplay width height => cases own

theorem Corresponds.status_iff {response : List (Str × Value)} {decoded : GuestAgentResponse}
    (corresponds : Corresponds response decoded) :
    (∃ reported, decoded = .status reported) ↔
      get? response "type" = some (.string (str "status")) := by
  cases corresponds with
  | status reported typed => exact iff_of_true ⟨reported, rfl⟩ typed
  | accepted typed => simp [typed]
  | failure code message typed => simp [typed]

theorem decodeResponse_typed (foundation : Foundation) {response : List (Str × Value)}
    (keys : TextKeys response) {name : String}
    (typed : get? response "type" = some (.string (str name))) {type : ResponseType}
    (known : ResponseType.ofRawValue name = some type) :
    decodeResponse foundation (json floatRepr (.dict response)) =
      decodeTyped foundation (json floatRepr (.dict response)) (hosted floatRepr response) type := by
  have decoded := decodeIfPresent_of_get? floatRepr keys typed (string_ne_null _)
    (decodeRawValue_json known)
  simp only [decodeResponse, container_json, decoded, attempt, mapError_ok, bind, Except.bind]

/-- The host decodes such a response to the one it stands for. -/
theorem decodeResponse_produced (floatRepr : FloatRepr) (foundation : Foundation) {response : List (Str × Value)}
    (produced : Produced response) :
    ∃ decoded, decodeResponse foundation (json floatRepr (.dict response)) = .ok decoded ∧
      Corresponds response decoded := by
  have named := produced.named
  cases produced with
  | @status hostname distroID distroVersion desktop kind addresses capabilities mount sound =>
    obtain ⟨reported, decoded, corresponds⟩ := decodeStatus_report floatRepr foundation sound
    have typed : get? (report hostname distroID distroVersion desktop kind addresses capabilities
        mount) "type" = some (.string (str "status")) := by simp [report]
    have flat : contains (hosted floatRepr (report hostname distroID distroVersion desktop kind addresses
        capabilities mount)) "status" = false := by
      rw [contains_hosted floatRepr named.keys]
      simp [report]
    refine ⟨.status reported, ?_, .status reported typed corresponds⟩
    rw [decodeResponse_typed foundation named.keys typed
      (show ResponseType.ofRawValue "status" = some .status from rfl)]
    simp only [decodeTyped, flat, Bool.false_eq_true, if_false, decoded, attempt, bind, Except.bind,
      pure, Except.pure, mapError_ok]
  | accepted operation extra extraNamed =>
    have typed : get? (accepted operation ++ extra) "type" = some (.string (str "accepted")) := by
      simp [accepted]
    refine ⟨.accepted, ?_, .accepted typed⟩
    rw [decodeResponse_typed foundation named.keys typed
      (show ResponseType.ofRawValue "accepted" = some .accepted from rfl), decodeTyped]
  | @failure code message state text states =>
    have cut : IsText (message.take 512) := Each.of_subset text (List.take_subset 512 _)
    have fields : get? (failure code message state) "type" = some (.string (str "failure")) ∧
        get? (failure code message state) "code" = some (.string (str code)) ∧
        get? (failure code message state) "message" = some (.string (message.take 512)) := by
      simp [failure]
    obtain ⟨typed, coded, explained⟩ := fields
    have codeDecoded := decodeIfPresent_of_get? floatRepr named.keys coded (string_ne_null _) decodeString_json
    have messageDecoded := decode_of_get? floatRepr named.keys explained decodeString_json
    rw [hostString_str] at codeDecoded
    refine ⟨.failure ⟨code, hostString (message.take 512)⟩, ?_,
      .failure code _ typed coded (by rw [explained, str_hostString cut])⟩
    rw [decodeResponse_typed foundation named.keys typed
      (show ResponseType.ofRawValue "failure" = some .failure from rfl)]
    simp only [decodeTyped, decodeFailure, codeDecoded, messageDecoded, attempt, bind, Except.bind,
      pure, Except.pure, mapError_ok, Option.getD_some]

end Response

section Frame

variable {floatRepr : FloatRepr}

theorem decodeLegacy_legacy {kind : Str} {body : List (Str × Value)} {request : Request}
    (accepted : decodeLegacy kind body = .ok request) : request.legacy = true := by
  unfold decodeLegacy at accepted
  split at accepted
  · split at accepted
    · split at accepted
      · cases accepted
        rfl
      · cases accepted
    · cases accepted
  · split at accepted
    · cases accepted
    · split at accepted
      · cases accepted
        rfl
      · cases accepted

theorem validateRequestID_ok {v : Option Value} {id : Str} (valid : validateRequestID v = .ok id) :
    v = some (.string id) ∧ (encode? id).isSome = true := by
  unfold validateRequestID at valid
  split at valid
  · split at valid
    · cases valid
    · split at valid
      · cases valid
      · next bytes encoded =>
        split at valid
        · cases valid
        · cases valid
          exact ⟨rfl, by rw [encoded]; rfl⟩
  · cases valid

/-- A request of version 2 has an identifier, which is text. -/
theorem exists_requestID {python : Interpreter} {raw : List UInt8} {message : List (Str × Value)}
    {request : Request} (received : decodePayload python raw = .ok message)
    (accepted : decodeRequest message = .ok request) (current : request.legacy = false) :
    ∃ id : String, request.requestID = some (str id) := by
  unfold decodeRequest at accepted
  split at accepted
  · split at accepted
    · split at accepted
      · cases accepted
      · next id valid =>
        split at accepted
        · cases accepted
        · cases accepted
          obtain ⟨found, encodes⟩ := validateRequestID_ok valid
          have text := isText_member received found encodes
          exact ⟨hostString id, by rw [str_hostString text]⟩
    · cases accepted
  · split at accepted
    · have legacy := decodeLegacy_legacy accepted
      rw [current] at legacy
      cases legacy
    · cases accepted

/-- The message around a response of version 2. -/
def envelope (id : String) (response : List (Str × Value)) : List (Str × Value) :=
  [(str "protocolVersion", .int protocolVersion), (str "requestID", .string (str id)),
    (str "response", .dict response)]

theorem envelope_named (id : String) {response : List (Str × Value)} (named : Named 1 response) :
    Named 2 (envelope id response) := by
  apply Named.cons "protocolVersion" (portable_int 2 (n := protocolVersion) (by decide))
  apply Named.cons "requestID" (portable_label 2 id)
  apply Named.cons "response" named.portable
  exact named_nil 2

theorem envelope_keys (id : String) (response : List (Str × Value)) :
    TextKeys (envelope id response) := by
  intro member inside
  simp only [envelope, List.mem_cons, List.not_mem_nil, or_false] at inside
  rcases inside with rfl | rfl | rfl
  · exact isText_str "protocolVersion"
  · exact isText_str "requestID"
  · exact isText_str "response"

/-- Around whatever response it holds, an envelope is decoded to its identifier. -/
theorem decodeResponseEnvelope_envelope (foundation : Foundation) (id : String)
    (response : List (Str × Value)) :
    decodeResponseEnvelope foundation (json floatRepr (.dict (envelope id response))) =
      (decodeResponse foundation (json floatRepr (.dict response))).map fun decoded =>
        { protocolVersion := 2, requestID := some id, response := decoded } := by
  have keys := envelope_keys id response
  have fields : get? (envelope id response) "protocolVersion" = some (.int protocolVersion) ∧
      get? (envelope id response) "requestID" = some (.string (str id)) ∧
      get? (envelope id response) "response" = some (.dict response) := by
    simp [envelope]
  obtain ⟨versionField, idField, responseField⟩ := fields
  have version := decode_of_get? floatRepr keys versionField (decodeInt_protocolVersion foundation)
  have identified := decodeIfPresent_of_get? floatRepr keys idField (string_ne_null _)
    decodeString_json
  have wrapped : contains (hosted floatRepr (envelope id response)) "response" = true := by
    rw [contains_hosted floatRepr keys, responseField]
    rfl
  have inner : (hosted floatRepr (envelope id response)).lookup "response" =
      some (json floatRepr (.dict response)) := by
    rw [lookup_hosted floatRepr keys, responseField]
    rfl
  rw [hostString_str] at identified
  simp only [decodeResponseEnvelope, container_json, wrapped, if_true, version, identified, inner,
    attempt, mapError_ok, bind, Except.bind, pure, Except.pure]
  cases decodeResponse foundation (json floatRepr (.dict response)) <;> rfl

/-- A frame is decoded as the text in it is. -/
theorem decodeFrame_dumped {python : Interpreter} (foundation : Foundation) {v : Value} {t : Str}
    (dumped : dumps python.floatRepr python.encoderLimit v = .ok t) (text : IsText t)
    {frame : List UInt8} (written : encodeFrame python v = .ok frame)
    {envelope : GuestAgentResponseEnvelope} :
    decodeFrame foundation frame = .ok envelope ↔
      (attempt (foundation.parse (characters t)) >>= decodeResponseEnvelope foundation) =
        .ok envelope := by
  obtain ⟨again, payload, same, encoded, small, rfl⟩ := encodeFrame_ok written
  rw [dumped] at same
  cases same
  rw [encode?_of_isText text] at encoded
  cases encoded
  obtain ⟨enough, announced, size, back⟩ := frame_parts (utf8 (characters t)) small
  have fits : ¬ maximumPayloadSize < (utf8 (characters t)).length := Nat.not_lt.mpr small
  show decodeFrame foundation (packHeader (utf8 (characters t)).length ++ utf8 (characters t)) = _ ↔ _
  simp only [decodeFrame, if_neg enough, announced, if_neg fits, size, back, decodeJSON,
    decodeUTF8_utf8, ne_eq, not_true_eq_false, if_false]
  split
  · next decoded read => simp only [read, Except.ok.injEq]
  · next e read => simp [read]
  · next e read => simp [read]

/-- A frame around the dump of an envelope is decoded to what the envelope holds. -/
theorem decodeFrame_encodeFrame {python : Interpreter} (foundation : Foundation) (id : String)
    {response : List (Str × Value)} (named : Named 1 response) {decoded : GuestAgentResponse}
    (decodes : decodeResponse foundation (json python.floatRepr (.dict response)) = .ok decoded)
    {frame : List UInt8}
    (written : encodeFrame python (.dict (envelope id response)) = .ok frame) :
    decodeFrame foundation frame =
      .ok { protocolVersion := 2, requestID := some id, response := decoded } := by
  have encodes : 3 ≤ python.encoderLimit := Nat.le_trans (by decide) python.encodes
  have parses : 3 ≤ foundation.nesting := Nat.le_trans (by decide) foundation.parses
  obtain ⟨t, dumped, isText, yields⟩ := yields_dumps python.floatRepr 3 _
    (envelope_named id named).portable encodes parses
  rw [decodeFrame_dumped foundation dumped isText written, parse_of_yields foundation yields]
  show decodeResponseEnvelope foundation _ = _
  rw [decodeResponseEnvelope_envelope, decodes]
  rfl

/-- The frame that answers a request of version 2. -/
theorem answer_envelope {python : Interpreter} {around : Surroundings} {request : Request}
    (current : request.legacy = false) {id : String} (identified : request.requestID = some (str id))
    {frame : List UInt8} (answered : answer python around request = .ok frame) :
    ∃ response, dispatch python around request.operation = .ok response ∧
      encodeFrame python (.dict (envelope id response)) = .ok frame := by
  obtain ⟨response, dispatched, written⟩ := bind_ok_iff.mp answered
  obtain ⟨whole, encoded, written⟩ := bind_ok_iff.mp written
  have wrapped : responseMessage request response = .dict (envelope id response) := by
    simp [responseMessage, current, identified, envelope]
  rw [wrapped] at encoded
  split at written
  · cases written
    exact ⟨response, dispatched, encoded⟩
  · cases written

/-- The frame that the daemon writes for a request of its own, from whatever the session helper
registered and whatever files and commands gave it, is decoded on the host as the response it
stands for, under the identifier of the request; a request for the status, and no other, is answered
by one. -/
theorem responses_understood (python : Interpreter) (foundation : Foundation)
    (around : Surroundings) (text : around.Textual)
    (registration : ∀ session ∈ around.status.session, ∃ floatEquals uid raw,
      registered python floatEquals uid raw = some session)
    (raw : List UInt8) (message : List (Str × Value)) (request : Request)
    (received : decodePayload python raw = .ok message)
    (accepted : decodeRequest message = .ok request) (current : request.legacy = false)
    (own : request.operation.isOwn = true) (frame : List UInt8)
    (written : answer python around request = .ok frame) :
    ∃ id response decoded, request.requestID = some (str id) ∧
      dispatch python around request.operation = .ok response ∧
      decodeFrame foundation frame =
        .ok { protocolVersion := 2, requestID := some id, response := decoded } ∧
      Corresponds response decoded ∧
      ((∃ reported, decoded = .status reported) ↔ request.operation = .status) := by
  obtain ⟨id, identified⟩ := exists_requestID received accepted current
  have sessions : ∀ session ∈ around.status.session, session.Valid := by
    intro session present
    obtain ⟨floatEquals, uid, raw, accepted⟩ := registration session present
    exact registered_valid accepted
  obtain ⟨response, dispatched, encoded⟩ := answer_envelope current identified written
  obtain ⟨produced, asked⟩ := dispatch_produces text sessions own dispatched
  obtain ⟨decoded, decodes, corresponds⟩ := decodeResponse_produced python.floatRepr foundation produced
  exact ⟨id, response, decoded, identified, dispatched,
    decodeFrame_encodeFrame foundation id produced.named decodes encoded, corresponds,
    corresponds.status_iff.trans asked⟩

/-- A guest with no session, whose commands succeed. -/
def plainGuest : Surroundings :=
  { status := { session := none, hostname := str "arch", release := [(str "ID", str "arch")],
                lookup := .unknown, mountInfo := .ofText [] }
    power := .exited 0 []
    mount := { before := .ofText [], makedirs := none,
               run := fun _ => .exited 0 [], after := .ofText [] }
    helper := none
    takesWhole := true }

theorem plainGuest_textual : plainGuest.Textual := by
  have nothing : IsText [] := isText_str ""
  constructor
  · exact isText_str "arch"
  · intro entry member
    rw [List.mem_singleton.mp member]
    exact isText_str "arch"
  · exact fun _ found => by cases found
  · exact fun _ member => by cases member
  · exact nothing
  · exact fun _ member => by cases member
  · exact fun _ absent => by cases absent
  · exact fun _ => nothing
  · exact fun _ member => by cases member

/-- A guest with a desktop session and the share mounted. -/
def desktopGuest : Surroundings :=
  { plainGuest with
    status := {
      session := some desktopSession
      hostname := str "debian"
      release := []
      lookup := .found [str "192.168.64.2", str "127.0.0.1"]
      mountInfo := .ofText
        "30 22 0:40 / /mnt/simplevm-share rw - virtiofs share rw\n".toList } }

theorem desktopGuest_textual : desktopGuest.Textual := by
  have plain := plainGuest_textual
  refine { plain with hostname := isText_str "debian", release := ?_, addresses := ?_,
                      mountInfo := ?_ }
  · exact fun _ member => by cases member
  · intro addresses found address member
    cases found
    rcases List.mem_cons.mp member with rfl | later
    · exact isText_str "192.168.64.2"
    · rw [List.mem_singleton.mp later]
      exact isText_str "127.0.0.1"
  · have lines : desktopGuest.status.mountInfo.lines =
        [str "30 22 0:40 / /mnt/simplevm-share rw - virtiofs share rw\n"] := by decide +kernel
    intro line member
    rw [lines] at member
    rw [List.mem_singleton.mp member]
    exact isText_str "30 22 0:40 / /mnt/simplevm-share rw - virtiofs share rw\n"

/-- The report of the guest: its session's desktop and capability, and the share. -/
def desktopReport : List (Str × Value) :=
  report (str "debian") (str "debian") (str "12") "gnome" "wayland" [str "192.168.64.2"]
    (["gracefulShutdown", "gracefulReboot", "mountSharedDirectory", "clipboardRead"].map str)
    { mounted := true, filesystem := str "virtiofs", state := .mounted, error := none }

set_option maxRecDepth 8000 in
theorem responses_understood_status :
    dispatch cpython desktopGuest .status = .ok desktopReport ∧
    ∃ frame reported, answer cpython desktopGuest ⟨.status, false, some (str "1")⟩ = .ok frame ∧
      decodeFrame appleFoundation frame =
        .ok { protocolVersion := 2, requestID := some "1", response := .status reported } ∧
      StatusCorresponds desktopReport reported := by
  obtain ⟨text, asked⟩ : ∃ text, encodeEnvelope ⟨2, some "1", .status⟩ = .ok text := ⟨_, rfl⟩
  obtain ⟨body, inner⟩ : ∃ body, encodeRequest .status = .ok body := ⟨_, rfl⟩
  have valid : decodeRequest (values (envelopeMembers ⟨2, some "1", .status⟩)) =
      .ok ⟨.status, false, some (str "1")⟩ := by
    rw [decodeRequest_iff inner]
    decide +kernel
  have reports : dispatch cpython desktopGuest .status = .ok desktopReport := by
    have addresses : ipAddresses desktopGuest.status.lookup = .ok [str "192.168.64.2"] := by
      -- The loopback address is not reported.
      have reported : ((([str "192.168.64.2", str "127.0.0.1"].map withoutScope).filter
          isReported).eraseDups).mergeSort precedes = [str "192.168.64.2"] := by decide +kernel
      exact congrArg Except.ok reported
    have shared : desktopGuest.status.mountInfo.lines.findSome? mountedAt =
        some { mounted := true, filesystem := str "virtiofs", state := .mounted, error := none } := by
      decide +kernel
    have mount : sharedMountStatus desktopGuest.status.mountInfo =
        .ok { mounted := true, filesystem := str "virtiofs", state := .mounted, error := none } := by
      rw [sharedMountStatus, shared]
    show status desktopGuest.status = _
    rw [status, addresses, mount]
    rfl
  obtain ⟨frame, written⟩ : ∃ frame,
      answer cpython desktopGuest ⟨.status, false, some (str "1")⟩ = .ok frame := by
    rw [answer, reports]
    exact ⟨_, rfl⟩
  obtain ⟨id, response, decoded, identified, dispatched, understood, corresponds, typed⟩ :=
    responses_understood cpython appleFoundation desktopGuest desktopGuest_textual
      (fun session present => by
        cases present
        exact ⟨_, _, _, registered_desktop⟩) _ _ _ (decodePayload_envelope asked) valid rfl rfl frame
      written
  have same : id = "1" := by simpa [eq_comm] using identified
  subst same
  rw [reports] at dispatched
  cases dispatched
  -- The request is for the status, so that no other response can be decoded.
  obtain ⟨reported, rfl⟩ := typed.mpr rfl
  cases corresponds with
  | status _ _ fields => exact ⟨reports, frame, reported, written, understood, fields⟩

end Frame

end SimpleVM.Agent
