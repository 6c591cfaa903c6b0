import SimpleVM.Agent.Matching

/-!
# What a client can do to the accept loop

Whatever bytes a peer sends for a registration, the loop closes its connection or stores a session
that is well formed. Two exceptions get past it: the `TypeError` of a capability that cannot be put
into a set, and the `RecursionError` of a frame that nests too deep.
-/
namespace SimpleVM.Agent

open Effects Python Text Transition
open Swift (encodeArray)

variable {python : Interpreter} {floatEquals : List Char → Int → Bool}

section Registrations

variable {registration : List (Str × Value)} {uid : Int}

/-- A registration that validation follows to its capabilities. -/
structure Introduced (floatEquals : List Char → Int → Bool) (registration : List (Str × Value))
    (uid : Int) : Prop where
  fields : hasKeys registration registrationKeys = true
  type : get? registration "type" = some (.string (str "register"))
  user : ∃ v, get? registration "uid" = some v ∧ equalsInt floatEquals v uid = true
  desktopEnvironment : ∃ name ∈ ["gnome", "hyprland", "other"],
    get? registration "desktopEnvironment" = some (.string (str name))
  sessionType : ∃ name ∈ ["wayland", "x11", "other"],
    get? registration "sessionType" = some (.string (str name))

/-- The registration has the seven fields, for the peer's user and as the protocol allows them. -/
structure WellFormed (floatEquals : List Char → Int → Bool) (registration : List (Str × Value))
    (uid : Int) : Prop extends Introduced floatEquals registration uid where
  exactly : (registration.map Prod.fst).Perm (registrationKeys.map str)
  capabilities : ∃ names : List Str, get? registration "capabilities" =
      some (.list (names.map .string)) ∧ names.Nodup ∧
      ∀ capability ∈ names, ∃ name ∈ sessionCapabilities, capability = str name
  distro : ∀ key ∈ ["distroID", "distroVersion"], ∃ s bytes,
    get? registration key = some (.string s) ∧ encode? s = some bytes ∧ bytes.length ≤ 128

/-- One of the capabilities is a list or an object. -/
def Unhashable (registration : List (Str × Value)) : Prop :=
  ∃ items, get? registration "capabilities" = some (.list items) ∧
    ∃ item ∈ items, Value.isHashable item = false

theorem registering_iff {v : Option Value} :
    v.bind asString = some (str "register") ↔ v = some (.string (str "register")) := by
  rcases v with _ | v
  · simp
  · cases v <;> simp [asString]

theorem validateName_error {names : List String} {message : String} {v : Option Value}
    {refusal : Refusal} (refused : validateName names message v = .error refusal) :
    refusal = .invalid message := by
  unfold validateName at refused
  split at refused
  · split at refused
    · cases refused
    · cases refused
      rfl
  · cases refused
    rfl

theorem validateCapabilities_unhashable_iff {v : Option Value} :
    validateCapabilities v = .error .unhashable ↔
      ∃ items, v = some (.list items) ∧ ∃ item ∈ items, Value.isHashable item = false := by
  constructor
  · intro refused
    unfold validateCapabilities at refused
    split at refused
    · next items =>
      split at refused
      · split at refused
        · split at refused <;> cases refused
        · cases refused
      · next mixed =>
        rw [Bool.not_eq_true, List.all_eq_false] at mixed
        obtain ⟨item, member, unhashable⟩ := mixed
        exact ⟨items, rfl, item, member, (Bool.not_eq_true _).mp unhashable⟩
    · cases refused
  · rintro ⟨items, rfl, item, member, unhashable⟩
    have mixed : ¬ items.all Value.isHashable = true := by
      rw [List.all_eq_true]
      intro all
      rw [all item member] at unhashable
      cases unhashable
    simp only [validateCapabilities, if_neg mixed]

theorem validateDistro_error {v : Option Value} {refusal : Refusal}
    (refused : validateDistro v = .error refusal) : refusal ≠ .unhashable := by
  unfold validateDistro at refused
  split at refused
  · split at refused
    · cases refused
      intro same
      cases same
    · split at refused
      · cases refused
        intro same
        cases same
      · cases refused
  · cases refused
    intro same
    cases same

/-- What validation has seen when it comes to the capabilities. -/
theorem validateRegistration_eq (introduced : Introduced floatEquals registration uid) :
    ∃ desktopEnvironment sessionType, validateRegistration floatEquals registration uid = do
      let capabilities ← validateCapabilities (get? registration "capabilities")
      let distroID ← validateDistro (get? registration "distroID")
      let distroVersion ← validateDistro (get? registration "distroVersion")
      return { desktopEnvironment, sessionType, capabilities, distroID, distroVersion } := by
  obtain ⟨fields, type, ⟨v, found, equal⟩, ⟨desktop, desktops, named⟩, ⟨kind, kinds, typed⟩⟩ :=
    introduced
  refine ⟨str desktop, str kind, ?_⟩
  have first : ¬ (¬ hasKeys registration registrationKeys = true ∨
      ¬ (get? registration "type").bind asString = some (str "register")) := by
    simp [fields, registering_iff.mpr type]
  have second : ¬ ¬ (get? registration "uid").any (equalsInt floatEquals · uid) = true := by
    simp [found, equal]
  have environment : validateName ["gnome", "hyprland", "other"] "invalid desktop"
      (get? registration "desktopEnvironment") = .ok (str desktop) :=
    validateName_iff.mpr ⟨named, desktop, desktops, rfl⟩
  have session : validateName ["wayland", "x11", "other"] "invalid session type"
      (get? registration "sessionType") = .ok (str kind) :=
    validateName_iff.mpr ⟨typed, kind, kinds, rfl⟩
  rw [validateRegistration, if_neg first, if_neg second, environment, session]
  rfl

/-- Who is not introduced is refused before that. -/
theorem introduced_or_invalid (floatEquals : List Char → Int → Bool)
    (registration : List (Str × Value)) (uid : Int) :
    Introduced floatEquals registration uid ∨
      ∃ message, validateRegistration floatEquals registration uid = .error (.invalid message) := by
  unfold validateRegistration
  split
  · exact .inr ⟨_, rfl⟩
  · next fields =>
    rw [not_or, Classical.not_not, Classical.not_not] at fields
    split
    · exact .inr ⟨_, rfl⟩
    · next user =>
      rw [Classical.not_not, Option.any_eq_true] at user
      cases desktop : validateName ["gnome", "hyprland", "other"] "invalid desktop"
          (get? registration "desktopEnvironment") with
      | error refusal => exact .inr ⟨_, congrArg Except.error (validateName_error desktop)⟩
      | ok environment =>
        cases kind : validateName ["wayland", "x11", "other"] "invalid session type"
            (get? registration "sessionType") with
        | error refusal => exact .inr ⟨_, congrArg Except.error (validateName_error kind)⟩
        | ok session =>
          obtain ⟨named, desktopName, desktops, rfl⟩ := validateName_iff.mp desktop
          obtain ⟨typed, kindName, kinds, rfl⟩ := validateName_iff.mp kind
          exact .inl ⟨fields.1, registering_iff.mp fields.2, user, ⟨desktopName, desktops, named⟩,
            ⟨kindName, kinds, typed⟩⟩

theorem validateRegistration_unhashable_iff :
    validateRegistration floatEquals registration uid = .error .unhashable ↔
      Introduced floatEquals registration uid ∧ Unhashable registration := by
  constructor
  · intro refused
    rcases introduced_or_invalid floatEquals registration uid with introduced | ⟨message, other⟩
    · refine ⟨introduced, validateCapabilities_unhashable_iff.mp ?_⟩
      obtain ⟨desktopEnvironment, sessionType, same⟩ := validateRegistration_eq introduced
      rw [same] at refused
      rcases bind_error_iff.mp refused with here | ⟨capabilities, -, later⟩
      · exact here
      · rcases bind_error_iff.mp later with here | ⟨distroID, -, later⟩
        · exact absurd rfl (validateDistro_error here)
        · rcases bind_error_iff.mp later with here | ⟨distroVersion, -, impossible⟩
          · exact absurd rfl (validateDistro_error here)
          · cases impossible
    · rw [other] at refused
      cases refused
  · rintro ⟨introduced, unhashable⟩
    obtain ⟨desktopEnvironment, sessionType, same⟩ := validateRegistration_eq introduced
    rw [same, validateCapabilities_unhashable_iff.mpr unhashable]
    rfl

/-- `set(registration) == required`, of keys that are distinct. -/
theorem perm_of_hasKeys (fields : hasKeys registration registrationKeys = true)
    (distinct : (registration.map Prod.fst).Nodup) :
    (registration.map Prod.fst).Perm (registrationKeys.map str) := by
  have required : (registrationKeys.map str).Nodup := by decide
  rw [List.perm_ext_iff_of_nodup distinct required]
  simp only [hasKeys, Bool.and_eq_true, List.all_eq_true, List.contains_iff_mem] at fields
  intro key
  constructor
  · intro member
    obtain ⟨field, inside, rfl⟩ := List.mem_map.mp member
    exact fields.1 field inside
  · intro member
    obtain ⟨name, inside, rfl⟩ := List.mem_map.mp member
    exact fields.2 name inside

theorem wellFormed_of_valid {session : Session} (distinct : (registration.map Prod.fst).Nodup)
    (valid : validateRegistration floatEquals registration uid = .ok session) :
    WellFormed floatEquals registration uid := by
  rcases introduced_or_invalid floatEquals registration uid with introduced | ⟨message, other⟩
  · obtain ⟨desktopEnvironment, sessionType, same⟩ := validateRegistration_eq introduced
    rw [same] at valid
    obtain ⟨capabilities, allowed, valid⟩ := bind_ok_iff.mp valid
    obtain ⟨distroID, identified, valid⟩ := bind_ok_iff.mp valid
    obtain ⟨distroVersion, versioned, -⟩ := bind_ok_iff.mp valid
    obtain ⟨idFound, idBytes, idEncoded, idShort⟩ := validateDistro_iff.mp identified
    obtain ⟨versionFound, versionBytes, versionEncoded, versionShort⟩ :=
      validateDistro_iff.mp versioned
    refine ⟨introduced, perm_of_hasKeys introduced.fields distinct,
      ⟨capabilities, validateCapabilities_iff.mp allowed⟩, ?_⟩
    intro key member
    simp only [List.mem_cons, List.not_mem_nil, or_false] at member
    rcases member with rfl | rfl
    · exact ⟨distroID, idBytes, idFound, idEncoded, idShort⟩
    · exact ⟨distroVersion, versionBytes, versionFound, versionEncoded, versionShort⟩
  · rw [other] at valid
    cases valid

end Registrations

section Receptions

variable {peer : Peer}

/-- The peer is not root, and its registration raises what the loop does not catch. -/
def Fatal (python : Interpreter) (floatEquals : List Char → Int → Bool) (peer : Peer) : Prop :=
  ∃ uid, peer.uid = some uid ∧ uid ≠ 0 ∧
    ((∃ raw rest, readPayload peer.opening = (.ok raw, rest) ∧ Deep python raw) ∨
      ∃ registration rest, readFrame python peer.opening = (.ok registration, rest) ∧
        Introduced floatEquals registration uid ∧ Unhashable registration)

theorem decodePayload_recursion_iff {raw : List UInt8} :
    decodePayload python raw = .error .recursion ↔ Deep python raw := by
  rw [← uncaught_decodePayload]
  constructor
  · intro failed
    exact ⟨_, failed, rfl⟩
  · rintro ⟨e, failed, escapes⟩
    unfold decodePayload at failed ⊢
    split at failed
    · cases failed
      cases escapes
    · split at failed
      · rfl
      · cases failed
        cases escapes
      · cases failed
      · cases failed
        cases escapes

theorem closes_of_caught {e : PyError} (caught : e.caught = true) : e.closes = true := by
  cases e <;> first
    | rfl
    | cases caught

/-- Reading a frame raises a `RecursionError` exactly when its payload nests too deep. -/
theorem readFrame_escapes_iff (python : Interpreter) (stream : Stream) :
    (∃ e rest, readFrame python stream = (.error (.raised e), rest) ∧ e.closes = false) ↔
      ∃ raw rest, readPayload stream = (.ok raw, rest) ∧ Deep python raw := by
  rw [readFrame_run]
  cases payload : readPayload stream with
  | mk result left =>
    cases result with
    | error stop =>
      constructor
      · rintro ⟨e, rest, same, escapes⟩
        cases same
        rw [closes_of_caught (readPayload_caught payload)] at escapes
        cases escapes
      · rintro ⟨raw, rest, same, -⟩
        cases same
    -- Only the decoder of a whole payload raises what the loop does not catch.
    | ok raw =>
      constructor
      · rintro ⟨e, rest, same, escapes⟩
        refine ⟨raw, left, rfl, decodePayload_recursion_iff.mp ?_⟩
        cases decoded : decodePayload python raw with
        | ok members => simp [decoded, mapError_ok] at same
        | error d =>
          simp only [decoded, mapError_error, Prod.mk.injEq, Except.error.injEq,
            Stop.raised.injEq] at same
          rw [same.1]
          cases e <;> first
            | rfl
            | cases escapes
      · rintro ⟨other, rest, same, deep⟩
        cases same
        refine ⟨.recursion, left, ?_, rfl⟩
        simp only [decodePayload_recursion_iff.mpr deep, mapError_error]

theorem escaped_iff :
    receiveRegistration python floatEquals peer = .escaped ↔ Fatal python floatEquals peer := by
  unfold receiveRegistration Fatal
  cases known : peer.uid with
  | none => simp
  | some uid =>
    by_cases root : uid = 0
    · simp [root]
    · have escapes := readFrame_escapes_iff python peer.opening
      simp only [Option.some.injEq, exists_eq_left', ne_eq, root, not_false_eq_true,
        true_and, ← escapes]
      cases read : readFrame python peer.opening with
      | mk result rest =>
        cases result with
        | error stop =>
          cases stop with
          | waiting => simp
          | raised e => cases closes : e.closes <;> simp [closes]
        | ok registration =>
          have unhashable : validateRegistration floatEquals registration uid =
              .error .unhashable ↔ _ := validateRegistration_unhashable_iff
          cases validated : validateRegistration floatEquals registration uid with
          | ok session => cases settles : peer.settles <;> simp_all
          | error refusal => cases refusal <;> simp_all

/-- The keys of a frame are distinct. -/
theorem nodup_of_readFrame {stream rest : Stream} {members : List (Str × Value)}
    (read : readFrame python stream = (.ok members, rest)) : (members.map Prod.fst).Nodup := by
  obtain ⟨raw, -, decoded⟩ := readFrame_ok read
  obtain ⟨text, loaded⟩ := loads_of_decodePayload decoded
  cases loads_loaded loaded with
  | dict _ distinct _ _ => exact distinct

theorem wellFormed_of_accepted {registration : List (Str × Value)} {rest : Stream}
    (accepted : receiveRegistration python floatEquals peer = .accepted registration rest) :
    ∃ uid, peer.uid = some uid ∧ uid ≠ 0 ∧ WellFormed floatEquals registration uid := by
  have read := received_of_accepted accepted
  unfold receiveRegistration at accepted
  split at accepted
  · cases accepted
  · next uid known =>
    split at accepted
    · cases accepted
    · next user =>
      rw [read] at accepted
      dsimp only at accepted
      split at accepted
      · next session valid =>
        exact ⟨uid, known, user, wellFormed_of_valid (nodup_of_readFrame read) valid⟩
      · cases accepted
      · cases accepted
      · cases accepted

end Receptions

section Loop

variable {s t : Broker}

/-- The loop has not died nor left before `stop`, and the session is well formed. -/
structure Broker.Serves (floatEquals : List Char → Int → Bool) (s : Broker) : Prop where
  lives : s.loop ≠ .died
  stays : s.loop = .returned → s.stopped = true
  session : ∀ registration, s.session = some registration → ∃ link uid,
    s.connection = some link ∧ link.peer.uid = some uid ∧ uid ≠ 0 ∧
      WellFormed floatEquals registration uid

/-- `accept` fails only after `stop`, and no peer sends what the loop does not catch. -/
def Broker.Spared (python : Interpreter) (floatEquals : List Char → Int → Bool) (s : Broker) :
    BrokerEvent → Prop
  | .acceptFails => s.stopped = true
  | .register => ∀ peer, s.loop = .reading peer → ¬ Fatal python floatEquals peer
  | _ => True

/-- What no event but the loop's own changes, and whom the connection is to. -/
theorem Broker.step_keeps {event : BrokerEvent} (taken : s.step python floatEquals event = some t)
    (foreign : s.accepts python floatEquals event = none) :
    t.loop = s.loop ∧ (s.stopped = true → t.stopped = true) ∧
      (t.session = none ∨ t.session = s.session ∧
        t.connection.map Link.peer = s.connection.map Link.peer) := by
  cases event with
  | stop =>
    cases taken
    exact ⟨rfl, fun _ => rfl, .inr ⟨rfl, rfl⟩⟩
  | shutDown =>
    simp only [Broker.step] at taken
    split at taken
    · cases taken
      exact ⟨rfl, id, .inl rfl⟩
    · cases taken
  | call request written =>
    simp only [Broker.step] at taken
    split at taken
    · cases taken
      -- A call closes the connection when the frame cannot be sent, and leaves the loop alone.
      unfold Broker.call
      split
      · exact ⟨rfl, id, .inr ⟨rfl, rfl⟩⟩
      · next link connected =>
        have connected : s.connection = some link := connected
        split
        · split
          · exact ⟨rfl, id, .inl rfl⟩
          · exact ⟨rfl, id, .inr ⟨rfl, rfl⟩⟩
        · split
          · exact ⟨rfl, id, .inr ⟨rfl, by rw [connected]; rfl⟩⟩
          · exact ⟨rfl, id, .inl rfl⟩
    · cases taken
  | answer payload =>
    simp only [Broker.step] at taken
    split at taken
    · next link connected =>
      split at taken
      · cases taken
        exact ⟨rfl, id, .inr ⟨rfl, by rw [connected]; rfl⟩⟩
      · cases taken
    · cases taken
  | babble bytes =>
    obtain ⟨link, connected, rfl⟩ := Option.map_eq_some_iff.mp taken
    exact ⟨rfl, id, .inr ⟨rfl, by rw [connected]; rfl⟩⟩
  | read arrivals settles =>
    simp only [Broker.step] at taken
    split at taken
    · next asked link held connected =>
      split at taken
      · cases taken
        -- A reply is kept or the connection is closed; the peer stays the same either way.
        unfold Broker.read
        dsimp only
        split
        · split
          · exact ⟨rfl, id, .inr ⟨rfl, by rw [connected]; rfl⟩⟩
          · exact ⟨rfl, id, .inl rfl⟩
        · exact ⟨rfl, id, .inl rfl⟩
        · split
          · exact ⟨rfl, id, .inl rfl⟩
          · exact ⟨rfl, id, .inr ⟨rfl, by rw [connected]; rfl⟩⟩
      · cases taken
    · cases taken
  | _ => cases foreign.symm.trans taken

/-- The loop does not die nor leave early, and what it has validated it will store. -/
structure Broker.Guarded (floatEquals : List Char → Int → Bool) (s : Broker) : Prop
    extends s.Serves floatEquals where
  storing : ∀ link registration, s.loop = .storing link registration → ∃ uid,
    link.peer.uid = some uid ∧ uid ≠ 0 ∧ WellFormed floatEquals registration uid

theorem Broker.Guarded.loops (guarded : s.Guarded floatEquals) {loop : Loop} (lives : loop ≠ .died)
    (stays : loop = .returned → s.stopped = true)
    (storing : ∀ link registration, loop = .storing link registration → ∃ uid,
      link.peer.uid = some uid ∧ uid ≠ 0 ∧ WellFormed floatEquals registration uid) :
    ({ s with loop } : Broker).Guarded floatEquals :=
  ⟨⟨lives, stays, guarded.session⟩, storing⟩

theorem Broker.Guarded.accepts (guarded : s.Guarded floatEquals) {event : BrokerEvent}
    (spared : s.Spared python floatEquals event)
    (taken : s.accepts python floatEquals event = some t) : t.Guarded floatEquals := by
  cases event with
  | accept peer =>
    simp only [Broker.accepts] at taken
    split at taken
    · cases taken
      exact guarded.loops (by simp) (by simp) (by simp)
    · cases taken
  | acceptFails =>
    simp only [Broker.accepts] at taken
    split at taken
    · cases taken
      exact guarded.loops (by simp) (fun _ => spared) (by simp)
    · cases taken
  | leave =>
    simp only [Broker.accepts] at taken
    split at taken
    · next stopped =>
      cases taken
      exact guarded.loops (by simp) (fun _ => stopped) (by simp)
    · cases taken
  | register =>
    simp only [Broker.accepts] at taken
    split at taken
    · next peer reading =>
      split at taken
      · cases taken
        exact guarded.loops (by simp) (by simp) (by simp)
      -- The one way out of the loop: an exception that the registration is spared here.
      · next escaped => exact absurd (escaped_iff.mp escaped) (spared peer reading)
      · next registration rest accepted =>
        cases taken
        refine guarded.loops (by simp) (by simp) ?_
        rintro _ _ same
        cases same
        exact wellFormed_of_accepted accepted
    · cases taken
  | store =>
    simp only [Broker.accepts] at taken
    split at taken
    · next link registration storing free =>
      cases taken
      -- The stored registration was checked when it was received.
      obtain ⟨uid, known, user, formed⟩ := guarded.storing link registration storing
      refine ⟨⟨(by simp), (by simp), ?_⟩, (by simp)⟩
      rintro _ same
      cases same
      exact ⟨link, uid, rfl, known, user, formed⟩
    · cases taken
  | _ => cases taken

theorem Broker.Guarded.step (guarded : s.Guarded floatEquals) {event : BrokerEvent}
    (spared : s.Spared python floatEquals event)
    (taken : s.step python floatEquals event = some t) : t.Guarded floatEquals := by
  cases own : s.accepts python floatEquals event with
  | some u =>
    have same : s.step python floatEquals event = some u := by
      cases event <;> first
        | exact own
        | cases own
    rw [taken] at same
    cases same
    exact guarded.accepts spared own
  | none =>
    obtain ⟨loop, stopped, session⟩ := Broker.step_keeps taken own
    refine ⟨⟨by rw [loop]; exact guarded.lives, fun left => ?_, fun registration stored => ?_⟩, ?_⟩
    · rw [loop] at left
      exact stopped (guarded.stays left)
    · rcases session with gone | ⟨kept, peers⟩
      · rw [gone] at stored
        cases stored
      · rw [kept] at stored
        obtain ⟨link, uid, connected, known, user, formed⟩ := guarded.session registration stored
        rw [connected] at peers
        obtain ⟨other, connected, same⟩ := Option.map_eq_some_iff.mp peers
        exact ⟨other, uid, connected, same ▸ known, user, formed⟩
    · rw [loop]
      exact guarded.storing

/-- A step after which the loop runs as it should was spared. -/
theorem Broker.spared_of_serves {event : BrokerEvent}
    (taken : s.step python floatEquals event = some t) (serves : t.Serves floatEquals) :
    s.Spared python floatEquals event := by
  cases event with
  | acceptFails =>
    simp only [Broker.step, Broker.accepts] at taken
    split at taken
    · cases taken
      exact serves.stays rfl
    · cases taken
  | register =>
    intro peer reading fatal
    simp only [Broker.step, Broker.accepts, reading, escaped_iff.mpr fatal] at taken
    cases taken
    exact serves.lives rfl
  | _ => trivial

/-- The accept loop runs until `stop`, and stores only sessions that are well formed, if and only
if `accept` does not fail before and no peer but root sends what it does not catch. -/
theorem broker_serves_iff (python : Interpreter) (floatEquals : List Char → Int → Bool)
    (events : List BrokerEvent) :
    Always (Broker.step python floatEquals) (Broker.Serves floatEquals) {} events ↔
      Meets (Broker.step python floatEquals) (Broker.Spared python floatEquals) {} events := by
  apply always_iff_meets (I := Broker.Guarded floatEquals) (V := fun _ => True)
  · intro s event t guarded _ spared taken
    exact guarded.step spared taken
  · intro s guarded
    exact guarded.toServes
  · intro s event t _ _ taken serves
    exact Broker.spared_of_serves taken serves
  · exact ⟨⟨(by simp), (by simp), (by simp)⟩, (by simp)⟩
  · exact fun _ _ => trivial

set_option maxRecDepth 4000 in
theorem loads_listCapability :
    loads cpython.hookLevels cpython.decoderLimit (registrationText (encodeArray [encodeArray []])) =
      .ok (.dict (desktopRegistration (.list [.list []]))) := by
  rfl

/-- A registration whose one capability is an empty list ends the loop. -/
theorem list_capability_ends_loop :
    ¬ Always (Broker.step cpython fun _ _ => false) (Broker.Serves fun _ _ => false) {}
      [.accept (desktopPeer (encodeArray [encodeArray []])), .register] := by
  intro always
  have length : (utf8 (registrationText (encodeArray [encodeArray []]))).length = 144 := by rfl
  have read := readFrame_desktop loads_listCapability (by rw [length]; decide)
  have introduced : Introduced (fun _ _ => false) (desktopRegistration (.list [.list []])) 1000 := by
    refine ⟨hasKeys_desktopRegistration _, ?_, ⟨.int 1000, ?_, rfl⟩, ⟨"gnome", by simp, ?_⟩,
      ⟨"wayland", by simp, ?_⟩⟩ <;> simp [desktopRegistration, get?, List.lookup_cons]
  have unhashable : Unhashable (desktopRegistration (.list [.list []])) := by
    refine ⟨[.list []], ?_, .list [], by simp, rfl⟩
    simp [desktopRegistration, get?, List.lookup_cons]
  have fatal : Fatal cpython (fun _ _ => false) (desktopPeer (encodeArray [encodeArray []])) :=
    ⟨1000, rfl, by decide, .inr ⟨_, _, read, introduced, unhashable⟩⟩
  have escapes : Broker.step cpython (fun _ _ => false)
      { loop := .reading (desktopPeer (encodeArray [encodeArray []])) } .register =
      some { loop := .died } := by
    simp only [Broker.step, Broker.accepts, escaped_iff.mpr fatal]
  have serves := always.last (.next rfl (.next escapes (.done _)))
  exact serves.lives rfl

end Loop

end SimpleVM.Agent
