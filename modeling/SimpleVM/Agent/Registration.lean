import SimpleVM.Agent.Daemon
import SimpleVM.Agent.GuestText
import SimpleVM.Effects.Result
import SimpleVM.Python.CodePoints

/-!
# Session registrations

`SessionBroker._accept_loop` takes one frame from a peer that is not root and validates it. A
refusal closes the connection; a value that cannot be hashed raises a `TypeError` the loop does not
catch.
-/
namespace SimpleVM.Agent

open Effects Python Swift Text

inductive Refusal
  | invalid (message : String)
  /-- `UnicodeEncodeError` -/
  | unencodable
  /-- `TypeError` -/
  | unhashable
deriving DecidableEq, Repr

def registrationKeys : List String :=
  ["type", "uid", "desktopEnvironment", "sessionType", "capabilities", "distroID", "distroVersion"]

def sessionCapabilities : List String := ["clipboardRead", "clipboardWrite", "displayResize"]

/-- Whether a value equals an `int`; how a float compares is the interpreter's. -/
def equalsInt (floatEquals : List Char → Int → Bool) (v : Value) (n : Int) : Bool :=
  match v with
  | .int m => m = n
  | .bool b => (if b then 1 else 0) = n
  | .float literal => floatEquals literal n
  | _ => false

def Value.isHashable : Value → Bool
  | .list _ | .dict _ => false
  | _ => true

def asString : Value → Option Str
  | .string s => some s
  | _ => none

def invalid {α : Type} (message : String) : Except Refusal α := .error (.invalid message)

/-- A field that must be one of some names. -/
def validateName (names : List String) (message : String) : Option Value → Except Refusal Str
  | some (.string s) => if (names.map str).contains s then .ok s else invalid message
  | _ => invalid message

def validateCapabilities : Option Value → Except Refusal (List Str)
  | some (.list items) =>
    if items.all Value.isHashable then
      match items.mapM asString with
      | some names =>
        if names.Nodup ∧ names.all (sessionCapabilities.map str).contains then .ok names
        else invalid "invalid session capabilities"
      | none => invalid "invalid session capabilities"
    else .error .unhashable
  | _ => invalid "invalid session capabilities"

def validateDistro : Option Value → Except Refusal Str
  | some (.string s) =>
    match encode? s with
    | none => .error .unencodable
    | some bytes => if 128 < bytes.length then invalid "invalid distro data" else .ok s
  | _ => invalid "invalid distro data"

/-- `_validate_registration`, with what the broker then knows of the session. -/
def validateRegistration (floatEquals : List Char → Int → Bool)
    (registration : List (Str × Value)) (uid : Int) : Except Refusal Session := do
  if ¬ hasKeys registration registrationKeys ∨
      ¬ (get? registration "type").bind asString = some (str "register") then
    invalid "invalid session registration"
  else if ¬ ((get? registration "uid").any (equalsInt floatEquals · uid)) then
    invalid "registration UID does not match peer"
  else
    let desktopEnvironment ← validateName ["gnome", "hyprland", "other"] "invalid desktop"
      (get? registration "desktopEnvironment")
    let sessionType ← validateName ["wayland", "x11", "other"] "invalid session type"
      (get? registration "sessionType")
    let capabilities ← validateCapabilities (get? registration "capabilities")
    let distroID ← validateDistro (get? registration "distroID")
    let distroVersion ← validateDistro (get? registration "distroVersion")
    return { desktopEnvironment, sessionType, capabilities, distroID, distroVersion }

/-- The session that a peer registers with the payload of its first frame. -/
def registered (python : Interpreter) (floatEquals : List Char → Int → Bool) (uid : Int)
    (raw : List UInt8) : Option Session :=
  if uid = 0 then none
  else
    match decodePayload python raw with
    | .error _ => none
    | .ok registration => (validateRegistration floatEquals registration uid).toOption

section Validity

/-- A string of Python that can be encoded is text. -/
theorem isText_of_encode {s : Str} (python : IsPython s) (encodes : (encode? s).isSome = true) :
    IsText s := by
  have plain : s.any isSurrogate = false := by
    unfold encode? at encodes
    split at encodes
    · cases encodes
    · next plain => simpa using plain
  intro n member
  have small := python n member
  have single := List.any_eq_false.mp plain n member
  have valid : n.isValidChar := by
    simp only [isSurrogate, Bool.and_eq_true, decide_eq_true_eq] at single
    simp only [Nat.isValidChar]
    omega
  exact ⟨Char.ofNatAux n valid, rfl⟩

/-- What validation promises of a session. -/
structure Session.Valid (session : Session) : Prop where
  desktopEnvironment : ∃ name ∈ ["gnome", "hyprland", "other"], session.desktopEnvironment = str name
  sessionType : ∃ name ∈ ["wayland", "x11", "other"], session.sessionType = str name
  capabilities : ∀ capability ∈ session.capabilities, ∃ name ∈ sessionCapabilities,
    capability = str name
  distroID : IsText session.distroID
  distroVersion : IsText session.distroVersion

theorem validateName_iff {names : List String} {message : String} {v : Option Value} {s : Str} :
    validateName names message v = .ok s ↔ v = some (.string s) ∧ ∃ name ∈ names, s = str name := by
  constructor
  · intro accepted
    unfold validateName at accepted
    split at accepted
    · split at accepted
      · next listed =>
        cases accepted
        obtain ⟨name, member, same⟩ := List.mem_map.mp (List.contains_iff_mem.mp listed)
        exact ⟨rfl, name, member, same.symm⟩
      · cases accepted
    · cases accepted
  · rintro ⟨rfl, name, member, rfl⟩
    have listed : (names.map str).contains (str name) = true :=
      List.contains_iff_mem.mpr (List.mem_map_of_mem member)
    simp only [validateName, listed, if_true]

theorem mapM_asString_iff {items : List Value} {names : List Str} :
    items.mapM asString = some names ↔ items = names.map .string := by
  induction items generalizing names with
  | nil => cases names <;> simp
  | cons item items ih =>
    rw [List.mapM_cons]
    cases item with
    | string s =>
      cases rest : items.mapM asString with
      | none =>
        have other (names : List Str) : items ≠ names.map .string := fun same => by
          rw [ih.mpr same] at rest
          cases rest
        cases names <;> simp [asString, other]
      | some others =>
        obtain rfl := ih.mp rest
        cases names with
        | nil => simp [asString]
        | cons name names =>
          simp only [asString, Option.bind_eq_bind, Option.bind_some, Option.pure_def,
            Option.some.injEq, List.cons.injEq, List.map_cons, Value.string.injEq]
          rw [List.map_inj_right fun _ _ => Value.string.inj]
    | _ => cases names <;> simp [asString]

theorem validateCapabilities_iff {v : Option Value} {names : List Str} :
    validateCapabilities v = .ok names ↔ v = some (.list (names.map .string)) ∧ names.Nodup ∧
      ∀ capability ∈ names, ∃ name ∈ sessionCapabilities, capability = str name := by
  have listed (names : List Str) : names.all (sessionCapabilities.map str).contains = true ↔
      ∀ capability ∈ names, ∃ name ∈ sessionCapabilities, capability = str name := by
    have same (capability : Str) : (∃ name ∈ sessionCapabilities, str name = capability) ↔
        ∃ name ∈ sessionCapabilities, capability = str name := by
      simp only [eq_comm]
    simp only [List.all_eq_true, List.contains_iff_mem, List.mem_map, same]
  constructor
  · intro accepted
    unfold validateCapabilities at accepted
    -- One test after the other: a list, hashable, of strings, without repetition, all known.
    split at accepted
    · split at accepted
      · split at accepted
        · next strings =>
          split at accepted
          · next allowed =>
            cases accepted
            rw [mapM_asString_iff.mp strings]
            exact ⟨rfl, allowed.1, (listed _).mp allowed.2⟩
          · cases accepted
        · cases accepted
      · cases accepted
    · cases accepted
  · rintro ⟨rfl, distinct, allowed⟩
    have hashable : (names.map Value.string).all Value.isHashable = true := by
      simp [Value.isHashable]
    have strings := mapM_asString_iff.mpr (rfl : names.map Value.string = _)
    simp only [validateCapabilities, hashable, if_true, strings,
      if_pos (And.intro distinct ((listed names).mpr allowed))]

theorem validateDistro_iff {v : Option Value} {s : Str} :
    validateDistro v = .ok s ↔
      v = some (.string s) ∧ ∃ bytes, encode? s = some bytes ∧ bytes.length ≤ 128 := by
  constructor
  · intro accepted
    unfold validateDistro at accepted
    split at accepted
    · split at accepted
      · cases accepted
      · next bytes encoded =>
        split at accepted
        · cases accepted
        · next short =>
          cases accepted
          exact ⟨rfl, bytes, encoded, Nat.le_of_not_lt short⟩
    · cases accepted
  · rintro ⟨rfl, bytes, encoded, short⟩
    simp only [validateDistro, encoded, if_neg (Nat.not_lt.mpr short)]

/-- What the decoder found under a key is a member of the object. -/
theorem mem_of_get? {members : List (Str × Value)} {key : String} {v : Value}
    (found : get? members key = some v) : (str key, v) ∈ members := by
  induction members with
  | nil => cases found
  | cons member members ih =>
    obtain ⟨name, w⟩ := member
    simp only [get?, List.lookup_cons] at found
    split at found
    · next same =>
      cases found
      rw [beq_iff_eq.mp same]
      exact List.mem_cons_self
    · exact List.mem_cons_of_mem _ (ih found)

theorem loads_of_decodePayload {python : Interpreter} {raw : List UInt8}
    {members : List (Str × Value)} (decoded : decodePayload python raw = .ok members) :
    ∃ text, loads python.hookLevels python.decoderLimit text = .ok (.dict members) := by
  unfold decodePayload at decoded
  split at decoded
  · cases decoded
  · next text _ =>
    split at decoded
    · cases decoded
    · cases decoded
    · next loaded =>
      cases decoded
      exact ⟨text, loaded⟩
    · cases decoded

/-- A string under a key of a decoded payload is text once it can be encoded. -/
theorem isText_member {python : Interpreter} {raw : List UInt8} {members : List (Str × Value)}
    (decoded : decodePayload python raw = .ok members) {key : String} {s : Str}
    (found : get? members key = some (.string s)) (encodes : (encode? s).isSome = true) :
    IsText s := by
  obtain ⟨text, loaded⟩ := loads_of_decodePayload decoded
  exact isText_of_encode (member_isPython loaded (mem_of_get? found)) encodes

theorem registered_valid {python : Interpreter} {floatEquals : List Char → Int → Bool} {uid : Int}
    {raw : List UInt8} {session : Session}
    (accepted : registered python floatEquals uid raw = some session) : session.Valid := by
  unfold registered at accepted
  split at accepted
  · cases accepted
  · split at accepted
    · cases accepted
    · next registration decoded =>
      unfold validateRegistration at accepted
      split at accepted
      · cases accepted
      · split at accepted
        · cases accepted
        · simp only [toOption_eq_some, bind_ok_iff] at accepted
          obtain ⟨desktop, desktopNamed, kind, kindNamed, capabilities, allowed, distroID, id,
            distroVersion, version, same⟩ := accepted
          cases same
          obtain ⟨idFound, _, idText, -⟩ := validateDistro_iff.mp id
          obtain ⟨versionFound, _, versionText, -⟩ := validateDistro_iff.mp version
          exact ⟨(validateName_iff.mp desktopNamed).2, (validateName_iff.mp kindNamed).2,
            (validateCapabilities_iff.mp allowed).2.2,
            isText_member decoded idFound (by rw [idText]; rfl),
            isText_member decoded versionFound (by rw [versionText]; rfl)⟩

end Validity

section Desktop

/-- The registration of a desktop of the user 1000. -/
def registrationText (capabilities : List Char) : List Char :=
  encodeObject [("type", encodeString "register"), ("uid", encodeInt 1000),
    ("desktopEnvironment", encodeString "gnome"), ("sessionType", encodeString "wayland"),
    ("capabilities", capabilities), ("distroID", encodeString "debian"),
    ("distroVersion", encodeString "12")]

/-- `registrationText` in Python -/
def desktopRegistration (capabilities : Value) : List (Str × Value) :=
  [(str "type", .string (str "register")), (str "uid", .int 1000),
    (str "desktopEnvironment", .string (str "gnome")),
    (str "sessionType", .string (str "wayland")), (str "capabilities", capabilities),
    (str "distroID", .string (str "debian")), (str "distroVersion", .string (str "12"))]

/-- One capability, as text and in Python. -/
def readsClipboard : List Char := encodeArray [encodeString "clipboardRead"]

def clipboardRead : Value := .list [.string (str "clipboardRead")]

set_option maxRecDepth 4000 in
theorem loads_registrationText :
    loads cpython.hookLevels cpython.decoderLimit (registrationText readsClipboard) =
      .ok (.dict (desktopRegistration clipboardRead)) := by
  rfl

theorem hasKeys_desktopRegistration (capabilities : Value) :
    hasKeys (desktopRegistration capabilities) registrationKeys = true := by
  simp [hasKeys, registrationKeys, desktopRegistration]

theorem validateRegistration_desktop :
    validateRegistration (fun _ _ => false) (desktopRegistration clipboardRead) 1000 =
      .ok ⟨str "gnome", str "wayland", [str "clipboardRead"], str "debian", str "12"⟩ := by
  have distro : validateDistro (some (.string (str "debian"))) = .ok (str "debian") := rfl
  have version : validateDistro (some (.string (str "12"))) = .ok (str "12") := rfl
  rw [validateRegistration, hasKeys_desktopRegistration]
  simp [desktopRegistration, clipboardRead, get?, List.lookup_cons, equalsInt, asString, validateName,
    validateCapabilities, sessionCapabilities, Value.isHashable, bind, Except.bind, distro, version,
    pure, Except.pure]

/-- What the broker then knows of the session. -/
def desktopSession : Session :=
  { desktopEnvironment := str "gnome", sessionType := str "wayland"
    capabilities := [str "clipboardRead"], distroID := str "debian", distroVersion := str "12" }

theorem registered_desktop :
    registered cpython (fun _ _ => false) 1000 (utf8 (registrationText readsClipboard)) =
      some desktopSession := by
  have decoded : decodePayload cpython (utf8 (registrationText readsClipboard)) =
      .ok (desktopRegistration clipboardRead) := by
    simp only [decodePayload, decodeUTF8_utf8, loads_registrationText]
  rw [registered, if_neg (by decide), decoded]
  simp only [validateRegistration_desktop, Except.toOption]
  rfl

end Desktop

end SimpleVM.Agent
