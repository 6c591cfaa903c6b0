import SimpleVM.Agent.Crossing
import SimpleVM.Agent.Understanding
import SimpleVM.Effects.Result
import SimpleVM.Python.Loaded
import SimpleVM.Transition.Run

/-!
# What kills a serving thread

`serve_stream` catches `EOFError`, `OSError` and `ProtocolError`. Each function it calls is
followed to the exceptions it can raise beyond these, which gives the exact condition on frames
and surroundings under which a thread lives on.
-/
namespace SimpleVM.Agent

open Effects Failing Python Text Transition

section Uncaught

variable {α β : Type}

/-- The computation raises what `serve_stream` does not catch. -/
def Uncaught (result : Except PyError α) : Prop := ∃ e, result = .error e ∧ e.caught = false

theorem uncaught_ok (a : α) : ¬ Uncaught (.ok a : Except PyError α) := by
  rintro ⟨e, same, -⟩
  cases same

theorem uncaught_error {e : PyError} :
    Uncaught (.error e : Except PyError α) ↔ e.caught = false := by
  constructor
  · rintro ⟨d, same, escapes⟩
    cases same
    exact escapes
  · exact fun escapes => ⟨e, rfl, escapes⟩

theorem uncaught_bind {x : Except PyError α} {f : α → Except PyError β} :
    Uncaught (x >>= f) ↔ Uncaught x ∨ ∃ a, x = .ok a ∧ Uncaught (f a) := by
  cases x with
  | error e =>
    have same : (Except.error e >>= f) = .error e := rfl
    simp [same, uncaught_error]
  | ok a =>
    have same : (Except.ok a >>= f) = f a := rfl
    simp [same, uncaught_ok]

end Uncaught

section Requests

/-- A string with a lone surrogate, which an escape can name and UTF-8 cannot encode. -/
def Broken (s : Str) : Prop := s.any isSurrogate = true

theorem encode?_eq_none {s : Str} : encode? s = none ↔ Broken s := by
  unfold encode? Broken
  split <;> simp_all

/-- A payload on which the decoder exceeds its recursion limit. -/
def Deep (python : Interpreter) (raw : List UInt8) : Prop :=
  ∃ text, decodeUTF8 raw = some text ∧
    loads python.hookLevels python.decoderLimit text = .error .recursion

theorem uncaught_decodePayload {python : Interpreter} {raw : List UInt8} :
    Uncaught (decodePayload python raw) ↔ Deep python raw := by
  unfold decodePayload Deep
  cases decodeUTF8 raw with
  | none => simp [uncaught_error, PyError.caught]
  | some text =>
    cases loaded : loads python.hookLevels python.decoderLimit text with
    | error e => cases e <;> simp [loaded, uncaught_error, PyError.caught]
    | ok v => cases v <;> simp [loaded, uncaught_error, uncaught_ok, PyError.caught]

/-- A `writeClipboard` whose text is broken. -/
def BrokenText (v : Option Value) : Prop :=
  ∃ request text, v = some (.dict request) ∧
    get? request "type" = some (.string (str "writeClipboard")) ∧
    hasKeys request ["type", "text"] = true ∧ get? request "text" = some (.string text) ∧ Broken text

/-- A request of version 2 whose identifier is broken, or the text it has to write. -/
def BrokenRequest (message : List (Str × Value)) : Prop :=
  hasKeys message ["protocolVersion", "requestID", "request"] = true ∧
  get? message "protocolVersion" = some (.int 2) ∧
  ∃ id, get? message "requestID" = some (.string id) ∧ id ≠ [] ∧
    (Broken id ∨ (∃ bytes, encode? id = some bytes ∧ bytes.length ≤ 256) ∧
      BrokenText (get? message "request"))

theorem uncaught_validateWriteClipboard {request : List (Str × Value)} :
    Uncaught (validateWriteClipboard request) ↔
      hasKeys request ["type", "text"] = true ∧
        ∃ text, get? request "text" = some (.string text) ∧ Broken text := by
  unfold validateWriteClipboard
  split
  · next text keys found =>
    cases encoded : encode? text with
    | none => simp [keys, found, uncaught_error, PyError.caught, ← encode?_eq_none, encoded]
    | some bytes =>
      have plain : ¬ Broken text := by
        rw [← encode?_eq_none, encoded]
        exact fun absent => by cases absent
      dsimp only
      split <;> simp [found, plain, uncaught_error, uncaught_ok, PyError.caught]
  · next other =>
    simp only [uncaught_error, PyError.caught, Bool.true_eq_false, false_iff, not_and, not_exists]
    rintro keys text found -
    exact other text keys found

theorem not_uncaught_validateResizeDisplay {request : List (Str × Value)} :
    ¬ Uncaught (validateResizeDisplay request) := by
  unfold validateResizeDisplay
  split
  · split
    · split <;> simp [uncaught_error, uncaught_ok, PyError.caught]
    · simp [uncaught_error, PyError.caught]
  · simp [uncaught_error, PyError.caught]

theorem simpleOperation?_writeClipboard : simpleOperation? (str "writeClipboard") = none := by
  simp [simpleOperation?]

theorem uncaught_validateNewRequest {v : Option Value} :
    Uncaught (validateNewRequest (v.getD .null)) ↔ BrokenText v := by
  constructor
  · intro raised
    unfold validateNewRequest at raised
    split at raised
    · next request same =>
      have given : v = some (.dict request) := by
        cases v with
        | none => cases same
        | some w => exact congrArg some same
      split at raised
      · next kind typed =>
        split at raised
        · split at raised <;> simp [uncaught_error, uncaught_ok, PyError.caught] at raised
        · split at raised
          · next write =>
            obtain ⟨keys, text, found, broken⟩ := uncaught_validateWriteClipboard.mp raised
            exact ⟨request, text, given, write ▸ typed, keys, found, broken⟩
          · split at raised
            · exact absurd raised not_uncaught_validateResizeDisplay
            · simp [uncaught_error, PyError.caught] at raised
      · simp [uncaught_error, PyError.caught] at raised
    · simp [uncaught_error, PyError.caught] at raised
  · rintro ⟨request, text, rfl, typed, keys, found, broken⟩
    simp only [Option.getD_some, validateNewRequest, typed, simpleOperation?_writeClipboard, if_true]
    exact uncaught_validateWriteClipboard.mpr ⟨keys, text, found, broken⟩

theorem not_uncaught_decodeLegacy {kind : Str} {body : List (Str × Value)} :
    ¬ Uncaught (decodeLegacy kind body) := by
  unfold decodeLegacy
  split
  · split
    · split <;> simp [uncaught_error, uncaught_ok, PyError.caught]
    · simp [uncaught_error, PyError.caught]
  · split
    · simp [uncaught_error, PyError.caught]
    · split <;> simp [uncaught_error, uncaught_ok, PyError.caught]

theorem validateRequestID_cases (id : Str) (named : id ≠ []) :
    (Broken id ∧ validateRequestID (some (.string id)) = .error .unicodeEncode) ∨
    (¬ Broken id ∧ (∃ bytes, encode? id = some bytes ∧ bytes.length ≤ 256) ∧
      validateRequestID (some (.string id)) = .ok id) ∨
    (¬ Broken id ∧ (¬ ∃ bytes, encode? id = some bytes ∧ bytes.length ≤ 256) ∧
      validateRequestID (some (.string id)) = .error (.protocol "invalid requestID")) := by
  have filled : id.isEmpty = false := by
    cases id with
    | nil => exact absurd rfl named
    | cons n id => rfl
  cases encoded : encode? id with
  | none =>
    refine .inl ⟨encode?_eq_none.mp encoded, ?_⟩
    simp [validateRequestID, filled, encoded]
  | some bytes =>
    have plain : ¬ Broken id := by
      rw [← encode?_eq_none, encoded]
      exact fun absent => by cases absent
    by_cases long : 256 < bytes.length
    · refine .inr (.inr ⟨plain, ?_, by simp [validateRequestID, filled, encoded, long]⟩)
      rintro ⟨other, same, short⟩
      cases same
      omega
    · refine .inr (.inl ⟨plain, ⟨bytes, rfl, by omega⟩, ?_⟩)
      simp [validateRequestID, filled, encoded, long]

theorem uncaught_decodeRequest {message : List (Str × Value)} :
    Uncaught (decodeRequest message) ↔ BrokenRequest message := by
  unfold decodeRequest BrokenRequest
  split
  · next keys =>
    -- A request of version 2: an exception escapes from its identifier or from its text.
    split
    · next version =>
      simp only [keys, version, true_and]
      constructor
      · intro raised
        cases given : get? message "requestID" with
        | none => simp [given, validateRequestID, uncaught_error, PyError.caught] at raised
        | some v =>
          cases v with
          | string id =>
            rw [given] at raised
            by_cases named : id = []
            · subst named
              simp [validateRequestID, uncaught_error, PyError.caught] at raised
            · refine ⟨id, rfl, named, ?_⟩
              rcases validateRequestID_cases id named with ⟨broken, -⟩ | ⟨-, short, valid⟩ |
                ⟨-, -, invalid⟩
              · exact .inl broken
              · rw [valid] at raised
                refine .inr ⟨short, uncaught_validateNewRequest.mp ?_⟩
                dsimp only at raised
                split at raised
                · next e failed =>
                  obtain ⟨d, same, escapes⟩ := raised
                  cases same
                  exact ⟨e, failed, escapes⟩
                · exact absurd raised (uncaught_ok _)
              · rw [invalid] at raised
                simp [uncaught_error, PyError.caught] at raised
          | _ => simp [given, validateRequestID, uncaught_error, PyError.caught] at raised
      · rintro ⟨id, given, named, broken | ⟨short, text⟩⟩
        · rcases validateRequestID_cases id named with ⟨-, raised⟩ | ⟨plain, -⟩ | ⟨plain, -⟩
          · rw [given, raised]
            exact uncaught_error.mpr rfl
          · exact absurd broken plain
          · exact absurd broken plain
        · rcases validateRequestID_cases id named with ⟨-, raised⟩ | ⟨-, -, valid⟩ | ⟨-, long, -⟩
          · rw [given, raised]
            exact uncaught_error.mpr rfl
          · obtain ⟨e, failed, escapes⟩ := uncaught_validateNewRequest.mpr text
            rw [given, valid]
            dsimp only
            rw [failed]
            exact uncaught_error.mpr escapes
          · exact absurd short long
    · next other =>
      simp only [uncaught_error, PyError.caught, Bool.true_eq_false, false_iff]
      rintro ⟨-, version, -⟩
      exact other version
  -- No exception escapes from a legacy request, or from any other message.
  · next other =>
    refine iff_of_false ?_ fun broken => other broken.1
    split
    · exact not_uncaught_decodeLegacy
    · simp [uncaught_error, PyError.caught]

end Requests

section Privileged

/-- No line tells of the mount point, and the file ends in bytes that are not UTF-8. -/
def Unreadable (info : MountInfo) : Prop :=
  info.lines.findSome? mountedAt = none ∧ info.ends = .undecodable

theorem uncaught_sharedMountStatus {info : MountInfo} :
    Uncaught (sharedMountStatus info) ↔ Unreadable info := by
  unfold sharedMountStatus Unreadable
  cases info.lines.findSome? mountedAt with
  | some status => simp [uncaught_ok]
  | none => cases info.ends <;> simp [uncaught_ok, uncaught_error, PyError.caught]

theorem mounted_of_mountedAt {line : Str} {status : MountStatus}
    (found : mountedAt line = some status) : status.mounted = true := by
  unfold mountedAt at found
  split at found
  · cases found
  · dsimp only at found
    split at found
    · cases found
      rfl
    · cases found

/-- The status says whether a line tells of the mount point. -/
theorem mounted_iff {info : MountInfo} {status : MountStatus}
    (found : sharedMountStatus info = .ok status) :
    status.mounted = true ↔ info.lines.findSome? mountedAt ≠ none := by
  unfold sharedMountStatus at found
  cases listed : info.lines.findSome? mountedAt with
  | some mounted =>
    rw [listed] at found
    cases found
    obtain ⟨line, -, here⟩ := List.exists_of_findSome?_eq_some listed
    simp [mounted_of_mountedAt here]
  | none =>
    rw [listed] at found
    cases ends : info.ends <;> rw [ends] at found <;> cases found <;> simp

/-- The commands that try to mount, one file system after the other: the error output of one is
undecodable, or the status after them unreadable. -/
def DeadlyCommands (outcomes : MountOutcomes) : List String → Prop
  | [] => Unreadable outcomes.after
  | filesystem :: others =>
    outcomes.run filesystem = .undecodable ∨
    (∃ stderr, outcomes.run filesystem = .exited 0 stderr) ∧ Unreadable outcomes.after ∨
    (∃ returncode stderr, outcomes.run filesystem = .exited returncode stderr ∧ returncode ≠ 0) ∧
      DeadlyCommands outcomes others

/-- Mounting meets what it cannot decode. -/
def DeadlyMount (outcomes : MountOutcomes) : Prop :=
  Unreadable outcomes.before ∨
  outcomes.before.lines.findSome? mountedAt = none ∧ outcomes.makedirs = none ∧
    DeadlyCommands outcomes mountFilesystems

/-- The loop and what follows it. -/
theorem uncaught_tryMounts {outcomes : MountOutcomes} {filesystems : List String} :
    (Uncaught (tryMounts outcomes.run filesystems) ∨
      (∃ tried, tryMounts outcomes.run filesystems = .ok (.ok tried)) ∧
        Unreadable outcomes.after) ↔ DeadlyCommands outcomes filesystems := by
  induction filesystems with
  | nil => simp [tryMounts, DeadlyCommands, uncaught_ok]
  | cons filesystem others ih =>
    unfold tryMounts DeadlyCommands
    cases ran : outcomes.run filesystem with
    | failed message => simp [uncaught_ok]
    | undecodable => simp [uncaught_error, PyError.caught]
    | exited returncode stderr =>
      by_cases zero : returncode = 0
      · simp [zero, uncaught_ok]
      · simp only [if_neg zero, ← ih]
        cases tryMounts outcomes.run others with
        | error e => simp [zero]
        | ok outcome =>
          cases outcome with
          | error message => simp [zero, uncaught_ok]
          | ok tried => simp [zero, uncaught_ok]

/-- Reading the status either succeeds or is not caught. -/
theorem sharedMountStatus_cases (info : MountInfo) :
    Unreadable info ∨ ∃ status, sharedMountStatus info = .ok status := by
  rw [← uncaught_sharedMountStatus]
  unfold sharedMountStatus
  split
  · exact .inr ⟨_, rfl⟩
  · split
    · exact .inr ⟨_, rfl⟩
    · exact .inr ⟨_, rfl⟩
    · exact .inl (uncaught_error.mpr rfl)

theorem uncaught_mountSharedDirectory {outcomes : MountOutcomes} :
    Uncaught (mountSharedDirectory outcomes) ↔ DeadlyMount outcomes := by
  unfold mountSharedDirectory DeadlyMount
  rw [uncaught_bind, uncaught_sharedMountStatus]
  -- An undecodable table is fatal at once; otherwise the share must be unlisted for anything to be
  -- tried.
  rcases sharedMountStatus_cases outcomes.before with unreadable | ⟨before, read⟩
  · exact iff_of_true (.inl unreadable) (.inl unreadable)
  apply or_congr_right
  have unmounted : ¬ before.mounted = true ↔ outcomes.before.lines.findSome? mountedAt = none := by
    rw [mounted_iff read, ne_eq, Decidable.not_not]
  constructor
  · rintro ⟨same, again, raised⟩
    rw [read] at again
    cases again
    split at raised
    · split at raised <;> exact absurd raised (uncaught_ok _)
    · next free =>
      split at raised
      · exact absurd raised (uncaught_ok _)
      · next made =>
        refine ⟨unmounted.mp free, made, uncaught_tryMounts.mp ?_⟩
        rcases uncaught_bind.mp raised with loop | ⟨outcome, tried, raised⟩
        · exact .inl loop
        · split at raised
          · exact absurd raised (uncaught_ok _)
          · next errors =>
            refine .inr ⟨⟨_, tried⟩, ?_⟩
            rcases uncaught_bind.mp raised with unreadable | ⟨raced, -, raised⟩
            · exact uncaught_sharedMountStatus.mp unreadable
            · split at raised <;> exact absurd raised (uncaught_ok _)
          · next errors =>
            refine .inr ⟨⟨_, tried⟩, ?_⟩
            rcases uncaught_bind.mp raised with unreadable | ⟨after, -, raised⟩
            · exact uncaught_sharedMountStatus.mp unreadable
            · split at raised <;> exact absurd raised (uncaught_ok _)
  · rintro ⟨unlisted, made, deadly⟩
    refine ⟨before, read, ?_⟩
    rw [if_neg (unmounted.mpr unlisted), made]
    dsimp only
    apply uncaught_bind.mpr
    rcases uncaught_tryMounts.mpr deadly with loop | ⟨⟨tried, same⟩, unreadable⟩
    · exact .inl loop
    · refine .inr ⟨_, same, ?_⟩
      obtain ⟨mounted, errors⟩ := tried
      cases mounted <;> exact uncaught_bind.mpr (.inl (uncaught_sharedMountStatus.mpr unreadable))

theorem uncaught_power {completed : Completed} :
    Uncaught (power completed) ↔ completed = .undecodable := by
  unfold power
  cases completed with
  | failed message => simp [uncaught_ok]
  | undecodable => simp [uncaught_error, PyError.caught]
  | exited returncode stderr =>
    dsimp only
    split <;> simp [uncaught_ok]

/-- A status that meets a host name no codec takes, or a mount table it cannot decode. -/
def DeadlyStatus (outcomes : StatusOutcomes) : Prop :=
  outcomes.lookup = .unencodable ∨ outcomes.lookup ≠ .failed ∧ Unreadable outcomes.mountInfo

theorem uncaught_status {outcomes : StatusOutcomes} :
    Uncaught (status outcomes) ↔ DeadlyStatus outcomes := by
  unfold status DeadlyStatus
  dsimp only
  rw [uncaught_bind]
  cases found : outcomes.lookup with
  | unencodable => simp [ipAddresses, uncaught_error, PyError.caught]
  | failed => simp [ipAddresses, uncaught_error, PyError.caught]
  | _ =>
    simp only [ipAddresses, uncaught_ok, Except.ok.injEq, exists_eq_left', uncaught_bind,
      uncaught_sharedMountStatus, false_or, reduceCtorEq, ne_eq, not_false_eq_true, true_and,
      or_iff_left_iff_imp]
    rintro ⟨mount, -, raised⟩
    exact absurd raised (uncaught_ok _)

end Privileged

section Encoding

theorem NestsWithin.mono {levels limit : Nat} {v : Value} (nests : NestsWithin levels v)
    (deep : levels ≤ limit) : NestsWithin limit v := by
  induction levels generalizing v limit with
  | zero =>
    cases v with
    | list items => exact absurd nests (by simp [NestsWithin])
    | dict members => exact absurd nests (by simp [NestsWithin])
    | _ => simp [NestsWithin]
  | succ levels ih =>
    obtain ⟨limit, rfl⟩ := Nat.exists_eq_add_of_le' (Nat.le_trans (Nat.le_add_left 1 levels) deep)
    have deep := Nat.le_of_succ_le_succ deep
    cases v with
    | list items => exact fun item member => ih (nests item member) deep
    | dict members => exact fun member inside => ih (nests member inside) deep
    | _ => simp [NestsWithin]

/-- The encoder exceeds the recursion limit. -/
def Recurses (python : Interpreter) (v : Value) : Prop :=
  dumps python.floatRepr python.encoderLimit v = .error .recursion

theorem uncaught_encodeFrame {python : Interpreter} {v : Value} :
    Uncaught (encodeFrame python v) ↔ Recurses python v := by
  unfold encodeFrame Recurses
  cases dumps python.floatRepr python.encoderLimit v with
  | error e => cases e <;> simp [uncaught_error, PyError.caught]
  | ok text =>
    dsimp only
    split
    · simp [uncaught_error, PyError.caught]
    · split <;> simp [uncaught_error, uncaught_ok, PyError.caught]

/-- The members nest one level at most. -/
def Shallow (members : List (Str × Value)) : Prop := ∀ member ∈ members, NestsWithin 1 member.2

/-- The reply of the helper was decoded, so no integer in it is too long to be written again. -/
theorem shortInts_of_decoded {python : Interpreter} {raw : List UInt8}
    {reply : List (Str × Value)} (decoded : decodePayload python raw = .ok reply) :
    ShortInts (.dict reply) := by
  obtain ⟨text, loaded⟩ := loads_of_decodePayload decoded
  exact (loads_loaded loaded).shortInts

theorem shortInts_responseMessage (request : Request) {response : List (Str × Value)}
    (short : ShortInts (.dict response)) : ShortInts (responseMessage request response) := by
  cases short with
  | dict _ each =>
    unfold responseMessage
    split
    · split
      · refine .dict _ fun member inside => ?_
        rw [List.mem_singleton.mp inside]
        exact .dict _ fun other here => each other (List.mem_filter.mp here).1
      · exact .null
    · refine .dict _ fun member inside => ?_
      simp only [List.mem_cons, List.not_mem_nil, or_false] at inside
      rcases inside with rfl | rfl | rfl
      · exact .int _ (by decide)
      · cases request.requestID with
        | none => exact .null
        | some id => exact .string id
      · exact .dict response each

/-- A shallow response stays so when it is wrapped up, in either version. -/
theorem nestsWithin_responseMessage {python : Interpreter} (request : Request)
    {response : List (Str × Value)} (shallow : Shallow response) :
    NestsWithin python.encoderLimit (responseMessage request response) := by
  have nested (members : List (Str × Value)) (inside : ∀ member ∈ members, member ∈ response) :
      NestsWithin 2 (.dict members) := fun member here => shallow member (inside member here)
  refine NestsWithin.mono ?_ (Nat.le_trans (by decide : 3 ≤ 4) python.encodes)
  unfold responseMessage
  split
  · split
    · intro member inside
      rw [List.mem_singleton.mp inside]
      exact nested _ fun _ here => (List.mem_filter.mp here).1
    · simp [NestsWithin]
  · intro member inside
    simp only [List.mem_cons, List.not_mem_nil, or_false] at inside
    rcases inside with rfl | rfl | rfl
    · simp [NestsWithin]
    · cases request.requestID <;> simp [NestsWithin]
    · exact nested response fun _ here => here

theorem nestsWithin_members (status : MountStatus) : NestsWithin 1 (.dict status.members) := by
  intro member inside
  rcases List.mem_append.mp inside with fixed | error
  · simp only [List.mem_cons, List.not_mem_nil, or_false] at fixed
    rcases fixed with rfl | rfl | rfl | rfl | rfl <;> simp [NestsWithin]
  · cases failed : status.error with
    | none => simp [failed] at error
    | some message =>
      simp only [failed, Option.map_some, Option.toList_some, List.mem_singleton] at error
      subst error
      simp [NestsWithin]

theorem shallow_failure (code : String) (message : Str) (state : Option MountStatus) :
    Shallow (failure code message state) := by
  intro member inside
  rcases List.mem_append.mp inside with fixed | mount
  · simp only [List.mem_cons, List.not_mem_nil, or_false] at fixed
    rcases fixed with rfl | rfl | rfl <;> simp [NestsWithin]
  · cases present : state with
    | none => simp [present] at mount
    | some status =>
      simp only [present, Option.map_some, Option.toList_some, List.mem_singleton] at mount
      subst mount
      exact nestsWithin_members status

theorem shallow_accepted (operation : Operation) : Shallow (accepted operation) := by
  intro member inside
  simp only [accepted, List.mem_cons, List.not_mem_nil, or_false] at inside
  rcases inside with rfl | rfl <;> simp [NestsWithin]

theorem shallow_status {outcomes : StatusOutcomes} {response : List (Str × Value)}
    (reported : status outcomes = .ok response) : Shallow response := by
  obtain ⟨addresses, -, reported⟩ := bind_ok_iff.mp reported
  obtain ⟨mount, -, reported⟩ := bind_ok_iff.mp reported
  cases reported
  have strings (items : List Str) : NestsWithin 1 (.list (items.map .string)) := by
    intro item member
    obtain ⟨s, -, rfl⟩ := List.mem_map.mp member
    simp [NestsWithin]
  intro member inside
  simp only [List.mem_cons, List.not_mem_nil, or_false] at inside
  rcases inside with rfl | rfl | rfl | rfl | rfl | rfl | rfl | rfl | rfl | rfl | rfl | rfl
  case inr.inr.inr.inr.inr.inr.inr.inl => exact strings addresses
  case inr.inr.inr.inr.inr.inr.inr.inr.inr.inr.inl => exact strings _
  case inr.inr.inr.inr.inr.inr.inr.inr.inr.inr.inr => exact nestsWithin_members mount
  all_goals simp [NestsWithin]

theorem shallow_dispatchPower {around : Surroundings} {operation : Operation}
    {response : List (Str × Value)} (dispatched : dispatchPower around operation = .ok response) :
    Shallow response := by
  obtain ⟨outcome, -, dispatched⟩ := bind_ok_iff.mp dispatched
  cases outcome with
  | none =>
    cases dispatched
    exact shallow_accepted operation
  | some message =>
    cases dispatched
    exact shallow_failure _ _ _

theorem shallow_dispatchMount {around : Surroundings} {response : List (Str × Value)}
    (dispatched : dispatchMount around = .ok response) : Shallow response := by
  obtain ⟨state, -, dispatched⟩ := bind_ok_iff.mp dispatched
  split at dispatched
  · cases dispatched
    exact shallow_failure _ _ _
  · cases dispatched
    intro member inside
    rcases List.mem_append.mp inside with fixed | mount
    · exact shallow_accepted _ member fixed
    · rw [List.mem_singleton.mp mount]
      exact nestsWithin_members state

end Encoding

section Session

/-- The helper takes the payload of the operation and answers with this one. -/
def Replies (python : Interpreter) (around : Surroundings) (operation : Operation)
    (raw : List UInt8) : Prop :=
  ∃ helper frame rest, around.helper = some helper ∧
    encodeFrame python (.dict (sessionPayload operation)) = .ok frame ∧ helper.sends = true ∧
    readPayload helper.replies = (.ok raw, rest)

/-- A clipboard reply whose text is broken. -/
def BrokenClipboard (reply : List (Str × Value)) : Prop :=
  get? reply "type" = some (.string (str "clipboard")) ∧
    ∃ text, get? reply "text" = some (.string text) ∧ Broken text

/-- A reply that the daemon passes on as it is. -/
def Relayed (reply : List (Str × Value)) : Prop :=
  (get? reply "type" = some (.string (str "clipboard")) ∧ ∃ text bytes,
    get? reply "text" = some (.string text) ∧ encode? text = some bytes ∧
      bytes.length ≤ maxClipboardSize) ∨
  get? reply "type" = some (.string (str "accepted")) ∨
  get? reply "type" = some (.string (str "failure"))

/-- A reply that nests too deep, for the decoder or, passed on, for the encoder, or that is
broken. -/
def DeadlySession (python : Interpreter) (around : Surroundings) (request : Request) : Prop :=
  ∃ raw, Replies python around request.operation raw ∧
    (Deep python raw ∨ ∃ reply, decodePayload python raw = .ok reply ∧
      (BrokenClipboard reply ∨
        Relayed reply ∧ ¬ NestsWithin python.encoderLimit (responseMessage request reply)))

theorem uncaught_relay {reply : List (Str × Value)} :
    Uncaught (relay reply) ↔ BrokenClipboard reply := by
  unfold relay BrokenClipboard
  dsimp only
  split
  · next kind text typed found =>
    by_cases clipboard : kind = str "clipboard"
    · subst clipboard
      cases encoded : encode? text with
      | none =>
        have broken := encode?_eq_none.mp encoded
        simp [typed, found, broken, uncaught_error, PyError.caught]
      | some bytes =>
        have plain : ¬ Broken text := by
          rw [← encode?_eq_none, encoded]
          exact fun absent => by cases absent
        simp only [if_true, typed, found, Option.some.injEq, Value.string.injEq, exists_eq_left',
          plain, and_false, iff_false]
        exact uncaught_ok _
    · simp only [typed, Option.some.injEq, Value.string.injEq, clipboard, false_and, iff_false]
      exact uncaught_ok _
  · next other =>
    refine iff_of_false (uncaught_ok _) ?_
    rintro ⟨typed, text, found, -⟩
    exact other _ text typed found

theorem relay_error {reply : List (Str × Value)} {e : PyError} (failed : relay reply = .error e) :
    e.caught = false := by
  unfold relay at failed
  dsimp only at failed
  split at failed
  · split at failed
    · split at failed
      · cases failed
        rfl
      · cases failed
    · cases failed
  · cases failed

theorem not_relayed {reply : List (Str × Value)}
    (untyped : ∀ kind, get? reply "type" ≠ some (.string kind)) : ¬ Relayed reply := by
  rintro (⟨clipboard, -⟩ | accepted | failed)
  · exact untyped _ clipboard
  · exact untyped _ accepted
  · exact untyped _ failed

/-- What the daemon makes of a reply is the reply itself or a failure of its own. -/
theorem relay_ok {reply response : List (Str × Value)} (relayed : relay reply = .ok response) :
    response = reply ∧ Relayed reply ∨ response = invalidSessionResponse ∧ ¬ Relayed reply := by
  -- The daemon's second test: only `accepted` and `failure` pass without a look at the text.
  have direct (kind : Str) (typed : get? reply "type" = some (.string kind))
      (other : kind ≠ str "clipboard" ∨ ∀ text bytes, get? reply "text" = some (.string text) →
        encode? text = some bytes → ¬ bytes.length ≤ maxClipboardSize)
      (same : response = if kind = str "accepted" ∨ kind = str "failure" then reply
        else invalidSessionResponse) :
      response = reply ∧ Relayed reply ∨ response = invalidSessionResponse ∧ ¬ Relayed reply := by
    by_cases known : kind = str "accepted" ∨ kind = str "failure"
    · rw [if_pos known] at same
      refine .inl ⟨same, .inr ?_⟩
      rw [typed]
      rcases known with rfl | rfl
      · exact .inl rfl
      · exact .inr rfl
    · rw [if_neg known] at same
      refine .inr ⟨same, ?_⟩
      rintro (⟨clipboard, text, bytes, found, encoded, fits⟩ | accepted | failed)
      · rw [typed] at clipboard
        cases clipboard
        rcases other with kind | large
        · exact kind rfl
        · exact large text bytes found encoded fits
      · rw [typed] at accepted
        cases accepted
        exact known (.inl rfl)
      · rw [typed] at failed
        cases failed
        exact known (.inr rfl)
  unfold relay at relayed
  dsimp only at relayed
  split at relayed
  · next kind text typed found =>
    rw [typed] at relayed
    dsimp only at relayed
    split at relayed
    · next clipboard =>
      subst clipboard
      split at relayed
      · cases relayed
      · next bytes encoded =>
        by_cases fits : bytes.length ≤ maxClipboardSize
        · simp only [fits, if_true] at relayed
          cases relayed
          exact .inl ⟨rfl, .inl ⟨typed, text, bytes, found, encoded, fits⟩⟩
        · simp only [fits, if_false] at relayed
          refine direct _ typed (.inr fun other more same read => ?_) (Except.ok.inj relayed).symm
          rw [found] at same
          cases same
          rw [encoded] at read
          cases read
          exact fits
    · next other => exact direct kind typed (.inl other) (Except.ok.inj relayed).symm
  · next other =>
    cases typed : get? reply "type" with
    | none =>
      rw [typed] at relayed
      exact .inr ⟨(Except.ok.inj relayed).symm, not_relayed (by simp [typed])⟩
    | some v =>
      rw [typed] at relayed
      cases v with
      | string kind =>
        refine direct kind typed (.inr fun text bytes found => ?_) (Except.ok.inj relayed).symm
        exact absurd found (other kind text typed)
      | _ =>
        exact .inr ⟨(Except.ok.inj relayed).symm, not_relayed (by simp [typed])⟩

theorem readExactly_raised {count : Nat} {stream rest : Stream} {e : PyError}
    (failed : readExactly count stream = (.error (.raised e), rest)) : e = .os ∨ e = .eof := by
  induction stream generalizing count with
  | nil => cases count <;> simp [readExactly] at failed
  | cons arrival stream ih =>
    cases count with
    | zero => simp [readExactly] at failed
    | succ remaining =>
      cases arrival with
      | failure =>
        simp only [readExactly, Prod.mk.injEq, Except.error.injEq, Stop.raised.injEq] at failed
        exact .inl failed.1.symm
      | chunk bytes =>
        cases bytes with
        | nil =>
          simp only [readExactly, Prod.mk.injEq, Except.error.injEq, Stop.raised.injEq] at failed
          exact .inr failed.1.symm
        | cons b bytes =>
          simp only [readExactly] at failed
          split at failed
          · cases failed
          · split at failed
            · cases failed
            · next stop left later =>
              cases failed
              exact ih later

/-- Reading a payload raises only what is caught. -/
theorem readPayload_caught {stream rest : Stream} {e : PyError}
    (failed : readPayload stream = (.error (.raised e), rest)) : e.caught = true := by
  have reads {count : Nat} {stream rest : Stream}
      (failed : readExact count stream = (.error (.raised e), rest)) : e.caught = true := by
    rcases readExactly_raised failed with rfl | rfl <;> rfl
  rcases bind_error failed with header | ⟨header, middle, -, body⟩
  · exact reads header
  · dsimp only at body
    split at body
    · cases body
      rfl
    · exact reads body

theorem encodeFrame_protocol {python : Interpreter} {v : Value} {e : PyError}
    (nests : NestsWithin python.encoderLimit v) (failed : encodeFrame python v = .error e) :
    ∃ message, e = .protocol message := by
  unfold encodeFrame at failed
  split at failed
  · next deep => exact absurd deep (not_dumps_recursion nests)
  · cases failed
    exact ⟨_, rfl⟩
  · split at failed
    · cases failed
      exact ⟨_, rfl⟩
    · split at failed
      · cases failed
        exact ⟨_, rfl⟩
      · cases failed

/-- Whatever else goes wrong with the helper is reported as a disconnection. -/
theorem call_cases (python : Interpreter) (around : Surroundings) (operation : Operation) :
    (∃ raw, Replies python around operation raw ∧ Deep python raw ∧
      ∃ e, e.caught = false ∧
        call python around.helper (sessionPayload operation) = .error e) ∨
    (∃ raw reply, Replies python around operation raw ∧ decodePayload python raw = .ok reply ∧
      call python around.helper (sessionPayload operation) = .ok reply) ∨
    ((∀ raw, Replies python around operation raw →
        ¬ Deep python raw ∧ ∀ reply, decodePayload python raw ≠ .ok reply) ∧
      ∃ message, call python around.helper (sessionPayload operation) =
        .error (.connection message)) := by
  cases connected : around.helper with
  | none =>
    refine .inr (.inr ⟨?_, _, rfl⟩)
    rintro raw ⟨helper, -, -, same, -⟩
    rw [connected] at same
    cases same
  | some helper =>
    -- The payload nests one level, so writing it cannot recurse too deep.
    have nests : NestsWithin python.encoderLimit (.dict (sessionPayload operation)) := by
      refine NestsWithin.mono ?_ (Nat.le_trans (by decide : 1 ≤ 4) python.encodes)
      intro member inside
      cases operation <;>
        simp only [sessionPayload, List.mem_cons, List.not_mem_nil, or_false] at inside <;>
        rcases inside with rfl | rfl | rfl <;> simp [NestsWithin]
    cases framed : encodeFrame python (.dict (sessionPayload operation)) with
    | error e =>
      have unsent : ∀ raw, ¬ Replies python around operation raw := by
        rintro raw ⟨-, frame, -, -, same, -⟩
        rw [framed] at same
        cases same
      obtain ⟨message, rfl⟩ := encodeFrame_protocol nests framed
      exact .inr (.inr ⟨fun raw replies => absurd replies (unsent raw), _, by
        simp only [call, framed]
        rfl⟩)
    | ok frame =>
      -- There is one helper and one first reply, so whatever it is said to reply is what is read.
      have unique {raw : List UInt8} {result : Except Stop (List UInt8)} {rest : Stream}
          (read : readPayload helper.replies = (result, rest))
          (replies : Replies python around operation raw) :
          helper.sends = true ∧ result = .ok raw := by
        obtain ⟨other, _, last, same, -, sends, payload⟩ := replies
        rw [connected] at same
        cases same
        rw [read] at payload
        cases payload
        exact ⟨sends, rfl⟩
      cases sends : helper.sends with
      | false =>
        refine .inr (.inr ⟨fun raw replies => ?_, _, by
          simp only [call, framed, sends]
          rfl⟩)
        have sent := (unique (show readPayload helper.replies = (_, _) from rfl) replies).1
        rw [sends] at sent
        cases sent
      | true =>
        -- With the request sent, everything depends on what is read back.
        cases read : readPayload helper.replies with
        | mk result rest =>
          have frameRead := readFrame_run python helper.replies
          rw [read] at frameRead
          cases result with
          | error stop =>
            refine .inr (.inr ⟨fun raw replies => ?_, ?_⟩)
            · cases (unique read replies).2
            · simp only [call, framed, sends, if_true, frameRead]
              cases stop with
              | waiting => exact ⟨_, rfl⟩
              | raised e =>
                have caught := readPayload_caught read
                cases e <;> first
                  | exact ⟨_, rfl⟩
                  | cases caught
          | ok raw =>
            have replies : Replies python around operation raw :=
              ⟨helper, frame, rest, connected, framed, sends, read⟩
            have only {other : List UInt8} (again : Replies python around operation other) :
                other = raw := (Except.ok.inj (unique read again).2).symm
            cases decoded : decodePayload python raw with
            | ok reply =>
              refine .inr (.inl ⟨raw, reply, replies, decoded, ?_⟩)
              simp only [call, framed, sends, if_true, frameRead, decoded, mapError_ok]
            | error e =>
              simp only [call, framed, sends, if_true, frameRead, decoded, mapError_error]
              cases escapes : e.caught with
              | false =>
                have deep : Deep python raw :=
                  uncaught_decodePayload.mp ⟨e, decoded, escapes⟩
                refine .inl ⟨raw, replies, deep, e, escapes, ?_⟩
                cases e <;> first
                  | rfl
                  | cases escapes
              | true =>
                refine .inr (.inr ⟨fun other again => ?_, ?_⟩)
                · rw [only again]
                  refine ⟨fun deep => ?_, fun reply same => ?_⟩
                  · obtain ⟨d, same, uncaught⟩ := uncaught_decodePayload.mpr deep
                    rw [decoded] at same
                    cases same
                    rw [escapes] at uncaught
                    cases uncaught
                  · rw [decoded] at same
                    cases same
                · cases e <;> first
                    | exact ⟨_, rfl⟩
                    | cases escapes

theorem Replies.unique {python : Interpreter} {around : Surroundings} {operation : Operation}
    {raw other : List UInt8} (replies : Replies python around operation raw)
    (again : Replies python around operation other) : other = raw := by
  obtain ⟨helper, frame, rest, connected, -, -, read⟩ := replies
  obtain ⟨helper', frame', rest', connected', -, -, read'⟩ := again
  rw [connected] at connected'
  cases connected'
  rw [read] at read'
  cases read'
  rfl

/-- A session operation ends in an exception, in a response of the daemon's own or in one that the
helper gave. -/
theorem dispatchSession_cases (python : Interpreter) (around : Surroundings)
    (operation : Operation) :
    (Uncaught (dispatchSession python around operation) ∧ ∃ raw,
      Replies python around operation raw ∧
        (Deep python raw ∨ ∃ reply, decodePayload python raw = .ok reply ∧ BrokenClipboard reply)) ∨
    (∃ raw reply, Replies python around operation raw ∧ decodePayload python raw = .ok reply ∧
      ¬ BrokenClipboard reply ∧ Relayed reply ∧
      dispatchSession python around operation = .ok reply) ∨
    (∃ response, dispatchSession python around operation = .ok response ∧ Shallow response ∧
      ∀ raw, Replies python around operation raw →
        ¬ Deep python raw ∧ ∀ reply, decodePayload python raw = .ok reply →
          ¬ BrokenClipboard reply ∧ ¬ Relayed reply) := by
  -- The call dies, replies or fails; of a reply the relay decides.
  rcases call_cases python around operation with ⟨raw, replies, deep, e, escapes, called⟩ |
    ⟨raw, reply, replies, decoded, called⟩ | ⟨silent, message, called⟩
  · refine .inl ⟨⟨e, ?_, escapes⟩, raw, replies, .inl deep⟩
    simp only [dispatchSession, called]
    cases e <;> first
      | rfl
      | cases escapes
  · have relaying : dispatchSession python around operation = relay reply := by
      simp only [dispatchSession, called]
    have shallowDeep : ¬ Deep python raw := by
      intro deep
      obtain ⟨d, same, -⟩ := uncaught_decodePayload.mpr deep
      rw [decoded] at same
      cases same
    rw [relaying]
    cases relayed : relay reply with
    | error e =>
      have raised : Uncaught (relay reply) := ⟨e, relayed, relay_error relayed⟩
      exact .inl ⟨relayed ▸ raised, raw, replies, .inr ⟨reply, decoded, uncaught_relay.mp raised⟩⟩
    | ok response =>
      have plain : ¬ BrokenClipboard reply := by
        rw [← uncaught_relay, relayed]
        exact uncaught_ok _
      rcases relay_ok relayed with ⟨rfl, passed⟩ | ⟨rfl, kept⟩
      · exact .inr (.inl ⟨raw, response, replies, decoded, plain, passed, rfl⟩)
      · refine .inr (.inr ⟨_, rfl, shallow_failure _ _ _, fun other again => ?_⟩)
        rw [replies.unique again]
        refine ⟨shallowDeep, fun more same => ?_⟩
        rw [decoded] at same
        cases same
        exact ⟨plain, kept⟩
  · refine .inr (.inr ⟨failure "sessionUnavailable" (str message) none, ?_, shallow_failure _ _ _,
      fun raw replies => ?_⟩)
    · simp only [dispatchSession, called]
    · exact ⟨(silent raw replies).1, fun reply same => absurd same ((silent raw replies).2 reply)⟩

end Session

section Serving

/-- What the request meets kills the thread. -/
def DeadlyDispatch (python : Interpreter) (around : Surroundings) (request : Request) : Prop :=
  match request.operation with
  | .status => DeadlyStatus around.status
  | .shutdown | .reboot => around.power = .undecodable
  | .mountSharedDirectory => DeadlyMount around.mount
  | .readClipboard | .writeClipboard _ | .resizeDisplay _ _ =>
    DeadlySession python around request

/-- The response that a dispatch ends in is encoded without recursing too deep, so what a request
of the daemon's own raises comes from its dispatch. -/
theorem uncaught_answer {python : Interpreter} {around : Surroundings} {request : Request} :
    Uncaught (answer python around request) ↔
      Uncaught (dispatch python around request.operation) ∨
        ∃ response, dispatch python around request.operation = .ok response ∧
          Recurses python (responseMessage request response) := by
  unfold answer
  rw [uncaught_bind]
  apply or_congr_right
  apply exists_congr
  intro response
  apply and_congr_right
  intro _
  rw [uncaught_bind, uncaught_encodeFrame, or_iff_left_iff_imp]
  rintro ⟨frame, -, raised⟩
  split at raised
  · exact absurd raised (uncaught_ok _)
  · simp [uncaught_error, PyError.caught] at raised

theorem uncaught_answer_shallow {python : Interpreter} {around : Surroundings} {request : Request}
    (shallow : ∀ response, dispatch python around request.operation = .ok response →
      Shallow response) :
    Uncaught (answer python around request) ↔ Uncaught (dispatch python around request.operation) := by
  rw [uncaught_answer, or_iff_left_iff_imp]
  rintro ⟨response, dispatched, deep⟩
  exact absurd deep
    (not_dumps_recursion (nestsWithin_responseMessage request (shallow response dispatched)))

theorem uncaught_dispatchPower {around : Surroundings} {operation : Operation} :
    Uncaught (dispatchPower around operation) ↔ around.power = .undecodable := by
  unfold dispatchPower
  rw [uncaught_bind, uncaught_power, or_iff_left_iff_imp]
  rintro ⟨outcome, -, raised⟩
  cases outcome <;> exact absurd raised (uncaught_ok _)

theorem uncaught_dispatchMount {around : Surroundings} :
    Uncaught (dispatchMount around) ↔ DeadlyMount around.mount := by
  unfold dispatchMount
  rw [uncaught_bind, uncaught_mountSharedDirectory, or_iff_left_iff_imp]
  rintro ⟨state, -, raised⟩
  split at raised <;> exact absurd raised (uncaught_ok _)

theorem uncaught_answer_session {python : Interpreter} {around : Surroundings} {request : Request}
    (dispatches : dispatch python around request.operation =
      dispatchSession python around request.operation) :
    Uncaught (answer python around request) ↔ DeadlySession python around request := by
  rw [uncaught_answer, dispatches]
  unfold DeadlySession
  -- Either the dispatch dies, or it relays a reply that may nest too deep to be written, or its
  -- answer is harmless.
  rcases dispatchSession_cases python around request.operation with ⟨raised, raw, replies, deadly⟩ |
    ⟨raw, reply, replies, decoded, plain, relayed, dispatched⟩ | ⟨response, dispatched, shallow, harmless⟩
  · refine iff_of_true (.inl raised) ⟨raw, replies, ?_⟩
    rcases deadly with deep | ⟨reply, decoded, broken⟩
    · exact .inl deep
    · exact .inr ⟨reply, decoded, .inl broken⟩
  · have deep_iff : Recurses python (responseMessage request reply) ↔
        ¬ NestsWithin python.encoderLimit (responseMessage request reply) :=
      dumps_recursion_iff (shortInts_responseMessage request (shortInts_of_decoded decoded))
    rw [dispatched]
    simp only [uncaught_ok, false_or, Except.ok.injEq, exists_eq_left', deep_iff]
    constructor
    · intro deep
      exact ⟨raw, replies, .inr ⟨reply, decoded, .inr ⟨relayed, deep⟩⟩⟩
    · rintro ⟨other, again, deadly⟩
      rw [replies.unique again] at deadly
      rcases deadly with deep | ⟨more, same, broken | ⟨-, deep⟩⟩
      · obtain ⟨d, failed, -⟩ := uncaught_decodePayload.mpr deep
        rw [decoded] at failed
        cases failed
      · rw [decoded] at same
        cases same
        exact absurd broken plain
      · rw [decoded] at same
        cases same
        exact deep
  · rw [dispatched]
    simp only [uncaught_ok, false_or, Except.ok.injEq, exists_eq_left']
    refine iff_of_false (not_dumps_recursion (nestsWithin_responseMessage request shallow)) ?_
    rintro ⟨raw, replies, deep | ⟨reply, decoded, broken | ⟨relayed, -⟩⟩⟩
    · exact (harmless raw replies).1 deep
    · exact ((harmless raw replies).2 reply decoded).1 broken
    · exact ((harmless raw replies).2 reply decoded).2 relayed

theorem uncaught_answer_iff {python : Interpreter} {around : Surroundings} {request : Request} :
    Uncaught (answer python around request) ↔ DeadlyDispatch python around request := by
  unfold DeadlyDispatch
  -- The daemon's own answers are shallow, so only their dispatch counts; those of the helper may be
  -- too deep.
  cases asked : request.operation with
  | status =>
    rw [uncaught_answer_shallow, asked]
    · exact uncaught_status
    · intro response dispatched
      rw [asked] at dispatched
      exact shallow_status dispatched
  | shutdown =>
    rw [uncaught_answer_shallow, asked]
    · exact uncaught_dispatchPower
    · intro response dispatched
      rw [asked] at dispatched
      exact shallow_dispatchPower dispatched
  | reboot =>
    rw [uncaught_answer_shallow, asked]
    · exact uncaught_dispatchPower
    · intro response dispatched
      rw [asked] at dispatched
      exact shallow_dispatchPower dispatched
  | mountSharedDirectory =>
    rw [uncaught_answer_shallow, asked]
    · exact uncaught_dispatchMount
    · intro response dispatched
      rw [asked] at dispatched
      exact shallow_dispatchMount dispatched
  | readClipboard => exact uncaught_answer_session (by rw [asked]; rfl)
  | writeClipboard text => exact uncaught_answer_session (by rw [asked]; rfl)
  | resizeDisplay width height => exact uncaught_answer_session (by rw [asked]; rfl)

/-- An iteration that ends the thread: its frame nests too deep or is broken, or what it asks for
meets what the daemon does not expect. -/
def Deadly (python : Interpreter) (thread : Thread) : Event → Prop
  | .serve around => ∃ raw rest, readPayload thread.stream = (.ok raw, rest) ∧
      (Deep python raw ∨ ∃ message, decodePayload python raw = .ok message ∧
        (BrokenRequest message ∨ ∃ request, decodeRequest message = .ok request ∧
          DeadlyDispatch python around request))
  | .reenter => False

/-- No exception has ended the thread. -/
def Alive (thread : Thread) : Prop := ∀ e, thread.mode ≠ .died e

theorem alive_after {thread : Thread} {e : PyError} : Alive (thread.after e) ↔ e.caught = true := by
  unfold Alive Thread.after
  cases e.caught <;> simp

theorem receive_run (python : Interpreter) (stream : Stream) :
    receive python stream =
      match readPayload stream with
      | (.ok raw, rest) => ((decodePayload python raw >>= decodeRequest).mapError .raised, rest)
      | (.error stop, rest) => (.error stop, rest) := by
  rw [receive, bind_eq, readFrame_run]
  cases readPayload stream with
  | mk result rest =>
    cases result with
    | error stop => rfl
    | ok raw =>
      dsimp only
      cases decodePayload python raw with
      | error e => rfl
      | ok message => exact ofExcept_run _ _

/-- What is deadly, by what the iteration raises. -/
theorem deadly_iff {python : Interpreter} {thread : Thread} {around : Surroundings}
    {raw : List UInt8} {rest : Stream} (payload : readPayload thread.stream = (.ok raw, rest)) :
    Deadly python thread (.serve around) ↔
      Uncaught (decodePayload python raw >>= decodeRequest) ∨
        ∃ request, (decodePayload python raw >>= decodeRequest) = .ok request ∧
          Uncaught (answer python around request) := by
  simp only [Deadly, payload, Prod.mk.injEq, Except.ok.injEq, uncaught_bind, bind_ok_iff,
    uncaught_decodePayload, uncaught_decodeRequest, uncaught_answer_iff]
  constructor
  · rintro ⟨_, _, ⟨rfl, rfl⟩, deep | ⟨message, decoded, broken | ⟨request, asked, deadly⟩⟩⟩
    · exact .inl (.inl deep)
    · exact .inl (.inr ⟨message, decoded, broken⟩)
    · exact .inr ⟨request, ⟨message, decoded, asked⟩, deadly⟩
  · rintro ((deep | ⟨message, decoded, broken⟩) | ⟨request, ⟨message, decoded, asked⟩, deadly⟩)
    · exact ⟨raw, rest, ⟨rfl, rfl⟩, .inl deep⟩
    · exact ⟨raw, rest, ⟨rfl, rfl⟩, .inr ⟨message, decoded, .inl broken⟩⟩
    · exact ⟨raw, rest, ⟨rfl, rfl⟩, .inr ⟨message, decoded, .inr ⟨request, asked, deadly⟩⟩⟩

/-- One iteration kills the thread exactly when it is deadly. -/
theorem alive_serve {python : Interpreter} {thread next : Thread} {around : Surroundings}
    (serving : thread.mode = .serving) (taken : thread.serve python around = some next) :
    Alive next ↔ ¬ Deadly python thread (.serve around) := by
  have serves {other : Thread} (same : other.mode = thread.mode) : Alive other := by
    intro e died
    rw [same, serving] at died
    cases died
  unfold Thread.serve at taken
  rw [receive_run] at taken
  -- The four places an exception can come from, in the order of the source: the socket, the
  -- message, the dispatch and the write.
  cases payload : readPayload thread.stream with
  | mk result rest =>
    rw [payload] at taken
    cases result with
    | error stop =>
      cases stop with
      | waiting => cases taken
      | raised e =>
        cases taken
        refine iff_of_true (alive_after.mpr (readPayload_caught payload)) ?_
        rintro ⟨raw, other, same, -⟩
        rw [payload] at same
        cases same
    | ok raw =>
      rw [deadly_iff payload]
      dsimp only at taken
      cases decoded : (decodePayload python raw >>= decodeRequest) with
      | error e =>
        rw [decoded] at taken
        cases taken
        rw [alive_after]
        simp [uncaught_error]
      | ok request =>
        rw [decoded] at taken
        dsimp only [mapError_ok, mapError_error] at taken
        simp only [uncaught_ok, false_or, Except.ok.injEq, exists_eq_left']
        cases answered : answer python around request with
        | error e =>
          rw [answered] at taken
          cases taken
          rw [alive_after]
          simp [uncaught_error]
        | ok frame =>
          rw [answered] at taken
          cases taken
          exact iff_of_true (serves rfl) (uncaught_ok frame)

theorem alive_step {python : Interpreter} {thread next : Thread} {event : Event}
    (taken : thread.step python event = some next) :
    Alive next ↔ ¬ Deadly python thread event := by
  cases event with
  | serve around =>
    simp only [Thread.step] at taken
    split at taken
    · next serving => exact alive_serve serving taken
    · cases taken
  | reenter =>
    simp only [Thread.step] at taken
    split at taken
    · cases taken
      exact iff_of_true (fun _ died => by cases died) (fun deadly => deadly)
    · cases taken

/-- A serving thread lives through a run exactly when no iteration of the run is deadly. -/
theorem survives_iff (python : Interpreter) (stream : Stream) (events : List Event) :
    Always (Thread.step python) Alive { stream := stream } events ↔
      Meets (Thread.step python) (fun thread event => ¬ Deadly python thread event)
        { stream := stream } events := by
  have initial : Alive { stream := stream } := fun _ died => by cases died
  refine always_iff_meets (V := fun _ => True) ?_ (fun _ alive => alive) ?_ _ _ initial
    (fun _ _ => trivial)
  · exact fun _ _ _ _ _ harmless taken => (alive_step taken).mpr harmless
  · exact fun _ _ _ _ _ taken alive => (alive_step taken).mp alive

/-- A status request whose identifier is half of a surrogate pair. -/
def loneSurrogate : List Char :=
  ("\x7b\"protocolVersion\":2,\"requestID\":\"\\ud800\",\"request\":\x7b\"type\":\"status\"\x7d\x7d").toList

theorem loads_loneSurrogate : loads 1 1000 loneSurrogate =
    .ok (.dict [(str "protocolVersion", .int 2), (str "requestID", .string [0xd800]),
      (str "request", .dict [(str "type", .string (str "status"))])]) := by
  rfl

/-- A frame that arrives whole. -/
theorem readPayload_frame {payload : List UInt8} (nonempty : payload ≠ [])
    (fits : payload.length ≤ maxFrameSize) :
    readPayload [.chunk (packHeader payload.length ++ payload)] = (.ok payload, []) := by
  have filled : ∀ chunk ∈ [packHeader payload.length ++ payload], chunk ≠ [] := by
    intro chunk member
    rw [List.mem_singleton.mp member]
    exact fun empty => nonempty (List.append_eq_nil_iff.mp empty).2
  have arrived : [packHeader payload.length ++ payload].flatten =
      packHeader payload.length ++ payload := by simp
  exact readPayload_chunks nonempty fits filled arrived

/-- Well-formed JSON on the wire ends the thread. -/
theorem thread_dies_on_loneSurrogate :
    ¬ Always (Thread.step cpython) Alive
      { stream := [.chunk (packHeader (utf8 loneSurrogate).length ++ utf8 loneSurrogate)] }
      [.serve plainGuest] := by
  have nonempty : utf8 loneSurrogate ≠ [] := by decide
  have payload : readPayload
      [.chunk (packHeader (utf8 loneSurrogate).length ++ utf8 loneSurrogate)] =
      (.ok (utf8 loneSurrogate), []) :=
    readPayload_frame nonempty (by decide)
  have decoded : (decodePayload cpython (utf8 loneSurrogate) >>= decodeRequest) =
      .error .unicodeEncode := by
    have limit : cpython.decoderLimit = 1000 := rfl
    have hook : cpython.hookLevels = 1 := rfl
    simp only [decodePayload, decodeUTF8_utf8, limit, hook, loads_loneSurrogate]
    rfl
  intro always
  have alive := (always.2 { stream := [], mode := .died .unicodeEncode } (by
    simp only [Thread.step, Thread.serve, receive_run, payload, decoded]
    rfl)).head
  exact alive .unicodeEncode rfl

end Serving

end SimpleVM.Agent
