import SimpleVM.Agent.Broker
import SimpleVM.Agent.FrameLimit
import SimpleVM.Agent.Resynchronisation
import SimpleVM.Agent.Survival

/-!
# Every call gets its own reply

Whoever calls waits under the lock until the reply is read or the connection is closed, so a reply
that comes late has nowhere to go. What escapes this is the `RecursionError` of a message that nests
too deep, which `call` does not turn into a `ConnectionError`.
-/
namespace SimpleVM.Agent

open Effects Failing Python Text Transition
open Swift (encodeObject encodeArray encodeString encodeInt)

variable {python : Interpreter} {floatEquals : List Char → Int → Bool}

section Properties

/-- The call has failed as it should, or has returned the answer to the last request that was made
on its connection, which is its own. -/
def Ended.Matched (python : Interpreter) (e : Ended) : Prop :=
  (∃ message, e.outcome = .error (.connection message)) ∨
  ∃ link response, e.link = some link ∧ e.outcome = .ok response ∧
    (link.asked.map Asked.call).Nodup ∧
    ∃ before earlier payload, link.asked = before ++ [e.asked] ∧
      link.answers = earlier ++ [payload] ∧ earlier.length = before.length ∧
      decodePayload python payload = .ok response

/-- There is a session where there is a connection, and it is what was received on it. -/
structure Broker.Consistent (python : Interpreter) (s : Broker) : Prop where
  absent : s.connection = none ↔ s.session = none
  received : ∀ link registration, s.connection = some link → s.session = some registration →
    (readFrame python link.peer.opening).1 = .ok registration

structure Broker.Matches (python : Interpreter) (s : Broker) : Prop where
  consistent : s.Consistent python
  ended : ∀ e ∈ s.ended, e.Matched python

/-- A helper sends its registration, and then one reply for each request. -/
def BrokerEvent.Helpful (python : Interpreter) (floatEquals : List Char → Int → Bool) :
    BrokerEvent → Prop
  | .accept peer => ∀ registration rest,
    receiveRegistration python floatEquals peer = .accepted registration rest → content rest = []
  | .babble _ => False
  | _ => True

/-- Neither the request nor the reply nests too deep. -/
def Broker.Bounded (python : Interpreter) (s : Broker) : BrokerEvent → Prop
  | .call request _ => s.connection ≠ none → ¬ Recurses python (.dict request)
  | .read arrivals _ => ∀ raw rest, readPayload arrivals = (.ok raw, rest) → ¬ Deep python raw
  | _ => True

end Properties

section Links

def Link.Settled (link : Link) : Prop :=
  link.unread = [] ∧ link.answers.length = link.asked.length

/-- The call's request is the last one, and nothing of an earlier one is left to read. -/
def Link.Awaits (link : Link) (asked : Asked) : Prop :=
  ∃ before, link.asked = before ++ [asked] ∧
    ((link.unread = [] ∧ link.answers.length = before.length) ∨
      ∃ earlier payload, link.answers = earlier ++ [payload] ∧ earlier.length = before.length ∧
        payload.length < 4294967296 ∧ link.unread = packHeader payload.length ++ payload)

theorem Link.Settled.asks {link : Link} (settled : link.Settled) (asked : Asked) :
    ({ link with asked := link.asked ++ [asked] } : Link).Awaits asked :=
  ⟨link.asked, rfl, .inl settled⟩

/-- The reply to the one request that has none yet. -/
theorem Link.Awaits.answer {link : Link} {asked : Asked} (awaits : link.Awaits asked)
    {payload : List UInt8} (due : link.answers.length < link.asked.length)
    (fits : payload.length < 4294967296) :
    ({ link with
      answers := link.answers ++ [payload]
      unread := link.unread ++ (packHeader payload.length ++ payload) } : Link).Awaits asked := by
  obtain ⟨before, last, ⟨empty, length⟩ | ⟨earlier, other, answers, length, -, -⟩⟩ := awaits
  · exact ⟨before, last, .inr ⟨link.answers, payload, rfl, length, fits, by rw [empty]; rfl⟩⟩
  · -- The request has been answered already.
    rw [last, answers, List.length_append, List.length_append, length] at due
    exact absurd due (Nat.lt_irrefl _)

theorem readFrame_ok {arrivals rest : Stream} {response : List (Str × Value)}
    (read : readFrame python arrivals = (.ok response, rest)) :
    ∃ raw, readPayload arrivals = (.ok raw, rest) ∧ decodePayload python raw = .ok response := by
  rw [readFrame_run] at read
  cases payload : readPayload arrivals with
  | mk result left =>
    rw [payload] at read
    cases result with
    | error stop => cases read
    | ok raw =>
      cases decoded : decodePayload python raw with
      | error e => simp [decoded, mapError_error] at read
      | ok members =>
        simp only [decoded, mapError_ok, Prod.mk.injEq, Except.ok.injEq] at read
        obtain ⟨rfl, rfl⟩ := read
        exact ⟨raw, rfl, decoded⟩

/-- What is read under the lock is the answer to the caller's request, to its last byte. -/
theorem Link.Awaits.reads {link : Link} {asked : Asked} (awaits : link.Awaits asked)
    {arrivals rest : Stream} (part : content arrivals <+: link.unread)
    {response : List (Str × Value)} (read : readFrame python arrivals = (.ok response, rest)) :
    content arrivals = link.unread ∧ content rest = [] ∧
      ∃ before earlier payload, link.asked = before ++ [asked] ∧
        link.answers = earlier ++ [payload] ∧ earlier.length = before.length ∧
        decodePayload python payload = .ok response := by
  obtain ⟨raw, payload, decoded⟩ := readFrame_ok read
  obtain ⟨used, taken, inside⟩ := readPayload_content payload
  obtain ⟨header, rfl, four, announced, nonempty, -⟩ := inside raw rfl
  obtain ⟨before, last, ⟨empty, -⟩ | ⟨earlier, answer, answers, length, fits, unread⟩⟩ := awaits
  · rw [empty, List.prefix_nil, taken, List.append_eq_nil_iff, List.append_eq_nil_iff] at part
    exact absurd part.1.2 nonempty
  · obtain ⟨more, whole⟩ := part
    rw [taken, unread, List.append_assoc, List.append_assoc] at whole
    obtain ⟨rfl, after⟩ := List.append_inj whole (by rw [four, length_packHeader])
    rw [unpackHeader_packHeader fits] at announced
    obtain ⟨rfl, nothing⟩ := List.append_inj (after.trans (List.append_nil _).symm) announced.symm
    rw [List.append_eq_nil_iff] at nothing
    exact ⟨by rw [taken, nothing.1, List.append_nil, unread], nothing.1, before, earlier, raw, last,
      answers, length, decoded⟩

end Links

section Invariant

/-- What holds between any two steps, whether or not the lock is taken. -/
structure Broker.Sound (python : Interpreter) (floatEquals : List Char → Int → Bool)
    (s : Broker) : Prop where
  absent : s.connection = none ↔ s.session = none
  received : ∀ link registration, s.connection = some link → s.session = some registration →
    (readFrame python link.peer.opening).1 = .ok registration
  ended : ∀ e ∈ s.ended, e.Matched python
  idle : ∀ link, s.connection = some link → s.waiting = none → link.Settled
  busy : ∀ asked, s.waiting = some asked → ∃ link, s.connection = some link ∧ link.Awaits asked
  numbered : ∀ link, s.connection = some link →
    (link.asked.map Asked.call).Nodup ∧ ∀ asked ∈ link.asked, asked.call < s.calls
  reading : ∀ peer, s.loop = .reading peer →
    BrokerEvent.Helpful python floatEquals (.accept peer)
  storing : ∀ link registration, s.loop = .storing link registration →
    link.Settled ∧ link.asked = [] ∧ (readFrame python link.peer.opening).1 = .ok registration

variable {s t : Broker}

theorem Broker.Sound.matches (sound : s.Sound python floatEquals) : s.Matches python :=
  ⟨⟨sound.absent, sound.received⟩, sound.ended⟩

theorem Broker.Sound.initial : ({} : Broker).Sound python floatEquals where
  absent := ⟨fun _ => rfl, fun _ => rfl⟩
  received _ _ none := by cases none
  ended _ none := by cases none
  idle _ none := by cases none
  busy _ none := by cases none
  numbered _ none := by cases none
  reading _ none := by cases none
  storing _ _ none := by cases none

/-- The loop goes on, wherever, without the lock. -/
theorem Broker.Sound.loops (sound : s.Sound python floatEquals) {loop : Loop}
    (reading : ∀ peer, loop = .reading peer → BrokerEvent.Helpful python floatEquals (.accept peer))
    (storing : ∀ link registration, loop = .storing link registration →
      link.Settled ∧ link.asked = [] ∧ (readFrame python link.peer.opening).1 = .ok registration) :
    ({ s with loop } : Broker).Sound python floatEquals :=
  ⟨sound.absent, sound.received, sound.ended, sound.idle, sound.busy, sound.numbered, reading,
    storing⟩

theorem Broker.Sound.closed (sound : s.Sound python floatEquals) (free : s.waiting = none) :
    s.closeConnection.Sound python floatEquals where
  absent := ⟨fun _ => rfl, fun _ => rfl⟩
  received _ _ none := by cases none
  ended := sound.ended
  idle _ none := by cases none
  busy asked held := by
    have held : s.waiting = some asked := held
    rw [free] at held
    cases held
  numbered _ none := by cases none
  reading := sound.reading
  storing := sound.storing

theorem matched_of_disconnected {asked : Asked} {link : Option Link} {message : String} :
    Ended.Matched python ⟨asked, .error (.connection message), link⟩ := .inl ⟨message, rfl⟩

theorem ended_append {ended : List Ended} {final : Ended} (all : ∀ e ∈ ended, e.Matched python)
    (last : final.Matched python) : ∀ e ∈ ended ++ [final], e.Matched python := by
  intro e member
  rcases List.mem_append.mp member with earlier | same
  · exact all e earlier
  · rw [List.mem_singleton.mp same]
    exact last

/-- A call that fails as it should closes the connection. -/
theorem Broker.Sound.disconnects (sound : s.Sound python floatEquals) (asked : Asked) :
    (s.disconnects asked).Sound python floatEquals where
  absent := ⟨fun _ => rfl, fun _ => rfl⟩
  received _ _ none := by cases none
  ended := ended_append sound.ended matched_of_disconnected
  idle _ none := by cases none
  busy _ none := by cases none
  numbered _ none := by cases none
  reading := sound.reading
  storing := sound.storing

theorem Broker.Sound.counts (sound : s.Sound python floatEquals) :
    ({ s with calls := s.calls + 1 } : Broker).Sound python floatEquals where
  absent := sound.absent
  received := sound.received
  ended := sound.ended
  idle := sound.idle
  busy := sound.busy
  numbered link connected := by
    obtain ⟨distinct, below⟩ := sound.numbered link connected
    exact ⟨distinct, fun asked member => Nat.lt_succ_of_lt (below asked member)⟩
  reading := sound.reading
  storing := sound.storing

/-- `call`, with the number the broker gives it. -/
theorem Broker.Sound.call (sound : s.Sound python floatEquals) (free : s.waiting = none)
    {request : List (Str × Value)} {written : Bool}
    (bounded : s.Bounded python (.call request written)) :
    (({ s with calls := s.calls + 1 } : Broker).call python ⟨s.calls, request⟩ written).Sound
      python floatEquals := by
  have counted := sound.counts
  unfold Broker.call
  split
  · next connected =>
    have connected : s.connection = none := connected
    refine ⟨sound.absent, sound.received, ended_append sound.ended matched_of_disconnected, ?_,
      (by intros; contradiction), counted.numbered, sound.reading, sound.storing⟩
    intro link impossible
    have impossible : s.connection = some link := impossible
    rw [connected] at impossible
    cases impossible
  · next link connected =>
    have connected : s.connection = some link := connected
    split
    · next e framed =>
      have framed : encodeFrame python (.dict request) = .error e := framed
      have caught : e.caught = true := by
        have contained := mt uncaught_encodeFrame.mp (bounded (by rw [connected]; simp))
        rw [framed, uncaught_error] at contained
        simpa using contained
      rw [if_pos caught]
      exact counted.disconnects _
    -- A request that is not sent whole closes the connection.
    · cases written with
      | false => exact counted.disconnects _
      | true =>
        -- The request is the newest on the link, with a number greater than those before.
        have settled := sound.idle link connected free
        obtain ⟨distinct, below⟩ := sound.numbered link connected
        have present : s.session ≠ none := fun none => by
          rw [sound.absent.mpr none] at connected
          cases connected
        refine ⟨⟨(by intros; contradiction), fun none => absurd none present⟩, ?_, sound.ended, (by intros; contradiction), ?_, ?_,
          sound.reading, sound.storing⟩
        · rintro _ registration same stored
          cases same
          exact sound.received link registration connected stored
        · rintro _ same
          cases same
          exact ⟨_, rfl, settled.asks _⟩
        · rintro _ same
          cases same
          constructor
          · rw [List.map_append, List.nodup_append]
            refine ⟨distinct, by simp, ?_⟩
            rintro number member _ last
            obtain ⟨asked, inside, rfl⟩ := List.mem_map.mp member
            rw [List.map_singleton, List.mem_singleton] at last
            rw [last]
            exact Nat.ne_of_lt (below asked inside)
          · intro asked member
            rcases List.mem_append.mp member with earlier | last
            · exact Nat.lt_succ_of_lt (below asked earlier)
            · rw [List.mem_singleton.mp last]
              exact Nat.lt_succ_self _

/-- The helper's reply joins what the caller waits for. -/
theorem Broker.Sound.answer (sound : s.Sound python floatEquals) {link : Link}
    (connected : s.connection = some link) {payload : List UInt8}
    (due : link.answers.length < link.asked.length) (fits : payload.length < 4294967296) :
    ({ s with connection := some { link with
      answers := link.answers ++ [payload]
      unread := link.unread ++ (packHeader payload.length ++ payload) } } : Broker).Sound
      python floatEquals := by
  refine ⟨⟨(by intros; contradiction), fun none => ?_⟩, ?_, sound.ended, ?_, ?_, ?_, sound.reading, sound.storing⟩
  · rw [sound.absent.mpr none] at connected
    cases connected
  · rintro _ registration same stored
    cases same
    exact sound.received link registration connected stored
  · -- Nothing is due while nobody waits.
    rintro _ - free
    rw [(sound.idle link connected free).2] at due
    exact absurd due (Nat.lt_irrefl _)
  · intro asked held
    obtain ⟨other, same, awaits⟩ := sound.busy asked held
    rw [connected] at same
    cases same
    exact ⟨_, rfl, awaits.answer due fits⟩
  · rintro _ same
    cases same
    exact sound.numbered link connected

theorem Broker.Sound.read (sound : s.Sound python floatEquals) {asked : Asked} {link : Link}
    (held : s.waiting = some asked) (connected : s.connection = some link) {arrivals : Stream}
    {settles : Bool} (part : content arrivals <+: link.unread)
    (bounded : s.Bounded python (.read arrivals settles)) :
    (s.read python asked link arrivals settles).Sound python floatEquals := by
  obtain ⟨other, same, awaits⟩ := sound.busy asked held
  rw [connected] at same
  cases same
  -- The call ends with an error, which closes the connection, or with the payload of a frame.
  unfold Broker.read
  cases frame : readFrame python arrivals with
  | mk result rest =>
    cases result with
    | error stop =>
      cases stop with
      | waiting => exact sound.disconnects asked
      | raised e =>
        have caught : e.caught = true := by
          rw [readFrame_run] at frame
          cases payload : readPayload arrivals with
          | mk result left =>
            rw [payload] at frame
            cases result with
            | error stop =>
              cases frame
              exact readPayload_caught payload
            | ok raw =>
              have shallow := mt uncaught_decodePayload.mp (bounded raw left payload)
              cases decoded : decodePayload python raw with
              | ok members => simp [decoded, mapError_ok] at frame
              | error d =>
                simp only [decoded, mapError_error, Prod.mk.injEq, Except.error.injEq,
                  Stop.raised.injEq] at frame
                rw [decoded, uncaught_error, frame.1] at shallow
                simpa using shallow
        simp only [caught, if_true]
        exact sound.disconnects asked
    | ok response =>
      cases settles with
      | false => exact sound.disconnects asked
      | true =>
        -- The frame that is read is the answer to the last request, and it is all that was unread.
        obtain ⟨whole, nothing, before, earlier, payload, last, answers, length, decoded⟩ :=
          awaits.reads part frame
        obtain ⟨distinct, below⟩ := sound.numbered link connected
        have drained : link.unread.drop ((content arrivals).length - (content rest).length) = [] := by
          rw [whole, nothing, List.length_nil, Nat.sub_zero, List.drop_length]
        simp only [if_true, drained]
        refine ⟨⟨(by intros; contradiction), fun none => ?_⟩, ?_, ended_append sound.ended (.inr ?_), ?_, (by intros; contradiction), ?_,
          sound.reading, sound.storing⟩
        · rw [sound.absent.mpr none] at connected
          cases connected
        · rintro _ registration same stored
          cases same
          exact sound.received link registration connected stored
        · exact ⟨_, response, rfl, rfl, distinct, before, earlier, payload, last, answers, length,
            decoded⟩
        · rintro _ same -
          cases same
          refine ⟨rfl, ?_⟩
          show link.answers.length = link.asked.length
          rw [answers, last, List.length_append, List.length_append, length]
          rfl
        · rintro _ same
          cases same
          exact ⟨distinct, below⟩

/-- What the loop has accepted was read off the connection. -/
theorem received_of_accepted {peer : Peer} {registration : List (Str × Value)} {rest : Stream}
    (accepted : receiveRegistration python floatEquals peer = .accepted registration rest) :
    readFrame python peer.opening = (.ok registration, rest) := by
  unfold receiveRegistration at accepted
  split at accepted
  · cases accepted
  · split at accepted
    · cases accepted
    · split at accepted
      · cases accepted
      · split at accepted <;> cases accepted
      · next read =>
        split at accepted
        · split at accepted
          · cases accepted
            exact read
          · cases accepted
        · cases accepted
        · cases accepted
        · cases accepted

theorem accepted_of_received {peer : Peer} {uid : Int} {registration : List (Str × Value)}
    {rest : Stream} {session : Session} (known : peer.uid = some uid) (user : uid ≠ 0)
    (read : readFrame python peer.opening = (.ok registration, rest))
    (valid : validateRegistration floatEquals registration uid = .ok session)
    (settles : peer.settles = true) :
    receiveRegistration python floatEquals peer = .accepted registration rest := by
  simp only [receiveRegistration, known, if_neg user, read, valid, settles, if_true]

theorem Broker.Sound.accepts (sound : s.Sound python floatEquals) {event : BrokerEvent}
    (helpful : event.Helpful python floatEquals)
    (taken : s.accepts python floatEquals event = some t) : t.Sound python floatEquals := by
  -- Until a registration is stored no field but the loop changes.
  cases event with
  | accept peer =>
    simp only [Broker.accepts] at taken
    split at taken
    · cases taken
      exact sound.loops (fun _ same => by cases same; exact helpful) (by intros; contradiction)
    · cases taken
  | acceptFails =>
    simp only [Broker.accepts] at taken
    split at taken
    · cases taken
      exact sound.loops (by intros; contradiction) (by intros; contradiction)
    · cases taken
  | leave =>
    simp only [Broker.accepts] at taken
    split at taken
    · cases taken
      exact sound.loops (by intros; contradiction) (by intros; contradiction)
    · cases taken
  | register =>
    simp only [Broker.accepts] at taken
    split at taken
    · next peer reading =>
      split at taken
      · cases taken
        exact sound.loops (by intros; contradiction) (by intros; contradiction)
      · cases taken
        exact sound.loops (by intros; contradiction) (by intros; contradiction)
      · next registration rest accepted =>
        cases taken
        refine sound.loops (by intros; contradiction) ?_
        rintro _ _ same
        cases same
        have nothing := sound.reading peer reading registration rest accepted
        exact ⟨⟨nothing, rfl⟩, rfl, by rw [received_of_accepted accepted]⟩
    · cases taken
  | store =>
    simp only [Broker.accepts] at taken
    split at taken
    · next link registration storing free =>
      cases taken
      -- A new connection has no request on it, and what came before the registration is used up.
      obtain ⟨settled, unasked, received⟩ := sound.storing link registration storing
      refine ⟨⟨(by intros; contradiction), (by intros; contradiction)⟩, ?_, sound.ended, ?_, ?_, ?_, (by intros; contradiction), (by intros; contradiction)⟩
      · rintro _ _ same stored
        cases same
        cases stored
        exact received
      · rintro _ same -
        cases same
        exact settled
      · intro asked held
        have held : s.waiting = some asked := held
        rw [free] at held
        cases held
      · rintro _ same
        cases same
        rw [unasked]
        exact ⟨List.nodup_nil, (by intros; contradiction)⟩
    · cases taken
  | _ => cases taken

theorem Broker.Sound.step (sound : s.Sound python floatEquals) {event : BrokerEvent}
    (helpful : event.Helpful python floatEquals) (bounded : s.Bounded python event)
    (taken : s.step python floatEquals event = some t) : t.Sound python floatEquals := by
  cases event with
  | stop =>
    cases taken
    exact ⟨sound.absent, sound.received, sound.ended, sound.idle, sound.busy, sound.numbered,
      sound.reading, sound.storing⟩
  | shutDown =>
    simp only [Broker.step] at taken
    split at taken
    · next free =>
      cases taken
      exact sound.closed (Option.isNone_iff_eq_none.mp free.2)
    · cases taken
  | call request written =>
    simp only [Broker.step] at taken
    split at taken
    · next free =>
      cases taken
      exact sound.call (Option.isNone_iff_eq_none.mp free) bounded
    · cases taken
  | answer payload =>
    simp only [Broker.step] at taken
    split at taken
    · next link connected =>
      split at taken
      · next due =>
        cases taken
        exact sound.answer connected due.1 due.2
      · cases taken
    · cases taken
  -- A helper that answers unasked is excluded.
  | babble bytes => exact absurd helpful id
  | read arrivals settles =>
    simp only [Broker.step] at taken
    split at taken
    · next asked link held connected =>
      split at taken
      · next part =>
        cases taken
        exact sound.read held connected part bounded
      · cases taken
    · cases taken
  | accept peer => exact sound.accepts helpful taken
  | acceptFails => exact sound.accepts helpful taken
  | leave => exact sound.accepts helpful taken
  | register => exact sound.accepts helpful taken
  | store => exact sound.accepts helpful taken

end Invariant

section Exactness

variable {s t : Broker}

theorem not_matched_of_uncaught {e : PyError} (escapes : e.caught = false) (asked : Asked)
    (link : Option Link) : ¬ Ended.Matched python ⟨asked, .error e, link⟩ := by
  rintro (⟨message, same⟩ | ⟨_, response, -, impossible, -⟩)
  · cases same
    cases escapes
  · cases impossible

/-- What nests too deep ends a call with an exception of its own. -/
theorem Broker.bounded_of_matches {event : BrokerEvent}
    (taken : s.step python floatEquals event = some t) (matched : t.Matches python) :
    s.Bounded python event := by
  -- Only a call and a read record an outcome; an exception that nobody catches is one that does not
  -- match.
  cases event with
  | call request written =>
    intro present recurses
    obtain ⟨e, framed, escapes⟩ := uncaught_encodeFrame.mpr recurses
    obtain ⟨link, connected⟩ := Option.ne_none_iff_exists'.mp present
    simp only [Broker.step] at taken
    split at taken
    · cases taken
      simp only [Broker.call, connected, framed, escapes, Bool.false_eq_true, if_false] at matched
      exact not_matched_of_uncaught escapes _ _
        (matched.ended _ (List.mem_append_right _ List.mem_cons_self))
    · cases taken
  | read arrivals settles =>
    intro raw rest payload deep
    obtain ⟨e, decoded, escapes⟩ := uncaught_decodePayload.mpr deep
    have frame : readFrame python arrivals = (.error (.raised e), rest) := by
      rw [readFrame_run, payload]
      simp only [decoded, mapError_error]
    simp only [Broker.step] at taken
    split at taken
    · split at taken
      · cases taken
        simp only [Broker.read, frame, escapes, Bool.false_eq_true, if_false] at matched
        exact not_matched_of_uncaught escapes _ _
          (matched.ended _ (List.mem_append_right _ List.mem_cons_self))
      · cases taken
    · cases taken
  | _ => trivial

/-- With helpers that answer each request once, every call returns its own reply or fails with a
`ConnectionError`, and connection and session belong together, if and only if no message that is
written or read nests too deep. -/
theorem calls_matched_iff (python : Interpreter) (floatEquals : List Char → Int → Bool)
    (events : List BrokerEvent) (helpful : ∀ event ∈ events, event.Helpful python floatEquals) :
    Always (Broker.step python floatEquals) (Broker.Matches python) {} events ↔
      Meets (Broker.step python floatEquals) (Broker.Bounded python) {} events := by
  apply always_iff_meets (I := Broker.Sound python floatEquals)
    (V := BrokerEvent.Helpful python floatEquals)
  · intro s event t sound each bounded taken
    exact sound.step each bounded taken
  · intro s sound
    exact sound.matches
  · intro s event t _ _ taken matched
    exact Broker.bounded_of_matches taken matched
  · exact Broker.Sound.initial
  · exact helpful

end Exactness

section Schedules

variable {peer : Peer} {registration request : List (Str × Value)} {payload : List UInt8}

/-- A helper registers, is asked and replies. -/
def exchange (peer : Peer) (request : List (Str × Value)) (payload : List UInt8) :
    List BrokerEvent :=
  [.accept peer, .register, .store, .call request true, .answer payload]

/-- The call waits, and its reply has arrived. -/
def replied (peer : Peer) (registration request : List (Str × Value)) (payload : List UInt8) :
    Broker where
  connection := some
    { peer, asked := [⟨0, request⟩], answers := [payload]
      unread := packHeader payload.length ++ payload }
  session := some registration
  waiting := some ⟨0, request⟩
  calls := 1

/-- The run up to there, which meets the guard as far as what comes then does. -/
theorem reaches_reply
    (accepted : receiveRegistration python floatEquals peer = .accepted registration [])
    {frame : List UInt8} (written : encodeFrame python (.dict request) = .ok frame)
    (fits : payload.length < 4294967296) (events : List BrokerEvent)
    (rest : Meets (Broker.step python floatEquals) (Broker.Bounded python)
      (replied peer registration request payload) events) :
    Run (Broker.step python floatEquals) {} (exchange peer request payload)
        (replied peer registration request payload) ∧
      Meets (Broker.step python floatEquals) (Broker.Bounded python) {}
        (exchange peer request payload ++ events) := by
  have registered : Broker.step python floatEquals { loop := .reading peer } .register =
      some { loop := .storing { peer, unread := [] } registration } := by
    simp only [Broker.step, Broker.accepts, accepted]
    rfl
  have contained : ¬ Recurses python (.dict request) := by
    rw [← uncaught_encodeFrame, written]
    exact uncaught_ok _
  have asked : Broker.step python floatEquals
      { connection := some { peer, unread := [] }, session := some registration }
      (.call request true) =
      some { connection := some { peer, asked := [⟨0, request⟩], unread := [] }
             session := some registration
             waiting := some ⟨0, request⟩
             calls := 1 } := by
    simp only [Broker.step, Option.isNone_none, if_true, Broker.call, written]
    rfl
  have answered : Broker.step python floatEquals
      { connection := some { peer, asked := [⟨0, request⟩], unread := [] }
        session := some registration
        waiting := some ⟨0, request⟩
        calls := 1 } (.answer payload) = some (replied peer registration request payload) := by
    simp only [Broker.step, List.length_nil, List.length_cons, Nat.zero_lt_succ, fits, and_self,
      if_true]
    rfl
  constructor
  · exact .next rfl (.next registered (.next rfl (.next asked (.next answered (.done _)))))
  · refine .next rfl trivial (.next registered trivial (.next rfl trivial (.next asked ?_
      (.next answered trivial rest))))
    exact fun _ => contained

/-- The reply, as one chunk. -/
def arrivedFrame (payload : List UInt8) : Stream := [.chunk (packHeader payload.length ++ payload)]

theorem reads_reply (python : Interpreter) (floatEquals : List Char → Int → Bool) (peer : Peer)
    (registration request : List (Str × Value)) (payload : List UInt8) : ∃ t, Broker.step python floatEquals
      (replied peer registration request payload) (.read (arrivedFrame payload) true) = some t := by
  have whole : content (arrivedFrame payload) <+: packHeader payload.length ++ payload := by
    simp [arrivedFrame, content, Arrival.bytes]
  exact ⟨_, if_pos whole⟩

theorem helpful_exchange
    (accepted : receiveRegistration python floatEquals peer = .accepted registration []) :
    ∀ event ∈ exchange peer request payload ++ [.read (arrivedFrame payload) true],
      event.Helpful python floatEquals := by
  intro event member
  simp only [exchange, List.cons_append, List.nil_append, List.mem_cons, List.not_mem_nil,
    or_false] at member
  rcases member with rfl | rfl | rfl | rfl | rfl | rfl
  · intro other rest same
    rw [accepted] at same
    cases same
    rfl
  all_goals trivial

def desktopPeer (capabilities : List Char) : Peer :=
  { uid := some 1000, opening := arrivedFrame (utf8 (registrationText capabilities)) }

def clipboardRequest : List (Str × Value) := [(str "type", .string (str "readClipboard"))]

theorem utf8_encodeObject_ne_nil (members : List (String × List Char)) :
    utf8 (encodeObject members) ≠ [] := by
  rw [encodeObject, utf8_cons]
  simp

theorem readFrame_desktop {python : Interpreter} {capabilities : List Char}
    {registration : List (Str × Value)}
    (loaded : loads python.hookLevels python.decoderLimit (registrationText capabilities) = .ok (.dict registration))
    (fits : (utf8 (registrationText capabilities)).length ≤ maxFrameSize) :
    readFrame python (desktopPeer capabilities).opening = (.ok registration, []) := by
  have opening : readPayload (desktopPeer capabilities).opening =
      (.ok (utf8 (registrationText capabilities)), []) :=
    readPayload_frame (utf8_encodeObject_ne_nil _) fits
  rw [readFrame_run, opening]
  simp only [decodePayload, decodeUTF8_utf8, loaded, mapError_ok]

theorem receiveRegistration_desktop :
    receiveRegistration cpython (fun _ _ => false) (desktopPeer readsClipboard) =
      .accepted (desktopRegistration clipboardRead) [] := by
  have length : (utf8 (registrationText readsClipboard)).length = 157 := by rfl
  have read := readFrame_desktop loads_registrationText (by rw [length]; decide)
  exact accepted_of_received rfl (by decide) read validateRegistration_desktop rfl

theorem encodeFrame_clipboardRequest : ∃ frame,
    encodeFrame cpython (.dict clipboardRequest) = .ok frame := ⟨_, rfl⟩

def clipboardText : List Char :=
  encodeObject [("type", encodeString "clipboard"), ("text", encodeString "hi")]

theorem calls_matched_clipboard :
    Always (Broker.step cpython fun _ _ => false) (Broker.Matches cpython) {}
      (exchange (desktopPeer readsClipboard) clipboardRequest (utf8 clipboardText) ++
        [.read (arrivedFrame (utf8 clipboardText)) true]) := by
  apply (calls_matched_iff cpython (fun _ _ => false) _
    (helpful_exchange receiveRegistration_desktop)).mpr
  have shallow : ¬ Deep cpython (utf8 clipboardText) := by
    rintro ⟨text, decoded, deep⟩
    rw [decodeUTF8_utf8] at decoded
    cases decoded
    cases deep
  have length : (utf8 clipboardText).length = 32 := by rfl
  have read : readPayload (arrivedFrame (utf8 clipboardText)) = (.ok (utf8 clipboardText), []) :=
    readPayload_frame (utf8_encodeObject_ne_nil _) (by rw [length]; decide)
  obtain ⟨frame, written⟩ := encodeFrame_clipboardRequest
  refine (reaches_reply receiveRegistration_desktop written (by omega) _ ?_).2
  refine fun t taken => ⟨fun raw rest other => ?_, trivial⟩
  cases read.symm.trans other
  exact shallow

/-- Lists in lists, one level deeper than the decoder recurses. -/
def deepText : List Char := List.replicate 1001 '[' ++ List.replicate 1001 ']'

theorem length_deepText : (utf8 deepText).length = 2002 := by
  rw [deepText, utf8_append, List.length_append, length_utf8_replicate (by decide),
    length_utf8_replicate (by decide)]

theorem scanValue_deep (limit : Nat) (more : List Char) :
    scanValue hook limit (List.replicate (limit + 1) '[' ++ more) = .error .recursion := by
  induction limit with
  | zero => rfl
  | succ limit ih =>
    rw [List.replicate_succ, List.cons_append, scanValue]
    have next : List.replicate (limit + 1) '[' ++ more = '[' :: (List.replicate limit '[' ++ more) :=
      by rw [List.replicate_succ, List.cons_append]
    have blank : skipSpace ('[' :: (List.replicate limit '[' ++ more)) =
        '[' :: (List.replicate limit '[' ++ more) := skipSpace_of_not (by decide)
    have other : ¬ '[' = ']' := by decide
    rw [next] at ih ⊢
    simp only [scanContainer, blank, if_neg other, List.length_cons, scanElements, ih, Except.map]

theorem deep_deepText : Deep cpython (utf8 deepText) := by
  refine ⟨deepText, decodeUTF8_utf8 deepText, ?_⟩
  have start : deepText = '[' :: (List.replicate 1000 '[' ++ List.replicate 1001 ']') := rfl
  have blank : skipSpace deepText = deepText := by
    rw [start]
    exact skipSpace_of_not (by decide)
  have noMark : ¬ deepText.head? = some '\ufeff' := by
    rw [start]
    decide
  simp only [loads, if_neg noMark, blank]
  rw [deepText, show cpython.decoderLimit = 1000 from rfl, scanValue_deep]

/-- The helper's one reply is valid JSON, and the call ends with a `RecursionError`. -/
theorem deep_reply_escapes :
    ¬ Always (Broker.step cpython fun _ _ => false) (Broker.Matches cpython) {}
      (exchange (desktopPeer readsClipboard) clipboardRequest (utf8 deepText) ++
        [.read (arrivedFrame (utf8 deepText)) true]) := by
  intro always
  have length := length_deepText
  obtain ⟨frame, written⟩ := encodeFrame_clipboardRequest
  have small : (utf8 deepText).length < 4294967296 := by omega
  obtain ⟨run, -⟩ := reaches_reply receiveRegistration_desktop written small [] trivial
  obtain ⟨t, last⟩ := reads_reply cpython (fun _ _ => false) (desktopPeer readsClipboard)
    (desktopRegistration clipboardRead) clipboardRequest (utf8 deepText)
  have matched := always.last (run.append (.next last (.done t)))
  have bounded := Broker.bounded_of_matches last matched
  have nonempty : utf8 deepText ≠ [] := List.ne_nil_of_length_pos (by omega)
  have fits : (utf8 deepText).length ≤ maxFrameSize := by
    rw [length]
    decide
  exact bounded (utf8 deepText) [] (readPayload_frame nonempty fits) deep_deepText

end Schedules

end SimpleVM.Agent
