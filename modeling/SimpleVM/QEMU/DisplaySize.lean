import SimpleVM.Transition.Run

/-!
# Display sizes

`requestDisplaySize` of `QEMUMachineRuntime` with its two routes to the guest: the agent, whose
answer comes later, and the backend. Beside the source's state stands what was asked for last and
what was handed over.
-/
namespace SimpleVM.QEMU

open Transition

abbrev Size := UInt16 × UInt16

/-- `UInt16(clamping:)`. -/
def clamped (value : Int) : UInt16 := UInt16.ofNat (min value.toNat 65535)

/-- The dimensions of `QEMUDisplaySize`, clamped. -/
def requestedSize (width height : Int) : Size := (clamped (max 640 width), clamped (max 480 height))

/-- `GuestDisplaySize.isValid`. -/
def isValidSize (size : Size) : Bool :=
  decide (640 ≤ size.1.toNat ∧ size.1.toNat ≤ 16384 ∧ 480 ≤ size.2.toNat ∧ size.2.toNat ≤ 16384)

inductive SizeBackend
  | spice (supportsDisplayResize display : Bool)
  /-- Whether a client is there, of a server that accepts sizes. -/
  | vnc (accepts : Bool)
deriving DecidableEq, Repr

def SizeBackend.accepts : SizeBackend → Bool
  | .spice supportsDisplayResize display => supportsDisplayResize && display
  | .vnc accepts => accepts

/-- What becomes of a call. -/
inductive Handling
  | started | suppressed | turnedDown | handed
deriving DecidableEq, Repr

structure DisplaySizes where
  /-- The guest runs Hyprland and its agent supports `displayResize`. -/
  agentResizes : Bool
  backend : SizeBackend
  lastRequestedDisplaySize : Option Size
  /-- The requests the agent has not answered, oldest first. -/
  inFlight : List Size
  /-- The size of the latest call. -/
  latest : Option Size
  /-- What was handed to the guest, latest first. -/
  handed : List Size
  /-- The backend has turned down the size of the latest call. -/
  missed : Bool
deriving DecidableEq, Repr

namespace DisplaySizes

def hand (d : DisplaySizes) (size : Size) : DisplaySizes :=
  { d with lastRequestedDisplaySize := some size, handed := size :: d.handed, missed := false }

def requestBackendDisplaySize (d : DisplaySizes) (size : Size) : DisplaySizes × Handling :=
  match d.backend with
  | .spice supportsDisplayResize display =>
    if supportsDisplayResize && display then
      if d.lastRequestedDisplaySize = some size then ({ d with missed := false }, .suppressed)
      else (d.hand size, .handed)
    else ({ d with missed := true }, .turnedDown)
  | .vnc accepts =>
    if d.lastRequestedDisplaySize = some size then ({ d with missed := false }, .suppressed)
    else if accepts then (d.hand size, .handed)
    else ({ d with lastRequestedDisplaySize := some size, missed := true }, .turnedDown)

def requestDisplaySize (d : DisplaySizes) (width height : Int) : DisplaySizes × Handling :=
  let size := requestedSize width height
  let d := { d with latest := some size }
  if d.agentResizes then
    if d.lastRequestedDisplaySize = some size then ({ d with missed := false }, .suppressed)
    else
      ({ d with
        lastRequestedDisplaySize := some size
        inFlight := d.inFlight ++ [size]
        missed := false }, .started)
  else d.requestBackendDisplaySize size

/-- The catch block of the request to the agent. -/
def agentFailed (d : DisplaySizes) (size : Size) : DisplaySizes :=
  ({ d with lastRequestedDisplaySize := none }.requestBackendDisplaySize size).1

def setSupport (d : DisplaySizes) (supported : Bool) : DisplaySizes :=
  match d.backend with
  | .spice _ display => { d with backend := .spice supported display }
  | .vnc _ => d

inductive SizeEvent
  | request (width height : Int)
  /-- The request at an index is answered. -/
  | finishes (index : Nat) (succeeds : Bool)
  | agent (resizes : Bool)
  /-- `displayResizeSupportHandler`, with the size the view prefers, if there is one. -/
  | spiceSupport (supported : Bool) (preferred : Option (Int × Int))
  | spiceDisplay (present : Bool)
  | vncClient (accepts : Bool)
deriving DecidableEq, Repr

def step (d : DisplaySizes) : SizeEvent → Option DisplaySizes
  | .request width height => some (d.requestDisplaySize width height).1
  | .finishes index succeeds =>
    match d.inFlight[index]? with
    | none => none
    | some size =>
      let rest := { d with inFlight := d.inFlight.eraseIdx index }
      if succeeds then
        if isValidSize size then
          some { rest with handed := size :: d.handed, missed := false }
        else none
      else some (rest.agentFailed size)
  | .agent resizes => some { d with agentResizes := resizes }
  | .spiceSupport supported preferred =>
    match d.backend with
    | .vnc _ => none
    | .spice _ _ =>
      let d := d.setSupport supported
      if supported then
        match preferred with
        | some (width, height) => some (d.requestDisplaySize width height).1
        | none => some d
      else some { d with lastRequestedDisplaySize := none }
  | .spiceDisplay present =>
    match d.backend with
    | .vnc _ => none
    | .spice supports _ => some { d with backend := .spice supports present }
  | .vncClient accepts =>
    match d.backend with
    | .vnc _ => some { d with backend := .vnc accepts }
    | .spice _ _ => none

def start (agentResizes : Bool) (backend : SizeBackend) : DisplaySizes :=
  ⟨agentResizes, backend, none, [], none, [], false⟩

/-- At rest, the size handed over last is the size of the latest call. -/
def Converged (d : DisplaySizes) : Prop :=
  d.inFlight = [] → d.backend.accepts = true → d.handed.head? = d.latest

/-- The size of a call that is suppressed. -/
def suppressedBy (d : DisplaySizes) : SizeEvent → Option Size
  | .request width height =>
    if (d.requestDisplaySize width height).2 = .suppressed then
      some (requestedSize width height)
    else none
  | .spiceSupport true (some (width, height)) =>
    if ((d.setSupport true).requestDisplaySize width height).2 = .suppressed then
      some (requestedSize width height)
    else none
  | _ => none

/-- Only the size that was handed over last is suppressed. -/
def SuppressesHanded (d : DisplaySizes) (event : SizeEvent) (_ : DisplaySizes) : Prop :=
  ∀ size, d.suppressedBy event = some size → d.handed.head? = some size

/-- VNC remembers a size also when it is lost; SPICE does not. -/
def Reached (d : DisplaySizes) : Prop := d.backend ≠ .vnc false

/-- A call finds no request of its size in flight, and one for the backend none at all. -/
def OrderlyCall (d : DisplaySizes) (width height : Int) : Prop :=
  if d.agentResizes then
    d.lastRequestedDisplaySize = some (requestedSize width height) → d.inFlight = []
  else d.inFlight = [] ∧ d.Reached

instance (d : DisplaySizes) : Decidable d.Reached :=
  inferInstanceAs (Decidable (d.backend ≠ .vnc false))

instance (d : DisplaySizes) (width height : Int) : Decidable (d.OrderlyCall width height) :=
  inferInstanceAs (Decidable (if d.agentResizes then
    d.lastRequestedDisplaySize = some (requestedSize width height) → d.inFlight = []
  else d.inFlight = [] ∧ d.Reached))

/-- What was turned down is asked for again when the backend begins to accept. -/
def Recovers (d : DisplaySizes) (backend : SizeBackend) : Prop :=
  d.inFlight = [] → backend.accepts = true → d.missed = false

/-- The requests are answered in their order, and only the latest of them fails. -/
def Orderly (d : DisplaySizes) : SizeEvent → Prop
  | .request width height => d.OrderlyCall width height
  | .finishes index succeeds =>
    index = 0 ∧ (succeeds = false → d.inFlight.length = 1 ∧ d.Reached)
  | .agent _ => True
  | .spiceSupport supported preferred =>
    supported = true →
      match preferred with
      | some (width, height) => (d.setSupport true).OrderlyCall width height
      | none => d.Recovers (d.setSupport true).backend
  | .spiceDisplay present =>
    match d.backend with
    | .spice supports _ => d.Recovers (.spice supports present)
    | .vnc _ => True
  | .vncClient accepts => d.Recovers (.vnc accepts)

/-- What is remembered was handed over or is on its way, as the size of the latest call. -/
structure Settled (d : DisplaySizes) : Prop where
  rest : d.inFlight = [] → d.missed = false → d.handed.head? = d.latest
  flying : ∀ size, d.inFlight.getLast? = some size → d.latest = some size
  accepting : d.inFlight = [] → d.backend.accepts = true → d.missed = false
  remembered : ∀ size, d.lastRequestedDisplaySize = some size →
    if d.inFlight = [] then d.handed.head? = some size else d.latest = some size

variable {d t : DisplaySizes} {size : Size} {width height : Int} {event : SizeEvent}

theorem Settled.converged (settled : d.Settled) : d.Converged :=
  fun resting accepts => settled.rest resting (settled.accepting resting accepts)

/-- A state at rest whose latest size is the one handed over last. -/
theorem settled_of_handed (resting : d.inFlight = []) (handed : d.handed.head? = d.latest)
    (found : d.missed = false)
    (remembered : ∀ s, d.lastRequestedDisplaySize = some s → d.handed.head? = some s) :
    d.Settled where
  rest := fun _ _ => handed
  flying := by
    intro s last
    rw [resting] at last
    cases last
  accepting := fun _ _ => found
  remembered := by
    intro s same
    rw [if_pos resting]
    exact remembered s same

theorem hand_settled (resting : d.inFlight = []) (latest : d.latest = some size) :
    (d.hand size).Settled := by
  apply settled_of_handed
  · exact resting
  · exact latest.symm
  · rfl
  · exact fun s same => same

/-- The backend takes the latest size, or turns it down. -/
theorem requestBackend_settled (resting : d.inFlight = []) (reached : d.Reached)
    (latest : d.latest = some size)
    (remembered : ∀ s, d.lastRequestedDisplaySize = some s → d.handed.head? = some s) :
    (d.requestBackendDisplaySize size).1.Settled ∧
      ((d.requestBackendDisplaySize size).2 = .suppressed → d.handed.head? = some size) := by
  have kept (repeated : d.lastRequestedDisplaySize = some size) :
      ({ d with missed := false } : DisplaySizes).Settled := by
    apply settled_of_handed
    · exact resting
    · exact (remembered size repeated).trans latest.symm
    · rfl
    · exact remembered
  unfold requestBackendDisplaySize
  cases backend : d.backend with
  | spice supports display =>
    rw [backend] at kept
    simp only
    split
    · split
      · rename_i repeated
        exact ⟨kept repeated, fun _ => remembered size repeated⟩
      · refine ⟨hand_settled resting latest, ?_⟩
        intro suppressed
        cases suppressed
    · rename_i refused
      refine ⟨⟨?_, ?_, ?_, ?_⟩, ?_⟩
      · intro _ found
        cases found
      · intro s last
        rw [show ({ d with missed := true } : DisplaySizes).inFlight = [] from resting] at last
        cases last
      · intro _ accepts
        simp only [SizeBackend.accepts] at accepts
        exact absurd accepts refused
      · intro s same
        simp only [resting, if_true]
        exact remembered s same
      · intro suppressed
        cases suppressed
  | vnc accepts =>
    have accepted : accepts = true := by
      cases accepts with
      | true => rfl
      | false => exact absurd backend reached
    subst accepted
    rw [backend] at kept
    simp only [if_true]
    split
    · rename_i repeated
      exact ⟨kept repeated, fun _ => remembered size repeated⟩
    · refine ⟨hand_settled resting latest, ?_⟩
      intro suppressed
      cases suppressed

/-- What is remembered at rest was handed over last. -/
theorem Settled.handed (settled : d.Settled) (resting : d.inFlight = []) :
    ∀ s, d.lastRequestedDisplaySize = some s → d.handed.head? = some s := by
  intro s same
  have remembered := settled.remembered s same
  rwa [if_pos resting] at remembered

theorem call_settled (handed : d.inFlight = [] →
      ∀ s, d.lastRequestedDisplaySize = some s → d.handed.head? = some s)
    (orderly : d.OrderlyCall width height) :
    (d.requestDisplaySize width height).1.Settled ∧
      ((d.requestDisplaySize width height).2 = .suppressed →
        d.handed.head? = some (requestedSize width height)) := by
  unfold requestDisplaySize
  unfold OrderlyCall at orderly
  simp only
  split
  · rename_i agent
    rw [if_pos agent] at orderly
    split
    · rename_i repeated
      have resting := orderly repeated
      refine ⟨?_, fun _ => handed resting _ repeated⟩
      exact settled_of_handed resting (handed resting _ repeated) rfl (handed resting)
    · refine ⟨⟨?_, ?_, ?_, ?_⟩, ?_⟩
      · intro resting
        simp at resting
      · intro s last
        simpa using last
      · intro resting
        simp at resting
      · intro s same
        simpa using same
      · intro suppressed
        cases suppressed
  · rename_i direct
    rw [if_neg direct] at orderly
    obtain ⟨resting, reached⟩ := orderly
    exact requestBackend_settled (d := { d with latest := some (requestedSize width height) })
      resting reached rfl (handed resting)

/-- Without the memory, or with another backend, what is settled stays so. -/
theorem Settled.congr (settled : d.Settled) (flight : t.inFlight = d.inFlight)
    (latest : t.latest = d.latest) (handed : t.handed = d.handed) (missed : t.missed = d.missed)
    (accepting : t.inFlight = [] → t.backend.accepts = true → t.missed = false)
    (remembered : ∀ s, t.lastRequestedDisplaySize = some s →
      d.lastRequestedDisplaySize = some s) : t.Settled where
  rest := by
    rw [flight, latest, handed, missed]
    exact settled.rest
  flying := by
    rw [flight, latest]
    exact settled.flying
  accepting := accepting
  remembered := by
    intro s same
    rw [flight, latest, handed]
    exact settled.remembered s (remembered s same)

/-- The oldest request has succeeded. -/
theorem Settled.succeeded {others : List Size} (settled : d.Settled)
    (flight : d.inFlight = size :: others) :
    ({ d with inFlight := others, handed := size :: d.handed, missed := false } :
      DisplaySizes).Settled := by
  have latest : d.latest = d.inFlight.getLast? := by
    cases last : d.inFlight.getLast? with
    | none => simp [flight] at last
    | some s => exact settled.flying s last
  have remembered : ∀ s, d.lastRequestedDisplaySize = some s → d.latest = some s := by
    intro s same
    have flying := settled.remembered s same
    rwa [if_neg (by simp [flight])] at flying
  rw [flight] at latest
  cases others with
  | nil =>
    have only : d.latest = some size := latest
    apply settled_of_handed
    · rfl
    · exact only.symm
    · rfl
    · intro s same
      exact only.symm.trans (remembered s same)
  | cons next more =>
    refine ⟨?_, ?_, ?_, ?_⟩
    · intro resting
      cases resting
    · intro s last
      rw [← last]
      simpa using latest
    · intro resting
      cases resting
    · intro s same
      simpa using remembered s same

/-- The only request has failed, and its size goes to the backend. -/
theorem Settled.failed (settled : d.Settled) (flight : d.inFlight = [size])
    (reached : d.Reached) :
    ({ d with inFlight := [] } : DisplaySizes).agentFailed size |>.Settled := by
  have latest : d.latest = some size := settled.flying size (by simp [flight])
  have sent := requestBackend_settled
    (d := { d with inFlight := [], lastRequestedDisplaySize := none }) rfl reached
    latest (by intros; contradiction)
  exact sent.1

@[simp]
theorem setSupport_fields (d : DisplaySizes) (supported : Bool) :
    (d.setSupport supported).inFlight = d.inFlight ∧
      (d.setSupport supported).lastRequestedDisplaySize = d.lastRequestedDisplaySize ∧
      (d.setSupport supported).handed = d.handed ∧
      (d.setSupport supported).latest = d.latest ∧
      (d.setSupport supported).missed = d.missed := by
  unfold setSupport
  split <;> exact ⟨rfl, rfl, rfl, rfl, rfl⟩

theorem Settled.supportedCall (settled : d.Settled)
    (orderly : (d.setSupport true).OrderlyCall width height) :
    ((d.setSupport true).requestDisplaySize width height).1.Settled ∧
      (((d.setSupport true).requestDisplaySize width height).2 = .suppressed →
        d.handed.head? = some (requestedSize width height)) := by
  obtain ⟨flight, last, handed, -, -⟩ := setSupport_fields d true
  rw [← handed]
  apply call_settled _ orderly
  rw [flight, last, handed]
  exact settled.handed

theorem Settled.support (settled : d.Settled) {supported : Bool} {preferred : Option (Int × Int)}
    (orderly : d.Orderly (.spiceSupport supported preferred))
    (taken : step d (.spiceSupport supported preferred) = some t) : t.Settled := by
  simp only [DisplaySizes.step] at taken
  split at taken
  · contradiction
  · rename_i supports display backend
    cases supported with
    | false =>
      cases taken
      obtain ⟨flight, _, handed, latest, missed⟩ := setSupport_fields d false
      have refuses : (d.setSupport false).backend = .spice false display := by
        unfold setSupport
        rw [backend]
      apply settled.congr
      · exact flight
      · exact latest
      · exact handed
      · exact missed
      · simp [refuses, SizeBackend.accepts]
      · intro s same
        cases same
    | true =>
      have allowed := orderly rfl
      cases preferred with
      | some size =>
        obtain ⟨width, height⟩ := size
        cases taken
        exact (settled.supportedCall allowed).1
      | none =>
        cases taken
        obtain ⟨flight, last, handed, latest, missed⟩ := setSupport_fields d true
        apply settled.congr flight latest handed missed
        · rw [flight, missed]
          exact allowed
        · rw [last]
          exact fun _ same => same

theorem Settled.step (settled : d.Settled) (orderly : d.Orderly event)
    (taken : step d event = some t) : t.Settled := by
  cases event with
  | request width height =>
    cases taken
    exact (call_settled settled.handed orderly).1
  | finishes index succeeds =>
    obtain ⟨rfl, onlyFailure⟩ := orderly
    simp only [DisplaySizes.step] at taken
    cases flight : d.inFlight with
    | nil => simp [flight] at taken
    | cons size others =>
      rw [flight] at taken
      simp only [List.getElem?_cons_zero, List.eraseIdx_cons_zero] at taken
      cases succeeds with
      | true =>
        simp only [if_true] at taken
        split at taken
        · cases taken
          exact settled.succeeded flight
        · contradiction
      | false =>
        cases taken
        obtain ⟨one, reached⟩ := onlyFailure rfl
        have alone : others = [] := by simpa [flight] using one
        subst alone
        exact settled.failed flight reached
  | agent resizes =>
    cases taken
    exact settled.congr rfl rfl rfl rfl settled.accepting (fun _ same => same)
  | spiceSupport supported preferred => exact settled.support orderly taken
  | spiceDisplay present =>
    simp only [DisplaySizes.step] at taken
    simp only [Orderly] at orderly
    cases backend : d.backend with
    | vnc accepts => simp [backend] at taken
    | spice supports display =>
      rw [backend] at taken orderly
      cases taken
      exact settled.congr rfl rfl rfl rfl orderly (fun _ same => same)
  | vncClient accepts =>
    simp only [DisplaySizes.step] at taken
    cases backend : d.backend with
    | spice supports display => simp [backend] at taken
    | vnc before =>
      rw [backend] at taken
      cases taken
      exact settled.congr rfl rfl rfl rfl orderly (fun _ same => same)

theorem Settled.suppressesHanded (settled : d.Settled) (orderly : d.Orderly event) :
    d.SuppressesHanded event t := by
  intro size suppressed
  cases event with
  | request width height =>
    simp only [suppressedBy] at suppressed
    split at suppressed
    · rename_i repeated
      cases suppressed
      exact (call_settled settled.handed orderly).2 repeated
    · cases suppressed
  | spiceSupport supported preferred =>
    cases supported with
    | false => cases suppressed
    | true =>
      cases preferred with
      | none => cases suppressed
      | some size =>
        obtain ⟨width, height⟩ := size
        simp only [suppressedBy] at suppressed
        split at suppressed
        · rename_i repeated
          cases suppressed
          exact (settled.supportedCall (orderly rfl)).2 repeated
        · cases suppressed
  | finishes index succeeds => cases suppressed
  | agent resizes => cases suppressed
  | spiceDisplay present => cases suppressed
  | vncClient accepts => cases suppressed

theorem start_settled (agentResizes : Bool) (backend : SizeBackend) :
    (start agentResizes backend).Settled := by
  apply settled_of_handed
  · rfl
  · rfl
  · rfl
  · intro s same
    cases same

/-- **Display sizes converge**: in every run whose steps are orderly, the guest has the size of
the latest call whenever nothing is in flight and the backend accepts sizes, and a call is
suppressed only if its size is the one handed over last. -/
theorem sizes_converge (agentResizes : Bool) (backend : SizeBackend) (events : List SizeEvent)
    (orderly : Meets step Orderly (start agentResizes backend) events) :
    Always step Converged (start agentResizes backend) events ∧
      Along step SuppressesHanded (start agentResizes backend) events := by
  constructor
  · exact always_of_meets (I := Settled) (V := fun _ => True)
      (fun _ _ _ settled _ allowed taken => settled.step allowed taken)
      (fun _ settled => settled.converged) _ _ (start_settled agentResizes backend)
      (fun _ _ => trivial) orderly
  · exact along_of_meets (I := Settled)
      (fun _ _ _ settled allowed taken => settled.step allowed taken)
      (fun _ _ _ settled allowed _ => settled.suppressesHanded allowed) _ _
      (start_settled agentResizes backend) orderly

/-- Two sizes over the agent, one answered after the other, and the second once more. -/
theorem sizes_converge_twice :
    Always step Converged (start true (.spice true true))
        [.request 800 600, .request 900 700, .finishes 0 true, .finishes 0 false,
          .request 900 700] ∧
      Along step SuppressesHanded (start true (.spice true true))
        [.request 800 600, .request 900 700, .finishes 0 true, .finishes 0 false,
          .request 900 700] := by
  apply sizes_converge
  apply Meets.next rfl
  · show OrderlyCall _ _ _
    decide
  apply Meets.next rfl
  · show OrderlyCall _ _ _
    decide
  apply Meets.next rfl
  · exact ⟨rfl, by intros; contradiction⟩
  apply Meets.next rfl
  · exact ⟨rfl, fun _ => ⟨rfl, by decide⟩⟩
  apply Meets.next rfl
  · show OrderlyCall _ _ _
    decide
  trivial

/-- An older request fails after a newer one has succeeded, and its size reaches the guest
last. -/
theorem late_failure_overrides :
    ¬ Always step Converged (start true (.spice true true))
      [.request 800 600, .request 900 700, .finishes 1 true, .finishes 0 false] := by
  intro always
  obtain ⟨t, executed⟩ : ∃ t, execute step (start true (.spice true true))
      [.request 800 600, .request 900 700, .finishes 1 true, .finishes 0 false] = some t :=
    ⟨_, rfl⟩
  have converged := always.last (run_of_execute executed)
  cases executed
  unfold Converged at converged
  exact absurd converged (by decide)

end DisplaySizes

end SimpleVM.QEMU
