import SimpleVM.QEMU.ForceStop
import SimpleVM.Transition.Tasks

/-!
# Isolation of runs

The process callbacks of `QEMUMachineRuntime` compare generations, and its suspended calls do
not: a start or a stop that is resumed during a newer start writes the state and acts on
whatever the fields hold. The fields filled beside the controllers are added to the runtime
here. An earlier call spares the newer start exactly where it goes on without them, or finds
in them nothing that is newer.
-/
namespace SimpleVM.QEMU

open Domain Transition

inductive DisplayBackend
  | vnc | spiceGL
deriving DecidableEq, Repr

namespace Runtime

/-- `processController` and `softwareTPMController` are nil, so that nothing is awaited. -/
def holdsNothing (s : Runtime) : Bool :=
  s.processController.isNone && s.softwareTPMController.isNone

/-- The resumed call runs `clearRuntime`. -/
def clearsOnResume (s : Runtime) (call : Call) (reply : Reply) : Bool :=
  match call.activity, reply with
  | .start .startingProcess, _ => false
  | .start (.processFailed _), .returns => s.holdsNothing
  | .start (.processFailed _), _ => false
  | .start _, .throws _ => s.holdsNothing
  | .shutdown _ (.killed _), _ => s.softwareTPMController.isNone
  | .shutdown _ (.stoppingTPM _), _ => true
  | .stop .requestingShutdown, .throws _ => s.holdsNothing
  | .stop (.answered .stopped), .returns => s.softwareTPMController.isNone
  | .stop (.stoppingTPM _), .returns => true
  | .exit .., _ => decide (call.generation = s.runtimeGeneration)
  | _, _ => false

/-- The step runs `clearRuntime`. -/
def clears (s : Runtime) : Event → Bool
  | .start discoveryError => s.state.canStart && discoveryError.isSome && s.holdsNothing
  | .stop gracefulShutdown =>
    decide (s.state = .running ∨ s.state = .stopping) && !gracefulShutdown && s.holdsNothing
  | .forceStop => s.isActive && s.holdsNothing
  | .resume index reply =>
    match s.calls[index]? with
    | none => false
    | some call => s.clearsOnResume call reply
  | _ => false

end Runtime

/-- The runtime with the fields a start fills beside its controllers, each named by the
generation of that start. -/
structure DisplayRuntime where
  runtime : Runtime
  serialMonitorTask : Option Nat := none
  vncClient : Option Nat := none
  spiceController : Option Nat := none

namespace DisplayRuntime

def create (recorded : MachineRuntimeState) : DisplayRuntime := { runtime := .create recorded }

/-- `clearRuntime`: the display clients are disconnected and the fields set to nil. -/
def clearRuntime (s : DisplayRuntime) : DisplayRuntime :=
  { s with serialMonitorTask := none, vncClient := none, spiceController := none }

/-- The field a resumed start fills. A SPICE controller is assigned before it connects, a VNC
client once it has. -/
def assignOnResume (displayBackend : Nat → DisplayBackend) (s : DisplayRuntime) (call : Call)
    (reply : Reply) : DisplayRuntime :=
  match call.activity, reply, displayBackend call.generation with
  | .start .processStarted, .returns, .spiceGL => { s with spiceController := some call.generation }
  | .start .connecting, .returns, .vnc => { s with vncClient := some call.generation }
  | _, _, _ => s

def assign (displayBackend : Nat → DisplayBackend) (s : DisplayRuntime) : Event → DisplayRuntime
  | .start _ =>
    if s.runtime.state.canStart then
      { s with serialMonitorTask := some (s.runtime.runtimeGeneration + 1) }
    else s
  | .resume index reply =>
    match s.runtime.calls[index]? with
    | none => s
    | some call => s.assignOnResume displayBackend call reply
  | _ => s

/-- `displayBackend` is what each start discovers. -/
def step (displayBackend : Nat → DisplayBackend) (s : DisplayRuntime) (e : Event) :
    Option DisplayRuntime :=
  match s.runtime.step e with
  | none => none
  | some runtime =>
    let fields := if s.runtime.clears e then s.clearRuntime else s.assign displayBackend e
    some { fields with runtime := runtime }

end DisplayRuntime

/-- Part of `start`, its catch block included, or of `stop`. -/
def Activity.isStartOrStop : Activity → Bool
  | .start _ | .stop _ => true
  | .shutdown outcome _ => decide (outcome ≠ .stopped)
  | .exit .. => false

/-- A stop of the TPM is asked for. -/
def Call.stopsTPM (t : Nat) (call : Call) : Bool := decide (call.activity.tpm? = some t)

/-- What a field holds of a start after generation `g` stays in it. -/
def Keeps (g : Nat) (field field' : Option Nat) : Prop :=
  ∀ c, field = some c → g < c → field' = some c

/-- The field holds nothing of a start after generation `g`. -/
def NotNewer (g : Nat) (field : Option Nat) : Prop := ∀ c, field = some c → c ≤ g

namespace DisplayRuntime

/-- The report comes from process controller `c`. -/
def isFrom (c : Nat) (report : Nat × ProcessState) : Bool := decide (report.1 = c)

/-- The state and all that belongs to starts after generation `g` are left alone: the fields,
the process controllers, which report every request they take, and the software TPMs. -/
structure Spares (g : Nat) (s t : DisplayRuntime) : Prop where
  state : t.runtime.state = s.runtime.state
  processController : Keeps g s.runtime.processController t.runtime.processController
  softwareTPMController : Keeps g s.runtime.softwareTPMController t.runtime.softwareTPMController
  serialMonitorTask : Keeps g s.serialMonitorTask t.serialMonitorTask
  vncClient : Keeps g s.vncClient t.vncClient
  spiceController : Keeps g s.spiceController t.spiceController
  controllers : ∀ c, g < c → t.runtime.controllers c = s.runtime.controllers c
  reports : ∀ c, g < c →
    t.runtime.callbacks.countP (isFrom c) = s.runtime.callbacks.countP (isFrom c)
  tpms : ∀ c, g < c → t.runtime.tpms c = s.runtime.tpms c
  stops : ∀ c, g < c →
    t.runtime.calls.countP (Call.stopsTPM c) ≤ s.runtime.calls.countP (Call.stopsTPM c)

/-- A start or a stop that is resumed during a newer start spares it. -/
def Isolated (s : DisplayRuntime) (e : Event) (t : DisplayRuntime) : Prop :=
  ∀ index reply call, e = .resume index reply → s.runtime.calls[index]? = some call →
    call.activity.isStartOrStop = true → call.generation < s.runtime.runtimeGeneration →
    Spares call.generation s t

/-- `clearRuntime(); transition(to: outcome)` has no effect on newer starts. -/
structure MayFinish (g : Nat) (s : DisplayRuntime) (outcome : MachineRuntimeState) : Prop where
  state : s.runtime.state = outcome
  processController : NotNewer g s.runtime.processController
  softwareTPMController : NotNewer g s.runtime.softwareTPMController
  serialMonitorTask : NotNewer g s.serialMonitorTask
  vncClient : NotNewer g s.vncClient
  spiceController : NotNewer g s.spiceController

/-- Where a call goes on to stop the TPM it finds and to clear the runtime. -/
def MayStopTPM (g : Nat) (s : DisplayRuntime) (outcome : MachineRuntimeState) : Prop :=
  match s.runtime.softwareTPMController with
  | some t => t ≤ g
  | none => s.MayFinish g outcome

/-- Where a call goes on to stop what it finds. A controller is asked to in a later step. -/
def MayShutDown (g : Nat) (s : DisplayRuntime) (outcome : MachineRuntimeState) : Prop :=
  s.runtime.processController = none → s.MayStopTPM g outcome

/-- The points at which a call of generation `g` goes on with the fields or the state of the
runtime, or at a process controller it has taken from them. -/
def MayGoOn (displayBackend : Nat → DisplayBackend) (s : DisplayRuntime) (g : Nat) :
    Activity → Reply → Prop
  | .start .allocatingPort, .configured false => NotNewer g s.runtime.processController
  | .start .awaitingTPM, .returns =>
    NotNewer g s.runtime.softwareTPMController ∧ NotNewer g s.runtime.processController
  | .start .processStarted, .returns => displayBackend g = .spiceGL → NotNewer g s.spiceController
  | .start .connecting, .returns =>
    s.runtime.state = .running ∧ (displayBackend g = .vnc → NotNewer g s.vncClient)
  | .start (.processFailed message), _ => s.MayShutDown g (.failed message)
  | .start _, .throws message => s.MayShutDown g (.failed message)
  | .shutdown _ (.killQueued c), _ => (s.runtime.controllers c).process = true → c ≤ g
  | .shutdown outcome (.killed _), _ => s.MayStopTPM g outcome
  | .shutdown outcome (.stoppingTPM _), _ => s.MayFinish g outcome
  | .stop .requestingShutdown, .throws _ => s.MayShutDown g .stopped
  | .stop (.stopQueued c), _ => (s.runtime.controllers c).process = true → c ≤ g
  | .stop (.answered .stopped), _ => s.MayStopTPM g .stopped
  | .stop (.answered (.requestFailed _)), _ => s.runtime.state = .running
  | .stop (.stoppingTPM _), _ => s.MayFinish g .stopped
  | _, _ => True

/-- A start or a stop that is resumed during a newer start may go on. -/
def Confined (displayBackend : Nat → DisplayBackend) (s : DisplayRuntime) (e : Event) : Prop :=
  ∀ index reply call, e = .resume index reply → s.runtime.calls[index]? = some call →
    call.activity.isStartOrStop = true → call.generation < s.runtime.runtimeGeneration →
    s.MayGoOn displayBackend call.generation call.activity reply

section Blocks

variable {g : Nat} {s t : DisplayRuntime} {calls : List Call}

theorem countP_eraseIdx_le (p : Call → Bool) (index : Nat) :
    (calls.eraseIdx index).countP p ≤ calls.countP p :=
  (List.eraseIdx_sublist calls index).countP_le

theorem countP_eraseIdx_eq {p : Call → Bool} {index : Nat} {call : Call}
    (found : calls[index]? = some call) (apart : p call = false) :
    (calls.eraseIdx index).countP p = calls.countP p := by
  induction calls generalizing index with
  | nil => simp at found
  | cons first rest ih =>
    cases index with
    | zero =>
      simp only [List.getElem?_cons_zero, Option.some.injEq] at found
      subst found
      simp [apart]
    | succ index =>
      simp only [List.getElem?_cons_succ] at found
      simp only [List.eraseIdx_cons_succ, List.countP_cons, ih found]

/-- A call that goes on with the fields as they are. -/
theorem spares_push
    (same : ∀ c, calls.countP (Call.stopsTPM c) = s.runtime.calls.countP (Call.stopsTPM c))
    (a : Activity) :
    Spares g s { s with runtime := { s.runtime with calls := calls }.push g a } ↔
      ∀ c, a.tpm? = some c → c ≤ g := by
  constructor
  · intro spares c stops
    apply Nat.le_of_not_lt
    intro newer
    have count := spares.stops c newer
    simp only [Runtime.push, List.countP_cons, same c, Call.stopsTPM, stops, decide_true,
      if_true] at count
    omega
  · intro own
    refine ⟨rfl, fun _ held _ => held, fun _ held _ => held, fun _ held _ => held,
      fun _ held _ => held, fun _ held _ => held, fun _ _ => rfl, fun _ _ => rfl, fun _ _ => rfl,
      ?_⟩
    intro c newer
    have apart : a.tpm? ≠ some c := fun stops => absurd (own c stops) (by omega)
    simp only [Runtime.push, List.countP_cons, same c, Call.stopsTPM, apart, decide_false,
      Bool.false_eq_true, if_false]
    omega

/-- `clearRuntime(); transition(to: outcome)`. -/
theorem spares_finish
    (fewer : ∀ c, calls.countP (Call.stopsTPM c) ≤ s.runtime.calls.countP (Call.stopsTPM c))
    (outcome : MachineRuntimeState) :
    Spares g s { s.clearRuntime with
      runtime := { s.runtime with calls := calls }.finish outcome } ↔ s.MayFinish g outcome := by
  have older {field : Option Nat} (keeps : Keeps g field none) : NotNewer g field := by
    intro c held
    apply Nat.le_of_not_lt
    intro newer
    cases keeps c held newer
  have keeps {field : Option Nat} (older : NotNewer g field) : Keeps g field none := by
    intro c held newer
    have bound := older c held
    omega
  constructor
  · intro spares
    exact ⟨spares.state.symm, older spares.processController, older spares.softwareTPMController,
      older spares.serialMonitorTask, older spares.vncClient, older spares.spiceController⟩
  · intro may
    exact ⟨may.state.symm, keeps may.processController, keeps may.softwareTPMController,
      keeps may.serialMonitorTask, keeps may.vncClient, keeps may.spiceController,
      fun _ _ => rfl, fun _ _ => rfl, fun _ _ => rfl, fun c _ => fewer c⟩

/-- The software TPM that the runtime holds is stopped, or there is none and the call ends. -/
theorem spares_takeTPM
    (same : ∀ c, calls.countP (Call.stopsTPM c) = s.runtime.calls.countP (Call.stopsTPM c))
    (activity : Nat → Activity) (named : ∀ c, (activity c).tpm? = some c)
    (outcome : MachineRuntimeState) :
    Spares g s { (if s.runtime.softwareTPMController.isNone then s.clearRuntime else s) with
      runtime := match s.runtime.softwareTPMController with
        | some c => { s.runtime with calls := calls }.push g (activity c)
        | none => { s.runtime with calls := calls }.finish outcome } ↔
      s.MayStopTPM g outcome := by
  unfold MayStopTPM
  cases holds : s.runtime.softwareTPMController with
  | none =>
    simp only [Option.isNone_none, if_true]
    exact spares_finish (fun c => Nat.le_of_eq (same c)) outcome
  | some held =>
    simp only [Option.isNone_some, Bool.false_eq_true, if_false]
    rw [spares_push same, named]
    constructor
    · intro own
      exact own held rfl
    · intro own c stops
      cases stops
      exact own

/-- The process controller that the runtime holds is asked to stop, or there is none. -/
theorem spares_takeProcess
    (same : ∀ c, calls.countP (Call.stopsTPM c) = s.runtime.calls.countP (Call.stopsTPM c))
    (queued activity : Nat → Activity) (apart : ∀ c, (queued c).tpm? = none)
    (named : ∀ c, (activity c).tpm? = some c) (outcome : MachineRuntimeState) :
    Spares g s { (if s.runtime.holdsNothing then s.clearRuntime else s) with
      runtime := match s.runtime.processController with
        | some c => { s.runtime with calls := calls }.push g (queued c)
        | none => match s.runtime.softwareTPMController with
          | some c => { s.runtime with calls := calls }.push g (activity c)
          | none => { s.runtime with calls := calls }.finish outcome } ↔
      s.MayShutDown g outcome := by
  unfold MayShutDown Runtime.holdsNothing
  cases holds : s.runtime.processController with
  | none =>
    simp only [Option.isNone_none, Bool.true_and, forall_const]
    exact spares_takeTPM same activity named outcome
  | some held =>
    simp only [Option.isNone_some, Bool.false_and, Bool.false_eq_true, if_false, reduceCtorEq,
      false_implies, iff_true]
    rw [spares_push same, apart]
    intro c stops
    cases stops

@[simp] theorem keeps_self (g : Nat) (field : Option Nat) : Keeps g field field :=
  fun _ held _ => held

@[simp] theorem keeps_own (g : Nat) (field : Option Nat) :
    Keeps g field (some g) ↔ NotNewer g field := by
  constructor
  · intro keeps c held
    apply Nat.le_of_not_lt
    intro newer
    cases keeps c held newer
    exact Nat.lt_irrefl g newer
  · intro older c held newer
    have bound := older c held
    omega

/-- A call that asks no newer process or software TPM for anything. -/
theorem spares_iff
    (controllers : ∀ c, g < c → t.runtime.controllers c = s.runtime.controllers c)
    (reports : ∀ c, g < c →
      t.runtime.callbacks.countP (isFrom c) = s.runtime.callbacks.countP (isFrom c))
    (tpms : ∀ c, g < c → t.runtime.tpms c = s.runtime.tpms c)
    (stops : ∀ c, g < c →
      t.runtime.calls.countP (Call.stopsTPM c) ≤ s.runtime.calls.countP (Call.stopsTPM c)) :
    Spares g s t ↔ t.runtime.state = s.runtime.state ∧
      Keeps g s.runtime.processController t.runtime.processController ∧
      Keeps g s.runtime.softwareTPMController t.runtime.softwareTPMController ∧
      Keeps g s.serialMonitorTask t.serialMonitorTask ∧ Keeps g s.vncClient t.vncClient ∧
      Keeps g s.spiceController t.spiceController := by
  constructor
  · intro spares
    exact ⟨spares.state, spares.processController, spares.softwareTPMController,
      spares.serialMonitorTask, spares.vncClient, spares.spiceController⟩
  · rintro ⟨state, process, tpm, monitor, vnc, spice⟩
    exact ⟨state, process, tpm, monitor, vnc, spice, controllers, reports, tpms, stops⟩

theorem controllers_other (r : Runtime) {own c : Nat} (controller : ProcessController)
    (reports : List ProcessState) (apart : c ≠ own) :
    (r.setController own controller reports).controllers c = r.controllers c := by
  simp [Runtime.setController, apart]

theorem countP_isFrom_other (r : Runtime) {own c : Nat} (controller : ProcessController)
    (reports : List ProcessState) (apart : c ≠ own) :
    (r.setController own controller reports).callbacks.countP (isFrom c) =
      r.callbacks.countP (isFrom c) := by
  have other : own ≠ c := fun same => apart same.symm
  simp [Runtime.setController, List.countP_append, List.countP_map, Function.comp_def, isFrom,
    other]

theorem countP_isFrom_own (r : Runtime) (c : Nat) (controller : ProcessController)
    (reports : List ProcessState) :
    (r.setController c controller reports).callbacks.countP (isFrom c) =
      r.callbacks.countP (isFrom c) + reports.length := by
  simp [Runtime.setController, List.countP_append, List.countP_map, Function.comp_def, isFrom]

theorem countP_push_quiet
    (same : ∀ c, calls.countP (Call.stopsTPM c) = s.runtime.calls.countP (Call.stopsTPM c))
    {a : Activity} (quiet : a.tpm? = none) (c : Nat) :
    ((⟨g, a⟩ :: calls : List Call)).countP (Call.stopsTPM c) ≤
      s.runtime.calls.countP (Call.stopsTPM c) := by
  simp [Call.stopsTPM, quiet, same c]

/-- The controller a call acts on is not one of a newer start. -/
theorem spares_own {own : Nat} (older : own ≤ g) (controller : ProcessController)
    (reports : List ProcessState) {a : Activity} (quiet : a.tpm? = none)
    (same : ∀ c, calls.countP (Call.stopsTPM c) = s.runtime.calls.countP (Call.stopsTPM c)) :
    Spares g s { s with runtime :=
      ({ s.runtime with calls := calls }.setController own controller reports).push g a } := by
  refine Iff.mpr (spares_iff ?_ ?_ (fun _ _ => rfl)
    (fun c _ => countP_push_quiet same quiet c)) ?_
  · intro c newer
    exact controllers_other _ controller reports (by omega)
  · intro c newer
    exact countP_isFrom_other _ controller reports (by omega)
  · simp [Runtime.push, Runtime.setController]

theorem spares_resumeStart (displayBackend : Nat → DisplayBackend)
    (same : ∀ c, calls.countP (Call.stopsTPM c) = s.runtime.calls.countP (Call.stopsTPM c))
    {stage : StartStage} {reply : Reply} {r : Runtime}
    (taken : { s.runtime with calls := calls }.resumeStart g stage reply = some r) :
    Spares g s { (if s.runtime.clearsOnResume ⟨g, .start stage⟩ reply then s.clearRuntime
        else s.assignOnResume displayBackend ⟨g, .start stage⟩ reply) with runtime := r } ↔
      s.MayGoOn displayBackend g (.start stage) reply := by
  have quiet {a : Activity} (none : a.tpm? = none) (c : Nat) (_ : g < c) :=
    countP_push_quiet (g := g) same none c
  have fails (message : String) :=
    spares_takeProcess (g := g) same (fun c => .shutdown (.failed message) (.killQueued c))
      (fun c => .shutdown (.failed message) (.stoppingTPM c)) (fun _ => rfl) (fun _ => rfl)
      (.failed message)
  cases Runtime.startGoesOn taken with
  | needsTPM =>
    refine Iff.trans (spares_iff (fun _ _ => rfl) (fun _ _ => rfl) (fun _ _ => rfl) (quiet rfl)) ?_
    simp [MayGoOn, Runtime.clearsOnResume, assignOnResume, Runtime.push]
  | needsNoTPM =>
    refine Iff.trans (spares_iff (fun _ _ => rfl) (fun _ _ => rfl) (fun _ _ => rfl) (quiet rfl)) ?_
    simp [MayGoOn, Runtime.clearsOnResume, assignOnResume, Runtime.push, Runtime.startProcess]
  | startsTPM =>
    refine Iff.trans (spares_iff (fun _ _ => rfl) (fun _ _ => rfl) (fun c newer => ?_) (quiet rfl)) ?_
    · have apart : c ≠ g := by omega
      simp [Runtime.push, Runtime.setTPM, apart]
    · simp [MayGoOn, Runtime.clearsOnResume, assignOnResume, Runtime.push, Runtime.setTPM]
  | holdsTPM =>
    refine Iff.trans (spares_iff (fun _ _ => rfl) (fun _ _ => rfl) (fun _ _ => rfl) (quiet rfl)) ?_
    simp [MayGoOn, Runtime.clearsOnResume, assignOnResume, Runtime.push, Runtime.startProcess,
      and_comm]
  | launches | launchFails =>
    exact iff_of_true (spares_own (Nat.le_refl g) _ _ rfl same) trivial
  | reportsFailure => exact fails _
  | connects =>
    cases backend : displayBackend g with
    | vnc =>
      refine Iff.trans (spares_iff (fun _ _ => rfl) (fun _ _ => rfl) (fun _ _ => rfl) (quiet rfl)) ?_
      simp [MayGoOn, Runtime.clearsOnResume, assignOnResume, Runtime.push, backend]
    | spiceGL =>
      refine Iff.trans (spares_iff (fun _ _ => rfl) (fun _ _ => rfl) (fun _ _ => rfl) (quiet rfl)) ?_
      simp [MayGoOn, Runtime.clearsOnResume, assignOnResume, Runtime.push, backend]
  | runs =>
    cases backend : displayBackend g with
    | vnc =>
      refine Iff.trans (spares_iff (fun _ _ => rfl) (fun _ _ => rfl) (fun _ _ => rfl)
        (fun c _ => Nat.le_of_eq (same c))) ?_
      simp [MayGoOn, Runtime.clearsOnResume, assignOnResume, backend, eq_comm]
    | spiceGL =>
      refine Iff.trans (spares_iff (fun _ _ => rfl) (fun _ _ => rfl) (fun _ _ => rfl)
        (fun c _ => Nat.le_of_eq (same c))) ?_
      simp [MayGoOn, Runtime.clearsOnResume, assignOnResume, backend, eq_comm]
  | fails apart unreported =>
    cases stage with
    | startingProcess => exact absurd rfl apart
    | processFailed failure => exact absurd rfl (unreported failure)
    | allocatingPort | startingTPM | awaitingTPM | processStarted | connecting => exact fails _

/-- A request at a process controller is spared by newer starts only when the controller is not
one of theirs. -/
theorem spares_request {own : Nat} {controller : ProcessController}
    {reports : List ProcessState} (some : reports ≠ []) {a : Activity} (quiet : a.tpm? = none)
    (same : ∀ c, calls.countP (Call.stopsTPM c) = s.runtime.calls.countP (Call.stopsTPM c)) :
    Spares g s { s with runtime :=
      ({ s.runtime with calls := calls }.setController own controller reports).push g a } ↔
      own ≤ g := by
  constructor
  · intro spares
    apply Nat.le_of_not_lt
    intro newer
    have count := spares.reports own newer
    have length : 0 < reports.length := List.length_pos_iff.mpr some
    have told : ({ s.runtime with calls := calls }.setController own controller
      reports).callbacks.countP (isFrom own) = s.runtime.callbacks.countP (isFrom own) := count
    rw [countP_isFrom_own] at told
    simp only at told
    omega
  · intro older
    exact spares_own older controller reports quiet same

theorem spares_resumeShutdown (displayBackend : Nat → DisplayBackend)
    {outcome : MachineRuntimeState} {stage : ShutdownStage} {reply : Reply} {r : Runtime}
    (fewer : ∀ c, calls.countP (Call.stopsTPM c) ≤ s.runtime.calls.countP (Call.stopsTPM c))
    (same : (Activity.shutdown outcome stage).tpm? = none →
      ∀ c, calls.countP (Call.stopsTPM c) = s.runtime.calls.countP (Call.stopsTPM c))
    (own : ∀ c, stage = .killWaiting c → c ≤ g)
    (taken : { s.runtime with calls := calls }.resumeShutdown g outcome stage = some r) :
    Spares g s { (if s.runtime.clearsOnResume ⟨g, .shutdown outcome stage⟩ reply
        then s.clearRuntime
        else s.assignOnResume displayBackend ⟨g, .shutdown outcome stage⟩ reply) with
        runtime := r } ↔
      s.MayGoOn displayBackend g (.shutdown outcome stage) reply := by
  cases Runtime.shutdownGoesOn taken with
  | kills process =>
    refine Iff.trans (spares_request (by simp [ProcessController.forceStop]) rfl (same rfl)) ?_
    have process : (s.runtime.controllers _).process = true := process
    simp [MayGoOn, process]
  | findsNone idle =>
    refine Iff.trans (spares_push (same rfl) _) ?_
    have idle : (s.runtime.controllers _).process = false := idle
    simp [MayGoOn, idle, Activity.tpm?]
  | killed => exact iff_of_true (spares_own (own _ rfl) _ _ rfl (same rfl)) trivial
  | releasesTPM =>
    exact spares_takeTPM (same rfl) (fun c => .shutdown outcome (.stoppingTPM c)) (fun _ => rfl)
      outcome
  | ends => exact spares_finish fewer outcome

theorem spares_resumeStop (displayBackend : Nat → DisplayBackend) {stage : StopStage}
    {reply : Reply} {r : Runtime}
    (fewer : ∀ c, calls.countP (Call.stopsTPM c) ≤ s.runtime.calls.countP (Call.stopsTPM c))
    (same : (Activity.stop stage).tpm? = none →
      ∀ c, calls.countP (Call.stopsTPM c) = s.runtime.calls.countP (Call.stopsTPM c))
    (own : ∀ c, stage = .stopWaiting c → c ≤ g)
    (taken : { s.runtime with calls := calls }.resumeStop g stage reply = some r) :
    Spares g s { (if s.runtime.clearsOnResume ⟨g, .stop stage⟩ reply then s.clearRuntime
        else s.assignOnResume displayBackend ⟨g, .stop stage⟩ reply) with runtime := r } ↔
      s.MayGoOn displayBackend g (.stop stage) reply := by
  have quiet (r : DisplayRuntime) (here : r.runtime.calls = calls) (c : Nat) (_ : g < c)
      (apart : (Activity.stop stage).tpm? = none) :
      r.runtime.calls.countP (Call.stopsTPM c) ≤ s.runtime.calls.countP (Call.stopsTPM c) := by
    rw [here]
    exact Nat.le_of_eq (same apart c)
  cases Runtime.stopGoesOn taken with
  | requested =>
    refine Iff.trans (spares_iff (fun _ _ => rfl) (fun _ _ => rfl) (fun _ _ => rfl)
      (fun c newer => quiet _ rfl c newer rfl)) ?_
    simp [MayGoOn, Runtime.clearsOnResume, assignOnResume]
  | refused =>
    exact spares_takeProcess (same rfl) (fun c => .stop (.stopQueued c))
      (fun c => .stop (.stoppingTPM c)) (fun _ => rfl) (fun _ => rfl) .stopped
  | @findsNone c _ idle =>
    have idle : (s.runtime.controllers c).process = false := idle
    refine Iff.trans (spares_iff ?_ ?_ (fun _ _ => rfl)
      (fun c _ => countP_push_quiet (same rfl) rfl c)) ?_
    · intro d _
      by_cases at_c : d = c
      · subst at_c
        simp [Runtime.push, Runtime.setController]
      · exact controllers_other _ _ [] at_c
    · intro d _
      simp [Runtime.push, Runtime.setController]
    · simp [MayGoOn, idle, Runtime.push, Runtime.setController, Runtime.clearsOnResume,
        assignOnResume]
  | waits process | requestFails process =>
    have process : (s.runtime.controllers _).process = true := process
    refine Iff.trans (spares_request (by simp) rfl (same rfl)) ?_
    simp [MayGoOn, process]
  | exits => exact iff_of_true (spares_own (own _ rfl) _ _ rfl (same rfl)) trivial
  | timesOut =>
    refine Iff.trans (spares_push (same rfl) _) ?_
    simp [MayGoOn, Activity.tpm?]
  | @answered result =>
    cases result with
    | stopped =>
      exact spares_takeTPM (same rfl) (fun c => .stop (.stoppingTPM c)) (fun _ => rfl) .stopped
    | timedOut =>
      refine Iff.trans (spares_iff (fun _ _ => rfl) (fun _ _ => rfl) (fun _ _ => rfl)
        (fun c newer => quiet _ rfl c newer rfl)) ?_
      simp [MayGoOn, Runtime.clearsOnResume, assignOnResume, Runtime.answerStop]
    | requestFailed message =>
      refine Iff.trans (spares_iff (fun _ _ => rfl) (fun _ _ => rfl) (fun _ _ => rfl)
        (fun c newer => quiet _ rfl c newer rfl)) ?_
      simp [MayGoOn, Runtime.clearsOnResume, assignOnResume, Runtime.answerStop, eq_comm]
  | ends => exact spares_finish fewer .stopped

end Blocks

end DisplayRuntime

/-- The process controller whose end the activity awaits, having asked for it. -/
def Activity.waitsFor? : Activity → Option Nat
  | .shutdown _ (.killWaiting c) | .stop (.stopWaiting c) => some c
  | _ => none

/-- The process controllers a suspended call names are known to the runtime, and a start or a
stop awaits none of a newer start. -/
structure Call.Traced (latest : Nat) (call : Call) : Prop where
  generation : call.generation ≤ latest
  queued : ∀ c, call.activity.queuedAt = some c → c ≤ latest
  waiting : call.activity.isStartOrStop = true →
    ∀ c, call.activity.waitsFor? = some c → c ≤ call.generation

namespace Runtime

structure Traced (s : Runtime) : Prop where
  process : NotNewer s.runtimeGeneration s.processController
  calls : ∀ call ∈ s.calls, call.Traced s.runtimeGeneration

namespace Traced

variable {s t : Runtime} {g : Nat}

theorem push (traced : s.Traced) {a : Activity}
    (here : Call.Traced s.runtimeGeneration ⟨g, a⟩) : (s.push g a).Traced := by
  refine ⟨traced.process, ?_⟩
  rintro call (_ | ⟨_, member⟩)
  · exact here
  · exact traced.calls call member

/-- The activity names no process controller. -/
theorem pushSilent (traced : s.Traced) {a : Activity} (known : g ≤ s.runtimeGeneration)
    (queued : a.queuedAt = none) (waiting : a.waitsFor? = none) : (s.push g a).Traced := by
  refine traced.push ⟨known, fun c named => ?_, fun _ c named => ?_⟩
  · cases queued.symm.trans named
  · cases waiting.symm.trans named

theorem finish (traced : s.Traced) (outcome : MachineRuntimeState) : (s.finish outcome).Traced :=
  ⟨fun _ held => (by cases held), traced.calls⟩

theorem shutdownTPM (traced : s.Traced) (known : g ≤ s.runtimeGeneration)
    (outcome : MachineRuntimeState) : (s.shutdownTPM g outcome).Traced := by
  unfold Runtime.shutdownTPM
  split
  · exact traced.pushSilent known rfl rfl
  · exact traced.finish outcome

/-- The activity waits at the process controller that the runtime holds. -/
theorem pushQueued (traced : s.Traced) {a : Activity} {c : Nat} (known : g ≤ s.runtimeGeneration)
    (held : s.processController = some c) (queued : a.queuedAt = some c)
    (waiting : a.waitsFor? = none) : (s.push g a).Traced := by
  refine traced.push ⟨known, fun other named => ?_, fun _ other named => ?_⟩
  · cases queued.symm.trans named
    exact traced.process c held
  · cases waiting.symm.trans named

theorem shutdown (traced : s.Traced) (known : g ≤ s.runtimeGeneration)
    (outcome : MachineRuntimeState) : (s.shutdown g outcome).Traced := by
  unfold Runtime.shutdown
  split
  · rename_i c held
    exact traced.pushQueued known held rfl rfl
  · exact traced.shutdownTPM known outcome

theorem answerStop (traced : s.Traced) (known : g ≤ s.runtimeGeneration)
    (result : QEMUStopResult) : (s.answerStop g result).Traced := by
  cases result with
  | stopped =>
    unfold Runtime.answerStop
    simp only
    split
    · exact traced.pushSilent known rfl rfl
    · exact traced.finish .stopped
  | timedOut => exact traced
  | requestFailed message => exact ⟨traced.process, traced.calls⟩

theorem stopProcess (traced : s.Traced) (known : g ≤ s.runtimeGeneration) :
    (s.stopProcess g).Traced := by
  unfold Runtime.stopProcess
  split
  · rename_i c held
    exact traced.pushQueued known held rfl rfl
  · exact traced.answerStop known .stopped

theorem withState (traced : s.Traced) (state : MachineRuntimeState) :
    Traced { s with state := state } := ⟨traced.process, traced.calls⟩

theorem setController (traced : s.Traced) (c : Nat) (controller : ProcessController)
    (reports : List ProcessState) : (s.setController c controller reports).Traced :=
  ⟨traced.process, traced.calls⟩

theorem startProcess (traced : s.Traced) (known : g ≤ s.runtimeGeneration) :
    (s.startProcess g).Traced := by
  have held : Traced { s with processController := some g } := by
    refine ⟨fun c same => ?_, traced.calls⟩
    cases same
    exact known
  exact held.pushSilent known rfl rfl

theorem resumeStart (traced : s.Traced) (known : g ≤ s.runtimeGeneration) {stage : StartStage}
    {reply : Reply} (taken : s.resumeStart g stage reply = some t) : t.Traced := by
  cases startGoesOn taken with
  | needsTPM => exact traced.pushSilent known rfl rfl
  | needsNoTPM => exact traced.startProcess known
  | startsTPM =>
    have running : (s.setTPM g true).Traced := ⟨traced.process, traced.calls⟩
    exact running.pushSilent known rfl rfl
  | holdsTPM =>
    have holding : Traced { s with softwareTPMController := some g } :=
      ⟨traced.process, traced.calls⟩
    exact holding.startProcess known
  | launches | launchFails => exact (traced.setController _ _ _).pushSilent known rfl rfl
  | connects => exact traced.pushSilent known rfl rfl
  | runs => exact traced.withState .running
  | reportsFailure | fails => exact traced.shutdown known _

/-- The call has asked a process controller that is not of a newer start. -/
theorem pushWaiting (traced : s.Traced) {a : Activity} {c : Nat} (known : g ≤ s.runtimeGeneration)
    (queued : a.queuedAt = none) (waiting : a.waitsFor? = some c)
    (older : a.isStartOrStop = true → c ≤ g) : (s.push g a).Traced := by
  refine traced.push ⟨known, fun other named => ?_, fun started other named => ?_⟩
  · cases queued.symm.trans named
  · cases waiting.symm.trans named
    exact older started

theorem resumeShutdown (traced : s.Traced) (known : g ≤ s.runtimeGeneration)
    {outcome : MachineRuntimeState} {stage : ShutdownStage}
    (older : ∀ c, stage = .killQueued c → (s.controllers c).process = true →
      outcome ≠ .stopped → c ≤ g)
    (taken : s.resumeShutdown g outcome stage = some t) : t.Traced := by
  cases shutdownGoesOn taken with
  | kills process =>
    refine (traced.setController _ _ _).pushWaiting known rfl rfl ?_
    intro started
    exact older _ rfl process (of_decide_eq_true started)
  | findsNone => exact traced.pushSilent known rfl rfl
  | killed => exact (traced.setController _ _ _).pushSilent known rfl rfl
  | releasesTPM => exact traced.shutdownTPM known outcome
  | ends => exact traced.finish outcome

theorem resumeStop (traced : s.Traced) (known : g ≤ s.runtimeGeneration) {stage : StopStage}
    {reply : Reply}
    (older : ∀ c, stage = .stopQueued c → (s.controllers c).process = true → c ≤ g)
    (taken : s.resumeStop g stage reply = some t) : t.Traced := by
  cases stopGoesOn taken with
  | requested => exact traced
  | refused => exact traced.stopProcess known
  | findsNone | requestFails | exits =>
    exact (traced.setController _ _ _).pushSilent known rfl rfl
  | waits process =>
    exact (traced.setController _ _ _).pushWaiting known rfl rfl fun _ => older _ rfl process
  | timesOut => exact traced.pushSilent known rfl rfl
  | answered => exact traced.answerStop known _
  | ends => exact traced.finish .stopped

theorem start (traced : s.Traced) (discoveryError : Option String) :
    (s.start discoveryError).Traced := by
  unfold Runtime.start
  split
  · have begun : Traced { s with
        runtimeGeneration := s.runtimeGeneration + 1, state := .starting } := by
      refine ⟨fun c held => Nat.le_succ_of_le (traced.process c held), fun call member => ?_⟩
      have before := traced.calls call member
      exact ⟨Nat.le_succ_of_le before.generation,
        fun c named => Nat.le_succ_of_le (before.queued c named), before.waiting⟩
    cases discoveryError with
    | none => exact begun.pushSilent (Nat.le_refl _) rfl rfl
    | some message => exact begun.shutdown (Nat.le_refl _) _
  · exact traced

theorem stop (traced : s.Traced) (gracefulShutdown : Bool) :
    (s.stop gracefulShutdown).Traced := by
  unfold Runtime.stop
  split
  · cases gracefulShutdown with
    | true => exact (traced.withState .stopping).pushSilent (Nat.le_refl _) rfl rfl
    | false => exact (traced.withState .stopping).stopProcess (Nat.le_refl _)
  · exact traced

theorem forceStop (traced : s.Traced) : s.forceStop.Traced := by
  unfold Runtime.forceStop
  split
  · exact (traced.withState .stopping).shutdown (Nat.le_refl _) .stopped
  · exact traced

theorem finishAfterProcessExit (traced : s.Traced) (outcome : MachineRuntimeState) :
    (s.finishAfterProcessExit outcome).Traced := by
  have released : Traced { s with softwareTPMController := none } :=
    ⟨traced.process, traced.calls⟩
  exact released.pushSilent (Nat.le_refl _) rfl rfl

theorem handle (traced : s.Traced) (generation : Nat) (processState : ProcessState) :
    (s.handle generation processState).Traced := by
  unfold Runtime.handle
  split
  · cases processState with
    | stopped => exact traced.finishAfterProcessExit .stopped
    | failed message => exact traced.finishAfterProcessExit (.failed message)
    | starting | running | stopping => exact traced
  · exact traced

theorem takeOut (traced : s.Traced) (index : Nat) :
    Traced { s with calls := s.calls.eraseIdx index } :=
  ⟨traced.process, fun call member => traced.calls call (mem_of_mem_eraseIdx member)⟩

theorem resume (traced : s.Traced) {call : Call} {reply : Reply}
    (known : call.generation ≤ s.runtimeGeneration)
    (older : ∀ c, call.activity.queuedAt = some c → (s.controllers c).process = true →
      call.activity.isStartOrStop = true → c ≤ call.generation)
    (taken : s.resume call reply = some t) : t.Traced := by
  obtain ⟨g, activity⟩ := call
  cases activity with
  | start stage => exact traced.resumeStart known taken
  | shutdown outcome stage =>
    refine traced.resumeShutdown known ?_ taken
    rintro c rfl process apart
    exact older c rfl process (decide_eq_true apart)
  | stop stage =>
    refine traced.resumeStop known ?_ taken
    rintro c rfl process
    exact older c rfl process rfl
  | exit outcome tpm =>
    simp only [Runtime.resume, Runtime.resumeExit] at taken
    split at taken
    · cases taken
    · cases taken
      split
      · exact traced.finish outcome
      · exact traced

end Traced

end Runtime

namespace DisplayRuntime

variable {displayBackend : Nat → DisplayBackend} {s t : DisplayRuntime}

theorem step_runtime {e : Event} (taken : s.step displayBackend e = some t) :
    s.runtime.step e = some t.runtime := by
  unfold step at taken
  split at taken
  · cases taken
  · cases taken
    assumption

/-- A step by a suspended call. -/
theorem step_resume {index : Nat} {reply : Reply}
    (taken : s.step displayBackend (.resume index reply) = some t) :
    ∃ call r, s.runtime.calls[index]? = some call ∧
      { s.runtime with calls := s.runtime.calls.eraseIdx index }.resume call reply = some r ∧
      t = { (if s.runtime.clearsOnResume call reply then s.clearRuntime
        else s.assignOnResume displayBackend call reply) with runtime := r } := by
  have resumed := step_runtime taken
  unfold Runtime.step at resumed
  simp only at resumed
  split at resumed
  · cases resumed
  · rename_i call found
    refine ⟨call, t.runtime, found, resumed, ?_⟩
    have unfolded := taken
    simp only [step, Runtime.step, Runtime.clears, assign, found, resumed,
      Option.some.injEq] at unfolded
    exact unfolded.symm

/-- A resumed start or stop that the newer start's guard lets on is one that spares it. -/
theorem spares_resume (traced : s.runtime.Traced) {index : Nat} {call : Call} {reply : Reply}
    {r : Runtime} (found : s.runtime.calls[index]? = some call)
    (started : call.activity.isStartOrStop = true)
    (taken : { s.runtime with calls := s.runtime.calls.eraseIdx index }.resume call reply =
      some r) :
    Spares call.generation s { (if s.runtime.clearsOnResume call reply then s.clearRuntime
        else s.assignOnResume displayBackend call reply) with runtime := r } ↔
      s.MayGoOn displayBackend call.generation call.activity reply := by
  have here := traced.calls call (List.mem_of_getElem? found)
  have fewer (c : Nat) : (s.runtime.calls.eraseIdx index).countP (Call.stopsTPM c) ≤
      s.runtime.calls.countP (Call.stopsTPM c) := countP_eraseIdx_le (Call.stopsTPM c) index
  have same (quiet : call.activity.tpm? = none) (c : Nat) :=
    countP_eraseIdx_eq (p := Call.stopsTPM c) found (by simp [Call.stopsTPM, quiet])
  obtain ⟨g, activity⟩ := call
  cases activity with
  | start stage => exact spares_resumeStart displayBackend (same rfl) taken
  | shutdown outcome stage =>
    refine spares_resumeShutdown displayBackend fewer same ?_ taken
    rintro c rfl
    exact here.waiting started c rfl
  | stop stage =>
    refine spares_resumeStop displayBackend fewer same ?_ taken
    rintro c rfl
    exact here.waiting started c rfl
  | exit outcome tpm => cases started

theorem isolated_iff_confined (traced : s.runtime.Traced) {e : Event}
    (taken : s.step displayBackend e = some t) :
    Isolated s e t ↔ Confined displayBackend s e := by
  constructor
  · rintro isolated index reply call rfl found started overtaken
    obtain ⟨other, r, same, resumed, rfl⟩ := step_resume taken
    cases found.symm.trans same
    exact (spares_resume traced found started resumed).mp
      (isolated index reply call rfl found started overtaken)
  · rintro confined index reply call rfl found started overtaken
    obtain ⟨other, r, same, resumed, rfl⟩ := step_resume taken
    cases found.symm.trans same
    exact (spares_resume traced found started resumed).mpr
      (confined index reply call rfl found started overtaken)

theorem traced_step (traced : s.runtime.Traced) {e : Event}
    (confined : Confined displayBackend s e) (taken : s.step displayBackend e = some t) :
    t.runtime.Traced := by
  have moved := step_runtime taken
  generalize t.runtime = r at moved
  cases e with
  | start discoveryError => cases moved; exact traced.start discoveryError
  | stop gracefulShutdown => cases moved; exact traced.stop gracefulShutdown
  | forceStop => cases moved; exact traced.forceStop
  | resume index reply =>
    obtain ⟨call, other, found, resumed, same⟩ := step_resume taken
    have after : other = r := by
      rw [step_runtime taken] at moved
      cases moved
      rw [same]
    subst after
    have here := traced.calls call (List.mem_of_getElem? found)
    refine (traced.takeOut index).resume here.generation ?_ resumed
    intro c queued process started
    -- A call of the latest start may ask any controller the runtime knows.
    rcases Nat.lt_or_ge call.generation s.runtime.runtimeGeneration with overtaken | current
    · have may := confined index reply call rfl found started overtaken
      obtain ⟨g, activity⟩ := call
      cases activity with
      | shutdown outcome stage =>
        cases stage with
        | killQueued controller => cases queued; exact may process
        | killWaiting | killed | stoppingTPM => cases queued
      | stop stage =>
        cases stage with
        | stopQueued controller => cases queued; exact may process
        | requestingShutdown | stopWaiting | answered | stoppingTPM => cases queued
      | start | exit => cases queued
    · exact Nat.le_trans (here.queued c queued) current
  | deliver index =>
    unfold Runtime.step at moved
    simp only at moved
    split at moved
    · cases moved
    · cases moved
      have delivered : Runtime.Traced
          { s.runtime with callbacks := s.runtime.callbacks.eraseIdx index } :=
        ⟨traced.process, traced.calls⟩
      exact delivered.handle _ _
  | processExits c status =>
    unfold Runtime.step at moved
    simp only at moved
    split at moved
    · cases moved
      exact traced.setController _ _ _
    · cases moved
  | processTerminated c =>
    unfold Runtime.step at moved
    simp only at moved
    split at moved
    · cases moved
    · cases moved
    · cases moved
      exact traced.setController _ _ _
  | tpmExits c =>
    unfold Runtime.step at moved
    simp only at moved
    split at moved
    · cases moved
      exact ⟨traced.process, traced.calls⟩
    · cases moved

/-- **Runs are isolated** exactly when every start and stop that is resumed during a newer
start finds the state it goes on to write and nothing newer where it goes on with the fields. -/
theorem runs_isolated_iff (displayBackend : Nat → DisplayBackend)
    (recorded : MachineRuntimeState) (events : List Event) :
    Along (step displayBackend) Isolated (create recorded) events ↔
      Meets (step displayBackend) (Confined displayBackend) (create recorded) events :=
  along_iff_meets (I := fun s => s.runtime.Traced)
    (fun _ _ _ traced confined taken => traced_step traced confined taken)
    (fun _ _ _ traced confined taken => (isolated_iff_confined traced taken).mpr confined)
    (fun _ _ _ traced taken isolated => (isolated_iff_confined traced taken).mp isolated)
    (create recorded) events ⟨fun _ held => (by cases held), fun _ member => (by cases member)⟩

/-- QEMU exits while the first start connects its display, and the machine is started again.
When the display of the first start gives up, its catch block fails the second start. -/
theorem catch_block_fails_newer_start : ¬ ∀ displayBackend recorded events,
    Along (step displayBackend) Isolated (create recorded) events := by
  intro isolated
  have along := isolated (fun _ => .vnc) .stopped
    [.start none, .resume 0 (.configured false), .resume 0 (.launches .runs), .resume 0 .returns,
      .processExits 1 1, .processTerminated 1, .deliver 2, .resume 0 .returns, .start none,
      .resume 1 (.throws "QEMU started but its display did not become available.")]
  have last := (((((((((along _ rfl).2 _ rfl).2 _ rfl).2 _ rfl).2 _ rfl).2 _ rfl).2 _ rfl).2 _
    rfl).2 _ rfl).2 _ rfl
  have spares := last.1 1 _ _ rfl rfl rfl (by decide)
  exact absurd spares.state (by decide)

end DisplayRuntime

end SimpleVM.QEMU
