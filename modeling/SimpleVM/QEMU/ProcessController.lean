/-!
# The QEMU process controller

`QEMUProcessController`: the operations of the actor, each up to its next suspension, with
the states it reports to its handler.
-/
namespace SimpleVM.QEMU

inductive ProcessState
  | stopped | starting | running | stopping
  | failed (message : String)
deriving DecidableEq, Repr

/-- The process is over: the only reports the runtime reacts to. -/
def ProcessState.isOver : ProcessState → Bool
  | .stopped | .failed _ => true
  | .starting | .running | .stopping => false

inductive QEMUStopResult
  | stopped | timedOut
  | requestFailed (message : String)
deriving DecidableEq, Repr

structure ProcessController where
  /-- `process` is set. -/
  process : Bool := false
  /-- The process of the operating system runs. -/
  isRunning : Bool := false
  /-- A termination the actor has not been told of yet. -/
  exitStatus : Option Int := none
  expectsTermination : Bool := false
  state : ProcessState := .stopped
deriving DecidableEq, Repr

/-- The outcome of opening the log and of `process.run()`. -/
inductive Launch
  | runs
  | logFails (message : String)
  | runFails (message : String)
deriving DecidableEq, Repr

namespace ProcessController

/-- The controller afterwards, the states reported and the error thrown, if any. -/
def start (c : ProcessController) (launch : Launch) :
    ProcessController × List ProcessState × Option String :=
  if c.process then (c, [], some "The QEMU machine is already running.")
  else match launch with
    | .runs => ({ c with
        process := true
        isRunning := true
        expectsTermination := false
        state := .running }, [.starting, .running], none)
    | .logFails message =>
      ({ c with expectsTermination := false, state := .starting }, [.starting], some message)
    | .runFails message =>
      ({ c with expectsTermination := false, state := .failed message },
        [.starting, .failed message], some message)

/-- `stop` up to its wait: without a process or with a failed request it returns at once. -/
def stop (c : ProcessController) (requestError : Option String) :
    ProcessController × List ProcessState × Option QEMUStopResult :=
  if c.process then
    match requestError with
    | none => ({ c with expectsTermination := true, state := .stopping }, [.stopping], none)
    | some message => ({ c with expectsTermination := false, state := .running },
        [.stopping, .running], some (.requestFailed message))
  else (c, [], some .stopped)

/-- `forceStop` of a controller with a process, up to its wait for the exit. -/
def forceStop (c : ProcessController) : ProcessController × List ProcessState :=
  ({ c with expectsTermination := true, state := .stopping }, [.stopping])

def completeExpectedTermination (c : ProcessController) : ProcessController × List ProcessState :=
  if c.process then
    ({ c with process := false, expectsTermination := false, state := .stopped }, [.stopped])
  else (c, [])

def processTerminated (c : ProcessController) (status : Int) :
    ProcessController × List ProcessState :=
  if c.process then
    let state := if c.expectsTermination ∨ c.state = .stopping ∨ status = 0 then .stopped
      else .failed ("QEMU exited with status " ++ toString status ++ ".")
    ({ c with process := false, expectsTermination := false, state := state }, [state])
  else (c, [])

/-- The process ends, of itself or killed. -/
def exit (c : ProcessController) (status : Int) : ProcessController :=
  { c with isRunning := false, exitStatus := some status }

end ProcessController

end SimpleVM.QEMU
