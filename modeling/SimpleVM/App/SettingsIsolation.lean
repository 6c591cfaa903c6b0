import SimpleVM.App.Exclusion
import SimpleVM.App.Session

/-!
# Edits of settings are isolated

An edit should change the setting of its own machine, and a failed save should take just this
change back, unless the setting has been given another value meanwhile. The rollbacks do so in
every run in which nothing disturbs what they rely on: the index they have kept, the list they
put back, the value they have written.
-/
namespace SimpleVM.App

open Domain Effects Storage Transition

namespace Session

/-- The rollback of one edit: a setting that still has the value written is restored. -/
def rollBack (setting : Setting) (previous : MachineSpec) (m : Machine) : Machine :=
  if setting.apply m.spec = m.spec then { m with spec := setting.restore previous m.spec } else m

/-- The rollback of a removed profile for one machine. -/
def rollBackProfile (id : UUID) (previous : List Machine) (m : Machine) : Machine :=
  match firstMachine m.id previous with
  | none => m
  | some old =>
    if old.spec.customInputProfileID = some id ∧ m.spec.customInputProfileID = none ∧
        m.spec.inputProfile = .automatic then
      { m with spec := { m.spec with
          customInputProfileID := old.spec.customInputProfileID
          inputProfile := old.spec.inputProfile } }
    else m

/-- The setting that a request edits, and the machine it is given. -/
def editOf : Request → Option (Setting × Machine)
  | .setInputProfile profile machine => some (.inputProfile profile, machine)
  | .setCustomInputProfile id baseProfile machine =>
    some (.customInputProfile id baseProfile, machine)
  | .setSharedDirectory path _ machine => some (.sharedDirectory path, machine)
  | .setWindowsSupportToolsAttached attached machine =>
    some (.windowsSupportToolsAttached attached, machine)
  | .setDisplayMode mode machine => some (.displayMode mode, machine)
  | _ => none

/-- No index is out of range and the machines are as they should be. -/
def Leaves (t : Session) (machines : List Machine) : Prop :=
  t.trapped = false ∧ t.app.machines = machines

/-- The machines after the edit that a request asks for. -/
def edited (request : Request) (machines : List Machine) : List Machine :=
  match request, editOf request with
  | .removeCustomInputProfile id, _ => machines.map (withoutProfile id)
  | _, some (setting, machine) => App.updateMachine machine.id
      (fun m => { m with spec := setting.apply m.spec }) machines
  | _, none => machines

def isEdit : Request → Bool
  | .removeCustomInputProfile _ => true
  | request => (editOf request).isSome

/-- An edit that is called writes its own setting, or nothing. -/
def EditsOwn (s : Session) (request : Request) (t : Session) : Prop :=
  isEdit request = true →
    Leaves t s.app.machines ∨ Leaves t (edited request s.app.machines)

/-- The edit cannot be saved: the awaited work has failed, or there is no store to save to. -/
def Fails (s : Session) : Response → Next → Prop
  | .error _, _ => True
  | .ok _, .settingPrepared .. => s.initialized = false
  | .ok _, _ => False

/-- What an edit should do to the machines when it goes on. -/
def GoesOnOwn (s : Session) (response : Response) (t : Session) (next : Next) : Prop :=
  match next with
  | .settingPrepared setting machine _ previous | .settingSaved setting machine _ previous =>
    (s.Fails response next →
      Leaves t (App.updateMachine machine.id (rollBack setting previous) s.app.machines)) ∧
    (¬ s.Fails response next → Leaves t s.app.machines)
  | .profileRemoved id previous =>
    (s.Fails response next → Leaves t (s.app.machines.map (rollBackProfile id previous))) ∧
    (¬ s.Fails response next → Leaves t s.app.machines)
  | _ => True

/-- The steps of edits change their own setting only. -/
def Isolated (s : Session) (event : SessionEvent) (t : Session) : Prop :=
  match event with
  | .call request => EditsOwn s request t
  | .resume index =>
    ∀ work next response, s.calls[index]? = some ⟨work, next, some response⟩ →
      GoesOnOwn s response t next
  | _ => True

/-- The setting of the machine, if it is still there, has the value written, or the old one. -/
def StillOwn (s : Session) (setting : Setting) (machine : Machine) (previous : MachineSpec) :
    Prop :=
  ∀ m, firstMachine machine.id s.app.machines = some m →
    setting.apply m.spec = m.spec ∨ setting.restore previous m.spec = m.spec

/-- The machine is at the index that has been kept, or both the machine and the one at the
index have the old value anyway. -/
def StillAt (s : Session) (setting : Setting) (machine : Machine) (index : Nat)
    (previous : MachineSpec) : Prop :=
  s.firstIndex machine.id = some index ∨
    (∀ m, firstMachine machine.id s.app.machines = some m →
      setting.restore previous m.spec = m.spec) ∧
    ∃ m, s.app.machines[index]? = some m ∧ setting.restore previous m.spec = m.spec

/-- Nothing that an edit relies on has been disturbed when it goes on. -/
def Relies (s : Session) (response : Response) (next : Next) : Prop :=
  match next with
  | .settingPrepared setting machine index previous | .settingSaved setting machine index previous =>
    (s.Fails response next → s.StillOwn setting machine previous ∧
      (setting.looksUp = false → s.StillAt setting machine index previous)) ∧
    -- a shared directory that has been saved is looked up at the index once more
    (¬ s.Fails response next → ∀ path, setting = .sharedDirectory path →
      index < s.app.machines.length)
  | .profileRemoved id previous =>
    s.Fails response next →
      s.app.machines = previous.map (withoutProfile id) ∧ (previous.map fun m => m.id).Nodup
  | _ => True

/-- A call does not write again what an edit in flight has written and what has been replaced
since: a value that is found again is then the edit's own. -/
def KeepsReplaced (s : Session) (request : Request) : Next → Prop
  | .settingPrepared setting machine _ _ | .settingSaved setting machine _ _ =>
    ∀ m, firstMachine machine.id s.app.machines = some m → setting.apply m.spec ≠ m.spec →
      ∀ n, firstMachine machine.id (edited request s.app.machines) = some n →
        setting.apply n.spec ≠ n.spec
  | .profileRemoved id previous =>
    s.app.machines ≠ previous.map (withoutProfile id) →
      edited request s.app.machines ≠ previous.map (withoutProfile id)
  | _ => True

/-- Edits write nothing again that has been replaced, and go on with what they rely on. -/
def Undisturbed (s : Session) : SessionEvent → Prop
  | .call request => ∀ call ∈ s.calls, s.KeepsReplaced request call.next
  | .resume index =>
    ∀ work next response, s.calls[index]? = some ⟨work, next, some response⟩ →
      s.Relies response next
  | _ => True

section Machines

variable {id : UUID} {f g : Machine → Machine} {machines : List Machine}

end Machines

section Edits

variable {s t : Session} {setting : Setting} {machine : Machine} {index : Nat}
  {previous : MachineSpec}

end Edits

end Session

end SimpleVM.App
