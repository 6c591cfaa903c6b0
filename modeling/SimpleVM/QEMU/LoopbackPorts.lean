import SimpleVM.QEMU.Occupancy
import SimpleVM.QEMU.RunIsolation

/-!
# VNC ports

`LoopbackPortAllocator` with the runtimes of all machines that start by it, the ports QEMU binds
and those other programs bind. A port is reserved until its process is spawned, and bound only
some time later. No two machines have the same port in runs in which nothing is allocated in
between.
-/
namespace SimpleVM.QEMU

open Domain Transition

/-- `5_900...5_999`. -/
def vncPorts : List UInt16 := (List.range' 5900 100).map UInt16.ofNat

/-- The process of a start listens on a port. -/
structure Listener where
  machine : UUID
  generation : Nat
  port : UInt16
deriving DecidableEq, Repr

structure PortSystem where
  runtimes : UUID → Runtime
  reserved : List UInt16 := []
  /-- The port a start was given, by its machine and generation. -/
  ports : UUID → Nat → Option UInt16 := fun _ _ => none
  /-- The ports QEMU processes have bound; those of a process that is gone are free again. -/
  listeners : List Listener := []
  /-- The ports bound by other programs. -/
  foreign : List UInt16 := []

inductive PortEvent
  | runtime (machine : UUID) (event : Event)
  /-- `failing` are the ports on which the probe fails though they are free. -/
  | allocate (machine : UUID) (index : Nat) (failing : List UInt16)
  | binds (machine : UUID) (generation : Nat)
  | foreignBinds (port : UInt16)
  | foreignCloses (port : UInt16)
deriving DecidableEq, Repr

/-- The start goes past `release`, by its `defer` block or once the process is spawned. -/
def Call.releasesPort (call : Call) (reply : Reply) : Bool :=
  match call.activity, reply with
  | .start .allocatingPort, .throws _ | .start .startingTPM, .throws _
  | .start .awaitingTPM, .throws _ => true
  | .start (.processFailed _), _ | .start .processStarted, _ => true
  | _, _ => false

namespace PortSystem

def isListening (s : PortSystem) (l : Listener) : Bool :=
  ((s.runtimes l.machine).controllers l.generation).isRunning

def isBound (s : PortSystem) (port : UInt16) : Bool :=
  s.foreign.contains port || s.listeners.any fun l => decide (l.port = port) && s.isListening l

/-- The port is not reserved and the probe can bind it. -/
def isFree (s : PortSystem) (failing : List UInt16) (port : UInt16) : Bool :=
  !s.reserved.contains port && !(s.isBound port || failing.contains port)

/-- `LoopbackPortAllocator.allocate`. -/
def allocate (s : PortSystem) (failing : List UInt16) : Option UInt16 :=
  vncPorts.find? (s.isFree failing)

def release (s : PortSystem) (port : UInt16) : PortSystem :=
  { s with reserved := s.reserved.filter fun other => decide (other ≠ port) }

/-- What a resumed start waits for: its port, or a connection to it. -/
def admits (displayBackend : UUID → Nat → DisplayBackend) (s : PortSystem) (machine : UUID) :
    Event → Bool
  | .resume index reply =>
    match (s.runtimes machine).calls[index]?, reply with
    | some ⟨generation, .start .allocatingPort⟩, .configured _ =>
      (s.ports machine generation).isSome
    | some ⟨generation, .start .connecting⟩, .returns =>
      decide (displayBackend machine generation = .spiceGL) ||
        (s.ports machine generation).any s.isBound
    | _, _ => true
  | _ => true

/-- The port that the step releases. -/
def released (s : PortSystem) (machine : UUID) : Event → Option UInt16
  | .resume index reply =>
    match (s.runtimes machine).calls[index]? with
    | some call => if call.releasesPort reply then s.ports machine call.generation else none
    | none => none
  | _ => none

def setRuntime (s : PortSystem) (machine : UUID) (runtime : Runtime) : PortSystem :=
  { s with runtimes := fun other => if other = machine then runtime else s.runtimes other }

def step (displayBackend : UUID → Nat → DisplayBackend) (s : PortSystem) :
    PortEvent → Option PortSystem
  | .runtime machine event =>
    if s.admits displayBackend machine event then
      match (s.runtimes machine).step event, s.released machine event with
      | none, _ => none
      | some runtime, none => some (s.setRuntime machine runtime)
      | some runtime, some port => some ((s.setRuntime machine runtime).release port)
    else none
  | .allocate machine index failing =>
    match (s.runtimes machine).calls[index]?, s.allocate failing with
    | some ⟨generation, .start .allocatingPort⟩, some port =>
      if (s.ports machine generation).isSome then none
      else some { s with
        reserved := port :: s.reserved
        ports := fun m g =>
          if m = machine ∧ g = generation then some port else s.ports m g }
    | _, _ => none
  | .binds machine generation =>
    match s.ports machine generation with
    | none => none
    | some port =>
      -- A SPICE guest is given a port and no `-vnc` argument.
      if s.isListening ⟨machine, generation, port⟩ ∧ displayBackend machine generation = .vnc ∧
          s.isBound port = false then
        some { s with listeners := ⟨machine, generation, port⟩ :: s.listeners }
      else none
  | .foreignBinds port => if s.isBound port then none else some { s with foreign := port :: s.foreign }
  | .foreignCloses port =>
    some { s with foreign := s.foreign.filter fun other => decide (other ≠ port) }

/-- Machines as they were recorded, and ports of other programs. -/
def create (recorded : UUID → MachineRuntimeState) (foreign : List UInt16) : PortSystem where
  runtimes := fun machine => .create (recorded machine)
  foreign := foreign

/-- The port of the newest start of a machine. -/
def port? (s : PortSystem) (machine : UUID) : Option UInt16 :=
  s.ports machine (s.runtimes machine).runtimeGeneration

def StartsOrRuns (s : PortSystem) (machine : UUID) : Prop :=
  (s.runtimes machine).state = .starting ∨ (s.runtimes machine).state = .running

/-- Different machines that start or run have different ports, and whoever listens where a start
connects to is no other machine. -/
structure Exclusive (s : PortSystem) : Prop where
  ports : ∀ m n p, s.StartsOrRuns m → s.StartsOrRuns n → s.port? m = some p → s.port? n = some p →
    m = n
  connects : ∀ m g p, (⟨g, .start .connecting⟩ : Call) ∈ (s.runtimes m).calls →
    s.ports m g = some p → ∀ l ∈ s.listeners, l.port = p → s.isListening l = true → l.machine = m

/-- When a machine is given a port, the ports of the others that hold one are still reserved, or
bound already, or a lower one is free. -/
def Covered (s : PortSystem) : PortEvent → Prop
  | .allocate machine _ failing => ∀ n g p, n ≠ machine → (s.runtimes n).Occupies g →
    s.ports n g = some p →
      p ∈ s.reserved ∨ s.isBound p = true ∨ ∃ q ∈ vncPorts, q < p ∧ s.isFree failing q = true
  | _ => True

/-- The starts that occupy different machines have different ports. -/
structure Apart (s : PortSystem) : Prop where
  known : ∀ m, (s.runtimes m).Known
  fresh : ∀ m g, (s.runtimes m).runtimeGeneration < g → s.ports m g = none
  apart : ∀ m n g h p, (s.runtimes m).Occupies g → (s.runtimes n).Occupies h →
    s.ports m g = some p → s.ports n h = some p → m = n
  listeners : ∀ l ∈ s.listeners, s.ports l.machine l.generation = some l.port

variable {displayBackend : UUID → Nat → DisplayBackend} {s t : PortSystem}

theorem startsOrRuns_occupies {m : UUID} (active : s.StartsOrRuns m) :
    (s.runtimes m).Occupies (s.runtimes m).runtimeGeneration := by
  refine ⟨.inr (.inr ⟨rfl, .inl ?_⟩)⟩
  rcases active with starting | running
  · simp [isActiveState, starting]
  · simp [isActiveState, running]

theorem Apart.exclusive (apart : s.Apart) : s.Exclusive where
  ports := by
    intro m n p activeM activeN portM portN
    exact apart.apart m n _ _ p (startsOrRuns_occupies activeM) (startsOrRuns_occupies activeN)
      portM portN
  connects := by
    intro m g p member given l listed same listens
    have inFlight : (s.runtimes m).Occupies g := ⟨.inl ⟨_, member, rfl, rfl⟩⟩
    have runs : (s.runtimes l.machine).Occupies l.generation := ⟨.inr (.inl listens)⟩
    have bound := apart.listeners l listed
    rw [same] at bound
    exact apart.apart l.machine m _ _ p runs inFlight bound given

/-- The allocator picks no port that is reserved or bound. -/
theorem allocate_free {failing : List UInt16} {port : UInt16}
    (picked : s.allocate failing = some port) : port ∉ s.reserved ∧ s.isBound port = false := by
  have free := List.find?_some picked
  simp only [isFree, Bool.and_eq_true, Bool.not_eq_true', Bool.or_eq_false_iff] at free
  refine ⟨fun member => ?_, free.2.1⟩
  have listed : s.reserved.contains port = true := by simpa using member
  rw [free.1] at listed
  cases listed

/-- It picks the lowest free one. -/
theorem allocate_lowest {failing : List UInt16} {port q : UInt16}
    (picked : s.allocate failing = some port) (listed : q ∈ vncPorts) (lower : q < port) :
    s.isFree failing q = false := by
  obtain ⟨-, front, rest, split, taken⟩ := List.find?_eq_some_iff_append.mp picked
  have sorted : vncPorts.Pairwise (· < ·) := by decide +kernel
  rw [split] at listed sorted
  rcases List.mem_append.mp listed with before | later
  · simpa using taken q before
  · -- What does not stand in front of the picked port is not below it.
    exfalso
    rcases List.mem_cons.mp later with rfl | behind
    · exact UInt16.lt_irrefl q lower
    · have above := (List.pairwise_cons.mp (List.pairwise_append.mp sorted).2.1).1 q behind
      exact UInt16.lt_irrefl q (UInt16.lt_trans lower above)

theorem Apart.setRuntime (apart : s.Apart) {m : UUID} {e : Event} {runtime : Runtime}
    (stepped : (s.runtimes m).step e = some runtime) : (s.setRuntime m runtime).Apart := by
  -- A start that begins has no port yet.
  have earlier (n : UUID) (g : Nat) (p : UInt16) (given : s.ports n g = some p)
      (occupies : ((s.setRuntime m runtime).runtimes n).Occupies g) :
      (s.runtimes n).Occupies g := by
    simp only [PortSystem.setRuntime] at occupies
    split at occupies
    · rename_i same
      subst same
      rcases Runtime.occupies_step stepped occupies with before | begun
      · exact before
      · have fresh := apart.fresh n g (by omega)
        rw [given] at fresh
        cases fresh
    · exact occupies
  constructor
  · intro n
    simp only [PortSystem.setRuntime]
    split
    · exact (apart.known m).step stepped
    · exact apart.known n
  · intro n g later
    apply apart.fresh
    simp only [PortSystem.setRuntime] at later
    split at later
    · rename_i same
      subst same
      have grown := Runtime.generation_step stepped
      omega
    · exact later
  · intro n k g h p occupiesN occupiesK portN portK
    exact apart.apart n k g h p (earlier n g p portN occupiesN) (earlier k h p portK occupiesK)
      portN portK
  · exact apart.listeners

theorem Apart.release (apart : s.Apart) (port : UInt16) : (s.release port).Apart :=
  ⟨apart.known, apart.fresh, apart.apart, apart.listeners⟩

theorem Apart.allocate (apart : s.Apart) {machine : UUID} {index generation : Nat}
    {failing : List UInt16} {port : UInt16} (covered : s.Covered (.allocate machine index failing))
    (found : (s.runtimes machine).calls[index]? = some ⟨generation, .start .allocatingPort⟩)
    (picked : s.allocate failing = some port) (none_ : (s.ports machine generation).isSome = false) :
    Apart { s with
      reserved := port :: s.reserved
      ports := fun m g =>
        if m = machine ∧ g = generation then some port else s.ports m g } := by
  obtain ⟨free, unbound⟩ := allocate_free picked
  -- Who has the port already is the machine itself.
  have own (n : UUID) (h : Nat) (occupies : (s.runtimes n).Occupies h)
      (given : s.ports n h = some port) : n = machine := by
    apply Classical.byContradiction
    intro other
    rcases covered n h port other occupies given with reserved | bound | ⟨q, listed, lower, isFree⟩
    · exact free reserved
    · rw [unbound] at bound
      cases bound
    · rw [allocate_lowest picked listed lower] at isFree
      cases isFree
  have inFlight : (s.runtimes machine).HasStart generation :=
    ⟨_, List.mem_of_getElem? found, rfl, rfl⟩
  constructor
  · exact apart.known
  · intro m g later
    simp only at later ⊢
    split
    · rename_i same
      obtain ⟨rfl, rfl⟩ := same
      have begun := apart.known m g inFlight
      omega
    · exact apart.fresh m g later
  · intro m n g h p occupiesM occupiesN portM portN
    simp only at portM portN
    split at portM
    · rename_i isM
      obtain ⟨rfl, rfl⟩ := isM
      cases portM
      split at portN
      · rename_i isN
        exact isN.1.symm
      · exact (own n h occupiesN portN).symm
    · split at portN
      · rename_i isN
        obtain ⟨rfl, rfl⟩ := isN
        cases portN
        exact own m g occupiesM portM
      · exact apart.apart m n g h p occupiesM occupiesN portM portN
  · intro l listed
    have bound := apart.listeners l listed
    simp only
    split
    · rename_i same
      rw [same.1, same.2] at bound
      rw [bound] at none_
      cases none_
    · exact bound

theorem Apart.step (apart : s.Apart) {e : PortEvent} (covered : s.Covered e)
    (stepped : s.step displayBackend e = some t) : t.Apart := by
  cases e with
  | runtime machine event =>
    simp only [PortSystem.step] at stepped
    split at stepped
    · split at stepped
      · cases stepped
      · rename_i moved _
        cases stepped
        exact apart.setRuntime moved
      · rename_i moved _
        cases stepped
        exact (apart.setRuntime moved).release _
    · cases stepped
  | allocate machine index failing =>
    simp only [PortSystem.step] at stepped
    split at stepped
    · rename_i found picked
      split at stepped
      · cases stepped
      · rename_i unset
        cases stepped
        apply apart.allocate covered found picked
        simpa using unset
    · cases stepped
  | binds machine generation =>
    simp only [PortSystem.step] at stepped
    split at stepped
    · cases stepped
    · rename_i given
      split at stepped
      · cases stepped
        refine ⟨apart.known, apart.fresh, apart.apart, fun l listed => ?_⟩
        rcases List.mem_cons.mp listed with rfl | listed
        · exact given
        · exact apart.listeners l listed
      · cases stepped
  | foreignBinds port =>
    simp only [PortSystem.step] at stepped
    split at stepped
    · cases stepped
    · cases stepped
      exact ⟨apart.known, apart.fresh, apart.apart, apart.listeners⟩
  | foreignCloses port =>
    cases stepped
    exact ⟨apart.known, apart.fresh, apart.apart, apart.listeners⟩

theorem apart_create (recorded : UUID → MachineRuntimeState) (foreign : List UInt16) :
    (create recorded foreign).Apart := by
  refine ⟨?_, fun _ _ _ => rfl, ?_, ?_⟩
  · rintro m g ⟨call, member, -⟩
    cases member
  · intro m n g h p _ _ given
    cases given
  · intro l listed
    cases listed

/-- In a run whose allocations cannot pick the port of another machine, ports are exclusive. -/
theorem ports_exclusive (displayBackend : UUID → Nat → DisplayBackend)
    (recorded : UUID → MachineRuntimeState) (foreign : List UInt16) (labels : List PortEvent)
    (covered : Meets (step displayBackend) Covered (create recorded foreign) labels) :
    Always (step displayBackend) Exclusive (create recorded foreign) labels := by
  apply always_of_meets (V := fun _ => True) _ _ _ _ (apart_create recorded foreign) _ covered
  · intro s e t apart _ allowed stepped
    exact apart.step allowed stepped
  · exact fun s apart => apart.exclusive
  · exact fun _ _ => trivial

/-- Both starts are given their ports before a process is spawned. -/
theorem ports_exclusive_reserved :
    Always (step fun _ _ => .vnc) Exclusive (create (fun _ => .stopped) [])
      [.runtime ⟨1⟩ (.start none), .runtime ⟨2⟩ (.start none), .allocate ⟨1⟩ 0 [],
        .allocate ⟨2⟩ 0 []] := by
  apply ports_exclusive
  refine .next rfl trivial (.next rfl trivial (.next rfl ?_ (.next rfl ?_ trivial)))
  · -- No port is given yet.
    intro n g p _ _ given
    cases given
  · intro n g p _ _ given
    simp only at given
    split at given
    · cases given
      exact .inl List.mem_cons_self
    · cases given

/-- The second machine is given the port that the first one's process has yet to bind. -/
theorem second_start_shares_port :
    ¬ Always (step fun _ _ => .vnc) Exclusive (create (fun _ => .stopped) [])
      [.runtime ⟨1⟩ (.start none), .allocate ⟨1⟩ 0 [],
        .runtime ⟨1⟩ (.resume 0 (.configured false)),
        .runtime ⟨1⟩ (.resume 0 (.launches .runs)), .runtime ⟨1⟩ (.resume 0 .returns),
        .runtime ⟨2⟩ (.start none), .allocate ⟨2⟩ 0 []] := by
  intro always
  have exclusive := always.last (run_of_execute rfl)
  have same : (⟨1⟩ : UUID) = ⟨2⟩ := exclusive.ports ⟨1⟩ ⟨2⟩ 5900 (.inl rfl) (.inl rfl) rfl rfl
  exact absurd same (by decide)

end PortSystem

end SimpleVM.QEMU
