/-!
# Runs of executable transition systems

A system is a partial step function: `step s l` is the state after the event `l`,
or `none` where `l` is not enabled in `s`. A schedule is a list of events. Safety
results come in one shape throughout: an invariant is preserved by every step that
meets a guard, hence it holds in every state of a schedule whose steps meet it.
-/
namespace SimpleVM.Transition

variable {State Label : Type}

/-- `Run step s ls t`: the events `ls` are enabled one after another from `s` and lead to `t`. -/
inductive Run (step : State → Label → Option State) : State → List Label → State → Prop
  | done (s : State) : Run step s [] s
  | next {s t u : State} {l : Label} {ls : List Label} :
      step s l = some t → Run step t ls u → Run step s (l :: ls) u

/-- Every enabled step of the schedule meets `guard` in the state before it. -/
def Meets (step : State → Label → Option State) (guard : State → Label → Prop) :
    State → List Label → Prop
  | _, [] => True
  | s, l :: ls => ∀ t, step s l = some t → guard s l ∧ Meets step guard t ls

/-- `P` holds in every state the schedule passes through, the first one included. -/
def Always (step : State → Label → Option State) (P : State → Prop) :
    State → List Label → Prop
  | s, [] => P s
  | s, l :: ls => P s ∧ ∀ t, step s l = some t → Always step P t ls

/-- `Q` holds of every enabled step of the schedule. -/
def Along (step : State → Label → Option State) (Q : State → Label → State → Prop) :
    State → List Label → Prop
  | _, [] => True
  | s, l :: ls => ∀ t, step s l = some t → Q s l t ∧ Along step Q t ls

/-- The state a schedule leads to, if all its events are enabled. -/
def execute (step : State → Label → Option State) (s : State) : List Label → Option State
  | [] => some s
  | l :: ls => (step s l).bind fun t => execute step t ls

variable {step : State → Label → Option State} {guard : State → Label → Prop}
  {I P : State → Prop} {V : Label → Prop}

theorem run_of_execute {s t : State} {ls : List Label} (executed : execute step s ls = some t) :
    Run step s ls t := by
  induction ls generalizing s with
  | nil =>
    cases executed
    exact .done _
  | cons l ls ih =>
    obtain ⟨u, taken, rest⟩ := Option.bind_eq_some_iff.mp executed
    exact .next taken (ih rest)

theorem Run.append {s t u : State} {ls ms : List Label}
    (first : Run step s ls t) (second : Run step t ms u) : Run step s (ls ++ ms) u := by
  induction first with
  | done => exact second
  | next taken _ ih => exact .next taken (ih second)

theorem Meets.next {s t : State} {l : Label} {ls : List Label} (taken : step s l = some t)
    (allowed : guard s l) (rest : Meets step guard t ls) : Meets step guard s (l :: ls) := by
  intro u other
  rw [taken] at other
  cases other
  exact ⟨allowed, rest⟩

/-- A schedule is checked by running it. -/
instance decidableMeets [∀ s l, Decidable (guard s l)] :
    ∀ s ls, Decidable (Meets step guard s ls)
  | _, [] => inferInstanceAs (Decidable True)
  | s, l :: ls =>
    have (t : State) : Decidable (guard s l ∧ Meets step guard t ls) :=
      have := decidableMeets t ls
      inferInstance
    decidable_of_iff (∀ t ∈ step s l, guard s l ∧ Meets step guard t ls) Iff.rfl

theorem Meets.split {s t : State} {ls ms : List Label} (meets : Meets step guard s (ls ++ ms))
    (run : Run step s ls t) : Meets step guard s ls ∧ Meets step guard t ms := by
  induction run with
  | done => exact ⟨trivial, meets⟩
  | next taken _ ih =>
    have allowed := (meets _ taken).1
    have rest := ih (meets _ taken).2
    refine ⟨fun u other => ?_, rest.2⟩
    rw [taken] at other
    cases other
    exact ⟨allowed, rest.1⟩

theorem Meets.and {other : State → Label → Prop} {s : State} {ls : List Label}
    (left : Meets step guard s ls) (right : Meets step other s ls) :
    Meets step (fun s l => guard s l ∧ other s l) s ls := by
  induction ls generalizing s with
  | nil => trivial
  | cons l ls ih =>
    intro t taken
    obtain ⟨here, rest⟩ := left t taken
    obtain ⟨also, more⟩ := right t taken
    exact ⟨⟨here, also⟩, ih rest more⟩

/-- A schedule of events of one kind meets their kind as a guard. -/
theorem Meets.of_labels {s : State} {ls : List Label} (labels : ∀ l ∈ ls, V l) :
    Meets step (fun _ l => V l) s ls := by
  induction ls generalizing s with
  | nil => trivial
  | cons l ls ih =>
    intro t _
    exact ⟨labels l List.mem_cons_self, ih fun m member => labels m (List.mem_cons_of_mem _ member)⟩

/-- A guarded invariant survives a whole run. -/
theorem Run.invariant
    (keep : ∀ s l t, I s → V l → guard s l → step s l = some t → I t)
    {s t : State} {ls : List Label} (run : Run step s ls t)
    (labels : ∀ l ∈ ls, V l) (meets : Meets step guard s ls) (initial : I s) : I t := by
  induction run with
  | done => exact initial
  | @next s t u l ls taken _ ih =>
    obtain ⟨allowed, rest⟩ := meets t taken
    have here : V l := labels l (by simp)
    exact ih (fun m member => labels m (by simp [member])) rest
      (keep s l t initial here allowed taken)

/-- What every step preserves survives a whole run. -/
theorem Run.keeps (keep : ∀ s l t, I s → step s l = some t → I t) {s t : State} {ls : List Label}
    (run : Run step s ls t) (initial : I s) : I t := by
  induction run with
  | done => exact initial
  | next taken _ ih => exact ih (keep _ _ _ initial taken)

/-- So does what every step of a kind preserves, in a run of such steps. -/
theorem Run.keeps_of (keep : ∀ s l t, I s → V l → step s l = some t → I t) {s t : State}
    {ls : List Label} (run : Run step s ls t) (labels : ∀ l ∈ ls, V l) (initial : I s) : I t := by
  induction run with
  | done => exact initial
  | next taken _ ih =>
    have here := labels _ List.mem_cons_self
    exact ih (fun m member => labels m (List.mem_cons_of_mem _ member)) (keep _ _ _ initial here taken)

theorem Always.head {s : State} {ls : List Label} (always : Always step P s ls) : P s := by
  cases ls with
  | nil => exact always
  | cons l ls => exact always.1

theorem Always.last {s t : State} {ls : List Label} (run : Run step s ls t)
    (always : Always step P s ls) : P t := by
  induction run with
  | done => exact always
  | next taken _ ih => exact ih (always.2 _ taken)

/-- What holds along a schedule holds along what is left of it. -/
theorem Along.after {Q : State → Label → State → Prop} {s t : State} {ls ms : List Label}
    (run : Run step s ls t) (along : Along step Q s (ls ++ ms)) : Along step Q t ms := by
  induction run with
  | done => exact along
  | next taken _ ih => exact ih (along _ taken).2

/-- A guarded invariant that implies `P` gives `P` in every state passed through. -/
theorem always_of_meets
    (keep : ∀ s l t, I s → V l → guard s l → step s l = some t → I t)
    (sound : ∀ s, I s → P s) (s : State) (ls : List Label) (initial : I s)
    (labels : ∀ l ∈ ls, V l) (meets : Meets step guard s ls) : Always step P s ls := by
  induction ls generalizing s with
  | nil => exact sound s initial
  | cons l ls ih =>
    refine ⟨sound s initial, fun t taken => ?_⟩
    obtain ⟨allowed, rest⟩ := meets t taken
    have here : V l := labels l (by simp)
    exact ih t (keep s l t initial here allowed taken)
      (fun m member => labels m (by simp [member])) rest

/-- The guard is exact when, from a good state, an enabled step that violates it
leads to a state without `P`: then `P` holds throughout a schedule exactly when its
steps meet the guard. -/
theorem always_iff_meets
    (keep : ∀ s l t, I s → V l → guard s l → step s l = some t → I t)
    (sound : ∀ s, I s → P s)
    (exact : ∀ s l t, I s → V l → step s l = some t → P t → guard s l)
    (s : State) (ls : List Label) (initial : I s) (labels : ∀ l ∈ ls, V l) :
    Always step P s ls ↔ Meets step guard s ls := by
  constructor
  · intro always
    induction ls generalizing s with
    | nil => trivial
    | cons l ls ih =>
      intro t taken
      have here : V l := labels l (by simp)
      have tail := always.2 t taken
      have allowed := exact s l t initial here taken tail.head
      exact ⟨allowed, ih t (keep s l t initial here allowed taken)
        (fun m member => labels m (by simp [member])) tail⟩
  · exact always_of_meets keep sound s ls initial labels

/-- A property of steps that the guard ensures from the invariant holds along a schedule whose
steps meet the guard. -/
theorem along_of_meets {Q : State → Label → State → Prop}
    (keep : ∀ s l t, I s → guard s l → step s l = some t → I t)
    (sound : ∀ s l t, I s → guard s l → step s l = some t → Q s l t)
    (s : State) (ls : List Label) (initial : I s) (meets : Meets step guard s ls) :
    Along step Q s ls := by
  induction ls generalizing s with
  | nil => trivial
  | cons l ls ih =>
    intro t taken
    obtain ⟨allowed, rest⟩ := meets t taken
    exact ⟨sound s l t initial allowed taken, ih t (keep s l t initial allowed taken) rest⟩

/-- What an invariant gives of every step holds along every schedule. -/
theorem along_of_keeps {Q : State → Label → State → Prop}
    (keep : ∀ s l t, I s → step s l = some t → I t)
    (sound : ∀ s l t, I s → step s l = some t → Q s l t) (s : State) (ls : List Label)
    (initial : I s) : Along step Q s ls := by
  induction ls generalizing s with
  | nil => trivial
  | cons l ls ih =>
    intro t taken
    exact ⟨sound s l t initial taken, ih t (keep s l t initial taken)⟩

/-- A property of steps holds along a schedule exactly when its steps meet a guard that is
exact from the invariant. -/
theorem along_iff_meets {Q : State → Label → State → Prop}
    (keep : ∀ s l t, I s → guard s l → step s l = some t → I t)
    (sound : ∀ s l t, I s → guard s l → step s l = some t → Q s l t)
    (exact : ∀ s l t, I s → step s l = some t → Q s l t → guard s l)
    (s : State) (ls : List Label) (initial : I s) :
    Along step Q s ls ↔ Meets step guard s ls := by
  constructor
  · intro along
    induction ls generalizing s with
    | nil => trivial
    | cons l ls ih =>
      intro t taken
      obtain ⟨here, rest⟩ := along t taken
      have allowed := exact s l t initial taken here
      exact ⟨allowed, ih t (keep s l t initial allowed taken) rest⟩
  · exact along_of_meets keep sound s ls initial

end SimpleVM.Transition
