import SimpleVM.Transition.Run
import Mathlib.Data.List.Nodup
import Mathlib.Data.List.Perm.Basic

/-!
# One continuation for several completers

`SocketConnectionCompletion` hands the first of several results to a continuation that may come
later than the result. Each call works under a lock first and acts on what it found there after
the lock is released, so calls interleave between the two.
-/
namespace SimpleVM.Apple

open Transition

inductive ConnectionError
  | timedOut
  | connectionFailed (message : String)
  | cancelled
deriving DecidableEq, Repr

inductive ConnectionResult
  | success (connection : Nat)
  | failure (error : ConnectionError)
deriving DecidableEq, Repr

namespace ConnectionResult

def connection? : ConnectionResult → Option Nat
  | success connection => some connection
  | failure _ => none

end ConnectionResult

/-- What a completer comes with; each connection that succeeds is one of its own. -/
inductive Outcome
  | connected
  | failed (error : ConnectionError)
deriving DecidableEq, Repr

/-- The result of the completer with this number. -/
def Outcome.result (outcome : Outcome) (number : Nat) : ConnectionResult :=
  match outcome with
  | connected => .success number
  | failed error => .failure error

structure SocketConnectionCompletion where
  /-- The continuation of the request. -/
  continuation : Option Unit := none
  pendingResult : Option ConnectionResult := none
  isCompleted : Bool := false
deriving DecidableEq, Repr

/-- What a call does once it has released the lock. -/
inductive Afterwards
  | resume (result : ConnectionResult)
  | close (connection : Nat)
  | nothing
deriving DecidableEq, Repr

namespace Afterwards

def resumed? : Afterwards → Option ConnectionResult
  | resume result => some result
  | close _ | nothing => none

def closed? : Afterwards → Option Nat
  | close connection => some connection
  | resume _ | nothing => none

end Afterwards

namespace SocketConnectionCompletion

/-- `install` up to its `unlock`. -/
def install (c : SocketConnectionCompletion) : SocketConnectionCompletion × Afterwards :=
  match c.pendingResult with
  | none => ({ c with continuation := some () }, .nothing)
  | some result => ({ c with pendingResult := none }, .resume result)

/-- `complete` up to its `unlock`. -/
def complete (c : SocketConnectionCompletion) (result : ConnectionResult) :
    SocketConnectionCompletion × Afterwards :=
  if c.isCompleted then
    match result with
    | .success connection => (c, .close connection)
    | .failure _ => (c, .nothing)
  else
    match c.continuation with
    | none => ({ c with isCompleted := true, pendingResult := some result }, .nothing)
    | some () => ({ c with isCompleted := true, continuation := none }, .resume result)

end SocketConnectionCompletion

/-- The object, the calls that have had the lock, and what came of them. -/
structure Race where
  completion : SocketConnectionCompletion := {}
  installed : Bool := false
  /-- In the order in which the completers had the lock. -/
  outcomes : List Outcome := []
  /-- What calls still have to do. -/
  remaining : List Afterwards := []
  resumed : List ConnectionResult := []
  closed : List Nat := []
deriving DecidableEq, Repr

inductive RaceStep
  /-- The request installs its continuation, once. -/
  | install
  /-- Another completer takes the lock. -/
  | complete (outcome : Outcome)
  /-- A call does what it still has to do. -/
  | finish (index : Nat)
deriving DecidableEq, Repr

namespace Race

def perform (s : Race) : Afterwards → Race
  | .resume result => { s with resumed := s.resumed ++ [result] }
  | .close connection => { s with closed := s.closed ++ [connection] }
  | .nothing => s

def step (s : Race) : RaceStep → Option Race
  | .install =>
    if s.installed then none
    else
      let (completion, afterwards) := s.completion.install
      some { s with completion, installed := true, remaining := s.remaining ++ [afterwards] }
  | .complete outcome =>
    let (completion, afterwards) := s.completion.complete (outcome.result s.outcomes.length)
    some { s with
      completion
      outcomes := s.outcomes ++ [outcome]
      remaining := s.remaining ++ [afterwards] }
  | .finish index => do
    let afterwards ← s.remaining[index]?
    return perform { s with remaining := s.remaining.eraseIdx index } afterwards

/-- The results, the first completed one first. -/
def results (s : Race) : List ConnectionResult := s.outcomes.mapIdx fun number outcome =>
  outcome.result number

/-- The continuation has been resumed at most once, with the first result; connections that did
not win have been closed at most once, and no others. -/
structure AtMostOnce (s : Race) : Prop where
  resumed : s.resumed = [] ∨ ∃ first, s.results.head? = some first ∧ s.resumed = [first]
  closed : s.closed.Nodup ∧ ∀ connection ∈ s.closed, .success connection ∈ s.results.tail
  winner : ∀ connection, s.results.head? = some (.success connection) → connection ∉ s.closed

/-- The continuation has been resumed once, with the first result; every connection that did not
win has been closed once. -/
structure ExactlyOnce (s : Race) : Prop where
  resumed : ∃ first, s.results.head? = some first ∧ s.resumed = [first]
  closed : ∀ connection,
    s.closed.count connection = if .success connection ∈ s.results.tail then 1 else 0

section Invariant

/-- What has been resumed or will be. -/
def resumptions (s : Race) : List ConnectionResult :=
  s.resumed ++ s.remaining.filterMap Afterwards.resumed?

/-- What has been closed or will be. -/
def closings (s : Race) : List Nat := s.closed ++ s.remaining.filterMap Afterwards.closed?

/-- What the object holds after the calls that have had the lock. -/
def expected (installed : Bool) (first : Option ConnectionResult) : SocketConnectionCompletion where
  continuation := if installed ∧ first = none then some () else none
  pendingResult := if installed then none else first
  isCompleted := first.isSome

/-- **Invariant.** The first result waits for the continuation, or is resumed; the connections of
later ones are closed. -/
structure Sound (s : Race) : Prop where
  completion : s.completion = expected s.installed s.results.head?
  resumptions : s.resumptions.Perm (if s.installed then s.results.head?.toList else [])
  closings : s.closings.Perm (s.results.tail.filterMap ConnectionResult.connection?)

theorem Sound.start : Sound {} where
  completion := rfl
  resumptions := .nil
  closings := .nil

/-- A call that finishes moves what it does from the calls to what has come of them. -/
theorem filterMap_eraseIdx {β : Type} (f : Afterwards → Option β) {remaining : List Afterwards}
    {index : Nat} {afterwards : Afterwards} (found : remaining[index]? = some afterwards) :
    ((f afterwards).toList ++ (remaining.eraseIdx index).filterMap f).Perm
      (remaining.filterMap f) := by
  obtain ⟨inside, here⟩ := List.getElem?_eq_some_iff.mp found
  have moved := (List.getElem_cons_eraseIdx_perm inside).filterMap f
  rw [here, List.filterMap_cons] at moved
  cases known : f afterwards with
  | none => simpa [known] using moved
  | some b => simpa [known] using moved

theorem finish_spec {s t : Race} {index : Nat} (taken : s.step (.finish index) = some t) :
    t.completion = s.completion ∧ t.installed = s.installed ∧ t.outcomes = s.outcomes ∧
      t.resumptions.Perm s.resumptions ∧ t.closings.Perm s.closings ∧
      index < s.remaining.length ∧ t.remaining = s.remaining.eraseIdx index := by
  obtain ⟨afterwards, found, performed⟩ := Option.bind_eq_some_iff.mp taken
  have resumes := (filterMap_eraseIdx Afterwards.resumed? found).append_left s.resumed
  have closes := (filterMap_eraseIdx Afterwards.closed? found).append_left s.closed
  obtain ⟨inside, -⟩ := List.getElem?_eq_some_iff.mp found
  cases performed
  cases afterwards with
  | resume result =>
    refine ⟨rfl, rfl, rfl, ?_, closes, inside, rfl⟩
    simpa [resumptions, perform, Afterwards.resumed?] using resumes
  | close connection =>
    refine ⟨rfl, rfl, rfl, resumes, ?_, inside, rfl⟩
    simpa [closings, perform, Afterwards.closed?] using closes
  | nothing => exact ⟨rfl, rfl, rfl, resumes, closes, inside, rfl⟩

theorem results_complete (outcomes : List Outcome) (outcome : Outcome) :
    (outcomes ++ [outcome]).mapIdx (fun number outcome => outcome.result number) =
      outcomes.mapIdx (fun number outcome => outcome.result number) ++
        [outcome.result outcomes.length] := by
  simp

theorem filterMap_last {α β : Type} (f : α → Option β) (items : List α) (last : α) :
    (items ++ [last]).filterMap f = items.filterMap f ++ (f last).toList := by
  rw [List.filterMap_append]
  cases known : f last <;> simp [known]

/-- A call that has had the lock adds what it will do. -/
theorem filterMap_locked {β : Type} (f : Afterwards → Option β) (done : List β)
    (remaining : List Afterwards) (afterwards : Afterwards) :
    done ++ (remaining ++ [afterwards]).filterMap f =
      done ++ remaining.filterMap f ++ (f afterwards).toList := by
  rw [filterMap_last, List.append_assoc]

theorem install_spec {s t : Race} (taken : s.step .install = some t) :
    s.installed = false ∧ t.installed = true ∧ t.outcomes = s.outcomes ∧
      t.completion = s.completion.install.1 ∧
      t.resumptions = s.resumptions ++ s.completion.install.2.resumed?.toList ∧
      t.closings = s.closings ++ s.completion.install.2.closed?.toList := by
  simp only [step] at taken
  split at taken
  · cases taken
  · next first =>
    cases taken
    exact ⟨Bool.eq_false_iff.mpr first, rfl, rfl, rfl, filterMap_locked _ _ _ _,
      filterMap_locked _ _ _ _⟩

theorem complete_spec {s t : Race} {outcome : Outcome}
    (taken : s.step (.complete outcome) = some t) :
    let completed := s.completion.complete (outcome.result s.outcomes.length)
    t.installed = s.installed ∧ t.results = s.results ++ [outcome.result s.outcomes.length] ∧
      t.completion = completed.1 ∧
      t.resumptions = s.resumptions ++ completed.2.resumed?.toList ∧
      t.closings = s.closings ++ completed.2.closed?.toList := by
  cases taken
  exact ⟨rfl, results_complete _ _, rfl, filterMap_locked _ _ _ _, filterMap_locked _ _ _ _⟩

theorem install_expected (first : Option ConnectionResult) :
    (expected false first).install.1 = expected true first ∧
      (expected false first).install.2.resumed? = first ∧
      (expected false first).install.2.closed? = none := by
  cases first <;> exact ⟨rfl, rfl, rfl⟩

/-- The first result is resumed or kept, the connection of a later one is closed. -/
theorem complete_expected (installed : Bool) (first : Option ConnectionResult)
    (result : ConnectionResult) :
    ((expected installed first).complete result).1 = expected installed (first.or (some result)) ∧
      ((expected installed first).complete result).2.resumed? =
        (if installed ∧ first = none then some result else none) ∧
      ((expected installed first).complete result).2.closed? =
        (if first = none then none else result.connection?) := by
  cases first with
  | none => cases installed <;> exact ⟨rfl, rfl, rfl⟩
  | some first =>
    cases result with
    | success connection => cases installed <;> exact ⟨rfl, rfl, rfl⟩
    | failure error => cases installed <;> exact ⟨rfl, rfl, rfl⟩

/-- **Step lemma.** -/
theorem Sound.step (s : Race) (l : RaceStep) (t : Race) (sound : s.Sound)
    (taken : s.step l = some t) : t.Sound := by
  have waits := sound.completion
  have resumes := sound.resumptions
  have closes := sound.closings
  -- The handler is installed, an attempt ends, or a call goes on with what it was given.
  cases l with
  | install =>
    obtain ⟨before, after, outcomes, completion, resumptions, closings⟩ := install_spec taken
    have results : t.results = s.results := by
      unfold results
      rw [outcomes]
    rw [before] at waits resumes
    rw [waits] at completion resumptions closings
    obtain ⟨holds, resumed, closed⟩ := install_expected s.results.head?
    rw [holds] at completion
    rw [resumed] at resumptions
    rw [closed] at closings
    refine ⟨?_, ?_, ?_⟩
    · rw [completion, after, results]
    · have nothing : s.resumptions = [] := by simpa using resumes
      rw [resumptions, nothing, after, results]
      simp
    · rw [closings, results]
      simpa using closes
  | complete outcome =>
    obtain ⟨installed, results, completion, resumptions, closings⟩ := complete_spec taken
    rw [waits] at completion resumptions closings
    obtain ⟨holds, resumed, closed⟩ := complete_expected s.installed s.results.head?
      (outcome.result s.outcomes.length)
    rw [holds] at completion
    rw [resumed] at resumptions
    rw [closed] at closings
    refine ⟨?_, ?_, ?_⟩
    · rw [completion, installed, results, List.head?_append]
      rfl
    · rw [resumptions, installed, results]
      -- The first result is kept for the handler, and every later one is closed.
      cases known : s.results with
      | nil =>
        rw [known] at resumes
        have nothing : s.resumptions = [] := by simpa using resumes
        rw [nothing]
        cases s.installed <;> simp
      | cons first later =>
        rw [known] at resumes
        simpa using resumes
    · rw [closings, results]
      cases known : s.results with
      | nil =>
        rw [known] at closes
        simpa using closes
      | cons first later =>
        rw [known] at closes
        have added := closes.append_right (outcome.result s.outcomes.length).connection?.toList
        rw [List.cons_append, List.tail_cons, filterMap_last]
        simpa using added
  | finish index =>
    obtain ⟨completion, installed, outcomes, resumes', closes', -⟩ := finish_spec taken
    have results : t.results = s.results := by
      unfold results
      rw [outcomes]
    refine ⟨?_, ?_, ?_⟩
    · rw [completion, installed, results]
      exact waits
    · rw [installed, results]
      exact resumes'.trans resumes
    · rw [results]
      exact closes'.trans closes

section Connections

variable {outcomes : List Outcome}

/-- Completers bring connections of their own. -/
theorem nodup_connections (start : Nat) (outcomes : List Outcome) :
    ((outcomes.mapIdx fun number outcome => outcome.result (start + number)).filterMap
        ConnectionResult.connection?).Nodup ∧
      ∀ connection ∈ (outcomes.mapIdx fun number outcome =>
        outcome.result (start + number)).filterMap ConnectionResult.connection?,
          start ≤ connection := by
  -- Induction on the outcomes: a connection carries the number of its attempt.
  induction outcomes generalizing start with
  | nil => simp
  | cons outcome later ih =>
    have shifted : (later.mapIdx fun number outcome => outcome.result (start + (number + 1))) =
        later.mapIdx fun number outcome => outcome.result (start + 1 + number) := by
      congr 1
      funext number outcome
      congr 1
      omega
    obtain ⟨apart, above⟩ := ih (start + 1)
    rw [List.mapIdx_cons, shifted, Nat.add_zero]
    cases outcome with
    | connected =>
      rw [List.filterMap_cons_some (by rfl)]
      refine ⟨List.nodup_cons.mpr ⟨fun member => ?_, apart⟩, fun connection member => ?_⟩
      · have more := above start member
        omega
      · rcases List.mem_cons.mp member with rfl | rest
        · exact Nat.le_refl _
        · have more := above connection rest
          omega
    | failed error =>
      rw [List.filterMap_cons_none (by rfl)]
      refine ⟨apart, fun connection member => ?_⟩
      have more := above connection member
      omega

theorem nodup_results (s : Race) : (s.results.filterMap ConnectionResult.connection?).Nodup := by
  have apart := (nodup_connections 0 s.outcomes).1
  simp only [Nat.zero_add] at apart
  exact apart

theorem mem_connections {results : List ConnectionResult} {connection : Nat} :
    connection ∈ results.filterMap ConnectionResult.connection? ↔ .success connection ∈ results := by
  rw [List.mem_filterMap]
  constructor
  · rintro ⟨result, member, known⟩
    cases result with
    | success other =>
      cases known
      exact member
    | failure error => cases known
  · intro member
    exact ⟨_, member, rfl⟩

end Connections

variable {s : Race}

/-- The connections of all results but the first come once. -/
theorem nodup_tail (s : Race) :
    (s.results.tail.filterMap ConnectionResult.connection?).Nodup :=
  (nodup_results s).sublist ((List.tail_sublist s.results).filterMap _)

theorem Sound.atMostOnce (sound : s.Sound) : s.AtMostOnce where
  resumed := by
    have resumes := sound.resumptions
    -- The expected resumptions are none or the first result.
    have possible : (if s.installed then s.results.head?.toList else []) = [] ∨
        ∃ first, s.results.head? = some first ∧
          (if s.installed then s.results.head?.toList else []) = [first] := by
      cases s.installed with
      | false => exact .inl rfl
      | true =>
        cases s.results.head? with
        | none => exact .inl rfl
        | some first => exact .inr ⟨first, rfl, rfl⟩
    rcases possible with nothing | ⟨first, known, one⟩
    · rw [nothing, List.perm_nil] at resumes
      exact .inl (List.append_eq_nil_iff.mp resumes).1
    · rw [one, List.perm_singleton] at resumes
      rcases List.append_eq_singleton_iff.mp resumes with ⟨before, -⟩ | ⟨all, -⟩
      · exact .inl before
      · exact .inr ⟨first, known, all⟩
  closed := by
    have apart : s.closings.Nodup := sound.closings.nodup_iff.mpr (nodup_tail s)
    refine ⟨(List.nodup_append.mp apart).1, fun connection member => ?_⟩
    exact mem_connections.mp (sound.closings.subset (List.mem_append_left _ member))
  winner := by
    intro connection first member
    have later := sound.closings.subset (List.mem_append_left _ member)
    have apart := nodup_results s
    cases known : s.results with
    | nil =>
      rw [known] at first
      cases first
    | cons result rest =>
      rw [known] at first later apart
      cases first
      rw [List.filterMap_cons_some (by rfl)] at apart
      exact (List.nodup_cons.mp apart).1 later

/-- Once all calls are over. -/
theorem Sound.exactlyOnce (sound : s.Sound) (installed : s.installed = true)
    (completed : s.outcomes ≠ []) (ended : s.remaining = []) : s.ExactlyOnce where
  resumed := by
    have resumes := sound.resumptions
    unfold Race.resumptions at resumes
    rw [installed, ended, List.filterMap_nil, List.append_nil] at resumes
    cases known : s.results with
    | nil =>
      have length := congrArg List.length known
      simp only [results, List.length_mapIdx, List.length_nil] at length
      exact absurd (List.length_eq_zero_iff.mp length) completed
    | cons first later =>
      rw [known] at resumes
      exact ⟨first, rfl, List.perm_singleton.mp (by simpa using resumes)⟩
  closed := by
    intro connection
    have closes := sound.closings
    unfold Race.closings at closes
    rw [ended, List.filterMap_nil, List.append_nil] at closes
    rw [closes.count_eq]
    split
    · next later => exact List.count_eq_one_of_mem (nodup_tail s) (mem_connections.mpr later)
    · next never =>
      exact List.count_eq_zero_of_not_mem fun member => never (mem_connections.mp member)

/-- The calls can always come to their ends. -/
theorem finishes (s : Race) : ∃ ls t, Run step s ls t ∧ t.remaining = [] ∧
    t.installed = s.installed ∧ t.outcomes = s.outcomes := by
  induction length : s.remaining.length generalizing s with
  | zero => exact ⟨[], s, .done s, List.length_eq_zero_iff.mp length, rfl, rfl⟩
  | succ n ih =>
    cases known : s.remaining with
    | nil => simp [known] at length
    | cons afterwards rest =>
      have taken : s.step (.finish 0) = some (perform { s with remaining := rest } afterwards) := by
        simp [step, known]
      obtain ⟨-, installed, outcomes, -, -, -, less⟩ := finish_spec taken
      have shorter : (perform { s with remaining := rest } afterwards).remaining.length = n := by
        rw [less, known]
        simpa [known] using length
      obtain ⟨ls, t, run, ended, same, same'⟩ := ih _ shorter
      exact ⟨.finish 0 :: ls, t, .next taken run, ended, same.trans installed, same'.trans outcomes⟩

end Invariant

/-- **The request goes on once.** However `install` and the completers interleave, the continuation
is never resumed twice or with another result than the first, no connection is closed twice, and
the winning one never. The calls can always come to their ends, and when they have, the
continuation has been resumed and every connection that did not win has been closed. -/
theorem completes_once (ls : List RaceStep) (s : Race) (run : Run step {} ls s) :
    s.AtMostOnce ∧
      (s.installed = true → s.outcomes ≠ [] → s.remaining = [] → s.ExactlyOnce) ∧
      ∃ ms t, Run step s ms t ∧ t.remaining = [] ∧ t.installed = s.installed ∧
        t.outcomes = s.outcomes := by
  have sound : s.Sound := run.keeps Sound.step .start
  exact ⟨sound.atMostOnce, sound.exactlyOnce, finishes s⟩

/-- A cancellation before the continuation is there, and a connection that comes too late. -/
theorem cancelled_request_completes : ∃ s : Race, s.ExactlyOnce ∧
    s.resumed = [.failure .cancelled] ∧ s.closed = [1] := by
  obtain ⟨-, once, -⟩ := completes_once
    [.complete (.failed .cancelled), .complete .connected, .install, .finish 1, .finish 1,
      .finish 0] _ (run_of_execute rfl)
  exact ⟨_, once rfl (by decide) rfl, rfl, rfl⟩

end Race

end SimpleVM.Apple
