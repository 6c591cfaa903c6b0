import SimpleVM.SPICE.ConnectionController
import SimpleVM.Transition.Run

/-!
# Every connect ends

The controller has one slot for a continuation and one for a connection, and a callback
resumes the continuation in the slot only while its connection is the current one. Nothing is
lost as long as both slots are left alone while a continuation waits; `disconnect`, another
attempt and the clean-up after a failed one do not look before they write them.
-/
namespace SimpleVM.SPICE

open Transition

namespace ConnectionController

/-- Every continuation was resumed exactly once, or a report of its connection will do so. -/
def Ends (s : ConnectionController) : Prop :=
  ∀ k < s.made, s.timesResumed k = 1 ∨
    (s.timesResumed k = 0 ∧ ∀ report, (s.handle k report).timesResumed k = 1)

/-- The event makes or drops a connection: an attempt that finds the socket, the clean-up after
a failed attempt, or `disconnect`. -/
def disturbs (s : ConnectionController) : Event → Bool
  | .connect clientStarts attempt => clientStarts && decide (attempt ≠ .noSocket)
  | .wake index attempt => decide (attempt ≠ .noSocket) &&
      (s.calls[index]?).any fun call => decide (call.remaining ≠ 0)
  | .proceed index => (s.calls[index]?).any fun call =>
      match call.stage with
      | .resumed _ error => error.isSome
      | _ => false
  | .disconnect => true
  | .cancel _ | .report .. | .deliver _ => false

/-- Connections are made and dropped only while no continuation waits. -/
def Undisturbed (s : ConnectionController) (e : Event) : Prop :=
  s.disturbs e = true → s.connectionContinuation = none

/-- The state of the two slots and of the continuations. -/
structure Slots where
  connection : Option Nat
  connectionContinuation : Option Nat
  made : Nat
  resumptions : List (Nat × Option SPICEConnectionError)

def slots (s : ConnectionController) : Slots where
  connection := s.connection
  connectionContinuation := s.connectionContinuation
  made := s.made
  resumptions := s.resumptions

namespace Slots

def timesResumed (slots : Slots) (k : Nat) : Nat := (slots.resumptions.map Prod.fst).count k

def resume (slots : Slots) (k : Nat) (error : Option SPICEConnectionError) : Slots :=
  { slots with resumptions := slots.resumptions ++ [(k, error)] }

/-- All that a step can do to the slots, by whether it disturbs them. -/
inductive Effect (slots : Slots) : Slots → Bool → Prop
  | nothing : Effect slots slots false
  | resumes (k : Nat) (error : Option SPICEConnectionError) :
    slots.connection ≠ none → slots.connectionContinuation = some k →
    Effect slots { slots.resume k error with connectionContinuation := none } false
  | drops : Effect slots { slots with connection := none } true
  | refuses (error : Option SPICEConnectionError) :
    Effect slots { slots.resume slots.made error with
      connection := none, connectionContinuation := none, made := slots.made + 1 } true
  | starts : Effect slots { slots with
      connection := some slots.made
      connectionContinuation := some slots.made
      made := slots.made + 1 } true

@[simp] theorem timesResumed_resume (slots : Slots) (k other : Nat)
    (error : Option SPICEConnectionError) :
    (slots.resume k error).timesResumed other =
      slots.timesResumed other + if k = other then 1 else 0 := by
  simp [timesResumed, resume, List.count_singleton]

end Slots

theorem effect_attempt (s : ConnectionController) (remaining : Nat)
    (lastError : Option SPICEConnectionError) (attempt : Attempt) :
    s.slots.Effect (s.attempt remaining lastError attempt).slots (decide (attempt ≠ .noSocket)) := by
  cases attempt with
  | noSocket => exact .nothing
  | refused => exact .refuses (some .connectionFailed)
  | started => exact .starts

/-- Only a callback of the current connection touches a slot, and only a waiting continuation. -/
theorem handle_slots (s : ConnectionController) (k : Nat) (report : Report) :
    (∃ continuation error, s.connection = some k ∧ s.connectionContinuation = some continuation ∧
      (s.handle k report).slots =
        { s.slots.resume continuation error with connectionContinuation := none }) ∨
    ((s.connection ≠ some k ∨ s.connectionContinuation = none) ∧
      (s.handle k report).slots = s.slots) := by
  by_cases current : s.connection = some k
  · cases waiting : s.connectionContinuation with
    | none =>
      refine .inr ⟨.inr rfl, ?_⟩
      cases report <;> simp [handle, current, waiting, slots]
    | some continuation =>
      refine .inl ?_
      cases report with
      | connected =>
        exact ⟨continuation, none, current, rfl,
          by simp [handle, current, waiting, slots, resume, Slots.resume]⟩
      | disconnected =>
        exact ⟨continuation, some .connectionFailed, current, rfl,
          by simp [handle, current, waiting, slots, resume, Slots.resume]⟩
      | error message =>
        exact ⟨continuation, some (.remote message), current, rfl,
          by simp [handle, current, waiting, slots, resume, Slots.resume]⟩
  · refine .inr ⟨.inl current, ?_⟩
    cases report with
    | connected => simp [handle, current]
    | disconnected =>
      cases waiting : s.connectionContinuation <;> simp [handle, current, waiting]
    | error message =>
      cases waiting : s.connectionContinuation <;> simp [handle, current, waiting, slots]

theorem effect_handle (s : ConnectionController) (k : Nat) (report : Report) :
    s.slots.Effect (s.handle k report).slots false := by
  rcases s.handle_slots k report with ⟨continuation, error, current, waiting, same⟩ | ⟨_, same⟩
  · rw [same]
    exact .resumes continuation error (by simp [slots, current]) waiting
  · rw [same]
    exact .nothing

/-- Taking a call out of the list leaves the slots. -/
theorem takeCall_eq_some {s rest : ConnectionController} {index : Nat} {call : ConnectCall}
    (taken : s.takeCall index = some (call, rest)) :
    s.calls[index]? = some call ∧ rest = { s with calls := s.calls.eraseIdx index } := by
  simp only [takeCall, Option.map_eq_some_iff, Prod.mk.injEq] at taken
  obtain ⟨_, found, rfl, rfl⟩ := taken
  exact ⟨found, rfl⟩

theorem step_effect {s t : ConnectionController} {e : Event} (taken : s.step e = some t) :
    s.slots.Effect t.slots (s.disturbs e) := by
  cases e with
  | connect clientStarts attempt =>
    cases taken
    cases clientStarts with
    | false => exact .nothing
    | true =>
      simp only [disturbs, Bool.true_and]
      exact s.effect_attempt 99 none attempt
  | wake index attempt =>
    obtain ⟨⟨call, rest⟩, out, woken⟩ := Option.bind_eq_some_iff.mp taken
    obtain ⟨found, rfl⟩ := takeCall_eq_some out
    simp only [disturbs, found, Option.any_some]
    simp only [wake] at woken
    split at woken
    · split at woken
      · next last =>
        cases woken
        simp only [last, ne_eq, not_true_eq_false, decide_false, Bool.and_false]
        exact .nothing
      · next remaining more =>
        cases woken
        simp only [more, ne_eq, Nat.succ_ne_zero, not_false_eq_true, decide_true, Bool.and_true]
        exact effect_attempt { s with calls := s.calls.eraseIdx index } remaining call.lastError
          attempt
    · cases woken
  | cancel index =>
    obtain ⟨⟨call, rest⟩, out, cancelled⟩ := Option.bind_eq_some_iff.mp taken
    obtain ⟨found, rfl⟩ := takeCall_eq_some out
    simp only at cancelled
    split at cancelled
    · cases cancelled
      exact .nothing
    · cases cancelled
  | proceed index =>
    obtain ⟨⟨call, rest⟩, out, proceeded⟩ := Option.bind_eq_some_iff.mp taken
    obtain ⟨found, rfl⟩ := takeCall_eq_some out
    simp only [disturbs, found, Option.any_some]
    simp only [proceed] at proceeded
    split at proceeded
    · next stage =>
      cases proceeded
      simp only [stage]
      exact .nothing
    · next stage =>
      cases proceeded
      simp only [stage]
      exact .drops
    · cases proceeded
  | disconnect =>
    cases taken
    exact .drops
  | report k report =>
    simp only [step] at taken
    split at taken
    · cases taken
      exact .nothing
    · cases taken
  | deliver index =>
    obtain ⟨⟨k, report⟩, found, delivered⟩ := Option.bind_eq_some_iff.mp taken
    cases delivered
    exact effect_handle { s with reports := s.reports.eraseIdx index } k report

/-- A continuation that has not been resumed is the waiting one, and its connection the current
one. -/
structure Slots.Kept (slots : Slots) : Prop where
  fresh : ∀ k, slots.made ≤ k → slots.timesResumed k = 0
  once : ∀ k < slots.made, slots.timesResumed k = 1 ∨ (slots.timesResumed k = 0 ∧
    slots.connectionContinuation = some k ∧ slots.connection = some k)
  waiting : ∀ k, slots.connectionContinuation = some k → k < slots.made ∧ slots.timesResumed k = 0

namespace Slots

variable {before after : Slots}

/-- **Step lemma.** Undisturbed, the slots keep every waiting continuation resumable. -/
theorem Kept.step (kept : before.Kept) {disturbs : Bool} (effect : before.Effect after disturbs)
    (undisturbed : disturbs = true → before.connectionContinuation = none) : after.Kept := by
  cases effect with
  | nothing => exact kept
  | resumes k error current waiting =>
    obtain ⟨known, unresumed⟩ := kept.waiting k waiting
    refine ⟨fun other beyond => ?_, fun other below => .inl ?_, fun _ absurd => by cases absurd⟩
    · have apart : k ≠ other := by
        rintro rfl
        exact absurd known (Nat.not_lt.mpr beyond)
      have none := kept.fresh other beyond
      change (before.resume k error).timesResumed other = 0
      rw [timesResumed_resume, none, if_neg apart]
    · change (before.resume k error).timesResumed other = 1
      rw [timesResumed_resume]
      rcases kept.once other below with once | ⟨never, waits, _⟩
      · have apart : k ≠ other := by
          rintro rfl
          rw [unresumed] at once
          cases once
        rw [once, if_neg apart]
      · rw [waiting] at waits
        cases waits
        rw [never, if_pos rfl]
  | drops =>
    have empty := undisturbed rfl
    refine ⟨kept.fresh, fun other below => .inl ?_, fun other waits => ?_⟩
    · rcases kept.once other below with once | ⟨_, waits, _⟩
      · exact once
      · rw [empty] at waits
        cases waits
    · rw [show before.connectionContinuation = some other from waits] at empty
      cases empty
  | refuses error =>
    have empty := undisturbed rfl
    refine ⟨fun other beyond => ?_, fun other below => .inl ?_, fun _ absurd => by cases absurd⟩
    · have beyond : before.made + 1 ≤ other := beyond
      change (before.resume before.made error).timesResumed other = 0
      rw [timesResumed_resume, kept.fresh other (by omega), if_neg (by omega)]
    · have below : other < before.made + 1 := below
      change (before.resume before.made error).timesResumed other = 1
      rw [timesResumed_resume]
      by_cases last : before.made = other
      · rw [kept.fresh other (by omega), if_pos last]
      · rcases kept.once other (by omega) with once | ⟨_, waits, _⟩
        · rw [once, if_neg last]
        · rw [empty] at waits
          cases waits
  | starts =>
    have empty := undisturbed rfl
    refine ⟨fun other beyond => ?_, fun other below => ?_, fun other waits => ?_⟩
    · have beyond : before.made + 1 ≤ other := beyond
      exact kept.fresh other (by omega)
    · have below : other < before.made + 1 := below
      by_cases last : other = before.made
      · subst last
        exact .inr ⟨kept.fresh before.made (Nat.le_refl _), rfl, rfl⟩
      · rcases kept.once other (by omega) with once | ⟨_, waits, _⟩
        · exact .inl once
        · rw [empty] at waits
          cases waits
    · cases waits
      exact ⟨Nat.lt_succ_self _, kept.fresh before.made (Nat.le_refl _)⟩

/-- The continuation has not been resumed, and it has left the slot or its connection has. -/
structure Lost (slots : Slots) (k : Nat) : Prop where
  known : k < slots.made
  never : slots.timesResumed k = 0
  dropped : slots.connectionContinuation = some k → slots.connection = none

/-- Whatever disturbs the slots while a continuation waits loses the continuation. -/
theorem Kept.lost (kept : before.Kept) {k : Nat} (waiting : before.connectionContinuation = some k)
    (effect : before.Effect after true) : after.Lost k := by
  obtain ⟨known, never⟩ := kept.waiting k waiting
  cases effect with
  | drops => exact ⟨known, never, fun _ => rfl⟩
  | refuses error =>
    refine ⟨Nat.lt_succ_of_lt known, ?_, fun absurd => by cases absurd⟩
    change (before.resume before.made error).timesResumed k = 0
    rw [timesResumed_resume, never, if_neg (by omega)]
  | starts =>
    refine ⟨Nat.lt_succ_of_lt known, never, fun waits => ?_⟩
    cases waits
    exact absurd known (Nat.lt_irrefl _)

/-- A lost continuation stays lost. -/
theorem Lost.step {k : Nat} (lost : before.Lost k) {disturbs : Bool}
    (effect : before.Effect after disturbs) : after.Lost k := by
  cases effect with
  | nothing => exact lost
  | resumes other error current waiting =>
    refine ⟨lost.known, ?_, fun absurd => by cases absurd⟩
    have apart : other ≠ k := by
      rintro rfl
      exact current (lost.dropped waiting)
    change (before.resume other error).timesResumed k = 0
    rw [timesResumed_resume, lost.never, if_neg apart]
  | drops => exact ⟨lost.known, lost.never, fun _ => rfl⟩
  | refuses error =>
    have known := lost.known
    refine ⟨Nat.lt_succ_of_lt known, ?_, fun absurd => by cases absurd⟩
    change (before.resume before.made error).timesResumed k = 0
    rw [timesResumed_resume, lost.never, if_neg (by omega)]
  | starts =>
    refine ⟨Nat.lt_succ_of_lt lost.known, lost.never, fun waits => ?_⟩
    cases waits
    exact absurd lost.known (Nat.lt_irrefl _)

end Slots

theorem timesResumed_handle (s : ConnectionController) (k : Nat) (report : Report)
    (current : s.connection = some k) (waiting : s.connectionContinuation = some k) :
    (s.handle k report).timesResumed k = s.timesResumed k + 1 := by
  rcases s.handle_slots k report with ⟨continuation, error, _, waits, same⟩ | ⟨idle, _⟩
  · rw [waiting] at waits
    cases waits
    change (s.handle k report).slots.timesResumed k = s.slots.timesResumed k + 1
    rw [same]
    change (s.slots.resume k error).timesResumed k = _
    rw [Slots.timesResumed_resume, if_pos rfl]
  · rcases idle with other | empty
    · exact absurd current other
    · rw [waiting] at empty
      cases empty

theorem ends_of_kept {s : ConnectionController} (kept : s.slots.Kept) : s.Ends := by
  intro k known
  rcases kept.once k known with once | ⟨never, waiting, current⟩
  · exact .inl once
  · refine .inr ⟨never, fun report => ?_⟩
    have never : s.timesResumed k = 0 := never
    rw [s.timesResumed_handle k report current waiting, never]

/-- No callback resumes a lost continuation. -/
theorem not_ends_of_lost {s : ConnectionController} {k : Nat} (lost : s.slots.Lost k) :
    ¬ s.Ends := by
  intro ends
  have never : s.timesResumed k = 0 := lost.never
  rcases ends k lost.known with once | ⟨_, resumed⟩
  · rw [never] at once
    cases once
  · have later : (s.handle k .disconnected).slots.Lost k := lost.step (s.effect_handle k .disconnected)
    have again := resumed .disconnected
    rw [show (s.handle k .disconnected).timesResumed k = 0 from later.never] at again
    cases again

/-- A lost continuation is not resumed in any later run. -/
theorem lost_for_good {s t : ConnectionController} {events : List Event} {k : Nat}
    (lost : s.slots.Lost k) (run : Run step s events t) : t.timesResumed k = 0 := by
  have still : t.slots.Lost k :=
    run.keeps (I := fun s => s.slots.Lost k)
      (fun _ _ _ lost taken => lost.step (step_effect taken)) lost
  exact still.never

end ConnectionController

/-- **Every connect ends** in exactly the runs that make and drop connections only while no
continuation waits. -/
theorem connects_end_iff (events : List Event) :
    Always ConnectionController.step ConnectionController.Ends {} events ↔
      Meets ConnectionController.step ConnectionController.Undisturbed {} events := by
  refine always_iff_meets (I := fun s : ConnectionController => s.slots.Kept) (V := fun _ => True) ?_
    (fun _ kept => ConnectionController.ends_of_kept kept) ?_ {} events ?_ (fun _ _ => trivial)
  · exact fun s e t kept _ undisturbed taken =>
      kept.step (ConnectionController.step_effect taken) undisturbed
  · intro s e t kept _ taken ends disturbs
    cases waiting : s.connectionContinuation with
    | none => rfl
    | some k =>
      have effect := ConnectionController.step_effect taken
      rw [disturbs] at effect
      exact absurd ends (ConnectionController.not_ends_of_lost (kept.lost waiting effect))
  · exact ⟨fun _ _ => rfl, fun _ below => absurd below (Nat.not_lt_zero _), fun _ waits => by cases waits⟩

/-- A call of `disconnect` while the connection is being set up, after which CocoaSpice reports
as it should: the continuation is never resumed. -/
theorem connect_never_ends : ∃ events t, Run ConnectionController.step {} events t ∧
    t.reports = [] ∧ t.disconnected = [0] ∧ Event.report 0 .disconnected ∈ events ∧
    ¬ Always ConnectionController.step ConnectionController.Ends {} events ∧
    ∀ later u, Run ConnectionController.step t later u → u.timesResumed 0 = 0 := by
  refine ⟨[.connect true .started, .disconnect, .report 0 .disconnected, .deliver 0], _,
    .next rfl (.next rfl (.next rfl (.next rfl (.done _)))), rfl, rfl, by decide, fun always => ?_,
    fun later u run => ?_⟩
  · have ends := (((always.2 _ rfl).2 _ rfl).2 _ rfl).2 _ rfl
    rcases ends 0 (by decide) with once | ⟨_, resumed⟩
    · exact absurd once (by decide)
    · exact absurd (resumed .disconnected) (by decide)
  · refine ConnectionController.lost_for_good ⟨by decide, by decide, fun _ => rfl⟩ run

end SimpleVM.SPICE
