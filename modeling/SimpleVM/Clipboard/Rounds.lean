import SimpleVM.Clipboard.Synchronizer
import SimpleVM.Transition.Run

/-!
# Runs of the clipboard synchroniser

`start` spawns a task that runs one round after another and `stop` cancels it, but a round
whose request is pending still goes on when the reply arrives. The users copy at any time,
and so between a request and its reply.
-/
namespace SimpleVM.Clipboard

open Agent (GuestAgentResponse maximumClipboardSize)

/-- A round whose request is pending, with the text last copied on the host since it began. -/
structure Round where
  task : Nat
  waits : Suspension
  newer : Option String := none
deriving DecidableEq, Repr

/-- The synchroniser with its tasks, the guest clipboard, and the host text copied during a
round and not looked at by a later one. -/
structure ClipboardSession where
  host : Host
  guest : Option String
  task : Option Nat := none
  tasks : Nat := 0
  rounds : List Round := []
  owed : Option String := none
deriving DecidableEq, Repr

inductive ClipboardEvent
  | start
  | stop
  | begin
  | writeReply (i : Nat) (response : Option GuestAgentResponse) (took : Bool)
  | readReply (i : Nat) (response : Option GuestAgentResponse)
  | copyHost (text : Option String)
  | copyGuest (text : Option String)
deriving DecidableEq, Repr

/-- `stop` forgets the text that still had to be written. -/
def stop (h : Host) : Host :=
  { h with synchronizer := { h.synchronizer with
      pendingHostText := none, pendingHostWriteAttempts := 0 } }

/-- Any copy raises the change count; one without text leaves no string. -/
def Pasteboard.copy (p : Pasteboard) (text : Option String) : Pasteboard where
  changeCount := p.changeCount + 1
  string := text

namespace ClipboardSession

/-- The rounds once the `i`-th one, `r`, has reached its next suspension. -/
def proceed (rounds : List Round) (i : Nat) (r : Round) : Suspension → List Round
  | .finished => rounds.eraseIdx i
  | suspension => rounds.set i { r with waits := suspension }

/-- The rounds once another one has reached its first suspension. -/
def enter (rounds : List Round) (task : Nat) : Suspension → List Round
  | .finished => rounds
  | suspension => rounds ++ [{ task := task, waits := suspension }]

/-- The loop of the current task begins a round when its last one is over. -/
def begin (s : ClipboardSession) : Option ClipboardSession :=
  match s.task with
  | none => none
  | some task =>
    if s.rounds.any (·.task = task) then none
    else
      let (host, suspension) := synchronize s.host
      some { s with host := host, rounds := enter s.rounds task suspension, owed := none }

def step (canonical : CanonicalEquality) (s : ClipboardSession) :
    ClipboardEvent → Option ClipboardSession
  | .start =>
    some { s with
      host := { Clipboard.start s.host.pasteboard with notices := s.host.notices }
      task := some s.tasks
      tasks := s.tasks + 1 }
  | .stop => some { s with host := Clipboard.stop s.host, task := none }
  | .begin => s.begin
  | .writeReply i response took =>
    match s.rounds[i]? with
    | some ⟨task, .writeClipboard text, newer⟩ =>
      let (host, suspension) := afterWrite s.host text response
      some { s with
        host := host
        -- A failed request may have reached the guest all the same.
        guest := if response = some .accepted ∨ took = true then some text else s.guest
        rounds := proceed s.rounds i ⟨task, .writeClipboard text, newer⟩ suspension }
    | _ => none
  | .readReply i response =>
    match s.rounds[i]? with
    | some ⟨_, .readClipboard, _⟩ =>
      some { s with host := afterRead canonical s.host response, rounds := s.rounds.eraseIdx i }
    | _ => none
  | .copyHost text =>
    some { s with
      host := { s.host with pasteboard := s.host.pasteboard.copy text }
      rounds := s.rounds.map ({ · with newer := text })
      owed := if s.rounds = [] then none else text }
  | .copyGuest text => some { s with guest := text }

/-- Before the first `start`. -/
def opened (pasteboard : Pasteboard) (guest : Option String) : ClipboardSession where
  host := Clipboard.start pasteboard
  guest := guest

variable {canonical : CanonicalEquality} {s t : ClipboardSession}

theorem begin_spec (begun : s.begin = some t) :
    ∃ task, s.task = some task ∧ t = { s with
      host := (synchronize s.host).1
      rounds := enter s.rounds task (synchronize s.host).2
      owed := none } := by
  simp only [begin] at begun
  split at begun
  · cases begun
  · next task current =>
    split at begun
    · cases begun
    · cases begun
      exact ⟨task, current, rfl⟩

theorem writeReply_spec {i : Nat} {response : Option GuestAgentResponse} {took : Bool}
    (replied : step canonical s (.writeReply i response took) = some t) :
    ∃ r text, s.rounds[i]? = some r ∧ r.waits = .writeClipboard text ∧ t = { s with
      host := (afterWrite s.host text response).1
      guest := if response = some .accepted ∨ took = true then some text else s.guest
      rounds := proceed s.rounds i r (afterWrite s.host text response).2 } := by
  simp only [step] at replied
  split at replied
  · next task text newer found =>
    cases replied
    exact ⟨_, text, found, rfl, rfl⟩
  · cases replied

theorem readReply_spec {i : Nat} {response : Option GuestAgentResponse}
    (replied : step canonical s (.readReply i response) = some t) :
    ∃ r, s.rounds[i]? = some r ∧ r.waits = .readClipboard ∧ t = { s with
      host := afterRead canonical s.host response
      rounds := s.rounds.eraseIdx i } := by
  simp only [step] at replied
  split at replied
  · next found =>
    cases replied
    exact ⟨_, found, rfl, rfl⟩
  · cases replied

theorem mem_proceed {rounds : List Round} {i : Nat} {r q : Round} {suspension : Suspension}
    (member : q ∈ proceed rounds i r suspension) :
    q ∈ rounds ∨ q = { r with waits := suspension } := by
  cases suspension with
  | finished => exact .inl (List.mem_of_mem_eraseIdx member)
  | writeClipboard text => exact List.mem_or_eq_of_mem_set member
  | readClipboard => exact List.mem_or_eq_of_mem_set member

theorem mem_enter {rounds : List Round} {task : Nat} {q : Round} {suspension : Suspension}
    (member : q ∈ enter rounds task suspension) :
    q ∈ rounds ∨ q = { task := task, waits := suspension } := by
  cases suspension with
  | finished => exact .inl member
  | writeClipboard text => simpa [enter] using member
  | readClipboard => simpa [enter] using member

end ClipboardSession

section Halves

variable {canonical : CanonicalEquality} {h : Host} {text : String}

/-- The text a reply carries takes the place of what is on the pasteboard. -/
def Replaces (canonical : CanonicalEquality) (h : Host)
    (response : Option GuestAgentResponse) : Prop :=
  ∃ text, response = some (.clipboard text) ∧ text.utf8ByteSize ≤ maximumClipboardSize ∧
    ¬ h.synchronizer.loopGuard.Knows text ∧ h.pasteboard.string.any (canonical.eq text) = false

theorem afterRead_known
    (known : maximumClipboardSize < text.utf8ByteSize ∨ h.synchronizer.loopGuard.Knows text) :
    afterRead canonical h (some (.clipboard text)) = h := by
  simp only [afterRead]
  split
  · next small =>
    rcases known with large | known
    · exact absurd small (by omega)
    · simp only [ClipboardLoopGuard.shouldApplyFromGuest_known _ _ known, Bool.false_and,
        Bool.false_eq_true, if_false]
  · rfl

/-- A new text is put on record, and shown unless the pasteboard has it. -/
theorem afterRead_new (small : text.utf8ByteSize ≤ maximumClipboardSize)
    (new : ¬ h.synchronizer.loopGuard.Knows text) :
    afterRead canonical h (some (.clipboard text)) = { h with
      pasteboard := if h.pasteboard.string.any (canonical.eq text) then h.pasteboard
        else h.pasteboard.setString text
      synchronizer := { h.synchronizer with
        lastPasteboardChangeCount := if h.pasteboard.string.any (canonical.eq text)
          then h.synchronizer.lastPasteboardChangeCount else h.pasteboard.changeCount + 1
        loopGuard := { h.synchronizer.loopGuard with
          lastAppliedFromGuest := some (fingerprint text) } } } := by
  simp only [afterRead, if_pos small, ClipboardLoopGuard.shouldApplyFromGuest_new _ _ new,
    Bool.true_and]
  cases h.pasteboard.string.any (canonical.eq text) with
  | false => simp only [Bool.not_false, if_true, Bool.false_eq_true, if_false,
      Pasteboard.setString]
  | true => simp only [Bool.not_true, Bool.false_eq_true, if_false, if_true]

/-- A reply without a text on the way to the pasteboard leaves it and its count alone. -/
theorem afterRead_keeps {response : Option GuestAgentResponse}
    (harmless : ¬ Replaces canonical h response) :
    (afterRead canonical h response).pasteboard = h.pasteboard ∧
      (afterRead canonical h response).synchronizer.lastPasteboardChangeCount =
        h.synchronizer.lastPasteboardChangeCount := by
  unfold afterRead
  split
  · exact ⟨rfl, rfl⟩
  · next text =>
    split
    · next small =>
      by_cases known : h.synchronizer.loopGuard.Knows text
      · simp only [ClipboardLoopGuard.shouldApplyFromGuest_known _ _ known, Bool.false_and,
          Bool.false_eq_true, if_false, and_self]
      · have shown : h.pasteboard.string.any (canonical.eq text) = true := by
          rw [← Bool.not_eq_false]
          exact fun other => harmless ⟨text, rfl, small, known, other⟩
        simp only [ClipboardLoopGuard.shouldApplyFromGuest_new _ _ known, shown, Bool.not_true,
          Bool.and_false, Bool.false_eq_true, if_false, and_self]
    · exact ⟨rfl, rfl⟩
  · exact ⟨rfl, rfl⟩

theorem afterRead_pasteboard_iff {response : Option GuestAgentResponse} :
    (afterRead canonical h response).pasteboard = h.pasteboard ↔
      ¬ Replaces canonical h response := by
  constructor
  · rintro same ⟨text, rfl, small, new, other⟩
    rw [afterRead_new small new] at same
    simp only [other, Bool.false_eq_true, if_false] at same
    have counts := congrArg Pasteboard.changeCount same
    simp only [Pasteboard.setString] at counts
    omega
  · exact fun harmless => (afterRead_keeps harmless).1

theorem afterRead_pending (response : Option GuestAgentResponse) :
    (afterRead canonical h response).synchronizer.pendingHostText =
      h.synchronizer.pendingHostText := by
  unfold afterRead
  split
  · rfl
  · next text =>
    by_cases known : h.synchronizer.loopGuard.Knows text
    · simp only [ClipboardLoopGuard.shouldApplyFromGuest_known _ _ known]
      split <;> rfl
    · simp only [ClipboardLoopGuard.shouldApplyFromGuest_new _ _ known]
      split <;> (try split) <;> rfl
  · rfl

/-- A write touches neither the pasteboard nor the count, and leaves its text or none. -/
theorem afterWrite_keeps (h : Host) (text : String) (response : Option GuestAgentResponse) :
    (afterWrite h text response).1.pasteboard = h.pasteboard ∧
      (afterWrite h text response).1.synchronizer.lastPasteboardChangeCount =
        h.synchronizer.lastPasteboardChangeCount ∧
      ((afterWrite h text response).1.synchronizer.pendingHostText = none ∨
        (afterWrite h text response).1.synchronizer.pendingHostText =
          h.synchronizer.pendingHostText) := by
  have failed (notice : String) : (countFailedWrite h notice).1.pasteboard = h.pasteboard ∧
      (countFailedWrite h notice).1.synchronizer.lastPasteboardChangeCount =
        h.synchronizer.lastPasteboardChangeCount ∧
      ((countFailedWrite h notice).1.synchronizer.pendingHostText = none ∨
        (countFailedWrite h notice).1.synchronizer.pendingHostText =
          h.synchronizer.pendingHostText) := by
    unfold countFailedWrite
    dsimp only
    split
    · exact ⟨rfl, rfl, .inr rfl⟩
    · exact ⟨rfl, rfl, .inl rfl⟩
  unfold afterWrite
  split
  · exact ⟨rfl, rfl, .inl rfl⟩
  · exact failed _
  · exact failed _

theorem synchronize_pasteboard (h : Host) : (synchronize h).1.pasteboard = h.pasteboard := by
  unfold synchronize
  split
  · rfl
  · dsimp only
    split
    · rfl
    · split <;> rfl

/-- Every round starts by counting the pasteboard as seen. -/
theorem synchronize_counts (h : Host) :
    (synchronize h).1.synchronizer.lastPasteboardChangeCount = h.pasteboard.changeCount := by
  unfold synchronize
  split
  · next seen => exact seen.symm
  · dsimp only
    split
    · rfl
    · split
      · split <;> rfl
      · rfl

/-- A round that goes on asks for what it has pending. -/
theorem synchronize_next (h : Host) (asks : (synchronize h).2 ≠ .finished) :
    (synchronize h).2 = nextRequest (synchronize h).1.synchronizer := by
  unfold synchronize at asks ⊢
  split
  · rfl
  · next changed =>
    simp only [if_neg changed] at asks
    dsimp only
    split
    · rfl
    · next text shown =>
      simp only [shown] at asks
      split
      · rfl
      · next large => simp only [if_neg large, ne_eq, not_true_eq_false] at asks

/-- A text on the pasteboard is offered when the count has changed since it was last looked
at, the text is not too large and the guard does not know it. -/
theorem synchronize_offers_iff (shown : h.pasteboard.string = some text)
    (idle : h.pasteboard.changeCount = h.synchronizer.lastPasteboardChangeCount →
      h.synchronizer.pendingHostText = none) :
    (synchronize h).2 = .writeClipboard text ↔
      h.pasteboard.changeCount ≠ h.synchronizer.lastPasteboardChangeCount ∧
        text.utf8ByteSize ≤ maximumClipboardSize ∧ ¬ h.synchronizer.loopGuard.Knows text := by
  rw [← ClipboardLoopGuard.canSendToGuest_iff]
  by_cases seen : h.pasteboard.changeCount = h.synchronizer.lastPasteboardChangeCount
  · simp [synchronize, seen, nextRequest, idle seen]
  · by_cases small : text.utf8ByteSize ≤ maximumClipboardSize
    · by_cases sendable : h.synchronizer.loopGuard.canSendToGuest text = true
      · simp [synchronize, seen, shown, small, sendable, nextRequest]
      · simp [synchronize, seen, shown, small, sendable, nextRequest]
    · simp [synchronize, seen, shown, small]

end Halves

end SimpleVM.Clipboard
