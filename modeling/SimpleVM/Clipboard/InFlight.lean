import SimpleVM.Clipboard.Rounds

/-!
# Host copies during a round

A round looks at the pasteboard once, when it begins. A text copied on the host while the
round waits for a reply is owed to the guest by the next round, but the round in flight does
not know of it: the text it reads from the guest still goes to the pasteboard, and its write
counts as the change that was seen.
-/
namespace SimpleVM.Clipboard

open Agent (GuestAgentResponse maximumClipboardSize)
open Transition

namespace ClipboardSession

/-- No round replaces a text copied on the host since it began, and a round that begins offers
the guest the text it owes. -/
def CopyKept (s : ClipboardSession) (e : ClipboardEvent) (t : ClipboardSession) : Prop :=
  match e with
  | .begin => ∀ text, s.owed = some text →
      ∃ r, t.rounds = s.rounds ++ [r] ∧ r.waits = .writeClipboard text
  | .readReply i _ => ∀ r text, s.rounds[i]? = some r → r.newer = some text →
      t.host.pasteboard = s.host.pasteboard
  | _ => True

/-- The reply to a round that missed a copy carries nothing for the pasteboard. The text owed
is not counted as seen by a restart, is not too large, and is not on record. -/
def NoHarm (canonical : CanonicalEquality) (s : ClipboardSession) : ClipboardEvent → Prop
  | .begin => ∀ text, s.owed = some text →
      s.host.pasteboard.changeCount ≠ s.host.synchronizer.lastPasteboardChangeCount ∧
        text.utf8ByteSize ≤ maximumClipboardSize ∧
        ¬ s.host.synchronizer.loopGuard.Knows text
  | .readReply i response => ∀ r text, s.rounds[i]? = some r → r.newer = some text →
      ¬ Replaces canonical s.host response
  | _ => True

/-- The text owed is the one on the pasteboard, every round in flight missed it, and only a
restart counts it as seen. -/
structure Owing (s : ClipboardSession) : Prop where
  seen : s.host.synchronizer.lastPasteboardChangeCount ≤ s.host.pasteboard.changeCount
  shown : ∀ text, s.owed = some text → s.host.pasteboard.string = some text
  missed : ∀ text, s.owed = some text → ∀ r ∈ s.rounds, r.newer = some text
  idle : ∀ text, s.owed = some text →
    s.host.pasteboard.changeCount = s.host.synchronizer.lastPasteboardChangeCount →
      s.host.synchronizer.pendingHostText = none

variable {canonical : CanonicalEquality} {s t : ClipboardSession}

theorem Owing.opened (pasteboard : Pasteboard) (guest : Option String) :
    (opened pasteboard guest).Owing where
  seen := Nat.le_refl _
  shown text owed := by cases owed
  missed text owed := by cases owed
  idle text owed := by cases owed

/-- A round in flight misses whatever is owed, so a harmless reply leaves the text there. -/
private theorem Owing.read {i : Nat} {response : Option GuestAgentResponse} (owing : s.Owing)
    (harmless : NoHarm canonical s (.readReply i response))
    (replied : step canonical s (.readReply i response) = some t) : t.Owing := by
  obtain ⟨r, found, _, rfl⟩ := readReply_spec replied
  have member := List.mem_of_getElem? found
  have kept (text : String) (owed : s.owed = some text) :=
    afterRead_keeps (harmless r text found (owing.missed text owed r member))
  refine ⟨?_, ?_, ?_, ?_⟩
  · by_cases replaces : Replaces canonical s.host response
    · obtain ⟨text, rfl, small, new, other⟩ := replaces
      simp only [afterRead_new small new, other, Bool.false_eq_true, if_false,
        Pasteboard.setString, Nat.le_refl]
    · obtain ⟨same, count⟩ := afterRead_keeps replaces
      simp only [same, count]
      exact owing.seen
  · intro text owed
    simp only [(kept text owed).1]
    exact owing.shown text owed
  · intro text owed q left
    exact owing.missed text owed q (List.mem_of_mem_eraseIdx left)
  · intro text owed counted
    simp only [(kept text owed).1, (kept text owed).2] at counted
    simp only [afterRead_pending]
    exact owing.idle text owed counted

private theorem Owing.write {i : Nat} {response : Option GuestAgentResponse} {took : Bool}
    (owing : s.Owing)
    (replied : step canonical s (.writeReply i response took) = some t) : t.Owing := by
  obtain ⟨r, text, found, _, rfl⟩ := writeReply_spec replied
  obtain ⟨same, count, pending⟩ := afterWrite_keeps s.host text response
  refine ⟨?_, ?_, ?_, ?_⟩
  · simp only [same, count]
    exact owing.seen
  · simp only [same]
    exact owing.shown
  · intro newer owed q member
    rcases mem_proceed member with member | rfl
    · exact owing.missed newer owed q member
    · exact owing.missed newer owed r (List.mem_of_getElem? found)
  · intro newer owed counted
    simp only [same, count] at counted
    rcases pending with none | kept
    · exact none
    · exact kept.trans (owing.idle newer owed counted)

/-- Step lemma: what is owed stays on the pasteboard until a round begins. -/
theorem Owing.kept {e : ClipboardEvent} (owing : s.Owing) (harmless : NoHarm canonical s e)
    (taken : step canonical s e = some t) : t.Owing := by
  cases e with
  | start =>
    cases taken
    exact ⟨Nat.le_refl _, owing.shown, owing.missed, fun _ _ _ => rfl⟩
  | stop =>
    cases taken
    exact ⟨owing.seen, owing.shown, owing.missed, fun _ _ _ => rfl⟩
  | begin =>
    obtain ⟨task, _, rfl⟩ := begin_spec taken
    refine ⟨?_, (fun _ owed => by cases owed), (fun _ owed => by cases owed),
      fun _ owed => by cases owed⟩
    simp only [synchronize_counts, synchronize_pasteboard, Nat.le_refl]
  | writeReply i response took => exact owing.write taken
  | readReply i response => exact owing.read harmless taken
  -- A copy raises the change count and is newer than what any round in flight has read.
  | copyHost text =>
    cases taken
    have unseen := owing.seen
    refine ⟨?_, ?_, ?_, ?_⟩
    · simp only [Pasteboard.copy]
      omega
    · intro newer owed
      simp only at owed
      split at owed
      · cases owed
      · exact owed
    · intro newer owed r member
      obtain ⟨q, _, rfl⟩ := List.mem_map.mp member
      simp only at owed
      split at owed
      · cases owed
      · exact owed
    · intro newer owed counted
      simp only [Pasteboard.copy] at counted
      omega
  | copyGuest text =>
    cases taken
    exact ⟨owing.seen, owing.shown, owing.missed, owing.idle⟩

/-- What a round that begins adds to the rounds is the one that asks for what it found. -/
private theorem enter_offers_iff (rounds : List Round) (task : Nat) (suspension : Suspension)
    (text : String) :
    (∃ r, enter rounds task suspension = rounds ++ [r] ∧ r.waits = .writeClipboard text) ↔
      suspension = .writeClipboard text := by
  constructor
  · rintro ⟨r, added, waits⟩
    cases suspension with
    | finished =>
      simp only [enter] at added
      exact absurd added.symm (by simp)
    | writeClipboard other =>
      simp only [enter, List.append_cancel_left_eq, List.cons.injEq, and_true] at added
      rw [← waits, ← added]
    | readClipboard =>
      simp only [enter, List.append_cancel_left_eq, List.cons.injEq, and_true] at added
      rw [← waits, ← added]
  · rintro rfl
    exact ⟨_, rfl, rfl⟩

/-- In one step the copy is kept exactly when the step does no harm. -/
theorem Owing.copyKept_iff {e : ClipboardEvent} (owing : s.Owing)
    (taken : step canonical s e = some t) : CopyKept s e t ↔ NoHarm canonical s e := by
  cases e with
  | begin =>
    obtain ⟨task, _, rfl⟩ := begin_spec taken
    have offers (text : String) (owed : s.owed = some text) :=
      (enter_offers_iff s.rounds task (synchronize s.host).2 text).trans
        (synchronize_offers_iff (owing.shown text owed) (owing.idle text owed))
    constructor
    · exact fun kept text owed => (offers text owed).mp (kept text owed)
    · exact fun harmless text owed => (offers text owed).mpr (harmless text owed)
  | readReply i response =>
    obtain ⟨_, _, _, rfl⟩ := readReply_spec taken
    constructor
    · exact fun kept r text found newer => afterRead_pasteboard_iff.mp (kept r text found newer)
    · exact fun harmless r text found newer =>
        afterRead_pasteboard_iff.mpr (harmless r text found newer)
  | start => exact Iff.rfl
  | stop => exact Iff.rfl
  | writeReply i response took => exact Iff.rfl
  | copyHost text => exact Iff.rfl
  | copyGuest text => exact Iff.rfl

/-- In every run, no text copied on the host during a round is lost to it exactly when every
reply to such a round is harmless and the text owed can be offered when the next one begins. -/
theorem host_copies_kept_iff (canonical : CanonicalEquality) (pasteboard : Pasteboard)
    (guest : Option String) (events : List ClipboardEvent) :
    Along (step canonical) CopyKept (opened pasteboard guest) events ↔
      Meets (step canonical) (NoHarm canonical) (opened pasteboard guest) events := by
  apply along_iff_meets (I := Owing)
  · exact fun s e t owing harmless taken => owing.kept harmless taken
  · exact fun s e t owing harmless taken => (owing.copyKept_iff taken).mpr harmless
  · exact fun s e t owing taken kept => (owing.copyKept_iff taken).mp kept
  · exact Owing.opened pasteboard guest

/-- A text copied on the host while the round waits for the guest's is replaced by it. -/
theorem copy_during_read_replaced : ¬ ∀ (canonical : CanonicalEquality)
    (pasteboard : Pasteboard) (guest : Option String) (events : List ClipboardEvent),
    Along (step canonical) CopyKept (opened pasteboard guest) events := by
  intro always
  have along := always .bytes ⟨0, none⟩ (some "guest")
    [.start, .begin, .copyHost (some "host"), .readReply 0 (some (.clipboard "guest"))]
  have kept := ((((along _ rfl).2 _ rfl).2 _ rfl).2 _ rfl).1 _ _ rfl rfl
  exact absurd kept (by decide +kernel)

end ClipboardSession

end SimpleVM.Clipboard
