import SimpleVM.Agent.FrameLimit
import SimpleVM.Clipboard.Rounds

/-!
# Quiescence of the clipboard synchroniser

Once nobody copies any more, one round whose requests succeed brings the synchroniser to rest:
nothing is pending, the pasteboard counts as seen, and the guest's text is on record or too
large to be taken. No later round leaves that state, whatever is answered.
-/
namespace SimpleVM.Clipboard

open Agent (GuestAgentResponse maximumClipboardSize newlines utf8ByteSize_newlines)
open Transition

namespace ClipboardSession

/-- Nobody copies on either side, and a text read from the guest is the one its clipboard
holds. -/
def Uncopied (s : ClipboardSession) : ClipboardEvent → Prop
  | .copyHost _ => False
  | .copyGuest _ => False
  | .readReply _ (some (.clipboard text)) => s.guest = some text
  | _ => True

/-- Nor is the synchroniser started anew. -/
def Calm (s : ClipboardSession) (e : ClipboardEvent) : Prop :=
  Uncopied s e ∧ e ≠ .start

/-- The reply to a request that succeeds. -/
def Succeeds : ClipboardEvent → Prop
  | .writeReply _ response _ => response = some .accepted
  | .readReply _ response => ∃ text, response = some (.clipboard text)
  | _ => False

/-- The pasteboard is as it was and no round has sent `writeClipboard`. -/
structure Quiet (pasteboard : Pasteboard) (s : ClipboardSession) : Prop where
  kept : s.host.pasteboard = pasteboard
  silent : ∀ r ∈ s.rounds, ∀ text, r.waits ≠ .writeClipboard text

/-- The synchroniser at rest. -/
structure AtRest (s : ClipboardSession) : Prop where
  seen : s.host.pasteboard.changeCount = s.host.synchronizer.lastPasteboardChangeCount
  idle : s.host.synchronizer.pendingHostText = none
  known : ∀ text, s.guest = some text →
    maximumClipboardSize < text.utf8ByteSize ∨ s.host.synchronizer.loopGuard.Knows text
  reading : ∀ r ∈ s.rounds, r.waits = .readClipboard

variable {canonical : CanonicalEquality} {s t d : ClipboardSession}

theorem AtRest.quiet (rest : s.AtRest) : Quiet s.host.pasteboard s where
  kept := rfl
  silent r member text waits := by
    have reads := rest.reading r member
    rw [waits] at reads
    cases reads

/-- A round that finds nothing new and nothing pending asks for the guest's text. -/
theorem AtRest.synchronize (rest : s.AtRest) :
    synchronize s.host = (s.host, .readClipboard) := by
  simp only [Clipboard.synchronize, if_pos rest.seen, nextRequest, rest.idle]

/-- At rest the reply to a read changes nothing on the host. -/
theorem AtRest.afterRead {i : Nat} {response : Option GuestAgentResponse} (rest : s.AtRest)
    (canonical : CanonicalEquality) (calm : Uncopied s (.readReply i response)) :
    (afterRead canonical s.host response).synchronizer = s.host.synchronizer ∧
      (afterRead canonical s.host response).pasteboard = s.host.pasteboard := by
  cases response with
  | none => exact ⟨rfl, rfl⟩
  | some response =>
    cases response with
    | clipboard text =>
      have known := rest.known text calm
      rw [afterRead_known known]
      exact ⟨rfl, rfl⟩
    | _ => exact ⟨rfl, rfl⟩

/-- Step lemma: nothing but a copy or a restart ends the rest. -/
theorem AtRest.step {e : ClipboardEvent} (rest : s.AtRest) (calm : Calm s e)
    (taken : ClipboardSession.step canonical s e = some t) :
    t.AtRest ∧ t.host.pasteboard = s.host.pasteboard := by
  cases e with
  | start => exact absurd rfl calm.2
  | stop =>
    cases taken
    exact ⟨⟨rest.seen, rfl, rest.known, rest.reading⟩, rfl⟩
  | begin =>
    obtain ⟨task, _, rfl⟩ := begin_spec taken
    rw [rest.synchronize]
    refine ⟨⟨rest.seen, rest.idle, rest.known, fun r member => ?_⟩, rfl⟩
    have entered : r ∈ enter s.rounds task .readClipboard := member
    rcases mem_enter entered with member | rfl
    · exact rest.reading r member
    · rfl
  | writeReply i response took =>
    -- No round waits for such a reply.
    obtain ⟨r, text, found, waits, _⟩ := writeReply_spec taken
    have reads := rest.reading r (List.mem_of_getElem? found)
    rw [waits] at reads
    cases reads
  | readReply i response =>
    obtain ⟨r, _, _, rfl⟩ := readReply_spec taken
    obtain ⟨same, kept⟩ := rest.afterRead canonical calm.1
    refine ⟨⟨?_, ?_, ?_, ?_⟩, kept⟩
    · simp only [same, kept]
      exact rest.seen
    · simp only [same]
      exact rest.idle
    · simp only [same]
      exact rest.known
    · exact fun q left => rest.reading q (List.mem_of_mem_eraseIdx left)
  | copyHost text => exact absurd calm.1 id
  | copyGuest text => exact absurd calm.1 id

/-- Whatever text is read, it is on record or too large afterwards, and what the read put on
the pasteboard counts as seen. -/
theorem afterRead_settles (canonical : CanonicalEquality) {h : Host} (text : String)
    (seen : h.pasteboard.changeCount = h.synchronizer.lastPasteboardChangeCount) :
    (afterRead canonical h (some (.clipboard text))).pasteboard.changeCount =
        (afterRead canonical h (some (.clipboard text))).synchronizer.lastPasteboardChangeCount ∧
      (maximumClipboardSize < text.utf8ByteSize ∨
        (afterRead canonical h (some (.clipboard text))).synchronizer.loopGuard.Knows text) := by
  by_cases small : text.utf8ByteSize ≤ maximumClipboardSize
  · by_cases known : h.synchronizer.loopGuard.Knows text
    · rw [afterRead_known (.inr known)]
      exact ⟨seen, .inr known⟩
    · rw [afterRead_new small known]
      refine ⟨?_, .inr (.inr rfl)⟩
      dsimp only
      split
      · exact seen
      · rfl
  · rw [afterRead_known (.inl (Nat.lt_of_not_le small))]
    exact ⟨seen, .inl (Nat.lt_of_not_le small)⟩

theorem eq_zero_of_only {rounds : List Round} {r q : Round} {i : Nat} (only : rounds = [r])
    (found : rounds[i]? = some q) : i = 0 ∧ q = r := by
  subst only
  cases i with
  | zero => exact ⟨rfl, (Option.some.inj found).symm⟩
  | succ i => cases found

/-- Once the only round in flight has read the guest's text, the host is at rest. -/
theorem atRest_of_read {r : Round} {i : Nat} {text : String} (only : s.rounds = [r])
    (seen : s.host.pasteboard.changeCount = s.host.synchronizer.lastPasteboardChangeCount)
    (idle : s.host.synchronizer.pendingHostText = none) (held : s.guest = some text)
    (replied : ClipboardSession.step canonical s (.readReply i (some (.clipboard text))) =
      some t) : t.AtRest ∧ t.rounds = [] := by
  obtain ⟨q, found, _, rfl⟩ := readReply_spec replied
  obtain ⟨rfl, _⟩ := eq_zero_of_only only found
  obtain ⟨count, known⟩ := afterRead_settles canonical text seen
  have done : s.rounds.eraseIdx 0 = [] := by
    rw [only]
    rfl
  refine ⟨⟨count, (afterRead_pending _).trans idle, ?_, ?_⟩, done⟩
  · intro other guest
    rw [held] at guest
    cases guest
    exact known
  · simp only [done]
    exact fun _ member => absurd member List.not_mem_nil

theorem Succeeds.reply {e : ClipboardEvent} (succeeds : Succeeds e) :
    (∃ i took, e = .writeReply i (some .accepted) took) ∨
      ∃ i text, e = .readReply i (some (.clipboard text)) := by
  cases e with
  | writeReply i response took =>
    cases succeeds
    exact .inl ⟨i, took, rfl⟩
  | readReply i response =>
    obtain ⟨text, rfl⟩ := succeeds
    exact .inr ⟨i, text, rfl⟩
  | start => exact succeeds.elim
  | stop => exact succeeds.elim
  | begin => exact succeeds.elim
  | copyHost text => exact succeeds.elim
  | copyGuest text => exact succeeds.elim

/-- No reply arrives when no round is in flight. -/
theorem no_replies {replies : List ClipboardEvent} (done : s.rounds = [])
    (succeed : ∀ e ∈ replies, Succeeds e)
    (ran : Run (ClipboardSession.step canonical) s replies d) : replies = [] ∧ d = s := by
  cases ran with
  | done => exact ⟨rfl, rfl⟩
  | next taken _ =>
    rcases (succeed _ List.mem_cons_self).reply with ⟨i, took, rfl⟩ | ⟨i, text, rfl⟩
    · obtain ⟨r, _, found, _⟩ := writeReply_spec taken
      rw [done] at found
      cases found
    · obtain ⟨r, found, _⟩ := readReply_spec taken
      rw [done] at found
      cases found

/-- The rest of a round that waits for the guest's text leads to rest. -/
theorem atRest_of_reading {r : Round} {replies : List ClipboardEvent}
    (only : s.rounds = [r]) (waits : r.waits = .readClipboard)
    (seen : s.host.pasteboard.changeCount = s.host.synchronizer.lastPasteboardChangeCount)
    (idle : s.host.synchronizer.pendingHostText = none)
    (succeed : ∀ e ∈ replies, Succeeds e)
    (ran : Run (ClipboardSession.step canonical) s replies d)
    (calm : Meets (ClipboardSession.step canonical) Calm s replies)
    (done : d.rounds = []) : d.AtRest := by
  cases ran with
  | done =>
    rw [only] at done
    cases done
  | @next _ t _ e replies taken rest =>
    rcases (succeed e List.mem_cons_self).reply with ⟨i, took, rfl⟩ | ⟨i, text, rfl⟩
    · obtain ⟨q, text, found, writes, _⟩ := writeReply_spec taken
      obtain ⟨_, rfl⟩ := eq_zero_of_only only found
      rw [waits] at writes
      cases writes
    · have held := (calm t taken).1.1
      obtain ⟨atRest, none⟩ := atRest_of_read only seen idle held taken
      obtain ⟨_, rfl⟩ := no_replies none
        (fun e member => succeed e (List.mem_cons_of_mem _ member)) rest
      exact atRest

/-- So does the rest of one that waits for its write to be accepted. -/
theorem atRest_of_writing {r : Round} {text : String} {replies : List ClipboardEvent}
    (only : s.rounds = [r]) (waits : r.waits = .writeClipboard text)
    (seen : s.host.pasteboard.changeCount = s.host.synchronizer.lastPasteboardChangeCount)
    (succeed : ∀ e ∈ replies, Succeeds e)
    (ran : Run (ClipboardSession.step canonical) s replies d)
    (calm : Meets (ClipboardSession.step canonical) Calm s replies)
    (done : d.rounds = []) : d.AtRest := by
  cases ran with
  | done =>
    rw [only] at done
    cases done
  | @next _ t _ e replies taken rest =>
    have still := (calm t taken).2
    rcases (succeed e List.mem_cons_self).reply with ⟨i, took, rfl⟩ | ⟨i, text, rfl⟩
    · obtain ⟨q, written, found, _, rfl⟩ := writeReply_spec taken
      obtain ⟨rfl, rfl⟩ := eq_zero_of_only only found
      -- The write is on record and the round goes on to read.
      have next : proceed s.rounds 0 q .readClipboard = [{ q with waits := .readClipboard }] := by
        simp only [proceed, only, List.set_cons_zero]
      apply atRest_of_reading next rfl _ rfl _ rest still done
      · exact seen
      · exact fun e member => succeed e (List.mem_cons_of_mem _ member)
    · obtain ⟨q, found, reads, _⟩ := readReply_spec taken
      obtain ⟨_, rfl⟩ := eq_zero_of_only only found
      rw [waits] at reads
      cases reads

/-- A round that makes a request, all of whose requests succeed, ends at rest. -/
theorem atRest_of_round {replies : List ClipboardEvent} (boundary : s.rounds = [])
    (asked : replies ≠ []) (succeed : ∀ e ∈ replies, Succeeds e)
    (ran : Run (ClipboardSession.step canonical) s (.begin :: replies) d)
    (calm : Meets (ClipboardSession.step canonical) Calm s (.begin :: replies))
    (done : d.rounds = []) : d.AtRest := by
  cases ran with
  | @next _ t _ _ _ taken rest =>
    have still := (calm t taken).2
    obtain ⟨task, _, begun⟩ := begin_spec taken
    have seen : t.host.pasteboard.changeCount =
        t.host.synchronizer.lastPasteboardChangeCount := by
      rw [begun, synchronize_pasteboard, synchronize_counts]
    have rounds : t.rounds = enter [] task (synchronize s.host).2 := by
      rw [begun, boundary]
    have goesOn := synchronize_next s.host
    -- The round that was begun either ends at once, which leaves no reply to take, or waits for the
    -- guest to write or to read.
    cases suspension : (synchronize s.host).2 with
    | finished =>
      rw [suspension] at rounds
      exact absurd (no_replies rounds succeed rest).1 asked
    | writeClipboard text =>
      rw [suspension] at rounds
      exact atRest_of_writing rounds rfl seen succeed rest still done
    | readClipboard =>
      rw [suspension] at rounds goesOn
      -- A round that only reads had no text of the host left to send.
      have idle : t.host.synchronizer.pendingHostText = none := by
        have next := goesOn (by simp)
        rw [begun]
        simp only [nextRequest] at next
        split at next
        · cases next
        · assumption
      exact atRest_of_reading rounds rfl seen idle succeed rest still done

/-- From any state at a round boundary, while nobody copies and the synchroniser is not started
anew: after a round that makes a request and whose requests all succeed, no later round writes
the pasteboard or sends `writeClipboard`. -/
theorem clipboard_goes_quiet (canonical : CanonicalEquality) (s d : ClipboardSession)
    (replies later : List ClipboardEvent) (boundary : s.rounds = []) (asked : replies ≠ [])
    (succeed : ∀ e ∈ replies, Succeeds e)
    (ran : Run (ClipboardSession.step canonical) s (.begin :: replies) d)
    (calm : Meets (ClipboardSession.step canonical) Calm s (.begin :: replies))
    (done : d.rounds = []) (still : Meets (ClipboardSession.step canonical) Calm d later) :
    Always (ClipboardSession.step canonical) (Quiet d.host.pasteboard) d later := by
  have rest := atRest_of_round boundary asked succeed ran calm done
  refine always_of_meets (V := fun _ => True)
    (I := fun t => t.AtRest ∧ t.host.pasteboard = d.host.pasteboard) ?_ ?_ d later ?_ ?_ still
  · rintro t e u ⟨rest, kept⟩ _ calm taken
    obtain ⟨rest', same⟩ := rest.step calm taken
    exact ⟨rest', same.trans kept⟩
  · rintro t ⟨rest, kept⟩
    exact kept ▸ rest.quiet
  · exact ⟨rest, rfl⟩
  · exact fun _ _ => trivial

/-- A host copy is written, read back, and then left alone. -/
theorem clipboard_goes_quiet_after_copy : ∃ s d, s.host.pasteboard.string = some "a" ∧
    Run (ClipboardSession.step .bytes) s
      [.begin, .writeReply 0 (some .accepted) false, .readReply 0 (some (.clipboard "a"))] d ∧
    Always (ClipboardSession.step .bytes) (Quiet d.host.pasteboard) d
      [.begin, .readReply 0 (some (.clipboard "a")), .begin] := by
  let copied : ClipboardSession := {
    host := { pasteboard := ⟨1, some "a"⟩, synchronizer := { lastPasteboardChangeCount := 0 } }
    guest := none
    task := some 0
    tasks := 1 }
  let written : ClipboardSession := {
    host := {
      pasteboard := ⟨1, some "a"⟩
      synchronizer := {
        lastPasteboardChangeCount := 1
        loopGuard := { lastSentToGuest := some (fingerprint "a") } } }
    guest := some "a"
    task := some 0
    tasks := 1 }
  have ran : Run (ClipboardSession.step .bytes) copied
      [.begin, .writeReply 0 (some .accepted) false, .readReply 0 (some (.clipboard "a"))]
      written := run_of_execute (by decide +kernel)
  refine ⟨copied, written, rfl, ran, clipboard_goes_quiet .bytes copied written
    [.writeReply 0 (some .accepted) false, .readReply 0 (some (.clipboard "a"))] _ rfl (by simp)
    ?_ ran ?_ rfl ?_⟩
  · intro e member
    simp only [List.mem_cons, List.not_mem_nil, or_false] at member
    rcases member with rfl | rfl
    · rfl
    · exact ⟨"a", rfl⟩
  · exact .next rfl ⟨trivial, by simp⟩
      (.next rfl ⟨trivial, by simp⟩ (.next rfl ⟨rfl, by simp⟩ trivial))
  · exact .next rfl ⟨trivial, by simp⟩
      (.next rfl ⟨rfl, by simp⟩ (.next rfl ⟨trivial, by simp⟩ trivial))

/-- A text too large to be sent ends the round before any request, and the next one replaces
it by the guest's text. -/
private theorem oversized_round (text : String)
    (large : maximumClipboardSize < text.utf8ByteSize) : ∃ history s d later,
    Run (ClipboardSession.step .bytes) (opened ⟨0, none⟩ none) history s ∧ s.rounds = [] ∧
      Run (ClipboardSession.step .bytes) s [.begin] d ∧ d.rounds = [] ∧
      Meets (ClipboardSession.step .bytes) Calm d later ∧
      ¬ Always (ClipboardSession.step .bytes) (Quiet d.host.pasteboard) d later := by
  let copied : ClipboardSession := {
    host := { pasteboard := ⟨1, some text⟩, synchronizer := { lastPasteboardChangeCount := 0 } }
    guest := some "guest"
    task := some 0
    tasks := 1 }
  let noticed : ClipboardSession := {
    host := {
      pasteboard := ⟨1, some text⟩
      synchronizer := { lastPasteboardChangeCount := 1 }
      notices := ["Clipboard sync skipped because the text exceeds 1 MiB."] }
    guest := some "guest"
    task := some 0
    tasks := 1 }
  have skips : ClipboardSession.step .bytes copied .begin = some noticed := by
    simp [ClipboardSession.step, ClipboardSession.begin, copied, noticed, synchronize, enter,
      Nat.not_le.mpr large]
  refine ⟨[.start, .copyHost (some text), .copyGuest (some "guest")], copied, noticed,
    [.begin, .readReply 0 (some (.clipboard "guest"))], run_of_execute rfl, rfl,
    .next skips (.done _), rfl, ?_, ?_⟩
  · exact .next rfl ⟨trivial, by simp⟩ (.next rfl ⟨rfl, by simp⟩ trivial)
  -- The host still holds the large text, which the guard never recorded, so the guest's text
  -- replaces it.
  · intro always
    have kept := ((always.2 _ rfl).2 _ rfl).kept
    refine afterRead_pasteboard_iff.mp kept ⟨"guest", rfl, by decide, ?_, ?_⟩
    · rintro (sent | applied)
      · cases sent
      · cases applied
    · have other : "guest" ≠ text := by
        rintro rfl
        exact absurd large (by decide)
      simp [CanonicalEquality.bytes, other, noticed]

/-- A guest text that was on record is taken again once the record is forgotten. -/
private theorem restarted_round : ∃ history s replies d later,
    Run (ClipboardSession.step .bytes) (opened ⟨0, none⟩ none) history s ∧ s.rounds = [] ∧
      replies ≠ [] ∧ (∀ e ∈ replies, Succeeds e) ∧
      Run (ClipboardSession.step .bytes) s (.begin :: replies) d ∧
      Meets (ClipboardSession.step .bytes) Calm s (.begin :: replies) ∧ d.rounds = [] ∧
      Meets (ClipboardSession.step .bytes) Uncopied d later ∧
      ¬ Always (ClipboardSession.step .bytes) (Quiet d.host.pasteboard) d later := by
  let differing : ClipboardSession := {
    host := {
      pasteboard := ⟨2, some "b"⟩
      synchronizer := {
        lastPasteboardChangeCount := 2
        loopGuard := {
          lastSentToGuest := some (fingerprint "a")
          lastAppliedFromGuest := some (fingerprint "b") } } }
    guest := some "a"
    task := some 0
    tasks := 1 }
  refine ⟨[.start, .copyHost (some "a"), .begin, .writeReply 0 (some .accepted) false,
      .readReply 0 (some (.clipboard "a")), .copyGuest (some "b"), .begin,
      .readReply 0 (some (.clipboard "b")), .copyGuest (some "a")], differing,
    [.readReply 0 (some (.clipboard "a"))], differing,
    [.start, .begin, .readReply 0 (some (.clipboard "a"))],
    run_of_execute (by decide +kernel), rfl, by simp, ?_, run_of_execute (by decide +kernel),
    ?_, rfl, ?_, ?_⟩
  · intro e member
    rw [List.mem_singleton.mp member]
    exact ⟨"a", rfl⟩
  · exact .next rfl ⟨trivial, by simp⟩ (.next rfl ⟨rfl, by simp⟩ trivial)
  · exact .next rfl trivial (.next rfl trivial (.next rfl rfl trivial))
  -- The restart counted the copy without sending it, and the guest's older text comes back.
  · intro always
    have kept := (((always.2 _ rfl).2 _ rfl).2 _ rfl).kept
    refine afterRead_pasteboard_iff.mp kept ⟨"a", rfl, by decide, ?_, by decide⟩
    rintro (sent | applied)
    · cases sent
    · cases applied

/-- Neither the request nor the running session can be left out. -/
theorem clipboard_stirs_again :
    (∃ history s d later,
      Run (ClipboardSession.step .bytes) (opened ⟨0, none⟩ none) history s ∧ s.rounds = [] ∧
        Run (ClipboardSession.step .bytes) s [.begin] d ∧ d.rounds = [] ∧
        Meets (ClipboardSession.step .bytes) Calm d later ∧
        ¬ Always (ClipboardSession.step .bytes) (Quiet d.host.pasteboard) d later) ∧
    ∃ history s replies d later,
      Run (ClipboardSession.step .bytes) (opened ⟨0, none⟩ none) history s ∧ s.rounds = [] ∧
        replies ≠ [] ∧ (∀ e ∈ replies, Succeeds e) ∧
        Run (ClipboardSession.step .bytes) s (.begin :: replies) d ∧
        Meets (ClipboardSession.step .bytes) Calm s (.begin :: replies) ∧ d.rounds = [] ∧
        Meets (ClipboardSession.step .bytes) Uncopied d later ∧
        ¬ Always (ClipboardSession.step .bytes) (Quiet d.host.pasteboard) d later := by
  refine ⟨oversized_round (newlines (maximumClipboardSize + 1)) ?_, restarted_round⟩
  rw [utf8ByteSize_newlines]
  exact Nat.lt_succ_self _

end ClipboardSession

end SimpleVM.Clipboard
