import SimpleVM.SPICE.PasteboardBridge

/-!
# Agreement of the host pasteboard with the guest

The loop guard records a guest text when it is offered, the pasteboard gets it later. A poll
in between that announces an older host text gives it to the guest although the pending task
is about to replace it on the host, and the record of the offer is gone. As long as no poll
announces while a task is pending, the newest task has the guest's text and the two agree
once it has run.
-/
namespace SimpleVM.SPICE

open Agent (maximumClipboardSize)
open Clipboard (CanonicalEquality ClipboardLoopGuard Pasteboard fingerprint)
open Transition

namespace PasteboardSession

/-- The same text up to canonical equivalence, or none. -/
def Agree (canonical : CanonicalEquality) : Option String → Option String → Prop
  | none, none => True
  | some a, some b => canonical.eq a b = true
  | _, _ => False

/-- Once no task is pending and a poll has run after the last copy, both sides have the same
text; and no text of the guest has been announced back to it. -/
structure Agreed (canonical : CanonicalEquality) (s : PasteboardSession) : Prop where
  same : s.tasks = [] → s.polled = true → Agree canonical s.pasteboard.string s.guest
  echoes : s.echoes = []

/-- A guest offers non-empty texts of at most 1 MiB, each once. -/
def Offers (s : PasteboardSession) : PasteboardEvent → Prop
  | .setString text =>
    text ≠ "" ∧ text.utf8ByteSize ≤ maximumClipboardSize ∧ text ∉ s.offered
  | .setData data type => type = .string ∧ ∃ text, data = text.toUTF8 ∧
    text ≠ "" ∧ text.utf8ByteSize ≤ maximumClipboardSize ∧ text ∉ s.offered
  | _ => True

/-- The newest task runs after the others. A poll that finds a change finds no text of more
than 1 MiB, and if it is not the one on record, no task is pending and the guest never
offered it. -/
def Uncrossed (s : PasteboardSession) : PasteboardEvent → Prop
  | .run i => s.tasks.length = i + 1 → i = 0
  | .poll => (s.pasteboard.changeCount : Int) ≠ s.bridge.lastChangeCount →
    ∀ text, s.pasteboard.string = some text → text.utf8ByteSize ≤ maximumClipboardSize ∧
      (s.bridge.loopGuard.lastAppliedFromGuest ≠ some (fingerprint text) →
        s.tasks = [] ∧ text ∉ s.offered)
  | _ => True

/-- The texts of an event, on either side. -/
def Mentions (texts : String → Prop) : PasteboardEvent → Prop
  | .copy text => texts text
  | e => ∀ text, carried e = some text → texts text

/-- The guest has the text of the newest task, and of the record if there is one; where no
task is pending and the pasteboard has been looked at, it has the pasteboard's text. -/
structure Following (canonical : CanonicalEquality) (texts : String → Prop)
    (s : PasteboardSession) : Prop where
  unsent : s.bridge.loopGuard.lastSentToGuest = none
  newest : ∀ text, s.tasks.getLast? = some text → s.guest = some text
  record : ∀ mark, s.bridge.loopGuard.lastAppliedFromGuest = some mark →
    ∃ text, s.guest = some text ∧ fingerprint text = mark ∧ text ∈ s.offered
  unread : s.bridge.lastChangeCount ≤ s.pasteboard.changeCount
  shown : ∀ text, s.pasteboard.string = some text → texts text
  spawned : ∀ text ∈ s.tasks, texts text
  offers : ∀ text ∈ s.offered, texts text
  bare : s.tasks = [] → s.pasteboard.string = none → s.guest = none
  same : s.tasks = [] → (s.pasteboard.changeCount : Int) = s.bridge.lastChangeCount →
    Agree canonical s.pasteboard.string s.guest
  polled : s.polled = true → (s.pasteboard.changeCount : Int) = s.bridge.lastChangeCount
  echoes : s.echoes = []

variable {canonical : CanonicalEquality} {texts : String → Prop} {s t : PasteboardSession}

theorem Following.agreed (following : Following canonical texts s) : Agreed canonical s where
  same done polled := following.same done (following.polled polled)
  echoes := following.echoes

theorem following_opened (pasteboard : Pasteboard)
    (shown : ∀ text, pasteboard.string = some text → texts text) :
    Following canonical texts (opened pasteboard) where
  unsent := rfl
  newest _ last := by cases last
  record _ marked := by cases marked
  unread := by
    simp only [opened]
    omega
  shown := shown
  spawned _ member := absurd member List.not_mem_nil
  offers _ member := absurd member List.not_mem_nil
  bare _ _ := rfl
  same _ seen := by
    simp only [opened] at seen
    omega
  polled polled := by cases polled
  echoes := rfl

theorem fromUTF8?_toUTF8 (text : String) : String.fromUTF8? text.toUTF8 = some text := by
  have valid : text.toUTF8.IsValidUTF8 := text.isValidUTF8
  rw [String.fromUTF8?, dif_pos valid]
  rfl

/-- Given as data, a text is treated as it is as a string. -/
theorem setData_toUTF8 (b : SPICEPasteboardBridge) (text : String) (filled : text ≠ "")
    (small : text.utf8ByteSize ≤ maximumClipboardSize) :
    b.setData text.toUTF8 .string = b.setString text := by
  have size : text.toUTF8.size ≤ maximumClipboardSize := small
  simp only [SPICEPasteboardBridge.setData, true_and, if_pos size, fromUTF8?_toUTF8,
    if_neg filled]

/-- A text that is offered for the first time is put on record, and a task is spawned. -/
theorem Following.offer (following : Following canonical texts s)
    (apart : ∀ a b, texts a → texts b → fingerprint a = fingerprint b → a = b) (text : String)
    (among : texts text) (filled : text ≠ "")
    (small : text.utf8ByteSize ≤ maximumClipboardSize) (fresh : text ∉ s.offered) :
    Following canonical texts (s.receive (some text) (s.bridge.setString text)) := by
  have unknown : ¬ s.bridge.loopGuard.Knows text := by
    rintro (sent | applied)
    · rw [following.unsent] at sent
      cases sent
    · obtain ⟨earlier, _, mark, member⟩ := following.record _ applied
      have equal := apart earlier text (following.offers earlier member) among mark
      exact fresh (equal ▸ member)
  have received : s.bridge.setString text =
      { bridge := { s.bridge with loopGuard := { s.bridge.loopGuard with
          lastAppliedFromGuest := some (fingerprint text) } }
        task := some text } := by
    simp only [SPICEPasteboardBridge.setString, if_pos (And.intro filled small),
      ClipboardLoopGuard.shouldApplyFromGuest_new _ _ unknown, if_true]
  rw [received]
  constructor
  · exact following.unsent
  · intro last newest
    simp only [receive, Option.toList_some, List.getLast?_append, List.getLast?_singleton,
      Option.some_or] at newest
    exact newest
  · intro mark marked
    exact ⟨text, rfl, Option.some.inj marked, by simp [receive]⟩
  · exact following.unread
  · exact following.shown
  · intro other member
    simp only [receive, Option.toList_some, List.mem_append, List.mem_singleton] at member
    rcases member with member | rfl
    · exact following.spawned other member
    · exact among
  · intro other member
    simp only [receive, Option.toList_some, List.mem_append, List.mem_singleton] at member
    rcases member with member | rfl
    · exact following.offers other member
    · exact among
  · intro none
    simp [receive] at none
  · intro none
    simp [receive] at none
  · exact following.polled
  · exact following.echoes

/-- A task that runs leaves its text on the pasteboard, which then counts as seen. -/
theorem applyGuestString_spec (canonical : CanonicalEquality) (p : Pasteboard) (b : SPICEPasteboardBridge) (text : String) :
    ∃ p', b.applyGuestString canonical p text =
        (p', { b with cachedHostText := some text, lastChangeCount := p'.changeCount }) ∧
      ∃ shown, p'.string = some shown ∧ canonical.eq shown text = true ∧
        (p.string = some shown ∨ shown = text) := by
  by_cases same : p.string.any (canonical.eq text) = true
  · obtain ⟨shown, held, equal⟩ := (Option.any_eq_true _ _).mp same
    refine ⟨p, ?_, shown, held, canonical.symm equal, .inl held⟩
    simp only [SPICEPasteboardBridge.applyGuestString, if_pos same]
  · refine ⟨p.setString text, ?_, text, rfl, canonical.refl text, .inr rfl⟩
    simp only [SPICEPasteboardBridge.applyGuestString, if_neg same]

/-- Running a task that is not the only one and not the newest leaves the newest. -/
theorem getLast?_eraseIdx {tasks : List String} {i : Nat} (inside : i + 1 < tasks.length) :
    (tasks.eraseIdx i).getLast? = tasks.getLast? := by
  rw [List.getLast?_eq_getElem?, List.getLast?_eq_getElem?,
    List.length_eraseIdx_of_lt (by omega), List.getElem?_eraseIdx_of_ge (by omega)]
  congr 1
  omega

theorem Following.run {i : Nat} (following : Following canonical texts s)
    (ordered : Uncrossed s (.run i)) (ran : step canonical s (.run i) = some t) :
    Following canonical texts t := by
  simp only [step] at ran
  split at ran
  · cases ran
  · next text found =>
    obtain ⟨p, applied, shown, held, equal, source⟩ :=
      applyGuestString_spec canonical s.pasteboard s.bridge text
    rw [applied] at ran
    cases ran
    obtain ⟨inside, _⟩ := List.getElem?_eq_some_iff.mp found
    -- The last task to run is the newest one, which has the guest's text.
    have left : s.tasks.eraseIdx i = [] → s.guest = some text := by
      intro none
      have length := congrArg List.length none
      rw [List.length_eraseIdx_of_lt inside, List.length_nil] at length
      apply following.newest
      rw [List.getLast?_eq_getElem?, ← found]
      congr 1
      omega
    constructor
    · exact following.unsent
    · intro last newest
      by_cases only : s.tasks.length = i + 1
      · have none : s.tasks.eraseIdx i = [] := by
          apply List.eq_nil_of_length_eq_zero
          rw [List.length_eraseIdx_of_lt inside]
          have first := ordered only
          omega
        simp only [none, List.getLast?_nil, reduceCtorEq] at newest
      · rw [getLast?_eraseIdx (by omega)] at newest
        exact following.newest last newest
    · exact following.record
    · exact Int.le_refl _
    · intro other now
      cases held.symm.trans now
      rcases source with before | rfl
      · exact following.shown _ before
      · exact following.spawned _ (List.mem_of_getElem? found)
    · exact fun other member => following.spawned other (List.mem_of_mem_eraseIdx member)
    · exact following.offers
    · intro _ none
      cases held.symm.trans none
    · intro none _
      simp only [held, left none, Agree]
      exact equal
    · exact fun _ => rfl
    · exact following.echoes

/-- The library is given the text that has just been announced. -/
theorem read_announced (b : SPICEPasteboardBridge) (text : String)
    (cached : b.cachedHostText = some text) (unknown : ¬ b.loopGuard.Knows text) :
    read b = some text := by
  have sendable := (ClipboardLoopGuard.canSendToGuest_iff _ _).mpr unknown
  simp only [read, SPICEPasteboardBridge.canReadItem, SPICEPasteboardBridge.data, cached,
    sendable, if_true, Option.bind_some, fromUTF8?_toUTF8]

/-- A poll that announces nothing counts the pasteboard as seen. -/
theorem Following.noticed (following : Following canonical texts s) (b : SPICEPasteboardBridge)
    (kept : b.loopGuard = s.bridge.loopGuard)
    (seen : b.lastChangeCount = s.pasteboard.changeCount)
    (same : s.tasks = [] → Agree canonical s.pasteboard.string s.guest) :
    Following canonical texts (s.announce { bridge := b }) := by
  have after : s.announce { bridge := b } = { s with bridge := b, polled := true } := by
    simp [announce]
  rw [after]
  constructor
  · simp only [kept]
    exact following.unsent
  · exact following.newest
  · simp only [kept]
    exact following.record
  · simp only [seen, Int.le_refl]
  · exact following.shown
  · exact following.spawned
  · exact following.offers
  · exact following.bare
  · exact fun done _ => same done
  · exact fun _ => seen.symm
  · exact following.echoes

/-- A text that is not on record is announced; no task is pending, so it stays. -/
theorem Following.announced (following : Following canonical texts s) (text : String)
    (held : s.pasteboard.string = some text)
    (small : text.utf8ByteSize ≤ maximumClipboardSize)
    (changed : (s.pasteboard.changeCount : Int) ≠ s.bridge.lastChangeCount)
    (unknown : s.bridge.loopGuard.lastAppliedFromGuest ≠ some (fingerprint text))
    (done : s.tasks = []) (fresh : text ∉ s.offered) :
    Following canonical texts (s.announce (s.bridge.pollForHostChange s.pasteboard)) := by
  have unsent : s.bridge.loopGuard.lastSentToGuest ≠ some (fingerprint text) := by
    rw [following.unsent]
    simp
  let b : SPICEPasteboardBridge := { s.bridge with
    lastChangeCount := s.pasteboard.changeCount
    cachedHostText := some text
    loopGuard := { s.bridge.loopGuard with lastAppliedFromGuest := none } }
  have polled : s.bridge.pollForHostChange s.pasteboard = { bridge := b, announce := true } := by
    simp only [SPICEPasteboardBridge.pollForHostChange, if_neg changed, held, if_pos small,
      ClipboardLoopGuard.shouldAnnounceHostChange, if_neg unknown.symm, ne_eq, unsent.symm,
      not_false_eq_true, decide_true, b]
  have given : read b = some text := by
    apply read_announced b text rfl
    rintro (sent | applied)
    · exact unsent sent
    · cases applied
  have after : s.announce { bridge := b, announce := true } =
      { s with bridge := b, guest := some text, polled := true } := by
    simp [announce, given, fresh]
  rw [polled, after]
  constructor
  · exact following.unsent
  · intro last newest
    simp only [done, List.getLast?_nil, reduceCtorEq] at newest
  · intro mark marked
    cases marked
  · exact Int.le_refl _
  · exact following.shown
  · exact following.spawned
  · exact following.offers
  · intro _ none
    cases held.symm.trans none
  · intro _ _
    simp only [held, Agree, canonical.refl]
  · exact fun _ => rfl
  · exact following.echoes

theorem Following.poll (following : Following canonical texts s)
    (apart : ∀ a b, texts a → texts b → fingerprint a = fingerprint b → a = b)
    (uncrossed : Uncrossed s .poll) :
    Following canonical texts (s.announce (s.bridge.pollForHostChange s.pasteboard)) := by
  by_cases seen : (s.pasteboard.changeCount : Int) = s.bridge.lastChangeCount
  · have polled : s.bridge.pollForHostChange s.pasteboard = { bridge := s.bridge } := by
      simp only [SPICEPasteboardBridge.pollForHostChange, if_pos seen]
    rw [polled]
    exact following.noticed s.bridge rfl seen.symm fun done => following.same done seen
  · cases held : s.pasteboard.string with
    | none =>
      have polled : s.bridge.pollForHostChange s.pasteboard = { bridge := { s.bridge with
          lastChangeCount := s.pasteboard.changeCount, cachedHostText := none } } := by
        simp only [SPICEPasteboardBridge.pollForHostChange, if_neg seen, held]
      rw [polled]
      refine following.noticed _ rfl rfl fun done => ?_
      rw [held, following.bare done held]
      trivial
    | some text =>
      obtain ⟨small, crossing⟩ := uncrossed seen text held
      by_cases known : s.bridge.loopGuard.lastAppliedFromGuest = some (fingerprint text)
      · have polled : s.bridge.pollForHostChange s.pasteboard = { bridge := { s.bridge with
            lastChangeCount := s.pasteboard.changeCount, cachedHostText := some text } } := by
          simp only [SPICEPasteboardBridge.pollForHostChange, if_neg seen, held, if_pos small,
            ClipboardLoopGuard.shouldAnnounceHostChange, known, if_true]
        rw [polled]
        refine following.noticed _ rfl rfl fun done => ?_
        -- What is on record is the text the guest has, so the two are one text.
        obtain ⟨other, guest, mark, member⟩ := following.record _ known
        have equal := apart other text (following.offers other member)
          (following.shown text held) mark
        rw [held, guest, equal]
        exact canonical.refl text
      · obtain ⟨done, fresh⟩ := crossing known
        exact following.announced text held small seen known done fresh

theorem Following.copy (following : Following canonical texts s) (text : String)
    (among : texts text) : Following canonical texts
      { s with pasteboard := s.pasteboard.setString text, polled := false } := by
  have unread := following.unread
  constructor
  · exact following.unsent
  · exact following.newest
  · exact following.record
  · simp only [Pasteboard.setString]
    omega
  · intro other now
    cases now
    exact among
  · exact following.spawned
  · exact following.offers
  · intro _ none
    cases none
  · intro _ seen
    simp only [Pasteboard.setString] at seen
    omega
  · intro polled
    cases polled
  · exact following.echoes

/-- Step lemma: the guest goes on having the newest text. -/
theorem Following.step {e : PasteboardEvent} (following : Following canonical texts s)
    (apart : ∀ a b, texts a → texts b → fingerprint a = fingerprint b → a = b)
    (among : Mentions texts e) (offers : Offers s e) (uncrossed : Uncrossed s e)
    (taken : PasteboardSession.step canonical s e = some t) : Following canonical texts t := by
  cases e with
  | setString text =>
    obtain ⟨filled, small, fresh⟩ := offers
    cases taken
    exact following.offer apart text (among text rfl) filled small fresh
  | setData data type =>
    obtain ⟨rfl, text, rfl, filled, small, fresh⟩ := offers
    have carries : carried (.setData text.toUTF8 .string) = some text := fromUTF8?_toUTF8 text
    cases taken
    rw [carries, setData_toUTF8 s.bridge text filled small]
    exact following.offer apart text (among text carries) filled small fresh
  | run i => exact following.run uncrossed taken
  | copy text =>
    cases taken
    exact following.copy text among
  | poll =>
    cases taken
    exact following.poll apart uncrossed

/-- The texts on the pasteboard before the first event and in the events. -/
def Appears (pasteboard : Pasteboard) (events : List PasteboardEvent) (text : String) : Prop :=
  pasteboard.string = some text ∨ ∃ e ∈ events, e = .copy text ∨ carried e = some text

/-- Where no two of the texts share a fingerprint, the sides agree in every run of such offers
in which the newest task runs last and no poll that announces a text crosses a task. -/
theorem pasteboards_agree (canonical : CanonicalEquality) (pasteboard : Pasteboard)
    (events : List PasteboardEvent)
    (apart : ∀ a b, Appears pasteboard events a → Appears pasteboard events b →
      fingerprint a = fingerprint b → a = b)
    (offers : Meets (PasteboardSession.step canonical) Offers (opened pasteboard) events)
    (uncrossed : Meets (PasteboardSession.step canonical) Uncrossed (opened pasteboard) events) :
    Always (PasteboardSession.step canonical) (Agreed canonical) (opened pasteboard) events := by
  refine always_of_meets (V := Mentions (Appears pasteboard events))
    (I := Following canonical (Appears pasteboard events)) ?_ ?_ _ events ?_ ?_
    (offers.and uncrossed)
  · exact fun s e t following among allowed taken =>
      following.step apart among allowed.1 allowed.2 taken
  · exact fun s following => following.agreed
  · exact following_opened pasteboard fun text shown => .inl shown
  · intro e member
    cases e with
    | copy text => exact .inr ⟨_, member, .inl rfl⟩
    | setString text => exact fun other carries => .inr ⟨_, member, .inr carries⟩
    | setData data type => exact fun other carries => .inr ⟨_, member, .inr carries⟩
    | run i => exact fun other carries => .inr ⟨_, member, .inr carries⟩
    | poll => exact fun other carries => .inr ⟨_, member, .inr carries⟩

/-- A guest text, a poll, a host text, and its announcement. -/
theorem pasteboards_agree_in_turn : Always (PasteboardSession.step .bytes) (Agreed .bytes)
    (opened ⟨0, none⟩) [.setString "a", .run 0, .poll, .copy "b", .poll] := by
  apply pasteboards_agree
  · intro a b first second same
    have either (text : String) (appears : Appears ⟨0, none⟩
        [.setString "a", .run 0, .poll, .copy "b", .poll] text) : text = "a" ∨ text = "b" := by
      rcases appears with shown | ⟨e, member, carries⟩
      · cases shown
      · simp only [List.mem_cons, List.not_mem_nil, or_false] at member
        rcases member with rfl | rfl | rfl | rfl | rfl
        · exact .inl (by simpa [carried, eq_comm] using carries)
        · simp [carried] at carries
        · simp [carried] at carries
        · exact .inr (by simpa [carried, eq_comm] using carries)
        · simp [carried] at carries
    have different : fingerprint "a" ≠ fingerprint "b" := by decide +kernel
    rcases either a first with rfl | rfl <;> rcases either b second with rfl | rfl
    · rfl
    · exact absurd same different
    · exact absurd same.symm different
    · rfl
  · exact .next rfl ⟨by decide, by decide, by decide⟩
      (.next rfl trivial (.next rfl trivial (.next rfl trivial (.next rfl trivial trivial))))
  · refine .next rfl trivial (.next rfl (fun _ => rfl) (.next rfl (fun changed => ?_)
      (.next rfl trivial (.next rfl (fun _ text shown => ?_) trivial))))
    · exact absurd rfl changed
    · cases shown
      exact ⟨by decide, fun _ => ⟨rfl, by decide⟩⟩

/-- The text copied on the host is announced while the task of the guest's text is pending:
the guest ends up with the one and the host with the other. -/
theorem announcement_crosses_task : ∃ events,
    Meets (PasteboardSession.step .bytes) Offers (opened ⟨0, none⟩) events ∧
    ¬ Always (PasteboardSession.step .bytes) (Agreed .bytes) (opened ⟨0, none⟩) events := by
  refine ⟨[.setString "a", .copy "b", .poll, .run 0], ?_, ?_⟩
  · exact .next rfl ⟨by decide, by decide, by decide⟩
      (.next rfl trivial (.next rfl trivial (.next rfl trivial trivial)))
  · intro always
    let crossed : PasteboardSession := {
      pasteboard := ⟨2, some "a"⟩
      bridge := { lastChangeCount := 2, cachedHostText := some "a" }
      guest := some "b"
      offered := ["a"]
      polled := true }
    have ran : Run (PasteboardSession.step .bytes) (opened ⟨0, none⟩)
        [.setString "a", .copy "b", .poll, .run 0] crossed :=
      run_of_execute (by decide +kernel)
    have agreed := (always.last ran).same rfl rfl
    simp [Agree, CanonicalEquality.bytes, crossed] at agreed

end PasteboardSession

end SimpleVM.SPICE
