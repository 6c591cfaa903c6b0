import SimpleVM.Clipboard.Synchronizer
import SimpleVM.Transition.Run

/-!
# Convergence of host and guest clipboards

The user copies texts on either side; after each copy one round runs to completion
against a guest that answers every request. The two clipboards agree on the latest
copy exactly as long as the fingerprint last sent to the guest is never stale: the
guard clears a stale applied fingerprint, but nothing clears a stale sent one.
-/
namespace SimpleVM.Clipboard

open Agent (GuestAgentResponse maximumClipboardSize)
open Transition

/-- A user copy, by the side it is made on. -/
inductive Copy
  | host (text : String)
  | guest (text : String)
deriving DecidableEq, Repr

def Copy.text : Copy → String
  | .host text => text
  | .guest text => text

/-- Host, guest clipboard, and the text the user copied last. -/
structure Desk where
  host : Host
  guest : Option String
  latest : Option String := none
deriving DecidableEq, Repr

def Desk.copy (d : Desk) : Copy → Desk
  | .host text => { d with
      host := { d.host with pasteboard := d.host.pasteboard.setString text }
      latest := some text }
  | .guest text => { d with guest := some text, latest := some text }

/-- The guest's reply to `readClipboard`; `wl-paste` fails on an empty clipboard. -/
def readReply : Option String → GuestAgentResponse
  | some text => .clipboard text
  | none => .failure { code := "clipboardReadFailed", message := "No selection" }

/-- The rest of a round that waits for `suspension`, against a guest that answers. -/
def finishRead (canonical : CanonicalEquality) (d : Desk) : Suspension → Desk
  | .readClipboard => { d with host := afterRead canonical d.host (some (readReply d.guest)) }
  | _ => d

/-- A complete round: an accepted write is in the guest clipboard when it is read back. -/
def completeRound (canonical : CanonicalEquality) (d : Desk) : Desk :=
  match synchronize d.host with
  | (host, .writeClipboard text) =>
    let (host, suspension) := afterWrite host text (some .accepted)
    finishRead canonical { d with host := host, guest := some text } suspension
  | (host, suspension) => finishRead canonical { d with host := host } suspension

/-- One copy and the round after it. -/
def step (canonical : CanonicalEquality) (d : Desk) (c : Copy) : Option Desk :=
  some (completeRound canonical (d.copy c))

/-- Both sides hold the text copied last. -/
def Converged (canonical : CanonicalEquality) (d : Desk) : Prop :=
  ∀ text, d.latest = some text →
    (∃ shown, d.host.pasteboard.string = some shown ∧ canonical.eq shown text = true) ∧
    ∃ held, d.guest = some held ∧ canonical.eq held text = true

/-- The copied text is not the one last sent to the guest, unless it is also the text both
sides already share. -/
def NotStale (canonical : CanonicalEquality) (d : Desk) (c : Copy) : Prop :=
  d.host.synchronizer.loopGuard.lastSentToGuest = some (fingerprint c.text) →
    ∃ text, d.latest = some text ∧ canonical.eq c.text text = true

/-- What every round boundary looks like while the clipboards agree: the pasteboard has been
seen, the guest text is on record, and an applied record is of a text equal to the shared one. -/
structure Settled (canonical : CanonicalEquality) (texts : String → Prop) (d : Desk) : Prop where
  seen : d.host.pasteboard.changeCount = d.host.synchronizer.lastPasteboardChangeCount
  idle : d.host.synchronizer.pendingHostText = none
  fresh : d.latest = none → d.host.synchronizer.loopGuard = {}
  shared : ∀ text, d.latest = some text →
    (∃ shown, d.host.pasteboard.string = some shown ∧ canonical.eq shown text = true) ∧
    (∃ held, d.guest = some held ∧ canonical.eq held text = true ∧
      texts held ∧ d.host.synchronizer.loopGuard.Knows held) ∧
    ∀ mark, d.host.synchronizer.loopGuard.lastAppliedFromGuest = some mark →
      ∃ applied, texts applied ∧ fingerprint applied = mark ∧ canonical.eq applied text = true

section Rounds

variable (canonical : CanonicalEquality) (d : Desk) (text : String)

private theorem synchronize_seen
    (seen : d.host.pasteboard.changeCount = d.host.synchronizer.lastPasteboardChangeCount)
    (idle : d.host.synchronizer.pendingHostText = none) :
    synchronize d.host = (d.host, .readClipboard) := by
  simp only [synchronize, if_pos seen, nextRequest, idle]

/-- A round that writes leaves the text on the guest and on record as sent. -/
private theorem round_sends
    (seen : d.host.pasteboard.changeCount = d.host.synchronizer.lastPasteboardChangeCount)
    (small : text.utf8ByteSize ≤ maximumClipboardSize)
    (new : ¬ d.host.synchronizer.loopGuard.Knows text) :
    completeRound canonical (d.copy (.host text)) =
      { host := { d.host with
          pasteboard := d.host.pasteboard.setString text
          synchronizer := {
            lastPasteboardChangeCount := d.host.pasteboard.changeCount + 1
            loopGuard := d.host.synchronizer.loopGuard.markSentToGuest text } }
        guest := some text
        latest := some text } := by
  have changed : d.host.pasteboard.changeCount + 1 ≠
      d.host.synchronizer.lastPasteboardChangeCount := by omega
  have sendable := (ClipboardLoopGuard.canSendToGuest_iff _ _).mpr new
  have echo := ClipboardLoopGuard.shouldApplyFromGuest_known _ text
    (d.host.synchronizer.loopGuard.markSentToGuest_knows text)
  simp only [completeRound, Desk.copy, synchronize, Pasteboard.setString, if_neg changed,
    if_pos small, sendable, if_true, nextRequest, afterWrite, finishRead, readReply, afterRead,
    echo, Bool.false_and, Bool.false_eq_true, if_false]

/-- A host copy the guard knows is not sent, and the known guest text is not applied. -/
private theorem round_withholds (held : String)
    (seen : d.host.pasteboard.changeCount = d.host.synchronizer.lastPasteboardChangeCount)
    (small : text.utf8ByteSize ≤ maximumClipboardSize)
    (known : d.host.synchronizer.loopGuard.Knows text)
    (guest : d.guest = some held) (on_record : d.host.synchronizer.loopGuard.Knows held) :
    completeRound canonical (d.copy (.host text)) =
      { host := { d.host with
          pasteboard := d.host.pasteboard.setString text
          synchronizer := {
            lastPasteboardChangeCount := d.host.pasteboard.changeCount + 1
            loopGuard := d.host.synchronizer.loopGuard } }
        guest := some held
        latest := some text } := by
  have changed : d.host.pasteboard.changeCount + 1 ≠
      d.host.synchronizer.lastPasteboardChangeCount := by omega
  have refused : d.host.synchronizer.loopGuard.canSendToGuest text = false :=
    Bool.eq_false_iff.mpr fun sendable =>
      (ClipboardLoopGuard.canSendToGuest_iff _ _).mp sendable known
  have echo := ClipboardLoopGuard.shouldApplyFromGuest_known _ held on_record
  simp only [completeRound, Desk.copy, synchronize, Pasteboard.setString, if_neg changed,
    if_pos small, refused, nextRequest, finishRead, readReply, afterRead, guest, echo,
    Bool.false_and, Bool.false_eq_true, if_false, ite_self]

/-- A guest copy the guard knows changes nothing on the host. -/
private theorem round_ignores
    (seen : d.host.pasteboard.changeCount = d.host.synchronizer.lastPasteboardChangeCount)
    (idle : d.host.synchronizer.pendingHostText = none)
    (known : d.host.synchronizer.loopGuard.Knows text) :
    completeRound canonical (d.copy (.guest text)) =
      { d with guest := some text, latest := some text } := by
  have start := synchronize_seen (d.copy (.guest text)) seen idle
  have echo := ClipboardLoopGuard.shouldApplyFromGuest_known _ text known
  simp only [Desk.copy] at start ⊢
  simp only [completeRound, start, finishRead, readReply, afterRead, echo, Bool.false_and,
    Bool.false_eq_true, if_false, ite_self]

/-- A new guest text is recorded as applied and shown on the host. -/
private theorem round_applies
    (seen : d.host.pasteboard.changeCount = d.host.synchronizer.lastPasteboardChangeCount)
    (idle : d.host.synchronizer.pendingHostText = none)
    (small : text.utf8ByteSize ≤ maximumClipboardSize)
    (new : ¬ d.host.synchronizer.loopGuard.Knows text) :
    ∃ pasteboard, (∃ shown, pasteboard.string = some shown ∧ canonical.eq shown text = true) ∧
      completeRound canonical (d.copy (.guest text)) =
        { host := { d.host with
            pasteboard := pasteboard
            synchronizer := { d.host.synchronizer with
              lastPasteboardChangeCount := pasteboard.changeCount
              loopGuard := { d.host.synchronizer.loopGuard with
                lastAppliedFromGuest := some (fingerprint text) } } }
          guest := some text
          latest := some text } := by
  have start := synchronize_seen (d.copy (.guest text)) seen idle
  have applies := ClipboardLoopGuard.shouldApplyFromGuest_new _ text new
  simp only [Desk.copy] at start ⊢
  simp only [completeRound, start, finishRead, readReply, afterRead, if_pos small, applies,
    Bool.true_and]
  by_cases same : d.host.pasteboard.string.any (canonical.eq text) = true
  · obtain ⟨shown, held, equal⟩ :
        ∃ shown, d.host.pasteboard.string = some shown ∧ canonical.eq text shown = true := by
      simpa [Option.any_eq_true] using same
    refine ⟨d.host.pasteboard, ⟨shown, held, canonical.symm equal⟩, ?_⟩
    simp only [same, Bool.not_true, Bool.false_eq_true, if_false, ← seen]
  · refine ⟨d.host.pasteboard.setString text, ⟨text, rfl, canonical.refl text⟩, ?_⟩
    simp only [Bool.eq_false_iff.mpr same, Bool.not_false, if_true]

end Rounds

section Boundaries

variable {canonical : CanonicalEquality} {texts : String → Prop} {d : Desk}

/-- The state after a round that left the text on both sides and on record as sent. -/
private theorem settled_sent (text : String) (member : texts text) (host : Host)
    (guard : ClipboardLoopGuard) :
    Settled canonical texts {
      host := { host with
        pasteboard := host.pasteboard.setString text
        synchronizer := {
          lastPasteboardChangeCount := host.pasteboard.changeCount + 1
          loopGuard := guard.markSentToGuest text } }
      guest := some text
      latest := some text } where
  seen := rfl
  idle := rfl
  fresh absent := by cases absent
  shared := by
    intro shared now
    cases now
    refine ⟨⟨text, rfl, canonical.refl text⟩, ⟨text, rfl, canonical.refl text, member, .inl rfl⟩,
      fun mark applied => ?_⟩
    have own := guard.markSentToGuest_applied text mark applied
    exact ⟨text, member, own.symm, canonical.refl text⟩

/-- A copy of a known text is of one equal to the shared text, if it is not stale: the
applied record is of such a text, and fingerprints identify the texts involved. -/
private theorem equal_of_known (settled : Settled canonical texts d) (c : Copy)
    (member : texts c.text)
    (distinct : ∀ a b, texts a → texts b → fingerprint a = fingerprint b → a = b)
    (known : d.host.synchronizer.loopGuard.Knows c.text) (fit : NotStale canonical d c) :
    ∃ text, d.latest = some text ∧ canonical.eq c.text text = true := by
  rcases known with sent | applied
  · exact fit sent
  · cases latest : d.latest with
    | none =>
      rw [settled.fresh latest] at applied
      cases applied
    | some text =>
      obtain ⟨a, involved, mark, equal⟩ := (settled.shared text latest).2.2 _ applied
      have same := distinct a c.text involved member mark
      exact ⟨text, rfl, same ▸ equal⟩

/-- A fresh guard knows no text. -/
private theorem known_latest (settled : Settled canonical texts d) (text : String)
    (known : d.host.synchronizer.loopGuard.Knows text) : ∃ shared, d.latest = some shared := by
  cases latest : d.latest with
  | none =>
    rw [settled.fresh latest] at known
    rcases known with sent | applied
    · cases sent
    · cases applied
  | some shared => exact ⟨shared, rfl⟩

theorem Settled.converged (settled : Settled canonical texts d) : Converged canonical d := by
  intro text latest
  obtain ⟨shown, ⟨held, guest, equal, _, _⟩, _⟩ := settled.shared text latest
  exact ⟨shown, held, guest, equal⟩

/-- Step lemma: a copy that is not stale leads to another settled boundary. -/
theorem Settled.step (settled : Settled canonical texts d) (c : Copy) (member : texts c.text)
    (small : c.text.utf8ByteSize ≤ maximumClipboardSize)
    (distinct : ∀ a b, texts a → texts b → fingerprint a = fingerprint b → a = b)
    (fit : NotStale canonical d c) :
    Settled canonical texts (completeRound canonical (d.copy c)) := by
  cases c with
  | host text =>
    -- The guard withholds a text it has sent or applied before. What it knows agrees with the
    -- latest copy, so a withheld copy changes nothing that both sides show.
    by_cases known : d.host.synchronizer.loopGuard.Knows text
    · obtain ⟨before, latest, equal⟩ :=
        equal_of_known settled (.host text) member distinct known fit
      obtain ⟨_, ⟨held, guest, agrees, involved, recorded⟩, applied⟩ :=
        settled.shared before latest
      rw [round_withholds canonical d text held settled.seen small known guest recorded]
      refine ⟨rfl, rfl, (fun absent => by cases absent), ?_⟩
      intro shared now
      cases now
      refine ⟨⟨text, rfl, canonical.refl text⟩,
        ⟨held, rfl, canonical.trans agrees (canonical.symm equal), involved, recorded⟩,
        fun mark marked => ?_⟩
      obtain ⟨a, among, print, same⟩ := applied mark marked
      exact ⟨a, among, print, canonical.trans same (canonical.symm equal)⟩
    · rw [round_sends canonical d text settled.seen small known]
      exact settled_sent text member d.host d.host.synchronizer.loopGuard
  | guest text =>
    -- A guest text the guard knows is ignored: the host already shows one that agrees with it.
    by_cases known : d.host.synchronizer.loopGuard.Knows text
    · obtain ⟨before, latest, equal⟩ :=
        equal_of_known settled (.guest text) member distinct known fit
      obtain ⟨⟨shown, on, agrees⟩, _, applied⟩ := settled.shared before latest
      rw [round_ignores canonical d text settled.seen settled.idle known]
      refine ⟨settled.seen, settled.idle, (fun absent => by cases absent), ?_⟩
      intro shared now
      cases now
      refine ⟨⟨shown, on, canonical.trans agrees (canonical.symm equal)⟩,
        ⟨text, rfl, canonical.refl text, member, known⟩, fun mark marked => ?_⟩
      obtain ⟨a, among, print, same⟩ := applied mark marked
      exact ⟨a, among, print, canonical.trans same (canonical.symm equal)⟩
    · obtain ⟨pasteboard, shows, after⟩ :=
        round_applies canonical d text settled.seen settled.idle small known
      rw [after]
      refine ⟨rfl, settled.idle, (fun absent => by cases absent), ?_⟩
      intro shared now
      cases now
      refine ⟨shows, ⟨text, rfl, canonical.refl text, member, .inr rfl⟩, fun mark marked => ?_⟩
      exact ⟨text, member, Option.some.inj marked, canonical.refl text⟩

/-- A copy that converges is not stale: a known text is neither sent nor applied, so what
the other side holds is still the text shared before. -/
theorem Settled.notStale (settled : Settled canonical texts d) (c : Copy)
    (small : c.text.utf8ByteSize ≤ maximumClipboardSize)
    (after : Converged canonical (completeRound canonical (d.copy c))) :
    NotStale canonical d c := by
  intro sent
  obtain ⟨shared, latest⟩ := known_latest settled c.text (.inl sent)
  refine ⟨shared, latest, ?_⟩
  obtain ⟨⟨shown, on, agrees⟩, ⟨held, guest, equal, _, recorded⟩, _⟩ :=
    settled.shared shared latest
  cases c with
  | host text =>
    rw [round_withholds canonical d text held settled.seen small (.inl sent) guest recorded]
      at after
    obtain ⟨_, _, same, matches_copy⟩ := after text rfl
    cases same
    exact canonical.trans (canonical.symm matches_copy) equal
  | guest text =>
    rw [round_ignores canonical d text settled.seen settled.idle (.inl sent)] at after
    obtain ⟨⟨_, same, matches_copy⟩, _⟩ := after text rfl
    cases on.symm.trans same
    exact canonical.trans (canonical.symm matches_copy) agrees

end Boundaries

/-- The desk when the synchroniser starts. -/
def started (pasteboard : Pasteboard) (guest : Option String) : Desk where
  host := start pasteboard
  guest := guest

theorem settled_started (canonical : CanonicalEquality) (texts : String → Prop)
    (pasteboard : Pasteboard) (guest : Option String) :
    Settled canonical texts (started pasteboard guest) where
  seen := rfl
  idle := rfl
  fresh _ := rfl
  shared _ latest := by cases latest

/-- Over every sequence of copies of distinguishable texts of at most 1 MiB, both clipboards
hold the latest copy after every round exactly when no copy is of a stale sent text. -/
theorem clipboards_converge_iff (canonical : CanonicalEquality) (pasteboard : Pasteboard)
    (guest : Option String) (copies : List Copy)
    (small : ∀ c ∈ copies, c.text.utf8ByteSize ≤ maximumClipboardSize)
    (distinct : ∀ a ∈ copies, ∀ b ∈ copies,
      fingerprint a.text = fingerprint b.text → a.text = b.text) :
    Always (step canonical) (Converged canonical) (started pasteboard guest) copies ↔
      Meets (step canonical) (NotStale canonical) (started pasteboard guest) copies := by
  let texts : String → Prop := fun text => ∃ c ∈ copies, c.text = text
  have apart : ∀ a b, texts a → texts b → fingerprint a = fingerprint b → a = b := by
    rintro _ _ ⟨a, ha, rfl⟩ ⟨b, hb, rfl⟩ same
    exact distinct a ha b hb same
  apply always_iff_meets (I := Settled canonical texts) (V := (· ∈ copies))
  · intro d c t settled member fit taken
    cases taken
    exact settled.step c ⟨c, member, rfl⟩ (small c member) apart fit
  · exact fun d settled => settled.converged
  · intro d c t settled member taken converged
    cases taken
    exact settled.notStale c (small c member) converged
  · exact settled_started canonical texts pasteboard guest
  · exact fun c member => member

/-- Copies that alternate between the sides keep both clipboards equal. -/
theorem clipboards_converge_alternating :
    Always (step .bytes) (Converged .bytes) (started ⟨0, none⟩ none) [.host "a", .guest "b"] := by
  apply (clipboards_converge_iff .bytes ⟨0, none⟩ none [.host "a", .guest "b"]
    (by decide +kernel) (by decide +kernel)).mpr
  refine .next rfl (fun sent => by cases sent) (.next rfl (fun sent => ?_) trivial)
  exact absurd sent (by decide +kernel)

/-- A text sent by the host and copied again in the guest after another guest text: the host
keeps showing the other text. -/
theorem recopied_text_not_applied : ∃ copies : List Copy,
    (∀ c ∈ copies, c.text.utf8ByteSize ≤ maximumClipboardSize) ∧
    (∀ a ∈ copies, ∀ b ∈ copies, fingerprint a.text = fingerprint b.text → a.text = b.text) ∧
    ¬ Always (step .bytes) (Converged .bytes) (started ⟨0, none⟩ none) copies := by
  refine ⟨[.host "a", .guest "b", .guest "a"], by decide +kernel, by decide +kernel, ?_⟩
  intro always
  have converged := (((always.2 _ rfl).2 _ rfl).2 _ rfl)
  obtain ⟨⟨shown, on, same⟩, _⟩ := converged "a" rfl
  have stays : shown = "b" := by
    apply Option.some.inj
    rw [← on]
    decide +kernel
  subst stays
  simp [CanonicalEquality.bytes] at same

end SimpleVM.Clipboard
