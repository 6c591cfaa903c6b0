/-!
# The clipboard loop guard

`ClipboardLoopGuard` remembers fingerprints of the text last sent to the guest and of the
text last applied from it, and refuses texts it recognises as echoes.
-/
namespace SimpleVM.Clipboard

/-- 64-bit FNV-1a over the UTF-8 bytes. -/
def fingerprint (text : String) : UInt64 :=
  text.toUTF8.data.toList.foldl
    (fun hash byte => (hash ^^^ byte.toUInt64) * 1099511628211) 14695981039346656037

structure ClipboardLoopGuard where
  lastSentToGuest : Option UInt64 := none
  lastAppliedFromGuest : Option UInt64 := none
deriving DecidableEq, Repr

namespace ClipboardLoopGuard

def canSendToGuest (g : ClipboardLoopGuard) (text : String) : Bool :=
  decide (some (fingerprint text) ≠ g.lastAppliedFromGuest) &&
    decide (some (fingerprint text) ≠ g.lastSentToGuest)

def markSentToGuest (g : ClipboardLoopGuard) (text : String) : ClipboardLoopGuard where
  lastSentToGuest := some (fingerprint text)
  lastAppliedFromGuest :=
    if some (fingerprint text) ≠ g.lastAppliedFromGuest then none else g.lastAppliedFromGuest

def shouldAnnounceHostChange (g : ClipboardLoopGuard) (text : String) :
    Bool × ClipboardLoopGuard :=
  if some (fingerprint text) = g.lastAppliedFromGuest then (false, g)
  else (decide (some (fingerprint text) ≠ g.lastSentToGuest),
    { g with lastAppliedFromGuest := none })

def shouldApplyFromGuest (g : ClipboardLoopGuard) (text : String) :
    Bool × ClipboardLoopGuard :=
  if some (fingerprint text) = g.lastSentToGuest ∨
      some (fingerprint text) = g.lastAppliedFromGuest then (false, g)
  else (true, { g with lastAppliedFromGuest := some (fingerprint text) })

/-- The guard has the text on record, in either direction. -/
def Knows (g : ClipboardLoopGuard) (text : String) : Prop :=
  g.lastSentToGuest = some (fingerprint text) ∨ g.lastAppliedFromGuest = some (fingerprint text)

theorem canSendToGuest_iff (g : ClipboardLoopGuard) (text : String) :
    g.canSendToGuest text = true ↔ ¬ g.Knows text := by
  simp only [canSendToGuest, Knows, Bool.and_eq_true, decide_eq_true_eq, not_or]
  constructor
  · rintro ⟨applied, sent⟩
    exact ⟨fun h => sent h.symm, fun h => applied h.symm⟩
  · rintro ⟨sent, applied⟩
    exact ⟨fun h => applied h.symm, fun h => sent h.symm⟩

/-- A text already on record is refused and the record is left alone. -/
theorem shouldApplyFromGuest_known (g : ClipboardLoopGuard) (text : String)
    (known : g.Knows text) : g.shouldApplyFromGuest text = (false, g) := by
  have seen : some (fingerprint text) = g.lastSentToGuest ∨
      some (fingerprint text) = g.lastAppliedFromGuest := known.imp Eq.symm Eq.symm
  simp only [shouldApplyFromGuest, if_pos seen]

theorem shouldApplyFromGuest_new (g : ClipboardLoopGuard) (text : String)
    (new : ¬ g.Knows text) : g.shouldApplyFromGuest text =
      (true, { g with lastAppliedFromGuest := some (fingerprint text) }) := by
  have unseen : ¬ (some (fingerprint text) = g.lastSentToGuest ∨
      some (fingerprint text) = g.lastAppliedFromGuest) :=
    fun seen => new (seen.imp Eq.symm Eq.symm)
  simp only [shouldApplyFromGuest, if_neg unseen]

theorem markSentToGuest_knows (g : ClipboardLoopGuard) (text : String) :
    (g.markSentToGuest text).Knows text := Or.inl rfl

/-- What is left of the applied record after a send is the sent text itself. -/
theorem markSentToGuest_applied (g : ClipboardLoopGuard) (text : String) (mark : UInt64)
    (kept : (g.markSentToGuest text).lastAppliedFromGuest = some mark) :
    mark = fingerprint text := by
  simp only [markSentToGuest] at kept
  split at kept
  · cases kept
  · next same =>
    simp only [ne_eq, Decidable.not_not] at same
    rw [kept] at same
    exact (Option.some.inj same).symm

end ClipboardLoopGuard

end SimpleVM.Clipboard
