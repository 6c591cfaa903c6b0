import SimpleVM.Agent.Protocol
import SimpleVM.Clipboard.LoopGuard

/-!
# The clipboard synchroniser

One `synchronize` round of `GuestClipboardSynchronizer`, cut at its two suspension
points: the pending `writeClipboard` request and the pending `readClipboard` request.
-/
namespace SimpleVM.Clipboard

open Agent (GuestAgentResponse maximumClipboardSize)

/-- Swift compares strings up to canonical equivalence, which is coarser than equality
of their bytes. The results hold for every such equivalence. -/
structure CanonicalEquality where
  eq : String → String → Bool
  refl : ∀ a, eq a a = true
  symm : ∀ {a b}, eq a b = true → eq b a = true
  trans : ∀ {a b c}, eq a b = true → eq b c = true → eq a c = true

/-- The finest such relation; on ASCII text it is Swift's own. -/
def CanonicalEquality.bytes : CanonicalEquality where
  eq a b := decide (a = b)
  refl := by simp
  symm h := by simpa using (of_decide_eq_true h).symm
  trans h k := by simpa using (of_decide_eq_true h).trans (of_decide_eq_true k)

structure Pasteboard where
  changeCount : Nat
  string : Option String
deriving DecidableEq, Repr

/-- `clearContents` raises the change count, `setString` then fills the pasteboard. -/
def Pasteboard.setString (p : Pasteboard) (text : String) : Pasteboard where
  changeCount := p.changeCount + 1
  string := some text

structure GuestClipboardSynchronizer where
  lastPasteboardChangeCount : Nat
  loopGuard : ClipboardLoopGuard := {}
  pendingHostText : Option String := none
  pendingHostWriteAttempts : Nat := 0
deriving DecidableEq, Repr

/-- The host side of a session: pasteboard, synchroniser and the notices shown so far. -/
structure Host where
  pasteboard : Pasteboard
  synchronizer : GuestClipboardSynchronizer
  notices : List String := []
deriving DecidableEq, Repr

/-- `start`: everything remembered is forgotten and the pasteboard counts as seen. -/
def start (pasteboard : Pasteboard) : Host where
  pasteboard := pasteboard
  synchronizer := { lastPasteboardChangeCount := pasteboard.changeCount }

/-- Where a round stands: over, or waiting for the reply to a request. -/
inductive Suspension
  | finished
  | writeClipboard (text : String)
  | readClipboard
deriving DecidableEq, Repr

/-- The request a round goes on to once the pasteboard has been looked at. -/
def nextRequest (s : GuestClipboardSynchronizer) : Suspension :=
  match s.pendingHostText with
  | some text => .writeClipboard text
  | none => .readClipboard

/-- `synchronize` up to its first suspension. -/
def synchronize (h : Host) : Host × Suspension :=
  if h.pasteboard.changeCount = h.synchronizer.lastPasteboardChangeCount then
    (h, nextRequest h.synchronizer)
  else
    let s := { h.synchronizer with
      lastPasteboardChangeCount := h.pasteboard.changeCount
      pendingHostText := none
      pendingHostWriteAttempts := 0 }
    match h.pasteboard.string with
    | none => ({ h with synchronizer := s }, nextRequest s)
    | some text =>
      if text.utf8ByteSize ≤ maximumClipboardSize then
        let s := if s.loopGuard.canSendToGuest text then { s with pendingHostText := some text }
          else s
        ({ h with synchronizer := s }, nextRequest s)
      else
        ({ h with
            synchronizer := s
            notices := h.notices ++ ["Clipboard sync skipped because the text exceeds 1 MiB."] },
          .finished)

/-- A refused or failed write is tried three times before the text is given up. -/
def countFailedWrite (h : Host) (notice : String) : Host × Suspension :=
  let attempts := h.synchronizer.pendingHostWriteAttempts + 1
  let h := { h with notices := h.notices ++ [notice] }
  if attempts < 3 then
    ({ h with synchronizer := { h.synchronizer with pendingHostWriteAttempts := attempts } },
      .finished)
  else
    ({ h with synchronizer := { h.synchronizer with
        pendingHostText := none, pendingHostWriteAttempts := 0 } }, .readClipboard)

/-- The round after the reply to `writeClipboard`; `none` is a request that threw. -/
def afterWrite (h : Host) (text : String) : Option GuestAgentResponse → Host × Suspension
  | some .accepted =>
    ({ h with synchronizer := { h.synchronizer with
        loopGuard := h.synchronizer.loopGuard.markSentToGuest text
        pendingHostText := none
        pendingHostWriteAttempts := 0 } }, .readClipboard)
  | some _ => countFailedWrite h "Guest Tools rejected the host clipboard text."
  | none => countFailedWrite h "Clipboard text could not be sent to the guest."

/-- The round after the reply to `readClipboard`; `none` is a request that threw. -/
def afterRead (canonical : CanonicalEquality) (h : Host) : Option GuestAgentResponse → Host
  | none => { h with notices := h.notices ++ ["Guest clipboard text could not be read."] }
  | some (.clipboard text) =>
    if text.utf8ByteSize ≤ maximumClipboardSize then
      let (apply, loopGuard) := h.synchronizer.loopGuard.shouldApplyFromGuest text
      let h := { h with synchronizer := { h.synchronizer with loopGuard := loopGuard } }
      if apply && !(h.pasteboard.string.any (canonical.eq text)) then
        let pasteboard := h.pasteboard.setString text
        { h with
          pasteboard := pasteboard
          synchronizer := { h.synchronizer with
            lastPasteboardChangeCount := pasteboard.changeCount } }
      else h
    else h
  | some _ => h

end SimpleVM.Clipboard
