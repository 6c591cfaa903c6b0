import SimpleVM.Clipboard.Synchronizer
import SimpleVM.Transition.Run

/-!
# The SPICE pasteboard bridge

`SPICEPasteboardBridge` between the host pasteboard and the clipboard of the SPICE library.
The library calls `setString` and `setData` on a thread of its own, where the loop guard is
asked under the lock; the text reaches the pasteboard in a task of the main actor, which also
polls for host changes. What happens under the lock is one step.
-/
namespace SimpleVM.SPICE

open Agent (maximumClipboardSize)
open Clipboard (CanonicalEquality ClipboardLoopGuard Pasteboard)

inductive CSPasteboardType
  | url | bmp | fileURL | font | html | jpg | pdf | png | rtf | rtfd | sound | string
  | tabularText | tiff
deriving DecidableEq, Repr

structure SPICEPasteboardBridge where
  lastChangeCount : Int := -1
  cachedHostText : Option String := none
  loopGuard : ClipboardLoopGuard := {}
  lastOversizeChangeCount : Option Int := none
deriving DecidableEq, Repr

/-- What a call leaves: the bridge, the text a task is spawned for, and a notice. -/
structure Received where
  bridge : SPICEPasteboardBridge
  task : Option String := none
  notice : Option String := none
deriving DecidableEq, Repr

/-- What a poll leaves: the bridge, whether `csPasteboardChanged` is posted, and a notice. -/
structure Polled where
  bridge : SPICEPasteboardBridge
  announce : Bool := false
  notice : Option String := none
deriving DecidableEq, Repr

namespace SPICEPasteboardBridge

def string (b : SPICEPasteboardBridge) : Option String :=
  match b.cachedHostText with
  | none => none
  | some text => if b.loopGuard.canSendToGuest text then some text else none

def canReadItem (b : SPICEPasteboardBridge) (type : CSPasteboardType) : Bool :=
  match type, b.cachedHostText with
  | .string, some text => b.loopGuard.canSendToGuest text
  | _, _ => false

def data (b : SPICEPasteboardBridge) (type : CSPasteboardType) : Option ByteArray :=
  match type, b.cachedHostText with
  | .string, some text => if b.loopGuard.canSendToGuest text then some text.toUTF8 else none
  | _, _ => none

def oversizeNotice (size : Nat) : Option String :=
  if maximumClipboardSize < size then
    some "Guest clipboard sync skipped because the text exceeds 1 MiB."
  else none

def setString (b : SPICEPasteboardBridge) (text : String) : Received :=
  if text ≠ "" ∧ text.utf8ByteSize ≤ maximumClipboardSize then
    let (apply, loopGuard) := b.loopGuard.shouldApplyFromGuest text
    { bridge := { b with loopGuard := loopGuard }, task := if apply then some text else none }
  else { bridge := b, notice := oversizeNotice text.utf8ByteSize }

def setData (b : SPICEPasteboardBridge) (data : ByteArray) (type : CSPasteboardType) : Received :=
  if type = .string ∧ data.size ≤ maximumClipboardSize then
    match String.fromUTF8? data with
    | some text => if text = "" then { bridge := b } else b.setString text
    | none => { bridge := b }
  else { bridge := b, notice := oversizeNotice data.size }

def pollForHostChange (b : SPICEPasteboardBridge) (p : Pasteboard) : Polled :=
  if (p.changeCount : Int) = b.lastChangeCount then { bridge := b }
  else
    let b := { b with lastChangeCount := p.changeCount, cachedHostText := none }
    match p.string with
    | none => { bridge := b }
    | some text =>
      if text.utf8ByteSize ≤ maximumClipboardSize then
        let (announce, loopGuard) := b.loopGuard.shouldAnnounceHostChange text
        { bridge := { b with cachedHostText := some text, loopGuard := loopGuard }
          announce := announce }
      else if b.lastOversizeChangeCount = some (p.changeCount : Int) then { bridge := b }
      else
        { bridge := { b with lastOversizeChangeCount := some (p.changeCount : Int) }
          notice := some "Clipboard sync skipped because the text exceeds 1 MiB." }

/-- The task of the main actor: the text is shown unless it is there already. -/
def applyGuestString (canonical : CanonicalEquality) (p : Pasteboard)
    (b : SPICEPasteboardBridge) (text : String) : Pasteboard × SPICEPasteboardBridge :=
  let p := if p.string.any (canonical.eq text) then p else p.setString text
  (p, { b with cachedHostText := some text, lastChangeCount := p.changeCount })

end SPICEPasteboardBridge

/-- The pasteboard and the bridge, with the tasks that have not run, the text the guest last
offered or was last given, the texts it offered, and those of them announced to it later. -/
structure PasteboardSession where
  pasteboard : Pasteboard
  bridge : SPICEPasteboardBridge := {}
  tasks : List String := []
  notices : List String := []
  guest : Option String := none
  offered : List String := []
  echoes : List String := []
  /-- A poll has run since the pasteboard was last filled by the user. -/
  polled : Bool := false
deriving DecidableEq, Repr

inductive PasteboardEvent
  | setString (text : String)
  | setData (data : ByteArray) (type : CSPasteboardType)
  | run (i : Nat)
  | copy (text : String)
  | poll

namespace PasteboardSession

def opened (pasteboard : Pasteboard) : PasteboardSession where
  pasteboard := pasteboard

/-- The text a call of the library carries. -/
def carried : PasteboardEvent → Option String
  | .setString text => some text
  | .setData data .string => String.fromUTF8? data
  | _ => none

/-- After `setString` or `setData`. The task a notice is shown in does nothing else. -/
def receive (s : PasteboardSession) (text : Option String) (r : Received) : PasteboardSession :=
  { s with
    bridge := r.bridge
    tasks := s.tasks ++ r.task.toList
    notices := s.notices ++ r.notice.toList
    guest := text <|> s.guest
    offered := s.offered ++ text.toList }

/-- The library reads the host text when `csPasteboardChanged` is posted. -/
def read (b : SPICEPasteboardBridge) : Option String :=
  if b.canReadItem .string then (b.data .string).bind String.fromUTF8? else none

/-- After `pollForHostChange`. -/
def announce (s : PasteboardSession) (p : Polled) : PasteboardSession :=
  let text := if p.announce then read p.bridge else none
  { s with
    bridge := p.bridge
    notices := s.notices ++ p.notice.toList
    guest := text <|> s.guest
    echoes := s.echoes ++ text.toList.filter (· ∈ s.offered)
    polled := true }

def step (canonical : CanonicalEquality) (s : PasteboardSession) :
    PasteboardEvent → Option PasteboardSession
  | .setString text => some (s.receive (carried (.setString text)) (s.bridge.setString text))
  | .setData data type =>
    some (s.receive (carried (.setData data type)) (s.bridge.setData data type))
  | .run i =>
    match s.tasks[i]? with
    | none => none
    | some text =>
      let (pasteboard, bridge) := s.bridge.applyGuestString canonical s.pasteboard text
      some { s with pasteboard := pasteboard, bridge := bridge, tasks := s.tasks.eraseIdx i }
  | .copy text => some { s with pasteboard := s.pasteboard.setString text, polled := false }
  | .poll => some (s.announce (s.bridge.pollForHostChange s.pasteboard))

end PasteboardSession

end SimpleVM.SPICE
