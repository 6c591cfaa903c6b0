import SimpleVM.Domain.Machine
import SimpleVM.Text.ChunkedSearch

/-!
# The architecture of an installer image

`ISOArchitectureDetector` looks for the two boot markers in a file that it reads chunk by chunk.
How many bytes each read hands out is up to the file.
-/
namespace SimpleVM.Images

open Domain Text

inductive ISOArchitectureDetection
  | architecture (architecture : GuestArchitecture)
  | ambiguous
  | unknown
deriving DecidableEq, Repr

/-- A file that is read from front to back. -/
structure FileHandle (ε : Type) where
  unread : List UInt8
  reads : Nat := 0
  /-- What each read hands out at most; a read before the end hands out something. -/
  available : Nat → Nat
  /-- The error of each read that fails. -/
  failure : Nat → Option ε := fun _ => none

namespace FileHandle

variable {ε : Type}

/-- `read(upToCount:)`; nothing at the end of the file. -/
def read (handle : FileHandle ε) (count : Nat) : Except ε (List UInt8 × FileHandle ε) :=
  match handle.failure handle.reads with
  | some error => .error error
  | none =>
    let size := min count (max 1 (handle.available handle.reads))
    .ok (handle.unread.take size,
      { handle with unread := handle.unread.drop size, reads := handle.reads + 1 })

/-- What has been handed out is no longer there. -/
theorem read_eq_ok {handle next : FileHandle ε} {count : Nat} {chunk : List UInt8}
    (ran : handle.read count = .ok (chunk, next)) :
    chunk ++ next.unread = handle.unread ∧ next.failure = handle.failure ∧
      (chunk = [] → 1 ≤ count → handle.unread = []) := by
  unfold read at ran
  split at ran
  · cases ran
  · cases ran
    refine ⟨List.take_append_drop _ _, rfl, fun empty positive => ?_⟩
    rcases List.take_eq_nil_iff.mp empty with nothing | ended
    · omega
    · exact ended

theorem read_smaller {handle next : FileHandle ε} {count : Nat} {chunk : List UInt8}
    (ran : handle.read count = .ok (chunk, next)) (nonempty : chunk ≠ []) :
    next.unread.length < handle.unread.length := by
  have whole := congrArg List.length (read_eq_ok ran).1
  have positive := List.length_pos_iff.mpr nonempty
  rw [List.length_append] at whole
  omega

end FileHandle

namespace ISOArchitectureDetector

/-- "BOOTAA64.EFI" -/
def arm64Marker : List UInt8 :=
  [0x42, 0x4f, 0x4f, 0x54, 0x41, 0x41, 0x36, 0x34, 0x2e, 0x45, 0x46, 0x49]

/-- "BOOTX64.EFI" -/
def x86Marker : List UInt8 :=
  [0x42, 0x4f, 0x4f, 0x54, 0x58, 0x36, 0x34, 0x2e, 0x45, 0x46, 0x49]

def overlapSize : Nat := max arm64Marker.length x86Marker.length - 1

/-- The `switch` over what has been found. -/
def detection : Bool → Bool → ISOArchitectureDetection
  | true, false => .architecture .arm64
  | false, true => .architecture .x86_64
  | true, true => .ambiguous
  | false, false => .unknown

variable {ε : Type}

/-- The loop, with its three variables. -/
def search (chunkSize : Nat) (handle : FileHandle ε) (overlap : List UInt8)
    (foundARM64 foundX86 : Bool) : Except ε ISOArchitectureDetection :=
  match _ran : handle.read chunkSize with
  | .error error => .error error
  | .ok (chunk, next) =>
    if _nonempty : chunk ≠ [] then
      let searchable := overlap ++ chunk
      let foundARM64 := foundARM64 || occurs arm64Marker searchable
      let foundX86 := foundX86 || occurs x86Marker searchable
      if foundARM64 && foundX86 then .ok .ambiguous
      else search chunkSize next (lastItems overlapSize searchable) foundARM64 foundX86
    else .ok (detection foundARM64 foundX86)
termination_by handle.unread.length
decreasing_by exact FileHandle.read_smaller _ran _nonempty

/-- `opened` is what `FileHandle(forReadingFrom:)` gives. -/
def detect (opened : Except ε (FileHandle ε)) (chunkSize : Nat) :
    Except ε ISOArchitectureDetection := do
  let handle ← opened
  search chunkSize handle [] false false

section Whole

/-- What a search of the whole content gives. -/
def detectWhole (content : List UInt8) : ISOArchitectureDetection :=
  if occurs arm64Marker content ∧ occurs x86Marker content then .ambiguous
  else if occurs arm64Marker content then .architecture .arm64
  else if occurs x86Marker content then .architecture .x86_64
  else .unknown

theorem detectWhole_eq (content : List UInt8) :
    detectWhole content = detection (occurs arm64Marker content) (occurs x86Marker content) := by
  unfold detectWhole
  cases occurs arm64Marker content <;> cases occurs x86Marker content <;> rfl

/-- **Invariant** of the loop: both markers have been looked for in all that was read, and its end
is carried on. -/
structure Searched (content overlap : List UInt8) (foundARM64 foundX86 : Bool) : Prop where
  overlap : overlap = lastItems overlapSize content
  arm64 : foundARM64 = occurs arm64Marker content
  x86 : foundX86 = occurs x86Marker content

variable {content overlap chunk : List UInt8} {foundARM64 foundX86 : Bool}

theorem Searched.start : Searched [] [] false false := ⟨rfl, rfl, rfl⟩

/-- A marker no longer than the overlap and one byte more is found as soon as it has arrived. -/
theorem found_append {marker : List UInt8} (short : marker.length ≤ overlapSize + 1) :
    (occurs marker content || occurs marker (lastItems overlapSize content ++ chunk)) =
      occurs marker (content ++ chunk) := by
  apply Bool.eq_iff_iff.mpr
  rw [Bool.or_eq_true, occurs_iff, occurs_iff, occurs_iff]
  exact (infix_append_iff short).symm

/-- One round of the loop. -/
theorem Searched.append (searched : Searched content overlap foundARM64 foundX86)
    (chunk : List UInt8) :
    Searched (content ++ chunk) (lastItems overlapSize (overlap ++ chunk))
      (foundARM64 || occurs arm64Marker (overlap ++ chunk))
      (foundX86 || occurs x86Marker (overlap ++ chunk)) where
  overlap := by
    rw [searched.overlap]
    exact lastItems_append overlapSize content chunk
  arm64 := by
    rw [searched.overlap, searched.arm64]
    exact found_append (by decide)
  x86 := by
    rw [searched.overlap, searched.x86]
    exact found_append (by decide)

/-- What has been found stays found, whatever follows. -/
theorem occurs_append {marker : List UInt8} (more : List UInt8)
    (found : occurs marker content = true) : occurs marker (content ++ more) = true := by
  rw [occurs_iff] at found ⊢
  exact found.trans (List.prefix_append content more).isInfix

/-- **Run lemma**, by induction on what is left to read: the loop ends with an error of a read, or
with what the whole content gives. -/
theorem search_eq (chunkSize : Nat) (positive : 1 ≤ chunkSize) (handle : FileHandle ε)
    (searched : Searched content overlap foundARM64 foundX86) :
    search chunkSize handle overlap foundARM64 foundX86 =
        .ok (detectWhole (content ++ handle.unread)) ∨
      ∃ n error, handle.failure n = some error ∧
        search chunkSize handle overlap foundARM64 foundX86 = .error error := by
  fun_induction search chunkSize handle overlap foundARM64 foundX86 generalizing content with
  | case1 handle overlap foundARM64 foundX86 error ran =>
    refine .inr ⟨handle.reads, error, ?_, rfl⟩
    unfold FileHandle.read at ran
    split at ran
    · next failed =>
      cases ran
      exact failed
    · cases ran
  | case2 handle overlap foundARM64 foundX86 chunk next ran nonempty searchable arm64 x86 =>
    rename_i both
    -- Both markers have been found, so what is left unread does not matter.
    obtain ⟨whole, -, -⟩ := FileHandle.read_eq_ok ran
    have round := searched.append chunk
    rw [Bool.and_eq_true] at both
    refine .inl ?_
    rw [detectWhole_eq, ← whole, ← List.append_assoc, occurs_append next.unread (round.arm64.symm.trans both.1),
      occurs_append next.unread (round.x86.symm.trans both.2)]
    rfl
  | case3 handle overlap foundARM64 foundX86 chunk next ran nonempty searchable arm64 x86 both =>
    rename_i ih
    obtain ⟨whole, same, -⟩ := FileHandle.read_eq_ok ran
    have rest := ih (searched.append chunk)
    rwa [List.append_assoc, whole, same] at rest
  | case4 handle overlap foundARM64 foundX86 chunk next ran empty =>
    obtain ⟨-, -, ended⟩ := FileHandle.read_eq_ok ran
    refine .inl ?_
    rw [detectWhole_eq, ended (Decidable.not_not.mp empty) positive, List.append_nil, searched.arm64, searched.x86]

end Whole

/-- **Chunks do not matter.** Whatever the chunk size and however much each read hands out, the
detector finds what a search of the whole file finds; only an error of the file can come instead. -/
theorem detect_eq_detectWhole (handle : FileHandle ε) (chunkSize : Nat)
    (positive : 1 ≤ chunkSize) :
    ((∀ n, handle.failure n = none) →
        detect (.ok handle) chunkSize = .ok (detectWhole handle.unread)) ∧
      ∀ detected, detect (.ok handle) chunkSize = .ok detected →
        detected = detectWhole handle.unread := by
  have whole := search_eq chunkSize positive handle .start
  rw [List.nil_append] at whole
  have ran : detect (.ok handle) chunkSize = search chunkSize handle [] false false := rfl
  rw [ran]
  constructor
  · intro reads
    rcases whole with found | ⟨n, error, failed, -⟩
    · exact found
    · rw [reads n] at failed
      cases failed
  · intro detected result
    rcases whole with found | ⟨n, error, -, failed⟩
    · rw [found] at result
      cases result
      rfl
    · rw [failed] at result
      cases result

/-- A file that hands out one byte at a time. -/
theorem detect_byte_by_byte :
    detect (.ok (⟨[0, 0] ++ x86Marker, 0, fun _ => 1, fun _ => none⟩ : FileHandle Unit)) 7 =
      .ok (.architecture .x86_64) := by
  have found := (detect_eq_detectWhole
    (⟨[0, 0] ++ x86Marker, 0, fun _ => 1, fun _ => none⟩ : FileHandle Unit) 7 (by decide)).1 fun _ => rfl
  rw [found]
  have only : detectWhole ([0, 0] ++ x86Marker) = .architecture .x86_64 := by decide +kernel
  exact congrArg Except.ok only

end ISOArchitectureDetector

end SimpleVM.Images
