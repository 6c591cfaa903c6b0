import SimpleVM.Agent.Operations

/-!
# The mount that counts

Mounts stack: of several at one mount point, the one listed last is in effect. The status takes
the first line that it finds, and takes a line apart otherwise than the table puts it together:
Python splits at any white space of Unicode, while the table has single spaces between its fields
and escapes those within.
-/
namespace SimpleVM.Agent

open Python Text

section Format

def bytes (s : String) : List UInt8 := utf8 s.toList

/-- A mount at the mount point. -/
structure Mount where
  filesystem : List UInt8
  source : List UInt8
deriving DecidableEq, Repr

def Mount.state (mount : Mount) : MountState :=
  if mount.filesystem ∈ mountFilesystems.map bytes ∧ mount.source = bytes mountTag then .mounted
  else .occupied

end Format

variable {info : MountInfo} {outcomes : MountOutcomes} {status : MountStatus} {line : Str}

/-- The share with a file system in memory on top. -/
def covered : MountInfo := .ofText ("30 22 0:40 / /mnt/simplevm-share rw - virtiofs share rw\n" ++
  "31 30 0:41 / /mnt/simplevm-share rw - tmpfs tmpfs rw\n").toList

/-- A directory with a no-break space in its name, mounted from an image. -/
def spaced : MountInfo := .ofText
  "30 22 0:40 /a\u00a0b /mnt/simplevm-share rw - ext4 /dev/sdb1 rw\n".toList

end SimpleVM.Agent
