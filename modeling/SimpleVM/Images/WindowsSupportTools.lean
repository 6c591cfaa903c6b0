import SimpleVM.Images.WindowsSupportMedia

/-!
# The Windows support medium

`WindowsSupportToolsManager.prepare` and the two files it keeps in its directory: the source image
it downloads and the safe medium it builds from it. The manager is an actor that other calls enter
while one waits for its download or its build, and builds run beside it.
-/
namespace SimpleVM.Images

namespace WindowsSupportToolsDescriptor

def sourceSizeBytes : Int := 139229184
def sourceSHA256 : String := "6090ac5b7c01c320ba860fea2c5697a86c9406504acf8183db3eea533bb5224a"

end WindowsSupportToolsDescriptor

/-- What the manager gets from outside. -/
structure SupportEnvironment (Content Medium : Type) extends SupportMediaSystem Content Medium where
  size : Content → Int
  /-- `FileSHA256.digest(of:)` -/
  digest : Content → String

/-- A medium, the source it was built from and the call that built it, if it was one of these. -/
structure SupportMedium (Content Medium : Type) where
  medium : Medium
  source : Content
  builder : Option Nat := none
deriving DecidableEq, Repr

/-- Where a call of `prepare` stands when it is not on the actor. -/
inductive PrepareStage (Content Medium : Type)
  | downloading
  /-- The download is over; the call waits for the actor. -/
  | downloaded
  /-- The detached task has begun. -/
  | building
  /-- The medium is complete in the work directory. -/
  | built (file : SupportMedium Content Medium)
  /-- Whether there was a medium already has been asked. -/
  | installing (file : SupportMedium Content Medium) (occupied : Bool)
  /-- The detached task is over; the call waits for the actor. -/
  | installed
  /-- The call has returned the URL, with what stood there then. -/
  | returned (found : Option (SupportMedium Content Medium))
  | failed (error : WindowsSupportToolsError)
deriving DecidableEq, Repr

structure SupportDirectory (Content Medium : Type) where
  source : Option Content := none
  safe : Option (SupportMedium Content Medium) := none
  /-- The calls of `prepare`, the first one first. -/
  calls : List (PrepareStage Content Medium) := []
deriving DecidableEq, Repr

inductive PrepareStep (Content : Type)
  /-- Another call runs up to its first `await`. -/
  | prepare
  /-- The download of a call puts its file in place. -/
  | deliver (call : Nat) (content : Content)
  /-- A call goes on after its download. -/
  | resume (call : Nat)
  | build (call : Nat)
  | check (call : Nat)
  | install (call : Nat)
  /-- A call goes on after its build. -/
  | finish (call : Nat)
deriving DecidableEq, Repr

variable {Content Medium : Type}

/-- `isExpectedSource` -/
def SupportEnvironment.isExpectedSource (env : SupportEnvironment Content Medium)
    (content : Content) : Bool :=
  env.size content = WindowsSupportToolsDescriptor.sourceSizeBytes &&
    env.digest content = WindowsSupportToolsDescriptor.sourceSHA256

namespace SupportDirectory

variable (env : SupportEnvironment Content Medium)

/-- A source that is not the expected one goes, and the medium with it. -/
def discardUnexpected (s : SupportDirectory Content Medium) : SupportDirectory Content Medium :=
  match s.source with
  | none => s
  | some content =>
    if env.isExpectedSource content then s else { s with source := none, safe := none }

/-- The end of `prepare`, with the source in place. -/
def lookForMedium (s : SupportDirectory Content Medium) : PrepareStage Content Medium :=
  match s.safe with
  | some file => .returned (some file)
  | none => .building

def set (s : SupportDirectory Content Medium) (call : Nat)
    (stage : PrepareStage Content Medium) : SupportDirectory Content Medium :=
  { s with calls := s.calls.set call stage }

/-- `prepare` up to its first `await`, or to its end. -/
def enter (s : SupportDirectory Content Medium) : SupportDirectory Content Medium :=
  let s := s.discardUnexpected env
  let stage := if s.source.isNone then .downloading else s.lookForMedium
  { s with calls := s.calls ++ [stage] }

/-- The download client verifies the file before it takes the place of another one. -/
def deliver (s : SupportDirectory Content Medium) (call : Nat) (content : Content) :
    SupportDirectory Content Medium :=
  if env.digest content = WindowsSupportToolsDescriptor.sourceSHA256 then
    { s with source := some content }.set call .downloaded
  else s.set call (.failed (.other "The downloaded image failed checksum verification."))

/-- A build is over. -/
def recordBuild (s : SupportDirectory Content Medium) (call : Nat) (content : Content) :
    Except WindowsSupportToolsError Medium → SupportDirectory Content Medium
  | .ok medium => s.set call (.built ⟨medium, content, some call⟩)
  | .error error => s.set call (.failed error)

/-- `WindowsSupportMediaBuilder.build` up to the complete `support.iso`. -/
def buildMedium (s : SupportDirectory Content Medium) (call : Nat) :
    SupportDirectory Content Medium :=
  match s.source with
  | none => s.set call (.failed (.commandFailed "hdiutil exited with an error."))
  | some content => s.recordBuild call content (env.build content)

/-- `replaceItemAt` needs a medium to replace, `moveItem` needs none to be there. -/
def installMedium (s : SupportDirectory Content Medium) (call : Nat)
    (file : SupportMedium Content Medium) (occupied : Bool) : SupportDirectory Content Medium :=
  if s.safe.isSome = occupied then { s with safe := some file }.set call .installed
  else s.set call (.failed (.other "The file could not be moved."))

def step (s : SupportDirectory Content Medium) :
    PrepareStep Content → Option (SupportDirectory Content Medium)
  | .prepare => some (s.enter env)
  | .deliver call content =>
    match s.calls[call]? with
    | some .downloading => some (s.deliver env call content)
    | _ => none
  | .resume call =>
    match s.calls[call]? with
    | some .downloaded => some (s.set call s.lookForMedium)
    | _ => none
  | .build call =>
    match s.calls[call]? with
    | some .building => some (s.buildMedium env call)
    | _ => none
  | .check call =>
    match s.calls[call]? with
    | some (.built file) => some (s.set call (.installing file s.safe.isSome))
    | _ => none
  | .install call =>
    match s.calls[call]? with
    | some (.installing file occupied) => some (s.installMedium call file occupied)
    | _ => none
  | .finish call =>
    match s.calls[call]? with
    | some .installed => some (s.set call (.returned s.safe))
    | _ => none

variable {env} {s : SupportDirectory Content Medium} {call : Nat} {content : Content}
  {medium : Medium}

theorem buildMedium_eq (source : s.source = some content) :
    s.buildMedium env call = s.recordBuild call content (env.build content) := by
  rw [buildMedium, source]

theorem step_build (here : s.calls[call]? = some .building) (source : s.source = some content)
    (built : env.build content = .ok medium) :
    s.step env (.build call) = some (s.set call (.built ⟨medium, content, some call⟩)) := by
  have stepped : s.step env (.build call) = some (s.buildMedium env call) := by rw [step, here]
  rw [stepped, buildMedium_eq source, built]
  rfl

end SupportDirectory

end SimpleVM.Images
