/-!
# The image download client

`ImageDownloadClient`: the table of contexts, the delegate's callbacks and the files they move.
Callbacks come one at a time; each is cut at its file operations, any of which may throw. Calls of
`download` begin at any moment. A file remembers the call that put it where it is.
-/
namespace SimpleVM.Images

inductive ImageDownloadError
  | invalidResponse
  | httpStatus (status : Int)
  | checksumMismatch (expected actual : String)
  | incompleteDownload
  /-- An error of `FileManager`, `FileHandle` or the session. -/
  | other (message : String)
deriving DecidableEq, Repr

def ImageDownloadError.errorDescription : ImageDownloadError → String
  | .invalidResponse => "The image server returned an invalid response."
  | .httpStatus status => "The image server returned HTTP status " ++ toString status ++ "."
  | .checksumMismatch _ _ => "The downloaded image failed checksum verification."
  | .incompleteDownload => "The image download did not produce a file."
  | .other message => message

/-- What a call of `download` asks for; the digest is in lower case. -/
structure Request where
  destinationURL : String
  expectedSHA256 : String
deriving DecidableEq, Repr

structure Context extends Request where
  receivedFile : Bool := false
deriving DecidableEq, Repr

/-- `destinationURL.appendingPathExtension("partial")`. -/
def partialURL (destinationURL : String) : String := destinationURL ++ ".partial"

inductive Response
  | notHTTP
  | http (statusCode : Int)
deriving DecidableEq, Repr

/-- A file, and the task that put it there, if it was the client. -/
structure StoredFile (Content : Type) where
  content : Content
  writer : Option Nat := none
deriving DecidableEq, Repr

/-- What `didFinishDownloadingTo` does next. -/
inductive Stage (Content : Type)
  | creatingDirectory (location : Content)
  | removingPartial (location : Content)
  | movingToPartial (location : Content)
  | hashing
  | rejecting (actual : String)
  | removingDestination
  | movingToDestination
  | finishing (result : Except ImageDownloadError String)
deriving Repr

structure Callback (Content : Type) where
  task : Nat
  context : Context
  stage : Stage Content
deriving Repr

/-- A continuation was resumed, with what was found then where it says the file is. -/
structure Outcome (Content : Type) where
  task : Nat
  result : Except ImageDownloadError String
  found : Option Content
deriving Repr

structure Client (Content : Type) where
  nextTask : Nat := 0
  contexts : Nat → Option Context := fun _ => none
  files : String → Option (StoredFile Content) := fun _ => none
  delegate : Option (Callback Content) := none
  /-- What each call asked for. -/
  requests : Nat → Option Request := fun _ => none
  completed : List Nat := []
  resumed : List (Outcome Content) := []

inductive DownloadEvent (Content : Type)
  | download (destinationURL expectedSHA256 : String)
  | writesData (task : Nat)
  | finishesDownloading (task : Nat) (location : Content) (response : Response)
  /-- The callback goes on to its next file operation, which throws `failure`, if any. -/
  | proceeds (failure : Option String)
  | completes (task : Nat) (error : Option String)
deriving DecidableEq, Repr

variable {Content : Type}

namespace Client

def setContext (s : Client Content) (task : Nat) (context : Option Context) : Client Content :=
  { s with contexts := fun other => if other = task then context else s.contexts other }

def setFile (s : Client Content) (path : String) (file : Option (StoredFile Content)) :
    Client Content :=
  { s with files := fun other => if other = path then file else s.files other }

/-- What stands where a result says. -/
def found (s : Client Content) : Except ImageDownloadError String → Option Content
  | .ok url => (s.files url).map StoredFile.content
  | .error _ => none

/-- `finish`: a context is taken out of the table, and then its continuation resumed. -/
def finish (s : Client Content) (task : Nat) (result : Except ImageDownloadError String) :
    Client Content :=
  match s.contexts task with
  | none => s
  | some _ =>
    { s.setContext task none with resumed := ⟨task, result, s.found result⟩ :: s.resumed }

def goTo (s : Client Content) (callback : Callback Content) (stage : Stage Content) :
    Client Content :=
  { s with delegate := some { callback with stage := stage } }

/-- The catch block. -/
def fail (s : Client Content) (callback : Callback Content) (message : String) : Client Content :=
  s.goTo callback (.finishing (.error (.other message)))

/-- The first stage, by the checks of the response. -/
def received (location : Content) : Response → Stage Content
  | .notHTTP => .finishing (.error .invalidResponse)
  | .http statusCode =>
    if 200 ≤ statusCode ∧ statusCode < 300 then .creatingDirectory location
    else .finishing (.error (.httpStatus statusCode))

/-- One step of the callback. `moveItem` and the digest of a file that is not there can only
throw. -/
def proceed (digest : Content → String) (s : Client Content) (callback : Callback Content)
    (failure : Option String) : Option (Client Content) :=
  let destination := callback.context.destinationURL
  let part := partialURL destination
  match callback.stage, failure with
  | .creatingDirectory location, none => some (s.goTo callback (.removingPartial location))
  | .creatingDirectory _, some message => some (s.fail callback message)
  | .removingPartial location, failure =>
    match s.files part, failure with
    | none, _ => some (s.goTo callback (.movingToPartial location))
    | some _, none => some ((s.setFile part none).goTo callback (.movingToPartial location))
    | some _, some message => some (s.fail callback message)
  | .movingToPartial location, none =>
    match s.files part with
    | some _ => none
    | none =>
      let context := { callback.context with receivedFile := true }
      some (((s.setFile part (some ⟨location, some callback.task⟩)).setContext callback.task
        (some context)).goTo { callback with context := context } .hashing)
  | .movingToPartial _, some message => some (s.fail callback message)
  | .hashing, none =>
    match s.files part with
    | none => none
    | some file =>
      if digest file.content = callback.context.expectedSHA256 then
        some (s.goTo callback .removingDestination)
      else some (s.goTo callback (.rejecting (digest file.content)))
  | .hashing, some message => some (s.fail callback message)
  | .rejecting actual, failure =>
    -- `try?`: the file may stay.
    let s := if failure = none then s.setFile part none else s
    some (s.goTo callback
      (.finishing (.error (.checksumMismatch callback.context.expectedSHA256 actual))))
  | .removingDestination, failure =>
    match s.files destination, failure with
    | none, _ => some (s.goTo callback .movingToDestination)
    | some _, none => some ((s.setFile destination none).goTo callback .movingToDestination)
    | some _, some message => some (s.fail callback message)
  | .movingToDestination, none =>
    match s.files part, s.files destination with
    | some file, none =>
      some (((s.setFile part none).setFile destination (some file)).goTo callback
        (.finishing (.ok destination)))
    | _, _ => none
  | .movingToDestination, some message => some (s.fail callback message)
  | .finishing result, _ => some ({ s with delegate := none }.finish callback.task result)

/-- `didCompleteWithError`. -/
def complete (s : Client Content) (task : Nat) : Option String → Client Content
  | some message => s.finish task (.error (.other message))
  | none =>
    match s.contexts task with
    | some context =>
      if context.receivedFile then s else s.finish task (.error .incompleteDownload)
    | none => s

/-- `lowercased` is that of Swift, and `digest` that of `FileSHA256`. -/
def step (lowercased : String → String) (digest : Content → String) (s : Client Content) :
    DownloadEvent Content → Option (Client Content)
  | .download destinationURL expectedSHA256 =>
    let request : Request := ⟨destinationURL, lowercased expectedSHA256⟩
    some { s.setContext s.nextTask (some { toRequest := request }) with
      nextTask := s.nextTask + 1
      requests := fun task => if task = s.nextTask then some request else s.requests task }
  | .writesData task => if s.delegate.isNone ∧ task < s.nextTask then some s else none
  | .finishesDownloading task location response =>
    if s.delegate.isNone ∧ task < s.nextTask then
      match s.contexts task with
      | none => some s
      | some context =>
        some { s with delegate := some ⟨task, context, received location response⟩ }
    else none
  | .proceeds failure =>
    match s.delegate with
    | none => none
    | some callback => s.proceed digest callback failure
  | .completes task error =>
    if s.delegate.isNone ∧ task < s.nextTask ∧ task ∉ s.completed then
      some { s.complete task error with completed := task :: s.completed }
    else none

/-- The client before its first call, with the files that are there. -/
def create (files : String → Option Content) : Client Content where
  files := fun path => (files path).map fun content => { content := content }

end Client

end SimpleVM.Images
