import SimpleVM.Images.WindowsSupportTools
import SimpleVM.Transition.Run

/-!
# Calls that prepare the same medium

Several calls may be past the look at the finished medium before one of them has installed it.
Then they all build, and a later one replaces, or fails to move, what an earlier one has returned.
As long as no call looks while another one builds, they share one medium.
-/
namespace SimpleVM.Images

open Effects Transition

variable {Content Medium : Type} (env : SupportEnvironment Content Medium)

/-- The medium is what a source with the pinned digest gives. -/
def SupportMedium.Complete (file : SupportMedium Content Medium) : Prop :=
  env.isExpectedSource file.source ∧ env.build file.source = .ok file.medium

/-- It was then made of every driver and the other files of that source. -/
theorem SupportMedium.Complete.staged {env : SupportEnvironment Content Medium}
    {file : SupportMedium Content Medium} (complete : file.Complete env) :
    env.Stageable (env.attach file.source).2 ∧ file.medium =
      (env.makehybrid (SupportMediaSystem.stagedFiles (env.attach file.source).2)).2 := by
  obtain ⟨-, -, stageable, -, made⟩ := SupportMediaSystem.build_ok_iff.mp complete.2
  exact ⟨stageable, made⟩

namespace PrepareStage

/-- The call is between its look at the medium and the installation of its own. -/
def builds : PrepareStage Content Medium → Bool
  | building | built _ | installing .. => true
  | downloading | downloaded | installed | returned _ | failed _ => false

end PrepareStage

namespace SupportDirectory

/-- The files are those that earlier runs leave: a source that is not the expected one, or
nothing but the expected source and a complete medium. -/
structure Initial (s : SupportDirectory Content Medium) : Prop where
  calls : s.calls = []
  files : (∃ content, s.source = some content ∧ env.isExpectedSource content = false) ∨
    ∀ file, s.safe = some file → file.Complete env

/-- Downloads deliver what is expected. -/
def Delivers : PrepareStep Content → Prop
  | .deliver _ content => env.isExpectedSource content = true
  | .prepare | .resume _ | .build _ | .check _ | .install _ | .finish _ => True

/-- A call that looks for the medium finds it, or no other call is building one. -/
def Unshared (s : SupportDirectory Content Medium) : PrepareStep Content → Prop
  | .prepare | .resume _ => s.safe = none → ∀ stage ∈ s.calls, stage.builds = false
  | .deliver .. | .build _ | .check _ | .install _ | .finish _ => True

/-- The call a step is about. -/
def stepCall : PrepareStep Content → Option Nat
  | .prepare => none
  | .deliver call _ | .resume call | .build call | .check call | .install call | .finish call =>
    some call

/-- A call that neither waits for its download nor has returned can go on. -/
def GoesOn (s : SupportDirectory Content Medium) : Prop :=
  ∀ (call : Nat) (stage : PrepareStage Content Medium), s.calls[call]? = some stage →
    stage = .downloading ∨ (∃ found, stage = .returned found) ∨
      ∃ l t, stepCall l = some call ∧ s.step env l = some t

/-- No call has failed, and each that has returned found a complete medium. -/
structure Prepared (s : SupportDirectory Content Medium) : Prop where
  succeeds : ∀ error, .failed error ∉ s.calls
  complete : ∀ found, .returned found ∈ s.calls → ∃ file, found = some file ∧ file.Complete env
  goesOn : s.GoesOn env

/-- A medium whose URL has been returned stays where it is. -/
def KeepsReturned (s : SupportDirectory Content Medium) (_ : PrepareStep Content)
    (t : SupportDirectory Content Medium) : Prop :=
  (∃ found, .returned found ∈ s.calls) → t.safe = s.safe

/-- What is true of a call where it stands. -/
def Well (s : SupportDirectory Content Medium) : PrepareStage Content Medium → Prop
  | .downloading => True
  | .downloaded => s.source.isSome
  | .building => s.source.isSome ∧ s.safe = none
  | .built file => file.Complete env ∧ s.safe = none
  | .installing file occupied => file.Complete env ∧ s.safe = none ∧ occupied = false
  | .installed => s.safe.isSome
  | .returned found => found = s.safe ∧ s.safe.isSome
  | .failed _ => False

/-- **Invariant** once the first call has begun: the files can be trusted, every call is well, and
at most one is building. -/
structure Shared (s : SupportDirectory Content Medium) : Prop where
  source : ∀ content, s.source = some content → env.isExpectedSource content
  safe : ∀ file, s.safe = some file → file.Complete env
  well : ∀ stage ∈ s.calls, s.Well env stage
  one : ∀ (i j : Nat) (a b : PrepareStage Content Medium), s.calls[i]? = some a →
    s.calls[j]? = some b → a.builds = true → b.builds = true → i = j

variable {env} {s t : SupportDirectory Content Medium}

/-- Another call that is well, and builds only if no other does. -/
theorem Shared.append (shared : s.Shared env) {new : PrepareStage Content Medium}
    (well : s.Well env new)
    (alone : new.builds = true → ∀ stage ∈ s.calls, stage.builds = false) :
    { s with calls := s.calls ++ [new] }.Shared env where
  source := shared.source
  safe := shared.safe
  well := by
    intro stage member
    rcases List.mem_append.mp member with other | last
    · exact shared.well stage other
    · rw [List.mem_singleton.mp last]
      exact well
  one := by
    have at_ (k : Nat) (c : PrepareStage Content Medium)
        (found : (s.calls ++ [new])[k]? = some c) :
        s.calls[k]? = some c ∨ (k = s.calls.length ∧ c = new) := by
      rw [List.getElem?_append] at found
      split at found
      · exact .inl found
      · next beyond =>
        obtain ⟨inside, same⟩ := List.getElem?_eq_some_iff.mp found
        simp only [List.length_singleton] at inside
        refine .inr ⟨by omega, ?_⟩
        rw [← same, List.getElem_singleton]
    -- Two calls that build: both old ones, or one of them the new call, which builds alone.
    intro i j a b first second buildsA buildsB
    rcases at_ i a first with oldA | ⟨rfl, rfl⟩
    · rcases at_ j b second with oldB | ⟨rfl, rfl⟩
      · exact shared.one i j a b oldA oldB buildsA buildsB
      · rw [alone buildsB a (List.mem_of_getElem? oldA)] at buildsA
        cases buildsA
    · rcases at_ j b second with oldB | ⟨rfl, -⟩
      · rw [alone buildsA b (List.mem_of_getElem? oldB)] at buildsB
        cases buildsB
      · rfl

/-- A call that moves on, and builds only if it did or no other does. -/
theorem Shared.set (shared : s.Shared env) {call : Nat} {old new : PrepareStage Content Medium}
    (here : s.calls[call]? = some old) (well : s.Well env new)
    (alone : new.builds = true →
      old.builds = true ∨ ∀ stage ∈ s.calls, stage.builds = false) :
    (s.set call new).Shared env where
  source := shared.source
  safe := shared.safe
  well := by
    intro stage member
    rcases List.mem_or_eq_of_mem_set member with other | rfl
    · exact shared.well stage other
    · exact well
  one := by
    have at_ (k : Nat) (c : PrepareStage Content Medium)
        (found : (s.calls.set call new)[k]? = some c) :
        (k = call ∧ c = new) ∨ (k ≠ call ∧ s.calls[k]? = some c) := by
      rw [List.getElem?_set] at found
      split at found
      · next same =>
        split at found
        · exact .inl ⟨same.symm, (Option.some.inj found).symm⟩
        · cases found
      · next other => exact .inr ⟨fun same => other same.symm, found⟩
    -- No other call builds beside the new stage.
    have apart (k : Nat) (c : PrepareStage Content Medium) (other : k ≠ call)
        (found : s.calls[k]? = some c) (builds : new.builds = true) : c.builds = false := by
      rcases alone builds with before | nobody
      · cases known : c.builds with
        | false => rfl
        | true => exact absurd (shared.one k call c old found here known before) other
      · exact nobody c (List.mem_of_getElem? found)
    intro i j a b first second buildsA buildsB
    rcases at_ i a first with ⟨rfl, rfl⟩ | ⟨otherA, foundA⟩
    · rcases at_ j b second with ⟨rfl, -⟩ | ⟨otherB, foundB⟩
      · rfl
      · rw [apart j b otherB foundB buildsA] at buildsB
        cases buildsB
    · rcases at_ j b second with ⟨rfl, rfl⟩ | ⟨otherB, foundB⟩
      · rw [apart i a otherA foundA buildsB] at buildsA
        cases buildsA
      · exact shared.one i j a b foundA foundB buildsA buildsB

/-- While one call builds, nothing else depends on a medium. -/
theorem Shared.others (shared : s.Shared env) {call : Nat} {old : PrepareStage Content Medium}
    (here : s.calls[call]? = some old) (builds : old.builds = true) {k : Nat}
    {stage : PrepareStage Content Medium} (other : k ≠ call) (found : s.calls[k]? = some stage) :
    stage.builds = false := by
  cases known : stage.builds with
  | false => rfl
  | true => exact absurd (shared.one k call stage old found here known builds) other

/-- The expected source stays, and the medium with it. -/
theorem Shared.discardUnexpected (shared : s.Shared env) : s.discardUnexpected env = s := by
  unfold SupportDirectory.discardUnexpected
  split
  · rfl
  · next content known => rw [if_pos (shared.source content known)]

/-- After the first look at the files they can be trusted. -/
theorem Initial.discardUnexpected (initial : s.Initial env) :
    (s.discardUnexpected env).Shared env ∧ (s.discardUnexpected env).calls = [] := by
  have empty := initial.calls
  have nobody (u : SupportDirectory Content Medium) (calls : u.calls = [])
      (source : ∀ content, u.source = some content → env.isExpectedSource content = true)
      (safe : ∀ file, u.safe = some file → file.Complete env) : u.Shared env := by
    refine ⟨source, safe, ?_, ?_⟩
    · rw [calls]
      simp
    · rw [calls]
      simp
  -- Whatever the source was before, the directory keeps it only where it is the expected one.
  unfold SupportDirectory.discardUnexpected
  split
  · next missing =>
    refine ⟨nobody s empty (by simp [missing]) ?_, empty⟩
    rcases initial.files with ⟨content, known, -⟩ | complete
    · rw [missing] at known
      cases known
    · exact complete
  · next content known =>
    by_cases expected : env.isExpectedSource content = true
    · rw [if_pos expected]
      refine ⟨nobody s empty ?_ ?_, empty⟩
      · intro other same
        rw [known] at same
        cases same
        exact expected
      · rcases initial.files with ⟨other, same, unexpected⟩ | complete
        · rw [known] at same
          cases same
          rw [expected] at unexpected
          cases unexpected
        · exact complete
    · rw [if_neg expected]
      exact ⟨nobody _ empty (by simp) (by simp), empty⟩

/-- The look at the medium, with the source in place. -/
theorem well_lookForMedium (env : SupportEnvironment Content Medium) (source : s.source.isSome = true) :
    s.Well env s.lookForMedium ∧ (s.lookForMedium.builds = true → s.safe = none) := by
  unfold lookForMedium
  cases known : s.safe with
  | none => exact ⟨⟨source, known⟩, fun _ => rfl⟩
  | some file =>
    refine ⟨⟨known.symm, by rw [known]; rfl⟩, ?_⟩
    intro builds
    cases builds

theorem Shared.enter (shared : s.Shared env)
    (unshared : s.safe = none → ∀ stage ∈ s.calls, stage.builds = false) :
    (s.enter env).Shared env ∧ (s.enter env).safe = s.safe := by
  unfold SupportDirectory.enter
  dsimp only
  rw [shared.discardUnexpected]
  refine ⟨?_, rfl⟩
  by_cases missing : s.source.isNone = true
  · rw [if_pos missing]
    exact shared.append trivial fun builds => by cases builds
  · rw [if_neg missing]
    have source : s.source.isSome = true := by
      cases known : s.source with
      | none => exact absurd (by rw [known]; rfl) missing
      | some content => rfl
    obtain ⟨well, looks⟩ := well_lookForMedium env source
    exact shared.append well fun builds => unshared (looks builds)

theorem Shared.deliver (shared : s.Shared env) {call : Nat} {content : Content}
    (here : s.calls[call]? = some .downloading) (expected : env.isExpectedSource content = true) :
    (s.deliver env call content).Shared env := by
  have digest : env.digest content = WindowsSupportToolsDescriptor.sourceSHA256 := by
    simp only [SupportEnvironment.isExpectedSource, Bool.and_eq_true, decide_eq_true_eq] at expected
    exact expected.2
  have replaced : ({ s with source := some content } : SupportDirectory Content Medium).Shared
      env := by
    refine ⟨?_, shared.safe, ?_, shared.one⟩
    · intro other same
      cases same
      exact expected
    · intro stage member
      have well := shared.well stage member
      cases stage with
      | downloading => trivial
      | downloaded => rfl
      | building => exact ⟨rfl, well.2⟩
      | built file => exact well
      | installing file occupied => exact well
      | installed => exact well
      | returned found => exact well
      | failed error => exact well
  unfold SupportDirectory.deliver
  rw [if_pos digest]
  exact replaced.set here rfl fun builds => by cases builds

/-- A medium may come into place while no call builds. -/
theorem Shared.settle (shared : s.Shared env) (empty : s.safe = none)
    (nobody : ∀ stage ∈ s.calls, stage.builds = false) {file : SupportMedium Content Medium}
    (complete : file.Complete env) : { s with safe := some file }.Shared env where
  source := shared.source
  safe := by
    intro other same
    cases same
    exact complete
  well := by
    intro stage member
    have well := shared.well stage member
    have idle := nobody stage member
    cases stage with
    | downloading => trivial
    | downloaded => exact well
    | building => cases idle
    | built file => cases idle
    | installing file occupied => cases idle
    | installed => rfl
    | returned found =>
      have present := well.2
      rw [empty] at present
      cases present
    | failed error => exact well
  one := shared.one

theorem Shared.install (shared : s.Shared env) {call : Nat}
    {file : SupportMedium Content Medium} {occupied : Bool}
    (here : s.calls[call]? = some (.installing file occupied)) :
    (s.installMedium call file occupied).Shared env := by
  obtain ⟨complete, empty, free⟩ := shared.well _ (List.mem_of_getElem? here)
  unfold installMedium
  rw [if_pos (by rw [empty, free]; rfl)]
  -- The call stops building, then its medium is there, then the call says so.
  have stopped : (s.set call .downloading).Shared env :=
    shared.set here trivial fun builds => by cases builds
  have now : (s.set call .downloading).calls[call]? = some .downloading := by
    obtain ⟨inside, -⟩ := List.getElem?_eq_some_iff.mp here
    simp [SupportDirectory.set, inside]
  have nobody : ∀ stage ∈ (s.set call .downloading).calls, stage.builds = false := by
    intro stage member
    obtain ⟨k, found⟩ := List.mem_iff_getElem?.mp member
    by_cases same : k = call
    · subst same
      rw [now] at found
      cases found
      rfl
    · rw [SupportDirectory.set, List.getElem?_set_ne fun other => same other.symm] at found
      exact shared.others here rfl same found
  have settled := (stopped.settle empty nobody complete).set now
    (show Well env _ .installed from rfl) fun builds => by cases builds
  simpa [SupportDirectory.set, List.set_set] using settled

theorem Shared.build (shared : s.Shared env) {call : Nat}
    (builds : ∀ content, env.isExpectedSource content = true →
      ∃ medium, env.build content = .ok medium)
    (here : s.calls[call]? = some .building) : (s.buildMedium env call).Shared env := by
  obtain ⟨source, empty⟩ := shared.well _ (List.mem_of_getElem? here)
  cases known : s.source with
  | none =>
    rw [known] at source
    cases source
  | some content =>
    have expected := shared.source content known
    obtain ⟨medium, built⟩ := builds content expected
    rw [buildMedium_eq known, built]
    exact shared.set here ⟨⟨expected, built⟩, empty⟩ fun _ => .inl rfl

/-- What a guarded step may rely on. -/
def Guard (env : SupportEnvironment Content Medium) (s : SupportDirectory Content Medium)
    (l : PrepareStep Content) : Prop := Delivers env l ∧ s.Unshared l

/-- **Step lemma.** -/
theorem Shared.step (builds : ∀ content, env.isExpectedSource content = true →
      ∃ medium, env.build content = .ok medium)
    (shared : s.Shared env) {l : PrepareStep Content} (guard : Guard env s l)
    (taken : s.step env l = some t) :
    t.Shared env ∧ ((∃ found, .returned found ∈ s.calls) → t.safe = s.safe) := by
  obtain ⟨delivers, unshared⟩ := guard
  cases l with
  | prepare =>
    cases taken
    obtain ⟨shared', same⟩ := shared.enter unshared
    exact ⟨shared', fun _ => same⟩
  | deliver call content =>
    simp only [SupportDirectory.step] at taken
    split at taken
    · next here =>
      cases taken
      refine ⟨shared.deliver here delivers, fun _ => ?_⟩
      unfold SupportDirectory.deliver
      split <;> rfl
    · cases taken
  | resume call =>
    simp only [SupportDirectory.step] at taken
    split at taken
    · next here =>
      cases taken
      have source := shared.well _ (List.mem_of_getElem? here)
      obtain ⟨well, looks⟩ := well_lookForMedium env source
      exact ⟨shared.set here well fun new => .inr (unshared (looks new)), fun _ => rfl⟩
    · cases taken
  | build call =>
    simp only [SupportDirectory.step] at taken
    split at taken
    · next here =>
      cases taken
      refine ⟨shared.build builds here, fun _ => ?_⟩
      cases known : s.source with
      | none =>
        have source := (shared.well _ (List.mem_of_getElem? here)).1
        rw [known] at source
        cases source
      | some content =>
        obtain ⟨medium, built⟩ := builds content (shared.source content known)
        rw [buildMedium_eq known, built]
        rfl
    · cases taken
  | check call =>
    simp only [SupportDirectory.step] at taken
    split at taken
    · next file here =>
      cases taken
      obtain ⟨complete, empty⟩ := shared.well _ (List.mem_of_getElem? here)
      refine ⟨shared.set here ⟨complete, empty, by rw [empty]; rfl⟩ fun _ => .inl rfl, fun _ => rfl⟩
    · cases taken
  | install call =>
    simp only [SupportDirectory.step] at taken
    split at taken
    · next file occupied here =>
      cases taken
      refine ⟨shared.install here, ?_⟩
      rintro ⟨found, returned⟩
      -- Nothing has been returned while there is no medium.
      have present := (shared.well _ returned).2
      rw [(shared.well _ (List.mem_of_getElem? here)).2.1] at present
      cases present
    · cases taken
  | finish call =>
    simp only [SupportDirectory.step] at taken
    split at taken
    · next here =>
      cases taken
      have present := shared.well _ (List.mem_of_getElem? here)
      exact ⟨shared.set here ⟨rfl, present⟩ fun new => (by cases new), fun _ => rfl⟩
    · cases taken

/-- Nothing has begun, or the calls share what there is. -/
def Sound (env : SupportEnvironment Content Medium) (s : SupportDirectory Content Medium) : Prop :=
  s.Initial env ∨ s.Shared env

theorem Sound.step (builds : ∀ content, env.isExpectedSource content = true →
      ∃ medium, env.build content = .ok medium)
    (s : SupportDirectory Content Medium) (l : PrepareStep Content)
    (t : SupportDirectory Content Medium) (sound : Sound env s) (guard : Guard env s l)
    (taken : s.step env l = some t) : Sound env t ∧ KeepsReturned s l t := by
  rcases sound with initial | shared
  · have empty := initial.calls
    have nothing (call : Nat) : s.calls[call]? = none := by simp [empty]
    cases l with
    | prepare =>
      cases taken
      obtain ⟨shared, still⟩ := initial.discardUnexpected
      -- The first call finds the files as they are left by its own look at them.
      have again : (s.discardUnexpected env).enter env = s.enter env := by
        unfold enter
        rw [shared.discardUnexpected]
      have first := (shared.enter fun _ => by rw [still]; simp).1
      rw [again] at first
      refine ⟨.inr first, ?_⟩
      rintro ⟨found, returned⟩
      rw [empty] at returned
      cases returned
    | deliver call content => simp [SupportDirectory.step, nothing] at taken
    | resume call => simp [SupportDirectory.step, nothing] at taken
    | build call => simp [SupportDirectory.step, nothing] at taken
    | check call => simp [SupportDirectory.step, nothing] at taken
    | install call => simp [SupportDirectory.step, nothing] at taken
    | finish call => simp [SupportDirectory.step, nothing] at taken
  · obtain ⟨shared', keeps⟩ := shared.step builds guard taken
    exact ⟨.inr shared', keeps⟩

theorem Sound.prepared (s : SupportDirectory Content Medium) (sound : Sound env s) :
    s.Prepared env := by
  rcases sound with initial | shared
  · have empty := initial.calls
    refine ⟨?_, ?_, ?_⟩
    · rw [empty]
      simp
    · rw [empty]
      simp
    · intro call stage here
      simp [empty] at here
  · refine ⟨fun error failed => shared.well _ failed, fun found returned => ?_, ?_⟩
    · obtain ⟨same, present⟩ := shared.well _ returned
      obtain ⟨file, known⟩ := Option.isSome_iff_exists.mp present
      exact ⟨file, same.trans known, shared.safe file known⟩
    · intro call stage here
      cases stage with
      | downloading => exact .inl rfl
      | returned found => exact .inr (.inl ⟨found, rfl⟩)
      | downloaded => exact .inr (.inr ⟨.resume call, _, rfl, by simp [SupportDirectory.step, here]; rfl⟩)
      | building => exact .inr (.inr ⟨.build call, _, rfl, by simp [SupportDirectory.step, here]; rfl⟩)
      | built file => exact .inr (.inr ⟨.check call, _, rfl, by simp [SupportDirectory.step, here]; rfl⟩)
      | installing file occupied =>
        exact .inr (.inr ⟨.install call, _, rfl, by simp [SupportDirectory.step, here]; rfl⟩)
      | installed => exact .inr (.inr ⟨.finish call, _, rfl, by simp [SupportDirectory.step, here]; rfl⟩)
      | failed error => exact absurd (shared.well _ (List.mem_of_getElem? here)) id

/-- **One medium for all calls.** While every download delivers what is expected and no call looks
for the medium when another one builds it, no call fails, each that returns finds a complete
medium, and a medium that has been returned is never replaced. -/
theorem calls_share_medium (env : SupportEnvironment Content Medium)
    (builds : ∀ content, env.isExpectedSource content = true →
      ∃ medium, env.build content = .ok medium)
    (s : SupportDirectory Content Medium) (ls : List (PrepareStep Content))
    (initial : s.Initial env) (meets : Meets (step env) (Guard env) s ls) :
    Always (step env) (Prepared env) s ls ∧ Along (step env) KeepsReturned s ls := by
  refine ⟨?_, ?_⟩
  · exact always_of_meets (V := fun _ => True)
      (fun s l t sound _ guard taken => (Sound.step builds s l t sound guard taken).1)
      Sound.prepared s ls (.inl initial) (fun _ _ => trivial) meets
  · exact along_of_meets (fun s l t sound guard taken => (Sound.step builds s l t sound guard taken).1)
      (fun s l t sound guard taken => (Sound.step builds s l t sound guard taken).2) s ls
      (.inl initial) meets

/-- An image with a package for every driver. -/
def pinnedImage : FileTree :=
  (WindowsSupportMediaManifest.driverNames.flatMap fun driverName =>
    let path := SupportMediaSystem.driverPath driverName
    (path, .directory) :: ["driver.cat", "driver.inf", "driver.sys"].map fun fileName =>
      (path ++ [fileName], .file [])) ++
  SupportMediaSystem.payloadNames.map fun fileName => ([fileName], .file [])

/-- One content, which is the expected one, and one medium. -/
def pinned : SupportEnvironment Unit Unit where
  pathExtension fileName := String.ofList (fileName.toList.drop 7)
  failure _ := none
  attach _ := (.exited 0 "", pinnedImage)
  makehybrid _ := (.exited 0 "", ())
  size _ := WindowsSupportToolsDescriptor.sourceSizeBytes
  digest _ := WindowsSupportToolsDescriptor.sourceSHA256

theorem build_pinned : pinned.build () = .ok () := by
  have packages : ∀ driverName ∈ WindowsSupportMediaManifest.driverNames,
      (pinned.containsDriverPackage pinnedImage
        (SupportMediaSystem.driverPath driverName)).toOption = some true := by decide +kernel
  have files : ∀ fileName ∈ SupportMediaSystem.payloadNames,
      pinnedImage.fileExists [fileName] = true := by decide +kernel
  refine SupportMediaSystem.build_ok_iff.mpr ⟨rfl, rfl, ⟨rfl, ?_, ?_, rfl, rfl⟩, rfl, rfl⟩
  · exact fun driverName listed => ⟨toOption_eq_some.mp (packages driverName listed), rfl⟩
  · exact fun fileName listed => ⟨files fileName listed, rfl⟩

/-- Two calls, the second of which comes when the first has installed the medium. -/
theorem second_call_shares_medium : Always (step pinned) (Prepared pinned) {}
    [.prepare, .deliver 0 (), .resume 0, .build 0, .check 0, .install 0, .prepare] := by
  have built : step pinned ⟨some (), none, [.building]⟩ (.build 0) =
      some ⟨some (), none, [.built ⟨(), (), some 0⟩]⟩ := step_build rfl rfl build_pinned
  have meets : Meets (step pinned) (Guard pinned) {}
      [.prepare, .deliver 0 (), .resume 0, .build 0, .check 0, .install 0, .prepare] := by
    refine .next rfl ⟨trivial, fun _ stage member => by cases member⟩ ?_
    refine .next rfl ⟨rfl, trivial⟩ (.next rfl ⟨trivial, fun _ stage member => ?_⟩ ?_)
    · rw [List.mem_singleton.mp member]
      rfl
    · refine .next built ⟨trivial, trivial⟩ (.next rfl ⟨trivial, trivial⟩ ?_)
      refine .next rfl ⟨trivial, trivial⟩ (.next rfl ⟨trivial, fun empty => ?_⟩ trivial)
      cases empty
  exact (calls_share_medium pinned (fun _ _ => ⟨(), build_pinned⟩) {} _
    ⟨rfl, .inr fun file present => by cases present⟩ meets).1

/-- Both calls look before either has installed its medium: the second replaces the one that the
first has returned. -/
theorem returned_medium_replaced : ∃ s t : SupportDirectory Unit Unit,
    Run (step pinned) {} [.prepare, .prepare, .deliver 0 (), .deliver 1 (), .resume 0, .resume 1,
      .build 0, .check 0, .install 0, .finish 0, .build 1, .check 1] s ∧
    s.step pinned (.install 1) = some t ∧ ¬ KeepsReturned s (.install 1) t := by
  have first : step pinned ⟨some (), none, [.building, .building]⟩ (.build 0) =
      some ⟨some (), none, [.built ⟨(), (), some 0⟩, .building]⟩ :=
    step_build rfl rfl build_pinned
  have second : step pinned
      ⟨some (), some ⟨(), (), some 0⟩, [.returned (some ⟨(), (), some 0⟩), .building]⟩ (.build 1) =
      some ⟨some (), some ⟨(), (), some 0⟩,
        [.returned (some ⟨(), (), some 0⟩), .built ⟨(), (), some 1⟩]⟩ :=
    step_build rfl rfl build_pinned
  have looked : Run (step pinned) {} [.prepare, .prepare, .deliver 0 (), .deliver 1 (), .resume 0,
      .resume 1] ⟨some (), none, [.building, .building]⟩ := run_of_execute rfl
  have returned : Run (step pinned) ⟨some (), none, [.built ⟨(), (), some 0⟩, .building]⟩
      [.check 0, .install 0, .finish 0]
      ⟨some (), some ⟨(), (), some 0⟩, [.returned (some ⟨(), (), some 0⟩), .building]⟩ :=
    run_of_execute rfl
  refine ⟨_, _, looked.append (.next first (returned.append (.next second (.next rfl (.done _))))),
    rfl, fun keeps => ?_⟩
  have same := keeps ⟨some ⟨(), (), some 0⟩, .head _⟩
  revert same
  decide

end SupportDirectory

end SimpleVM.Images
