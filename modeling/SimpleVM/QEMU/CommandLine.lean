import SimpleVM.QEMU.OptionRoundTrip

/-!
# What QEMU reads from the command line

All options of a guest, as they are meant and as they are read back. They agree exactly if no
raw path has a comma, the name is nonempty and has no equals sign, and the escaped texts have
their commas as characters of their own.
-/
namespace SimpleVM.QEMU

open Domain Storage Text

variable {env : BuilderEnvironment} {machine : Machine} {paths : RuntimePaths}
  {diskURL backendStateURL : String} {installerURL supportToolsURL : Option String}
  {runtime : QEMURuntime} {vncPort : UInt16} {displaySize : QEMUDisplaySize}
  {config : QEMUConfiguration}

/-- The options that are meant, with the names and paths they were made of. -/
abbrev Options := List (String × List (String × String))

def sharedOptions : Option String → Options
  | none => []
  | some path => [("-fsdev", sharedItems path)]

def displayOptions (paths : RuntimePaths) : QEMUDisplayBackend → Options
  | .vnc => []
  | .spiceGL _ => [("-spice", spiceItems "on" paths), ("-chardev", guestAgentItems)]

def cdOptions (id : String) : Option String → Options
  | none => []
  | some url => [("-drive", cdItems id url)]

def webDAVOptions : Option String → Options
  | none => []
  | some _ => [("-chardev", webDAVItems)]

def linuxOptions (machine : Machine) (diskURL : String) (installerURL : Option String)
    (runtime : QEMURuntime) (paths : RuntimePaths) : Options :=
  [("-name", [("guest", machine.name)]), ("-qmp", qmpItems paths),
    ("-chardev", serverItems "agent" paths.agentURL), ("-drive", codeItems paths),
    ("-drive", variablesItems paths), ("-drive", systemItems diskURL)] ++
  (sharedOptions machine.spec.sharedDirectoryPath ++
    (displayOptions paths runtime.displayBackend ++ cdOptions "installer" installerURL))

def windowsOptions (machine : Machine) (diskURL : String)
    (installerURL supportToolsURL : Option String) (paths : RuntimePaths) : Options :=
  [("-name", [("guest", machine.name)]), ("-qmp", qmpItems paths), ("-drive", codeItems paths),
    ("-drive", variablesItems paths), ("-chardev", tpmItems paths),
    ("-drive", systemItems diskURL), ("-chardev", serverItems "qga" paths.qgaURL),
    ("-spice", spiceItems "off" paths), ("-chardev", guestAgentItems)] ++
  (webDAVOptions machine.spec.sharedDirectoryPath ++
    (cdOptions "installer" installerURL ++
      if machine.spec.windowsSupportToolsAttached then cdOptions "support-tools" supportToolsURL
      else []))

/-- The options that `make` means. -/
def intendedOptions (env : BuilderEnvironment) (machine : Machine) (diskURL : String)
    (installerURL supportToolsURL : Option String) (backendStateURL : String)
    (runtime : QEMURuntime) : Options :=
  match preparePaths env machine backendStateURL runtime, machine.spec.operatingSystem with
  | .error _, _ => []
  | .ok paths, .linux => linuxOptions machine diskURL installerURL runtime paths
  | .ok paths, .windows => windowsOptions machine diskURL installerURL supportToolsURL paths

/-- When every name and path comes through. -/
structure Survives (env : BuilderEnvironment) (machine : Machine) (diskURL : String)
    (installerURL supportToolsURL : Option String) (backendStateURL : String) : Prop where
  name : StandsAlone env.joins machine.name.toList ∧ machine.name ≠ "" ∧
    '=' ∉ machine.name.toList
  shared : machine.spec.operatingSystem = .linux →
    ∀ path ∈ machine.spec.sharedDirectoryPath, StandsAlone env.joins path.toList
  disk : ',' ∉ diskURL.toList
  installer : ∀ url ∈ installerURL, ',' ∉ url.toList
  support : machine.spec.operatingSystem = .windows →
    machine.spec.windowsSupportToolsAttached = true → ∀ url ∈ supportToolsURL, ',' ∉ url.toList
  state : ',' ∉ backendStateURL.toList
  temporary : ',' ∉ env.temporaryDirectory.toList ∧ '=' ∉ env.temporaryDirectory.toList

theorem parsedOptions_nodefaults (rest : List String) :
    parsedOptions ("-nodefaults" :: rest) = parsedOptions rest := by
  cases rest <;> simp [parsedOptions]

theorem parsedOptions_cons {flag : String} (named : flag ≠ "-nodefaults") (value : String)
    (rest : List String) : parsedOptions (flag :: value :: rest) =
      (optionItems flag value).toList.map (fun items => (flag, items)) ++ parsedOptions rest := by
  simp [parsedOptions, named]

theorem linuxArguments_parsed (rest : List String) :
    parsedOptions (linuxArguments env machine diskURL runtime paths ++ rest) =
      ("-name", parseOptions (some "guest") (escapedName env machine.name).toList) ::
      ("-qmp", parseOptions (some "path") ((qmpSocket paths).toList.drop 5)) ::
      ("-chardev", parseOptions (some "backend") (serverSocket "agent" paths.agentURL).toList) ::
      ("-drive", parseOptions none (codeDrive paths).toList) ::
      ("-drive", parseOptions none (variablesDrive paths).toList) ::
      ("-drive", parseOptions none (systemDrive diskURL).toList) :: parsedOptions rest := by
  unfold linuxArguments
  simp only [List.cons_append, List.nil_append, parsedOptions_nodefaults, parsedOptions_cons,
    ne_eq, String.reduceEq, not_false_eq_true]
  simp [optionItems]

theorem windowsArguments_parsed (profile : QEMUHardwareProfile) (rest : List String) :
    parsedOptions (windowsArguments env machine profile diskURL paths ++ rest) =
      ("-name", parseOptions (some "guest") (escapedName env machine.name).toList) ::
      ("-qmp", parseOptions (some "path") ((qmpSocket paths).toList.drop 5)) ::
      ("-drive", parseOptions none (codeDrive paths).toList) ::
      ("-drive", parseOptions none (variablesDrive paths).toList) ::
      ("-chardev", parseOptions (some "backend")
        ("socket,id=chrtpm0,path=" ++ paths.tpmURL).toList) ::
      ("-drive", parseOptions none (systemDrive diskURL).toList) ::
      ("-chardev", parseOptions (some "backend") (serverSocket "qga" paths.qgaURL).toList) ::
      ("-spice", parseOptions none (spiceServer "off" paths).toList) ::
      ("-chardev", parseOptions (some "backend")
        "spicevmc,id=vdagent,name=vdagent".toList) :: parsedOptions rest := by
  unfold windowsArguments
  simp only [List.cons_append, List.nil_append, parsedOptions_nodefaults, parsedOptions_cons,
    ne_eq, String.reduceEq, not_false_eq_true]
  simp [optionItems]

theorem guestAgent_parsed :
    parseOptions (some "backend") "spicevmc,id=vdagent,name=vdagent".toList = guestAgentItems := by
  decide +kernel

theorem webDAV_parsed :
    parseOptions (some "backend") "spiceport,name=org.spice-space.webdav.0,id=webdav".toList =
      webDAVItems := by
  decide +kernel

theorem shared_iff (directory : Option String) {rest : List String} {others : Options} :
    parsedOptions (sharedDirectoryArguments env directory ++ rest) =
        sharedOptions directory ++ others ↔
      (∀ path ∈ directory, StandsAlone env.joins path.toList) ∧ parsedOptions rest = others := by
  cases directory with
  | none => simp [sharedDirectoryArguments, sharedOptions]
  | some path =>
    simp only [sharedDirectoryArguments, sharedOptions, List.cons_append, List.nil_append,
      parsedOptions_cons, ne_eq, String.reduceEq, not_false_eq_true]
    simp only [optionItems, String.reduceEq, if_true, if_false, Option.toList_some,
      Option.toList_none, List.map_cons, List.map_nil, List.cons_append, List.nil_append,
      List.cons.injEq, Prod.mk.injEq, true_and, escapedPath_iff]
    simp

theorem display_iff (backend : QEMUDisplayBackend) {rest : List String} {others : Options} :
    parsedOptions (linuxDisplayArguments vncPort displaySize paths backend ++ rest) =
        displayOptions paths backend ++ others ↔
      (backend ≠ .vnc → ',' ∉ paths.spiceURL.toList) ∧ parsedOptions rest = others := by
  cases backend with
  | vnc =>
    simp only [linuxDisplayArguments, displayOptions, List.cons_append, List.nil_append,
      parsedOptions_cons, ne_eq, String.reduceEq, not_false_eq_true]
    simp [optionItems]
  | spiceGL url =>
    simp only [linuxDisplayArguments, displayOptions, List.cons_append, List.nil_append,
      parsedOptions_cons, ne_eq, String.reduceEq, not_false_eq_true]
    simp only [optionItems, String.reduceEq, if_true, if_false, Option.toList_some,
      Option.toList_none, List.map_cons, List.map_nil, List.cons_append, List.nil_append,
      List.cons.injEq, Prod.mk.injEq, true_and, guestAgent_parsed,
      spiceServer_iff "on" (by decide)]
    simp

theorem linuxInstaller_iff :
    parsedOptions (linuxInstallerArguments installerURL) = cdOptions "installer" installerURL ↔
      ∀ url ∈ installerURL, ',' ∉ url.toList := by
  cases installerURL with
  | none => simp [linuxInstallerArguments, cdOptions, parsedOptions]
  | some url =>
    simp only [linuxInstallerArguments, cdOptions, parsedOptions_cons, ne_eq, String.reduceEq,
      not_false_eq_true]
    simp [optionItems, parsedOptions, cdDrive_iff "installer" (by decide)]

theorem usbCD_iff (id : String) (plain : ',' ∉ id.toList) {url : String} (bootIndex : Option Nat)
    {rest : List String} {others : Options} :
    parsedOptions (usbCDArguments id url bootIndex ++ rest) = ("-drive", cdItems id url) :: others ↔
      ',' ∉ url.toList ∧ parsedOptions rest = others := by
  simp only [usbCDArguments, List.cons_append, List.nil_append, parsedOptions_cons, ne_eq,
    String.reduceEq, not_false_eq_true]
  simp [optionItems, cdDrive_iff id plain]

theorem webDAV_iff (directory : Option String) {rest : List String} {others : Options} :
    parsedOptions (webDAVArguments directory ++ rest) = webDAVOptions directory ++ others ↔
      parsedOptions rest = others := by
  cases directory with
  | none => simp [webDAVArguments, webDAVOptions]
  | some path =>
    simp only [webDAVArguments, webDAVOptions, List.cons_append, List.nil_append,
      parsedOptions_cons, ne_eq, String.reduceEq, not_false_eq_true]
    simp only [optionItems, String.reduceEq, if_true, if_false, Option.toList_some,
      Option.toList_none, List.map_cons, List.map_nil, List.cons_append, List.nil_append,
      List.cons.injEq, true_and, webDAV_parsed]

theorem windowsInstaller_iff {rest : List String} {others : Options} :
    parsedOptions (windowsInstallerArguments installerURL ++ rest) =
        cdOptions "installer" installerURL ++ others ↔
      (∀ url ∈ installerURL, ',' ∉ url.toList) ∧ parsedOptions rest = others := by
  cases installerURL with
  | none => simp [windowsInstallerArguments, cdOptions]
  | some url =>
    simp only [windowsInstallerArguments, cdOptions, List.cons_append, List.nil_append,
      usbCD_iff "installer" (by decide)]
    simp

theorem supportTools_iff :
    parsedOptions (supportToolsArguments machine supportToolsURL) =
        (if machine.spec.windowsSupportToolsAttached then cdOptions "support-tools" supportToolsURL
          else []) ↔
      (machine.spec.windowsSupportToolsAttached = true →
        ∀ url ∈ supportToolsURL, ',' ∉ url.toList) := by
  cases supportToolsURL with
  | none => simp [supportToolsArguments, cdOptions, parsedOptions]
  | some url =>
    by_cases attached : machine.spec.windowsSupportToolsAttached = true
    · have alone : parsedOptions (usbCDArguments "support-tools" url none ++ []) =
          [("-drive", cdItems "support-tools" url)] ↔
          ',' ∉ url.toList ∧ parsedOptions [] = [] :=
        usbCD_iff "support-tools" (by decide) none
      rw [List.append_nil] at alone
      simp only [supportToolsArguments, attached, if_true, cdOptions, alone]
      simp [parsedOptions]
    · simp [supportToolsArguments, attached, parsedOptions]

/-- A character of a path in a directory, where the name does not have it. -/
theorem appending_notMem {c : Char} {directory name : String} (other : c ≠ '/')
    (plain : c ∉ name.toList) :
    c ∉ (appending directory name).toList ↔ c ∉ directory.toList := by
  unfold appending
  split
  · simp [plain]
  · simp [plain, other]

theorem hexCharacter_ordinary {n : Nat} (bound : n < 16) :
    hexCharacter n ≠ ',' ∧ hexCharacter n ≠ '=' := by
  have all : ∀ n : Fin 16, hexCharacter n ≠ ',' ∧ hexCharacter n ≠ '=' := by decide +kernel
  exact all ⟨n, bound⟩

theorem uuidString_ordinary {id : UUID} {c : Char} (member : c ∈ (uuidString id).toList) :
    c ≠ ',' ∧ c ≠ '=' := by
  have digits (i : Nat) (digit : c ∈ byteDigits id i) : c ≠ ',' ∧ c ≠ '=' := by
    simp only [byteDigits, hexByte_toList, List.mem_cons, List.not_mem_nil, or_false] at digit
    rcases digit with rfl | rfl
    · exact hexCharacter_ordinary (by omega)
    · exact hexCharacter_ordinary (by omega)
  have hyphen (same : c = '-') : c ≠ ',' ∧ c ≠ '=' := by
    subst same
    decide
  simp only [uuidString_toList, List.mem_append, List.mem_singleton] at member
  grind

theorem socketName_notMem {c : Char} {suffix : String} (special : c = ',' ∨ c = '=')
    (plain : c ∉ suffix.toList) : c ∉ (socketName machine suffix).toList := by
  unfold socketName
  simp only [String.toList_append, String.toList_ofList, List.mem_append, not_or]
  refine ⟨⟨?_, fun member => ?_⟩, plain⟩
  · rcases special with rfl | rfl <;> decide
  · obtain ⟨comma, equals⟩ := uuidString_ordinary (List.mem_of_mem_take member)
    rcases special with rfl | rfl
    · exact comma rfl
    · exact equals rfl

/-- Where the paths of the builder lie. -/
theorem preparePaths_ok (ready : preparePaths env machine backendStateURL runtime = .ok paths) :
    paths.codeURL = appending backendStateURL "efi-code.fd" ∧
      paths.variablesURL = appending backendStateURL "efi-vars.fd" ∧
      paths.qmpURL = appending env.temporaryDirectory (socketName machine "-qmp.sock") ∧
      paths.agentURL = appending env.temporaryDirectory (socketName machine "-agent.sock") ∧
      paths.qgaURL = appending env.temporaryDirectory (socketName machine "-qga.sock") ∧
      paths.spiceURL = appending env.temporaryDirectory (socketName machine "-spice.sock") ∧
      paths.tpmURL = appending env.temporaryDirectory (socketName machine "-tpm.sock") := by
  unfold preparePaths at ready
  cases prepared : env.preparationError with
  | some message => simp [prepared] at ready
  | none =>
    cases codeFormat : env.codeFormat with
    | error message => simp [prepared, codeFormat] at ready
    | ok format =>
      cases variablesFormat : env.variablesFormat with
      | error message => simp [prepared, codeFormat, variablesFormat] at ready
      | ok other =>
        simp only [prepared, codeFormat, variablesFormat, Except.ok.injEq] at ready
        subst ready
        exact ⟨rfl, rfl, rfl, rfl, rfl, rfl, rfl⟩

/-- Which paths have a comma, or an equals sign. -/
theorem preparePaths_plain
    (ready : preparePaths env machine backendStateURL runtime = .ok paths) :
    (',' ∉ paths.codeURL.toList ↔ ',' ∉ backendStateURL.toList) ∧
      (',' ∉ paths.variablesURL.toList ↔ ',' ∉ backendStateURL.toList) ∧
      (',' ∉ paths.qmpURL.toList ↔ ',' ∉ env.temporaryDirectory.toList) ∧
      ('=' ∉ paths.qmpURL.toList ↔ '=' ∉ env.temporaryDirectory.toList) ∧
      (',' ∉ paths.agentURL.toList ↔ ',' ∉ env.temporaryDirectory.toList) ∧
      (',' ∉ paths.qgaURL.toList ↔ ',' ∉ env.temporaryDirectory.toList) ∧
      (',' ∉ paths.spiceURL.toList ↔ ',' ∉ env.temporaryDirectory.toList) ∧
      (',' ∉ paths.tpmURL.toList ↔ ',' ∉ env.temporaryDirectory.toList) := by
  obtain ⟨code, vars, qmp, agent, qga, spice, tpm⟩ := preparePaths_ok ready
  have comma (suffix : String) (plain : ',' ∉ suffix.toList) :
      ',' ∉ (appending env.temporaryDirectory (socketName machine suffix)).toList ↔
        ',' ∉ env.temporaryDirectory.toList :=
    appending_notMem (by decide) (socketName_notMem (.inl rfl) plain)
  have equals (suffix : String) (plain : '=' ∉ suffix.toList) :
      '=' ∉ (appending env.temporaryDirectory (socketName machine suffix)).toList ↔
        '=' ∉ env.temporaryDirectory.toList :=
    appending_notMem (by decide) (socketName_notMem (.inr rfl) plain)
  rw [code, vars, qmp, agent, qga, spice, tpm]
  refine ⟨appending_notMem (by decide) (by decide), appending_notMem (by decide) (by decide),
    comma _ (by decide), equals _ (by decide), comma _ (by decide), comma _ (by decide),
    comma _ (by decide), comma _ (by decide)⟩

theorem makeLinuxX86_ok
    (made : makeLinuxX86 env machine diskURL installerURL backendStateURL runtime vncPort
      displaySize = .ok config) :
    ∃ paths, preparePaths env machine backendStateURL runtime = .ok paths ∧
      config.arguments = linuxArguments env machine diskURL runtime paths ++
        (sharedDirectoryArguments env machine.spec.sharedDirectoryPath ++
          (linuxDisplayArguments vncPort displaySize paths runtime.displayBackend ++
            linuxInstallerArguments installerURL)) := by
  unfold makeLinuxX86 at made
  by_cases mismatch : runtime.architecture ≠ .x86_64
  · simp [mismatch, throw, throwThe, MonadExceptOf.throw, Bind.bind, Except.bind] at made
  · cases ready : preparePaths env machine backendStateURL runtime with
    | error e => simp [mismatch, ready, Bind.bind, Except.bind] at made
    | ok paths =>
      cases checked : validateSharedDirectory env machine.spec.sharedDirectoryPath with
      | error e => simp [mismatch, ready, checked, Bind.bind, Except.bind] at made
      | ok valid =>
        simp only [mismatch, if_false, ready, checked, Bind.bind, Except.bind, Pure.pure,
          Except.pure, Except.ok.injEq] at made
        subst made
        exact ⟨paths, rfl, rfl⟩

theorem makeWindowsARM64_ok
    (made : makeWindowsARM64 env machine diskURL installerURL supportToolsURL backendStateURL
      runtime vncPort = .ok config) :
    ∃ paths profile, preparePaths env machine backendStateURL runtime = .ok paths ∧
      config.arguments = windowsArguments env machine profile diskURL paths ++
        (webDAVArguments machine.spec.sharedDirectoryPath ++
          (windowsInstallerArguments installerURL ++
            supportToolsArguments machine supportToolsURL)) := by
  unfold makeWindowsARM64 at made
  by_cases mismatch : runtime.architecture ≠ .arm64 ∨ runtime.acceleration ≠ .hvf
  · rw [if_pos mismatch] at made
    cases made
  rw [if_neg mismatch] at made
  by_cases rosetta : machine.spec.rosettaEnabled = true
  · rw [if_pos rosetta] at made
    cases made
  rw [if_neg rosetta] at made
  cases profiled : machine.spec.qemuHardwareProfile with
  | none => simp [profiled, throw, throwThe, MonadExceptOf.throw] at made
  | some profile =>
    simp only [profiled] at made
    by_cases invalid : (!(isVirt env profile.machineType &&
        isValidMACAddress profile.macAddress)) = true
    · rw [if_pos invalid] at made
      cases made
    rw [if_neg invalid] at made
    cases tpm : runtime.softwareTPMExecutableURL with
    | none => simp [tpm, throw, throwThe, MonadExceptOf.throw] at made
    | some url =>
      cases ready : preparePaths env machine backendStateURL runtime with
      | error e => simp [tpm, ready, Bind.bind, Except.bind] at made
      | ok paths =>
        cases checked : validateSharedDirectory env machine.spec.sharedDirectoryPath with
        | error e => simp [tpm, ready, checked, Bind.bind, Except.bind] at made
        | ok valid =>
          simp only [tpm, ready, checked, Bind.bind, Except.bind, Pure.pure, Except.pure,
            Except.ok.injEq] at made
          subst made
          exact ⟨paths, profile, rfl, rfl⟩

theorem linuxOptions_iff (ready : preparePaths env machine backendStateURL runtime = .ok paths)
    (linux : machine.spec.operatingSystem = .linux) :
    parsedOptions (linuxArguments env machine diskURL runtime paths ++
        (sharedDirectoryArguments env machine.spec.sharedDirectoryPath ++
          (linuxDisplayArguments vncPort displaySize paths runtime.displayBackend ++
            linuxInstallerArguments installerURL))) =
        linuxOptions machine diskURL installerURL runtime paths ↔
      Survives env machine diskURL installerURL supportToolsURL backendStateURL := by
  obtain ⟨code, vars, qmp, equals, agent, -, spice, -⟩ := preparePaths_plain ready
  rw [linuxArguments_parsed]
  simp only [linuxOptions, List.cons_append, List.nil_append, List.cons.injEq, Prod.mk.injEq,
    true_and, escapedName_iff, qmpSocket_iff, serverSocket_iff "agent" (by decide), codeDrive_iff,
    variablesDrive_iff, systemDrive_iff, shared_iff, display_iff, linuxInstaller_iff, code,
    vars, qmp, equals, agent, spice]
  constructor
  · rintro ⟨name, temporary, -, state, -, disk, shared, -, installer⟩
    exact ⟨name, fun _ => shared, disk, installer, fun windows => by simp [linux] at windows, state,
      temporary⟩
  · rintro ⟨name, shared, disk, installer, -, state, temporary⟩
    exact ⟨name, temporary, temporary.1, state, state, disk, shared linux, fun _ => temporary.1,
      installer⟩

theorem windowsOptions_iff (ready : preparePaths env machine backendStateURL runtime = .ok paths)
    (windows : machine.spec.operatingSystem = .windows) (profile : QEMUHardwareProfile) :
    parsedOptions (windowsArguments env machine profile diskURL paths ++
        (webDAVArguments machine.spec.sharedDirectoryPath ++
          (windowsInstallerArguments installerURL ++
            supportToolsArguments machine supportToolsURL))) =
        windowsOptions machine diskURL installerURL supportToolsURL paths ↔
      Survives env machine diskURL installerURL supportToolsURL backendStateURL := by
  obtain ⟨code, vars, qmp, equals, -, qga, spice, tpm⟩ := preparePaths_plain ready
  rw [windowsArguments_parsed]
  simp only [windowsOptions, List.cons_append, List.nil_append, List.cons.injEq, Prod.mk.injEq,
    true_and, escapedName_iff, qmpSocket_iff, serverSocket_iff "qga" (by decide), codeDrive_iff,
    variablesDrive_iff, tpmSocket_iff, systemDrive_iff, spiceServer_iff "off" (by decide),
    guestAgent_parsed, webDAV_iff, windowsInstaller_iff, supportTools_iff, code, vars, qmp,
    equals, qga, spice, tpm]
  constructor
  · rintro ⟨name, temporary, state, -, -, disk, -, -, installer, support⟩
    exact ⟨name, fun linux => by simp [windows] at linux, disk, installer, fun _ => support, state,
      temporary⟩
  · rintro ⟨name, -, disk, installer, support, state, temporary⟩
    exact ⟨name, temporary, state, state, temporary.1, disk, temporary.1, temporary.1, installer,
      support windows⟩

/-- QEMU reads exactly the options that are meant if and only if every text survives. -/
theorem options_survive_iff
    (made : make env machine diskURL installerURL supportToolsURL backendStateURL runtime vncPort
      displaySize = .ok config) :
    parsedOptions config.arguments =
        intendedOptions env machine diskURL installerURL supportToolsURL backendStateURL runtime ↔
      Survives env machine diskURL installerURL supportToolsURL backendStateURL := by
  unfold make at made
  split at made
  · cases made
  · unfold intendedOptions
    cases system : machine.spec.operatingSystem with
    | linux =>
      cases architecture : machine.spec.architecture with
      | arm64 => simp [system, architecture] at made
      | x86_64 =>
        simp only [system, architecture] at made
        obtain ⟨paths, ready, arguments⟩ := makeLinuxX86_ok made
        rw [arguments, ready]
        exact linuxOptions_iff ready system
    | windows =>
      cases architecture : machine.spec.architecture with
      | x86_64 => simp [system, architecture] at made
      | arm64 =>
        simp only [system, architecture] at made
        obtain ⟨paths, profile, ready, arguments⟩ := makeWindowsARM64_ok made
        rw [arguments, ready]
        exact windowsOptions_iff ready system profile

/-- A Linux machine that is called `name`, and where its files are. -/
def exampleMachine (name : String) : Machine where
  id := ⟨7⟩
  name := name
  spec :=
    { cpuCount := 2
      memorySizeBytes := 4294967296
      diskSizeBytes := 68719476736
      architecture := .x86_64
      sharedDirectoryPath := some "/Users/ada/a,b" }
  sourceImageID := ⟨8⟩
  disk := { id := ⟨9⟩, relativePath := "Disks/9.raw", capacityBytes := 68719476736 }
  provisioningState := .ready
  bootMedia := .systemDisk
  backend := .qemu
  backendState := { relativeDirectory := "Machines/7" }
  createdAt := 0

def exampleEnvironment : BuilderEnvironment where
  temporaryDirectory := "/tmp/"
  isDirectory := fun _ => true
  joins := fun _ _ => false

def exampleRuntime : QEMURuntime where
  systemExecutableURL := "/usr/local/bin/qemu-system-x86_64"
  firmwareCodeURL := "/usr/local/share/qemu/edk2-x86_64-code.fd"

theorem options_survive_example :
    ∃ config, make exampleEnvironment (exampleMachine "Ada, at work") "/store/disk.raw" none none
        "/store/state" exampleRuntime 5900 = .ok config ∧
      (parsedOptions config.arguments =
          intendedOptions exampleEnvironment (exampleMachine "Ada, at work") "/store/disk.raw" none
            none "/store/state" exampleRuntime ↔
        Survives exampleEnvironment (exampleMachine "Ada, at work") "/store/disk.raw" none none
          "/store/state") := by
  obtain ⟨config, made⟩ : ∃ config, make exampleEnvironment (exampleMachine "Ada, at work")
      "/store/disk.raw" none none "/store/state" exampleRuntime 5900 = .ok config := ⟨_, rfl⟩
  exact ⟨config, made, options_survive_iff made⟩

/-- An installer whose imported file had a comma in its extension. -/
theorem comma_splits_installer :
    ∃ config, make exampleEnvironment (exampleMachine "Ada") "/store/disk.raw"
        (some "/store/8.is,o") none "/store/state" exampleRuntime 5900 = .ok config ∧
      parsedOptions config.arguments ≠
        intendedOptions exampleEnvironment (exampleMachine "Ada") "/store/disk.raw"
          (some "/store/8.is,o") none "/store/state" exampleRuntime := by
  refine ⟨_, rfl, fun same => ?_⟩
  have survives : Survives exampleEnvironment (exampleMachine "Ada") "/store/disk.raw"
      (some "/store/8.is,o") none "/store/state" := by
    apply (linuxOptions_iff rfl rfl).mp
    exact same
  have plain := survives.installer "/store/8.is,o" rfl
  exact plain (by decide)

end SimpleVM.QEMU
