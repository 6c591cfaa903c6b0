import SimpleVM.QEMU.OptionText
import SimpleVM.Storage.Paths

/-!
# Names and paths on the command line

The options of the builder are read back by QEMU's rule. The name and the shared directory have
their commas doubled, where Swift sees a comma; every other path is put in as it is.
-/
namespace SimpleVM.QEMU

open Domain Storage Text

variable {joins : Char → Char → Bool} {env : BuilderEnvironment} {machine : Machine}
  {paths : RuntimePaths}

/-- No comma of the text is joined to a neighbour. -/
def StandsAlone (joins : Char → Char → Bool) (text : List Char) : Prop :=
  ∀ front rest, text = front ++ ',' :: rest →
    (∀ p ∈ front.getLast?, joins p ',' = false) ∧ ∀ n ∈ rest.head?, joins ',' n = false

/-- The same where the scalar `previous` stands in front. -/
def StandsAloneAfter (joins : Char → Char → Bool) (previous : Option Char) (text : List Char) :
    Prop :=
  ∀ front rest, text = front ++ ',' :: rest →
    (∀ p ∈ (previous.toList ++ front).getLast?, joins p ',' = false) ∧
      ∀ n ∈ rest.head?, joins ',' n = false

theorem standsAloneAfter_cons {previous : Option Char} {c : Char} {rest : List Char} :
    StandsAloneAfter joins previous (c :: rest) ↔
      (c = ',' → (∀ p ∈ previous, joins p ',' = false) ∧ ∀ n ∈ rest.head?, joins ',' n = false) ∧
        StandsAloneAfter joins (some c) rest := by
  constructor
  · intro alone
    constructor
    · rintro rfl
      have here := alone [] rest rfl
      refine ⟨fun p isPrevious => here.1 p ?_, here.2⟩
      cases previous with
      | none => cases isPrevious
      | some q => simpa using isPrevious
    · rintro front later rfl
      have there := alone (c :: front) later rfl
      refine ⟨fun p last => there.1 p ?_, there.2⟩
      cases previous with
      | none => exact last
      | some q => simpa using last
  · rintro ⟨here, there⟩ front later split
    cases front with
    | nil =>
      simp only [List.nil_append, List.cons.injEq] at split
      obtain ⟨rfl, rfl⟩ := split
      refine ⟨fun p last => (here rfl).1 p ?_, (here rfl).2⟩
      cases previous with
      | none => cases last
      | some q => simpa using last
    | cons d front =>
      simp only [List.cons_append, List.cons.injEq] at split
      obtain ⟨rfl, rfl⟩ := split
      refine ⟨fun p last => (there front later rfl).1 p ?_, (there front later rfl).2⟩
      cases previous with
      | none => exact last
      | some q => simpa using last

theorem partlyDoubled_cons {sep c : Char} {item raw : List Char}
    (partly : PartlyDoubled sep item raw) : PartlyDoubled sep (c :: item) (c :: raw) := by
  obtain ⟨extra, few, length, count⟩ := partly
  refine ⟨extra, ?_, ?_, ?_⟩
  · rw [List.count_cons]
    omega
  · simp only [List.length_cons]
    omega
  · rw [List.count_cons, List.count_cons]
    omega

theorem partlyDoubled_pair {sep : Char} {item raw : List Char}
    (partly : PartlyDoubled sep item raw) : PartlyDoubled sep (sep :: item) (sep :: sep :: raw) := by
  obtain ⟨extra, few, length, count⟩ := partly
  refine ⟨extra + 1, ?_, ?_, ?_⟩
  · rw [List.count_cons_self]
    omega
  · simp only [List.length_cons]
    omega
  · simp only [List.count_cons_self]
    omega

theorem replacingCommas_partly (previous : Option Char) (text : List Char) :
    PartlyDoubled ',' text (replacingCommas joins previous text) := by
  induction text generalizing previous with
  | nil => exact partlyDoubled_raw []
  | cons c rest ih =>
    unfold replacingCommas
    split
    · rename_i replaced
      obtain ⟨rfl, -⟩ := replaced
      exact partlyDoubled_pair (ih _)
    · exact partlyDoubled_cons (ih _)

/-- All commas are doubled exactly if all of them are characters of their own. -/
theorem replacingCommas_iff (previous : Option Char) (text : List Char) :
    replacingCommas joins previous text = doubled ',' text ↔
      StandsAloneAfter joins previous text := by
  induction text generalizing previous with
  | nil =>
    constructor
    · rintro - front rest split
      simp at split
    · exact fun _ => rfl
  | cons c rest ih =>
    have neighbours : (previous.all (fun p => !joins p c) = true ∧
        rest.head?.all (fun n => !joins c n) = true) ↔
        (∀ p ∈ previous, joins p c = false) ∧ ∀ n ∈ rest.head?, joins c n = false := by
      simp [Option.all_eq_true]
    rw [replacingCommas, standsAloneAfter_cons, ← ih]
    by_cases comma : c = ','
    · subst comma
      by_cases alone : (∀ p ∈ previous, joins p ',' = false) ∧
          ∀ n ∈ rest.head?, joins ',' n = false
      · rw [if_pos ⟨rfl, neighbours.mpr alone⟩]
        simp only [doubled, if_true, List.cons.injEq, true_and]
        exact ⟨fun same => ⟨fun _ => alone, same⟩, fun both => both.2⟩
      · rw [if_neg fun all => alone (neighbours.mp all.2)]
        constructor
        · -- One comma less is doubled than there are.
          intro same
          exfalso
          have partly : PartlyDoubled ',' rest (replacingCommas joins (some ',') rest) :=
            replacingCommas_partly (some ',') rest
          obtain ⟨extra, few, length, -⟩ := partly
          have lengths := congrArg List.length same
          rw [length_doubled, List.length_cons, List.length_cons, List.count_cons_self] at lengths
          omega
        · rintro ⟨here, -⟩
          exact absurd (here rfl) alone
    · simp only [comma, false_and, if_false, doubled, List.cons.injEq, true_and, false_implies]

theorem escaped_iff (text : List Char) :
    replacingCommas joins none text = doubled ',' text ↔ StandsAlone joins text :=
  replacingCommas_iff none text

/-- How QEMU reads the value of one of the options the law is about. The path of `-qmp` stands
behind `unix:`. -/
def optionItems (flag value : String) : Option (List (String × String)) :=
  if flag = "-name" then some (parseOptions (some "guest") value.toList)
  else if flag = "-drive" then some (parseOptions none value.toList)
  else if flag = "-chardev" then some (parseOptions (some "backend") value.toList)
  else if flag = "-fsdev" then some (parseOptions (some "fsdriver") value.toList)
  else if flag = "-qmp" then some (parseOptions (some "path") (value.toList.drop 5))
  else if flag = "-spice" then some (parseOptions none value.toList)
  else none

/-- The options that are read, in their order. `-nodefaults` alone has no value. -/
def parsedOptions : List String → List (String × List (String × String))
  | [] => []
  | flag :: rest =>
    if flag = "-nodefaults" then parsedOptions rest
    else match rest with
      | [] => []
      | value :: rest =>
        (optionItems flag value).toList.map (fun items => (flag, items)) ++ parsedOptions rest

def serverItems (id url : String) : List (String × String) :=
  [("backend", "socket"), ("id", id), ("path", url), ("server", "on"), ("wait", "off")]

def cdItems (id url : String) : List (String × String) :=
  [("if", "none"), ("id", id), ("file", url), ("media", "cdrom"), ("readonly", "on")]

def codeItems (paths : RuntimePaths) : List (String × String) :=
  [("if", "pflash"), ("format", paths.codeFormat.rawValue), ("unit", "0"), ("readonly", "on"),
    ("file", paths.codeURL)]

def variablesItems (paths : RuntimePaths) : List (String × String) :=
  [("if", "pflash"), ("format", paths.variablesFormat.rawValue), ("unit", "1"),
    ("file", paths.variablesURL)]

def systemItems (diskURL : String) : List (String × String) :=
  [("if", "none"), ("id", "system-disk"), ("file", diskURL), ("format", "raw"),
    ("cache", "writeback"), ("aio", "threads"), ("discard", "unmap"), ("detect-zeroes", "unmap")]

def qmpItems (paths : RuntimePaths) : List (String × String) :=
  [("path", paths.qmpURL), ("server", "on"), ("wait", "off")]

def spiceItems (gl : String) (paths : RuntimePaths) : List (String × String) :=
  [("unix", "on"), ("addr", paths.spiceURL), ("disable-ticketing", "on"), ("gl", gl),
    ("image-compression", "off"), ("playback-compression", "off"), ("streaming-video", "off")]

def sharedItems (path : String) : List (String × String) :=
  [("fsdriver", "local"), ("id", "shared"), ("path", path), ("security_model", "mapped-xattr"),
    ("multidevs", "remap")]

def guestAgentItems : List (String × String) :=
  [("backend", "spicevmc"), ("id", "vdagent"), ("name", "vdagent")]

def webDAVItems : List (String × String) :=
  [("backend", "spiceport"), ("name", "org.spice-space.webdav.0"), ("id", "webdav")]

def tpmItems (paths : RuntimePaths) : List (String × String) :=
  [("backend", "socket"), ("id", "chrtpm0"), ("path", paths.tpmURL)]

theorem serverSocket_iff (id : String) {url : String} (plain : ',' ∉ id.toList) :
    parseOptions (some "backend") (serverSocket id url).toList = serverItems id url ↔
      ',' ∉ url.toList := by
  have text : (serverSocket id url).toList =
      "socket".toList ++ ',' :: 'i' :: ("d=".toList ++ id.toList ++ ',' ::
        ("path".toList ++ '=' :: (url.toList ++ trailing [("server", "on"), ("wait", "off")]))) := by
    unfold serverSocket
    simp only [String.toList_append]
    simp [trailing, fieldText]
  have behind : 'i' :: ("d=".toList ++ id.toList ++ ',' ::
      ("path".toList ++ '=' :: (url.toList ++ trailing [("server", "on"), ("wait", "off")]))) =
      leading [("id", id)] ++
        ("path".toList ++ '=' :: (url.toList ++ trailing [("server", "on"), ("wait", "off")])) := by
    simp [leading, fieldText]
  rw [text, parseOptions_first (by decide) _ (by decide), behind]
  simp only [serverItems, keyed_string "backend" "socket" (by decide), List.cons.injEq, true_and]
  apply parse_raw_iff [("id", id)] "path" url [("server", "on"), ("wait", "off")]
  · simpa [PlainField] using plain
  · decide
  · decide
  · decide

theorem tpmSocket_iff :
    parseOptions (some "backend") ("socket,id=chrtpm0,path=" ++ paths.tpmURL).toList =
        tpmItems paths ↔
      ',' ∉ paths.tpmURL.toList := by
  have text : ("socket,id=chrtpm0,path=" ++ paths.tpmURL).toList =
      "socket".toList ++ ',' :: 'i' :: ("d=chrtpm0,path=".toList ++ paths.tpmURL.toList) := by
    simp
  have behind : 'i' :: ("d=chrtpm0,path=".toList ++ paths.tpmURL.toList) =
      leading [("id", "chrtpm0")] ++
        ("path".toList ++ '=' :: (paths.tpmURL.toList ++ trailing [])) := by
    simp [leading, trailing, fieldText]
  rw [text, parseOptions_first (by decide) _ (by decide), behind]
  simp only [tpmItems, keyed_string "backend" "socket" (by decide), List.cons.injEq, true_and]
  apply parse_raw_iff [("id", "chrtpm0")] "path" paths.tpmURL [] <;> decide

theorem cdDrive_iff (id : String) {url : String} (plain : ',' ∉ id.toList) :
    parseOptions none (cdDrive id url).toList = cdItems id url ↔ ',' ∉ url.toList := by
  have text : (cdDrive id url).toList = leading [("if", "none"), ("id", id)] ++
      ("file".toList ++ '=' ::
        (url.toList ++ trailing [("media", "cdrom"), ("readonly", "on")])) := by
    unfold cdDrive
    simp only [String.toList_append]
    simp [leading, trailing, fieldText]
  rw [text]
  apply parse_raw_iff [("if", "none"), ("id", id)] "file" url
    [("media", "cdrom"), ("readonly", "on")]
  · simp [PlainField, plain]
  · decide
  · decide
  · decide

theorem rawValue_plain (format : QEMUImageFormat) : ',' ∉ format.rawValue.toList := by
  cases format <;> decide

theorem codeDrive_iff :
    parseOptions none (codeDrive paths).toList = codeItems paths ↔ ',' ∉ paths.codeURL.toList := by
  have text : (codeDrive paths).toList =
      leading [("if", "pflash"), ("format", paths.codeFormat.rawValue), ("unit", "0"),
        ("readonly", "on")] ++
      ("file".toList ++ '=' :: (paths.codeURL.toList ++ trailing [])) := by
    unfold codeDrive
    simp only [String.toList_append]
    simp [leading, trailing, fieldText]
  rw [text]
  apply parse_raw_iff [("if", "pflash"), ("format", paths.codeFormat.rawValue), ("unit", "0"),
    ("readonly", "on")] "file" paths.codeURL []
  · simp [PlainField, rawValue_plain]
  · decide
  · decide
  · decide

theorem variablesDrive_iff :
    parseOptions none (variablesDrive paths).toList = variablesItems paths ↔
      ',' ∉ paths.variablesURL.toList := by
  have text : (variablesDrive paths).toList =
      leading [("if", "pflash"), ("format", paths.variablesFormat.rawValue), ("unit", "1")] ++
      ("file".toList ++ '=' :: (paths.variablesURL.toList ++ trailing [])) := by
    unfold variablesDrive
    simp only [String.toList_append]
    simp [leading, trailing, fieldText]
  rw [text]
  apply parse_raw_iff [("if", "pflash"), ("format", paths.variablesFormat.rawValue),
    ("unit", "1")] "file" paths.variablesURL []
  · simp [PlainField, rawValue_plain]
  · decide
  · decide
  · decide

theorem systemDrive_iff {diskURL : String} :
    parseOptions none (systemDrive diskURL).toList = systemItems diskURL ↔
      ',' ∉ diskURL.toList := by
  have text : (systemDrive diskURL).toList =
      leading [("if", "none"), ("id", "system-disk")] ++
      ("file".toList ++ '=' :: (diskURL.toList ++ trailing
        [("format", "raw"), ("cache", "writeback"), ("aio", "threads"), ("discard", "unmap"),
          ("detect-zeroes", "unmap")])) := by
    unfold systemDrive
    simp only [String.toList_append]
    simp [leading, trailing, fieldText]
  rw [text]
  apply parse_raw_iff [("if", "none"), ("id", "system-disk")] "file" diskURL
    [("format", "raw"), ("cache", "writeback"), ("aio", "threads"), ("discard", "unmap"),
      ("detect-zeroes", "unmap")] <;> decide

theorem spiceServer_iff (gl : String) (plain : ',' ∉ gl.toList) :
    parseOptions none (spiceServer gl paths).toList = spiceItems gl paths ↔
      ',' ∉ paths.spiceURL.toList := by
  have text : (spiceServer gl paths).toList =
      leading [("unix", "on")] ++
      ("addr".toList ++ '=' :: (paths.spiceURL.toList ++ trailing
        [("disable-ticketing", "on"), ("gl", gl), ("image-compression", "off"),
          ("playback-compression", "off"), ("streaming-video", "off")])) := by
    unfold spiceServer
    simp only [String.toList_append]
    simp [leading, trailing, fieldText]
  rw [text]
  apply parse_raw_iff [("unix", "on")] "addr" paths.spiceURL
    [("disable-ticketing", "on"), ("gl", gl), ("image-compression", "off"),
      ("playback-compression", "off"), ("streaming-video", "off")]
  · decide
  · simp [PlainField, plain]
  · decide
  · decide

theorem qmpSocket_iff :
    parseOptions (some "path") ((qmpSocket paths).toList.drop 5) = qmpItems paths ↔
      ',' ∉ paths.qmpURL.toList ∧ '=' ∉ paths.qmpURL.toList := by
  have text : (qmpSocket paths).toList.drop 5 =
      paths.qmpURL.toList ++ trailing [("server", "on"), ("wait", "off")] := by
    unfold qmpSocket
    simp only [String.toList_append]
    simp [trailing, fieldText]
  have read := parse_implied_iff "path" paths.qmpURL.toList [("server", "on"), ("wait", "off")]
    (by decide) (by decide) (by simp)
  rw [String.ofList_toList] at read
  rw [text]
  exact read

theorem escapedPath_iff {path : String} :
    parseOptions (some "fsdriver") ("local,id=shared,path=" ++ escapedName env path ++
        ",security_model=mapped-xattr,multidevs=remap").toList = sharedItems path ↔
      StandsAlone env.joins path.toList := by
  have text : ("local,id=shared,path=" ++ escapedName env path ++
        ",security_model=mapped-xattr,multidevs=remap").toList =
      "local".toList ++ ',' :: 'i' :: ("d=shared,path=".toList ++
        (replacingCommas env.joins none path.toList ++
          trailing [("security_model", "mapped-xattr"), ("multidevs", "remap")])) := by
    simp [escapedName, trailing, fieldText]
  have behind : 'i' :: ("d=shared,path=".toList ++
        (replacingCommas env.joins none path.toList ++
          trailing [("security_model", "mapped-xattr"), ("multidevs", "remap")])) =
      leading [("id", "shared")] ++ ("path".toList ++ '=' ::
        (replacingCommas env.joins none path.toList ++
          trailing [("security_model", "mapped-xattr"), ("multidevs", "remap")])) := by
    simp [leading, fieldText]
  rw [text, parseOptions_first (by decide) _ (by decide), behind, ← escaped_iff]
  simp only [sharedItems, keyed_string "fsdriver" "local" (by decide), List.cons.injEq, true_and]
  apply parse_field_iff [("id", "shared")] "path"
    [("security_model", "mapped-xattr"), ("multidevs", "remap")]
  · decide
  · decide
  · decide
  · decide
  · exact replacingCommas_partly none path.toList

theorem escapedName_iff {name : String} :
    parseOptions (some "guest") (escapedName env name).toList = [("guest", name)] ↔
      StandsAlone env.joins name.toList ∧ name ≠ "" ∧ '=' ∉ name.toList := by
  have text : (escapedName env name).toList = replacingCommas env.joins none name.toList := by
    simp [escapedName]
  have partly : PartlyDoubled ',' name.toList (replacingCommas env.joins none name.toList) :=
    replacingCommas_partly none name.toList
  have named := parse_name_iff "guest" partly
  rw [String.ofList_toList] at named
  rw [text, named, escaped_iff]
  simp

end SimpleVM.QEMU
