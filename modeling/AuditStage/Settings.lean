import AuditStage.Pipeline
import AuditStage.Toml.Reader

/-! The settings of a run: built in, then from a file, then from the command line. -/

namespace AuditStage

/-- Why there are no usable settings. -/
inductive SettingsFault where
  | invalid
  | unreadable (path : String) (error : SystemError)
  /-- The file that is read without being named could not be read. -/
  | defaultUnreadable (error : SystemError)
  | keyMissing
deriving Repr, DecidableEq

/-- The sentence that tells a reader what is wrong. -/
def SettingsFault.message : SettingsFault → String
  | .invalid => "Invalid configuration file"
  | .unreadable path _ => "Failed to read config " ++ path
  | .defaultUnreadable error => error.message
  | .keyMissing =>
    "No explorer API key configured (set BASESCAN_KEY or api_key in the config file)"

/-- All settings of a run. -/
structure Settings where
  apiUrl : String
  apiKey : Option String
  stagingDir : String
  dependencyDir : Option String
  analyzer : String
  manager : String
  /-- How many seconds a request may take. -/
  timeout : Nat
deriving Repr, DecidableEq

/-- Settings that take the place of those from a file. -/
structure Overrides where
  apiKey : Option String
  stagingDir : Option String
  dependencyDir : Option String
  analyzer : Option String
  manager : Option String
deriving Repr, DecidableEq

namespace Settings

/-- The settings that hold when nothing is set. -/
def default : Settings where
  apiUrl := "https://api.basescan.org/api"
  apiKey := none
  stagingDir := "./tmp/contracts"
  dependencyDir := none
  analyzer := Pipeline.defaultAnalyzer
  manager := Pipeline.defaultManager
  timeout := 30

/-- The settings file that is read without being named. -/
def defaultFile : String :=
  "sentinel.toml"

/-- The text under a name, if the name is given; anything but a string is refused. -/
def text? (members : Toml.Members) (name : String) : Except SettingsFault (Option String) :=
  match members.get? name with
  | none => .ok none
  | some (.string text) => .ok (some text)
  | some _ => .error .invalid

/-- The key for the explorer, which has two names of which one at most may be given. -/
def key? (members : Toml.Members) : Except SettingsFault (Option String) := do
  let key ← text? members "api_key"
  let baseKey ← text? members "BASESCAN_KEY"
  if key.isSome && baseKey.isSome then .error .invalid else .ok (key.or baseKey)

/-- The time limit, a whole number that is not negative. -/
def timeout? (members : Toml.Members) : Except SettingsFault (Option Nat) :=
  match members.get? "request_timeout_secs" with
  | none => .ok none
  | some (.scalar (.integer value)) => if value < 0 then .error .invalid else .ok (some value.toNat)
  | some _ => .error .invalid

/-- The settings that a file's members give, over the built-in ones; other names count for
nothing. -/
def ofMembers (members : Toml.Members) : Except SettingsFault Settings := do
  let apiUrl ← text? members "api_url"
  let apiKey ← key? members
  let stagingDir ← text? members "staging_dir"
  let dependencyDir ← text? members "dependency_dir"
  let analyzer ← text? members "analyzer"
  let manager ← text? members "toolchain_manager"
  let timeout ← timeout? members
  .ok
    { apiUrl := apiUrl.getD default.apiUrl
      apiKey
      stagingDir := stagingDir.getD default.stagingDir
      dependencyDir
      analyzer := analyzer.getD default.analyzer
      manager := manager.getD default.manager
      timeout := timeout.getD default.timeout }

/-- The settings that the text of a file gives. -/
def parse (text : String) : Except SettingsFault Settings :=
  match Toml.parse text with
  | some members => ofMembers members
  | none => .error .invalid

/-- The settings from the named file, or from the default one if there is one. -/
def load (disk : Disk) (path : Option String) : Except SettingsFault Settings :=
  match path with
  | some path =>
    match disk.content path with
    | .ok text => parse text
    | .error error => .error (.unreadable path error)
  | none =>
    if disk.isFile defaultFile then
      match disk.content defaultFile with
      | .ok text => parse text
      | .error error => .error (.defaultUnreadable error)
    else .ok default

/-- The settings with those that are given anew in place. -/
def override (settings : Settings) (overrides : Overrides) : Settings :=
  { settings with
    apiKey := overrides.apiKey.or settings.apiKey
    stagingDir := overrides.stagingDir.getD settings.stagingDir
    dependencyDir := overrides.dependencyDir.or settings.dependencyDir
    analyzer := overrides.analyzer.getD settings.analyzer
    manager := overrides.manager.getD settings.manager }

/-- The key for the explorer, which may not be blank. -/
def requireKey (settings : Settings) : Except SettingsFault String :=
  match settings.apiKey with
  | some key => if Text.isAllBlank key then .error .keyMissing else .ok key
  | none => .error .keyMissing

/-- Where library packages are staged. -/
def dependencyRoot (settings : Settings) : String :=
  settings.dependencyDir.getD (Layout.nested settings.stagingDir).dependencyRoot

/-- The layout that the settings ask for. -/
def layout (settings : Settings) : Layout :=
  ⟨settings.stagingDir, settings.dependencyRoot⟩

/-- The pipeline that the settings ask for, and where its explorer is reached. -/
def pipeline (settings : Settings) : Except SettingsFault (Pipeline × Endpoint) := do
  let key ← settings.requireKey
  .ok (⟨settings.layout, settings.analyzer, settings.manager⟩, ⟨settings.apiUrl, key⟩)

end Settings

end AuditStage
