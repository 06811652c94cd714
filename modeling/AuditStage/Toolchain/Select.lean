import AuditStage.Toolchain.Version
import AuditStage.World

/-! Putting a compiler version in place through the program that manages versions. -/

namespace AuditStage.Toolchain

/-- A command to the version manager. -/
def managerCommand (manager : String) (args : List String) : Command :=
  ⟨manager, args, none⟩

/-- Whether a list of versions names a version as the first word of a line. -/
def lists (listing version : String) : Bool :=
  (Text.lines listing.toList).any fun line => Text.firstWord line == some version.toList

/-- Whether the manager says that a version is installed; a listing that fails says nothing. -/
def isInstalled (manager version : String) : Run Bool := do
  match ← Run.command (managerCommand manager ["versions"]) with
  | .ok output => return output.success && lists output.stdout version
  | .error _ => return false

/-- What a failed command complains about: on its error output, or else on its output. -/
def complaint (output : CommandOutput) : String :=
  if Text.isAllBlank output.stderr then Text.trimmed output.stdout else Text.trimmed output.stderr

/-- Has the manager do something with a version. -/
def manage (manager action version : String) : Run Unit := do
  let command := managerCommand manager [action, version]
  match ← Run.command command with
  | .error error => throw (.toolchainSwitch version (.notStarted command error))
  | .ok output =>
    if !output.success then
      throw (.toolchainSwitch version (.exited command output.code (complaint output)))

/-- Puts an installed version in place and remembers it. -/
def putInPlace (manager version : String) : Run Unit := do
  manage manager "use" version
  modify fun world => { world with active := some version }
  Run.note .info ("Switched to solc version " ++ version)

/-- Installs a version if need be and puts it in place. -/
def activate (manager version : String) : Run Unit := do
  if !(← isInstalled manager version) then
    Run.note .info ("Installing solc " ++ version)
    manage manager "install" version
  putInPlace manager version

/-- Finds the version for sources and puts it in place. -/
def select (manager : String) (sources : SourceMap) (reported : String) : Run String := do
  match Version.resolve? sources reported with
  | none => throw (.versionUnresolvable reported)
  | some version =>
    Run.note .info ("solc version: " ++ version)
    activate manager version
    return version

end AuditStage.Toolchain
