import AuditStage.Command
import AuditStage.Payload

/-! The ways in which a run ends early, and the sentences that tell a reader about them. -/

namespace AuditStage

/-- Why an explorer gave no answer. -/
inductive FetchError where
  | status (code : Nat)
  | transport (reason : String)
deriving Repr, DecidableEq

/-- The sentence that tells a reader why there is no answer. -/
def FetchError.message : FetchError → String
  | .status code => "HTTP " ++ toString code
  | .transport reason => reason

/-- Why a compiler version could not be put in place. -/
inductive SwitchFault where
  | notStarted (command : Command) (error : SystemError)
  | exited (command : Command) (code : Option Int) (detail : String)
  | described (text : String)
deriving Repr, DecidableEq

/-- An exit code as it is shown to a reader. -/
def shownCode : Option Int → String
  | some code => "Some(" ++ toString code ++ ")"
  | none => "None"

/-- The sentence that tells a reader why a version could not be put in place. -/
def SwitchFault.message : SwitchFault → String
  | .notStarted command error => command.display ++ ": " ++ error.message
  | .exited command code detail =>
    command.display ++ " exited with " ++ shownCode code ++ ": " ++ detail
  | .described text => text

/-- Why a run ended early. -/
inductive Failure where
  /-- The explorer has no source text for the address. -/
  | sourceUnavailable (address reason : String)
  | malformedSourceMap (cause : Malformed)
  /-- Neither the source text nor the explorer tells a compiler version. -/
  | versionUnresolvable (reported : String)
  | toolchainSwitch (version : String) (fault : SwitchFault)
  /-- The explorer's gateway failed again after a second try. -/
  | gatewayFailure (status : Nat)
  | fetch (error : FetchError)
  /-- A key that would lead out of the staging tree, or names no file. -/
  | unsafePath (key : String)
  | io (error : SystemError)
deriving Repr, BEq

namespace Failure

/-- The short name of a failure's kind. -/
def kind : Failure → String
  | .sourceUnavailable _ _ => "SourceUnavailable"
  | .malformedSourceMap _ => "MalformedSourceMap"
  | .versionUnresolvable _ => "VersionUnresolvable"
  | .toolchainSwitch _ _ => "ToolchainSwitchFailure"
  | .gatewayFailure _ => "TransientFetchFailure"
  | .fetch _ => "FetchFailure"
  | .unsafePath _ => "UnsafePath"
  | .io _ => "Io"

/-- The sentence that tells a reader about a failure. -/
def message : Failure → String
  | .sourceUnavailable address reason => "Source unavailable for " ++ address ++ ": " ++ reason
  | .malformedSourceMap cause => "Malformed source map: " ++ cause.message
  | .versionUnresolvable reported =>
    "Unable to resolve a compiler version (explorer reported " ++ Text.quoted reported ++ ")"
  | .toolchainSwitch version fault =>
    "Failed to install or switch to solc version " ++ version ++ ": " ++ fault.message
  | .gatewayFailure status =>
    "Explorer gateway still failing after retry (HTTP " ++ toString status ++ ")"
  | .fetch error => "Explorer request failed: " ++ error.message
  | .unsafePath key => "Refusing to stage unsafe source path: " ++ key
  | .io error => "I/O error: " ++ error.message

/-- The sentence of the cause behind a failure, if the failure stands in for one. -/
def source? : Failure → Option String
  | .fetch error => some error.message
  | .io error => some error.message
  | _ => none

end Failure

end AuditStage
