import AuditStage.Settings

/-! Why a session ends without what was asked for, and how that is told. -/

namespace AuditStage

/-- Why a session ends without what was asked for. -/
inductive Trouble where
  | unknownFormat (format : String)
  | settings (fault : SettingsFault)
  | analysis (address : String) (failure : Failure)
  | staging (address : String) (failure : Failure)
  | outputDirectory (path : String) (error : SystemError)
  | outputFile (error : SystemError)
deriving Repr, BEq

namespace Trouble

/-- The sentence that comes first. -/
def message : Trouble → String
  | .unknownFormat format => "Unknown output format: " ++ format
  | .settings fault => fault.message
  | .analysis address _ => "Failed to analyze the contract " ++ address
  | .staging address _ => "Failed to stage the contract " ++ address
  | .outputDirectory path _ => "Failed to create " ++ path
  | .outputFile error => error.message

/-- A failure's own sentence, and the one of the cause behind it. -/
def causesOf (failure : Failure) : List String :=
  failure.message :: failure.source?.toList

/-- The sentences of the causes, each behind the one before. -/
def causes : Trouble → List String
  | .settings (.unreadable _ error) => [error.message]
  | .analysis _ failure | .staging _ failure => causesOf failure
  | .outputDirectory _ error => [error.message]
  | _ => []

/-- A text in which every line but the first is set in by the given blanks. -/
def setIn (blanks : Nat) (text : String) : String :=
  String.ofList (text.toList.flatMap fun c =>
    if c = '\n' then '\n' :: List.replicate blanks ' ' else [c])

/-- A cause on lines of its own, with its number if there are several. -/
def causeText (several : Bool) (item : String × Nat) : String :=
  let (cause, index) := item
  if several then
    String.ofList (List.replicate (5 - (toString index).length) ' ') ++ toString index ++ ": " ++
      setIn 7 cause
  else "    " ++ setIn 4 cause

/-- The whole account that is given of a trouble. -/
def account (trouble : Trouble) : String :=
  let causes := trouble.causes
  let behind :=
    if causes.isEmpty then ""
    else
      "\n\nCaused by:" ++
        String.join (causes.zipIdx.map fun item => "\n" ++ causeText (1 < causes.length) item)
  "Error: " ++ trouble.message ++ behind ++ "\n"

end Trouble

end AuditStage
