import AuditStage.Remap
import AuditStage.Report.Result

/-! Running the analyzer over the staged files, one by one, whatever becomes of the others. -/

namespace AuditStage

/-- A file on which the analyzer could not be run. -/
structure AnalysisFailure where
  key : String
  path : String
  /-- Why it could not be run. -/
  message : String
deriving Repr, DecidableEq

/-- What became of one file. -/
inductive Outcome where
  | completed (output : String)
  | failed (failure : AnalysisFailure)
deriving Repr, DecidableEq

/-- The analysis of one file. -/
structure FileAnalysis where
  key : String
  path : String
  outcome : Outcome
deriving Repr, DecidableEq

namespace FileAnalysis

/-- What the analyzer had to say, if it could be run. -/
def output? (analysis : FileAnalysis) : Option String :=
  match analysis.outcome with
  | .completed output => some output
  | .failed _ => none

/-- The failure of the analysis of a file, if the analyzer could not be run. -/
def failure? (analysis : FileAnalysis) : Option AnalysisFailure :=
  match analysis.outcome with
  | .completed _ => none
  | .failed failure => some failure

/-- Why the analyzer could not be run, if it could not. -/
def error? (analysis : FileAnalysis) : Option String :=
  analysis.failure?.map (·.message)

end FileAnalysis

namespace Analyzer

/-- The command that analyzes the file at a path. -/
def commandFor (analyzer path : String) (project : Project) (remaps : RemapTable) : Command :=
  let remapArgs := if remaps.isEmpty then [] else ["--solc-remaps", remaps.argument]
  ⟨analyzer, [path] ++ remapArgs ++ ["--solc-args=--allow-paths " ++ project.allowedPaths],
    some project.stagingRoot⟩

/-- What a finished analyzer had to say: its findings stand on the error output. -/
def diagnostics (output : CommandOutput) : String :=
  -- Findings make the analyzer fail, so only a failure without a word is remarked on.
  if !output.success && output.stderr.toList.isEmpty then "No stderr" else output.stderr

/-- The path that is analyzed for a key; a key without a staged file is looked for below the root. -/
def pathFor (project : Project) (key : String) : String :=
  (project.pathOf? key).getD (Path.join project.stagingRoot key)

/-- Analyzes the file of one key. -/
def analyzeFile (analyzer : String) (project : Project) (remaps : RemapTable) (total : Nat)
    (item : String × Nat) : Run FileAnalysis := do
  let (key, index) := item
  Run.tell (.started key index total)
  let path := pathFor project key
  let command := commandFor analyzer path project remaps
  Run.note .info ("Running Slither command: " ++ command.display)
  let analysis ← do
    match ← Run.command command with
    | .ok output => pure ⟨key, path, .completed (diagnostics output)⟩
    | .error error =>
      Run.note .warn ("Failed to analyze contract file: " ++ path ++ " (" ++ error.message ++ ")")
      pure ⟨key, path, .failed ⟨key, path, error.message⟩⟩
  Run.tell (.finished key analysis.output?)
  return analysis

/-- Analyzes the file of every key, in order. -/
def analyzeAll (analyzer : String) (keys : List String) (project : Project) (remaps : RemapTable) :
    Run (List FileAnalysis) :=
  keys.zipIdx.mapM (analyzeFile analyzer project remaps keys.length)

end Analyzer

/-- The result of analyses: what was said about each key, in order, and all source text. -/
def AnalysisResult.ofAnalyses (sources : SourceMap) (analyses : List FileAnalysis) :
    AnalysisResult :=
  let outputs := sources.keys.filterMap fun key =>
    (analyses.find? (·.key == key)).bind FileAnalysis.output?
  ⟨String.join (outputs.map (· ++ "\n")), sources.combined⟩

end AuditStage
