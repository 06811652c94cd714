import AuditStage.Pipeline

/-! The report on a finished run. -/

namespace AuditStage

/-- What a report tells about one file. -/
structure ReportEntry where
  /-- The place of the file, counted from one. -/
  index : Nat
  key : String
  /-- The path from the staging root where there is one, else the path as it is. -/
  stagedPath : String
  /-- Why the analyzer could not be run, if it could not. -/
  error? : Option String
deriving Repr, DecidableEq

/-- A report on one run. -/
structure Report where
  address : String
  compilerVersion : String
  libraries : List String
  entries : List ReportEntry
  result : AnalysisResult
  /-- When the report was made, in seconds. -/
  timestamp : Nat
deriving Repr, DecidableEq

namespace Report

/-- The entry for the analysis at a place, counted from zero. -/
def entryOf (project : Project) (item : FileAnalysis × Nat) : ReportEntry :=
  let (analysis, index) := item
  ⟨index + 1, analysis.key,
    (Path.relative? analysis.path project.stagingRoot).getD analysis.path, analysis.error?⟩

/-- The report on a run. -/
def ofRun (run : PipelineRun) (timestamp : Nat) : Report :=
  ⟨run.address, run.compilerVersion, run.project.libraries,
    run.analyses.zipIdx.map (entryOf run.project), run.result, timestamp⟩

/-- How many files the analyzer could not be run on. -/
def filesFailed (report : Report) : Nat :=
  (report.entries.filter (·.error?.isSome)).length

/-- How many files the analyzer was run on. -/
def filesAnalyzed (report : Report) : Nat :=
  report.entries.length - report.filesFailed

/-- How many lines the source text has. -/
def sourceLines (report : Report) : Nat :=
  (Text.linesOf report.result.combinedSourceCode).length

end Report

end AuditStage
