import AuditStage.Analyzer
import AuditStage.Explorer.Fetch
import AuditStage.Staging.Build
import AuditStage.Toolchain.Select

/-! The whole way from an address to a result: fetch, parse, stage, select a compiler, analyze. -/

namespace AuditStage

/-- What a pipeline is set up with. -/
structure Pipeline where
  layout : Layout
  analyzer : String
  manager : String
deriving Repr, DecidableEq

/-- Everything that a finished run has to show. -/
structure PipelineRun where
  /-- The address as it was given. -/
  address : String
  /-- The compiler version that was in place during the analysis. -/
  compilerVersion : String
  sources : SourceMap
  project : Project
  remaps : RemapTable
  analyses : List FileAnalysis
  result : AnalysisResult

/-- A project that was staged and not analyzed. -/
structure StagedRun where
  source : FetchedSource
  sources : SourceMap
  project : Project
  remaps : RemapTable

namespace Pipeline

/-- The analyzer that is run when no other is named. -/
def defaultAnalyzer : String :=
  "slither"

/-- The version manager that is used when no other is named. -/
def defaultManager : String :=
  "solc-select"

/-- The published sources of an address. -/
def fetchAndParse (address : String) : Run (FetchedSource × SourceMap) := do
  let address := Text.trimmed address
  if address.toList.isEmpty then throw (.sourceUnavailable "" "empty contract address")
  else
    let source ← Fetch.source address
    match Payload.parse source.sourceCode source.contractName with
    | .error cause => throw (.malformedSourceMap cause)
    | .ok sources =>
      if Payload.isStructured source.sourceCode then
        Run.note .info ("Parsed source map with " ++ toString sources.size ++ " file(s)")
      return (source, sources)

/-- Builds the project of sources and resolves its remappings. -/
def stageSources (pipeline : Pipeline) (sources : SourceMap) : Run (Project × RemapTable) := do
  let project ← Staging.build pipeline.layout sources
  let remaps ← Run.remaps project sources.remappings
  return (project, remaps)

/-- Fetches, stages and analyzes an address. -/
def execute (pipeline : Pipeline) (address : String) : Run PipelineRun := do
  let (source, sources) ← fetchAndParse address
  let (project, remaps) ← pipeline.stageSources sources
  let version ← Toolchain.select pipeline.manager sources source.compilerVersion
  let analyses ← Analyzer.analyzeAll pipeline.analyzer sources.keys project remaps
  let failed := (analyses.filter (·.output?.isNone)).length
  Run.note .info
    ("Analysis of " ++ address ++ " complete: " ++ toString analyses.length ++ " file(s), " ++
      toString failed ++ " failed")
  return ⟨address, version, sources, project, remaps, analyses,
    AnalysisResult.ofAnalyses sources analyses⟩

/-- Fetches and stages an address, without any tool. -/
def stage (pipeline : Pipeline) (address : String) : Run StagedRun := do
  let (source, sources) ← fetchAndParse address
  let (project, remaps) ← pipeline.stageSources sources
  return ⟨source, sources, project, remaps⟩

/-- The result for an address. -/
def tryAnalyze (pipeline : Pipeline) (address : String) : Run AnalysisResult :=
  PipelineRun.result <$> pipeline.execute address

/-- The result for an address, or nothing once a failure has been logged. -/
def analyze (pipeline : Pipeline) (address : String) : Run (Option AnalysisResult) :=
  tryCatch (some <$> pipeline.tryAnalyze address) fun failure => do
    Run.note .error
      ("Analysis of " ++ address ++ " failed [" ++ failure.kind ++ "]: " ++ failure.message)
    return none

end Pipeline

end AuditStage
