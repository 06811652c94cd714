import AuditStage.Proofs.Analyzer
import AuditStage.Proofs.Toolchain.Switch

/-! How far a call to analyze an address gets, and which commands it has issued by then. -/

namespace AuditStage.Pipeline

open Effect (Same)
open Toolchain (Managed)

variable {pipeline : Pipeline} {address : String} {before : World}

/-- The command that analyzes the file of a key. -/
def analyzerCommand (pipeline : Pipeline) (project : Project) (remaps : RemapTable) (key : String) :
    Command :=
  Analyzer.commandFor pipeline.analyzer (Analyzer.pathFor project key) project remaps

/-- An address is ready for the tools: its sources are staged, and their compiler version is known. -/
structure Ready (pipeline : Pipeline) (address : String) (before : World) (source : FetchedSource)
    (sources : SourceMap) (project : Project) (remaps : RemapTable) (version : String)
    (staged : World) : Prop where
  fetched : ∃ fetched, fetchAndParse address before = .ok (source, sources) fetched ∧
    pipeline.stageSources sources fetched = .ok (project, remaps) staged
  resolved : Version.resolve? sources source.compilerVersion = some version

/-- Getting ready for the tools runs none of them. -/
theorem Ready.idle {source : FetchedSource} {sources : SourceMap} {project : Project}
    {remaps : RemapTable} {version : String} {staged : World}
    (ready : Ready pipeline address before source sources project remaps version staged) :
    Same World.toolRecord before staged := by
  -- Neither the fetching nor the staging runs a tool.
  obtain ⟨fetched, parsed, built⟩ := ready.fetched
  exact trans_of (Same World.toolRecord) ((fetchAndParse_idle address).of_ok parsed)
    ((stageSources_idle pipeline sources).of_ok built)

/-- How a call to analyze an address can end. -/
inductive Executed (pipeline : Pipeline) (address : String) (before : World) :
    EStateM.Result Failure World PipelineRun → Prop where
  /-- The call fails before it comes to the tools. -/
  | unready {failure : Failure} {after : World} (idle : Same World.toolRecord before after) :
      Executed pipeline address before (.error failure after)
  /-- The compiler version cannot be put in place. -/
  | unswitched {source : FetchedSource} {sources : SourceMap} {project : Project}
      {remaps : RemapTable} {version : String} {staged after : World} {failure : Failure}
      (managing : List Launch)
      (ready : Ready pipeline address before source sources project remaps version staged)
      (managed : Managed pipeline.manager version managing false) (ran : Ran managing staged after)
      (active : after.active = staged.active) :
      Executed pipeline address before (.error failure after)
  /-- The files are analyzed, one by one. -/
  | analyzed {source : FetchedSource} {sources : SourceMap} {project : Project}
      {remaps : RemapTable} {version : String} {staged switched after : World}
      (managing analyzing : List Launch)
      (ready : Ready pipeline address before source sources project remaps version staged)
      (managed : Managed pipeline.manager version managing true)
      (switching : Ran managing staged switched) (ran : Ran analyzing switched after)
      (issued : analyzing.map (·.command) =
        sources.keys.map (pipeline.analyzerCommand project remaps))
      (found : ∀ launch ∈ analyzing, launch.FoundIn switched)
      (inPlace : switched.active = some version) (active : after.active = some version) :
      Executed pipeline address before
        (.ok ⟨address, version, sources, project, remaps,
          List.zipWith (Analyzer.analysisOf project) sources.keys analyzing,
          .ofAnalyses sources
            (List.zipWith (Analyzer.analysisOf project) sources.keys analyzing)⟩ after)

/-- A call to analyze an address ends in one of the ways there are. -/
theorem executed (pipeline : Pipeline) (address : String) (before : World) :
    Executed pipeline address before (pipeline.execute address before) := by
  unfold execute
  -- Every part either fails, and with it the call, or hands on to the next one.
  cases parsed : fetchAndParse address before with
  | error failure after =>
    rw [Effect.bind_of_error parsed]
    exact .unready ((fetchAndParse_idle address).of_error parsed)
  | ok result fetched =>
    obtain ⟨source, sources⟩ := result
    -- What has been done up to here has run no tool, and the same goes for the staging.
    have fetching := (fetchAndParse_idle address).of_ok parsed
    rw [Effect.bind_of_ok parsed]
    dsimp only
    cases built : pipeline.stageSources sources fetched with
    | error failure after =>
      rw [Effect.bind_of_error built]
      have staging := (stageSources_idle pipeline sources).of_error built
      exact .unready (trans_of (Same World.toolRecord) fetching staging)
    | ok result staged =>
      obtain ⟨project, remaps⟩ := result
      have staging := (stageSources_idle pipeline sources).of_ok built
      rw [Effect.bind_of_ok built]
      dsimp only
      cases resolved : Version.resolve? sources source.compilerVersion with
      | none =>
        -- Without a version the call ends before any tool is run.
        have refused : Toolchain.select pipeline.manager sources source.compilerVersion staged =
            .error (.versionUnresolvable source.compilerVersion) staged := by
          simp only [Toolchain.select, resolved]
          rfl
        rw [Effect.bind_of_error refused]
        exact .unready (trans_of (Same World.toolRecord) fetching staging)
      | some version =>
        have ready : Ready pipeline address before source sources project remaps version staged :=
          ⟨⟨fetched, parsed, built⟩, resolved⟩
        -- The manager puts the version in place or fails to, and only then are the files analyzed.
        obtain ⟨managing, switched, done, switching, managed, active, ended⟩ :=
          Toolchain.select_ran pipeline.manager resolved staged
        cases done with
        | false =>
          obtain ⟨failure, ended⟩ := ended
          rw [Effect.bind_of_error ended]
          exact .unswitched managing ready managed switching active
        | true =>
          -- With the version in place each file gets its command, and the run comes to its end.
          obtain ⟨analyzing, after, analyzed, ran, kept, issued, found⟩ :=
            Analyzer.analyzeAll_ran pipeline.analyzer sources.keys project remaps switched
          have switched : Toolchain.select pipeline.manager sources source.compilerVersion staged =
            .ok version switched := ended
          rw [Effect.bind_of_ok switched, Effect.bind_of_ok analyzed]
          exact .analyzed managing analyzing ready managed switching (ran.noted rfl rfl) issued found
            active (kept.trans active)

/-- A world in which one contract of one file is published, for two calls. -/
def sampleWorld : World :=
  let reply : ExplorerReply :=
    .ok ⟨"1", "OK", .entries [⟨"contract A {}", "v0.8.19+commit.7dd6d404", "A"⟩]⟩
  .fresh (.atHome ["work"]) (.scripted [("0x1", [reply, reply])]) ⟨[], none⟩

/-- A pipeline that stages its files in a directory of its own. -/
def samplePipeline : Pipeline :=
  ⟨.nested "/work/out", defaultAnalyzer, defaultManager⟩

end AuditStage.Pipeline
