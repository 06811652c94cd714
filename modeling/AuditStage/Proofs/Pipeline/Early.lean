import AuditStage.Proofs.Payload.Accepted
import AuditStage.Proofs.Pipeline.Execute
import AuditStage.Proofs.Staging.Course

/-! Calls that fail before anything is staged: they leave the disk and the tools as they found them. -/

namespace AuditStage

open Effect (Fails Keeps Same)

/-- A failure that comes before anything is staged: nothing was fetched, what was fetched could not be
read, or a key must not be staged. -/
def Failure.isEarly : Failure → Bool
  | .sourceUnavailable _ _ | .gatewayFailure _ | .fetch _ | .unsafePath _ => true
  -- Two keys are found to lead to one path only while their files are written.
  | .malformedSourceMap (.sharedPath _ _ _) => false
  | .malformedSourceMap _ => true
  | .versionUnresolvable _ | .toolchainSwitch _ _ | .io _ => false

/-- A failure that comes of work on the disk. -/
def Failure.IsLate (failure : Failure) : Prop :=
  failure.isEarly = false

namespace Run

variable {allowed : Failure → Prop}

/-- Adding to the log never fails. -/
theorem note_fails (level : Level) (text : String) : Fails allowed (note level text) :=
  .of_ok fun _ => ⟨_, _, rfl⟩

/-- Work on the disk fails for the reason that the disk gives. -/
theorem onDisk_fails {α : Type} (action : Disk.Action α) :
    Fails Failure.IsLate (onDisk action) := by
  intro world failure final ended
  obtain ⟨error, rfl⟩ := onDisk_error ended
  rfl

/-- Reading from the disk fails for the reason that the disk gives. -/
theorem fromDisk_fails {α : Type} (read : Disk → Except SystemError α) :
    Fails Failure.IsLate (fromDisk read) := by
  intro world failure final ended
  obtain ⟨error, rfl⟩ := fromDisk_error ended
  rfl

/-- Resolving the remappings of a project never fails. -/
theorem remaps_fails (project : Project) (declared : List String) :
    Fails allowed (Run.remaps project declared) := by
  -- Texts that describe no rule are only remarked on.
  refine Fails.bind (.forIn (fun raw _ => ?_) _) fun _ => .pure _
  exact (note_fails _ _).bind fun _ => .pure _

end Run

namespace Staging

/-- Once the keys have been looked at, a build fails only in its work on the disk. -/
theorem build_fails_late (layout : Layout) (sources : SourceMap) :
    Fails Failure.IsLate (do
      let stagingRoot ← resetRoot layout.stagingRoot
      let staged ← stageOwn stagingRoot sources
      let (dependencyRoot, preexisted) ← openDependencyRoot layout stagingRoot
      finish stagingRoot dependencyRoot preexisted sources staged) := by
  -- Besides the disk there is only the path that two keys share, which is no early failure.
  exact build_composes Fails.composes Run.onDisk_fails Run.fromDisk_fails Run.note_fails .get
    (fun _ _ _ => .throw rfl) layout sources

/-- A build that fails early has not begun: a key must not be staged, wherever it stands. -/
theorem build_of_isEarly {layout : Layout} {sources : SourceMap} {world final : World}
    {failure : Failure} (early : failure.isEarly = true)
    (ended : build layout sources world = .error failure final) : final = world := by
  -- The keys are looked at first, and that leaves the world as it is.
  unfold build at ended
  -- Either all keys pass, or the build ends at the one that does not.
  rcases requireStageable_cases sources.keys world with ⟨passed, -⟩ | ⟨key, -, -, refused⟩
  · -- All keys may be staged, so the failure is a late one.
    rw [Effect.bind_of_ok passed] at ended
    have late : failure.isEarly = false := build_fails_late layout sources world failure final ended
    rw [early] at late
    cases late
  · rw [Effect.bind_of_error refused] at ended
    cases ended
    rfl

end Staging

/-- A published text that is refused is refused early, before anything is staged. -/
theorem Payload.isEarly_of_parse {payload contractName : String} {cause : Malformed}
    (refused : parse payload contractName = .error cause) :
    (Failure.malformedSourceMap cause).isEarly = true := by
  unfold parse at refused
  split at refused
  · -- None of the reasons to refuse a text is that two keys lead to one path.
    rename_i structured
    cases refused_of_ofJson (head?_unwrap structured) refused <;> rfl
  · cases refused

namespace Toolchain

/-- A failure to put a version in place. -/
def IsSwitch (failure : Failure) : Prop :=
  ∃ version fault, failure = .toolchainSwitch version fault

variable {allowed : Failure → Prop}

/-- Running a command never fails; what comes of it is an answer. -/
theorem command_fails (command : Command) :
    Fails allowed (Run.command command) :=
  .of_ok fun _ => ⟨_, _, rfl⟩

section Switch

variable {version : String} (fits : ∀ fault, allowed (.toolchainSwitch version fault))

include fits

/-- The manager fails to do something with a version in that this version is not put in place. -/
theorem manage_fails (manager action : String) : Fails allowed (manage manager action version) := by
  refine (command_fails _).bind fun reply => ?_
  -- A command that does not start and one that exits with an error fail alike.
  cases reply with
  | error error => exact .throw (fits _)
  | ok output =>
    dsimp only
    split
    · exact .throw (fits _)
    · exact .pure _

/-- Putting a version in place, installed or not, fails in that this version is not put in place. -/
theorem activate_fails (manager : String) : Fails allowed (activate manager version) := by
  -- Listing the versions never fails: without a listing none counts as installed.
  have lists : Fails allowed (isInstalled manager version) := by
    refine (command_fails _).bind fun reply => ?_
    cases reply <;> exact .pure _
  have places : Fails allowed (putInPlace manager version) :=
    (manage_fails fits _ _).bind fun _ => (Fails.of_ok fun _ => ⟨_, _, rfl⟩).bind fun _ =>
      Run.note_fails _ _
  -- Only a version that is not installed yet is installed first.
  refine lists.bind fun installed => ?_
  cases installed with
  | true => exact places
  | false => exact (Run.note_fails _ _).bind fun _ => (manage_fails fits _ _).bind fun _ => places

end Switch

/-- Without a version to be found, nothing is done; else it is the switch to it that may fail. -/
theorem select_error {manager reported : String} {sources : SourceMap} {world final : World}
    {failure : Failure} (ended : select manager sources reported world = .error failure final) :
    (Version.resolve? sources reported = none ∧ failure = .versionUnresolvable reported ∧
      final = world) ∨
      ∃ version fault, Version.resolve? sources reported = some version ∧
        failure = .toolchainSwitch version fault := by
  -- The version is looked for in the sources and the reply alone.
  cases resolved : Version.resolve? sources reported with
  | none =>
    simp only [select, resolved] at ended
    cases ended
    exact .inl ⟨rfl, rfl, rfl⟩
  | some version =>
    simp only [select, resolved] at ended
    -- Behind the version there is one step that can fail, and it is the switch.
    have fails : Fails (fun failure => ∃ fault, failure = .toolchainSwitch version fault) (do
        Run.note .info ("solc version: " ++ version)
        activate manager version
        return version) :=
      (Run.note_fails _ _).bind fun _ =>
        (activate_fails (fun fault => ⟨fault, rfl⟩) _).bind fun _ => .pure _
    obtain ⟨fault, switch⟩ := fails world failure final ended
    exact .inr ⟨version, fault, rfl, switch⟩

end Toolchain

namespace Pipeline

/-- Staging that fails early has not begun. -/
theorem stageSources_of_isEarly {pipeline : Pipeline} {sources : SourceMap} {world final : World}
    {failure : Failure} (early : failure.isEarly = true)
    (ended : pipeline.stageSources sources world = .error failure final) : final = world := by
  -- Only the build can fail here.
  cases built : Staging.build pipeline.layout sources world with
  | error other between =>
    rw [stageSources, Effect.bind_of_error built] at ended
    cases ended
    exact Staging.build_of_isEarly early built
  | ok project between =>
    -- The remappings are resolved without fail.
    rw [stageSources, Effect.bind_of_ok built] at ended
    have never : Fails (fun _ => False) (do
        let remaps ← Run.remaps project sources.remappings
        return (project, remaps)) :=
      (Run.remaps_fails _ _).bind fun _ => .pure _
    exact (never _ _ _ ended).elim

/-- How a call can fail that fetches an address, stages it and goes on from there. -/
inductive Stopped {α : Type} (pipeline : Pipeline) (address : String) (before : World)
    (next : FetchedSource → SourceMap → Project → RemapTable → Run α) : Failure → World → Prop where
  /-- Nothing has been staged yet. -/
  | unstaged {failure : Failure} {after : World} (same : Same World.besideExplorer before after) :
      Stopped pipeline address before next failure after
  /-- The staging has begun, and fails. -/
  | staging {failure : Failure} {after : World} (late : failure.IsLate)
      (idle : Same World.toolRecord before after) : Stopped pipeline address before next failure after
  /-- All is staged, and what comes next fails. -/
  | staged {source : FetchedSource} {sources : SourceMap} {project : Project} {remaps : RemapTable}
      {failure : Failure} {between after : World} (idle : Same World.toolRecord before between)
      (ended : next source sources project remaps between = .error failure after) :
      Stopped pipeline address before next failure after

/-- A call that fetches an address, stages it and goes on from there fails in one of these ways. -/
theorem stopped {α : Type} {pipeline : Pipeline} {address : String} {before after : World}
    {failure : Failure} (next : FetchedSource → SourceMap → Project → RemapTable → Run α)
    (ended : (do
      let (source, sources) ← fetchAndParse address
      let (project, remaps) ← pipeline.stageSources sources
      next source sources project remaps) before = .error failure after) :
    Stopped pipeline address before next failure after := by
  -- The parts of the call end it one after the other.
  cases parsed : fetchAndParse address before with
  | error other between =>
    rw [Effect.bind_of_error parsed] at ended
    cases ended
    exact .unstaged ((fetchAndParse_keeps address).of_error parsed)
  | ok result fetched =>
    -- The sources are known from here on, and nothing has been staged.
    obtain ⟨source, sources⟩ := result
    have fetching := (fetchAndParse_keeps address).of_ok parsed
    have idle := (fetchAndParse_idle address).of_ok parsed
    rw [Effect.bind_of_ok parsed] at ended
    dsimp only at ended
    cases staged : pipeline.stageSources sources fetched with
    | error other between =>
      rw [Effect.bind_of_error staged] at ended
      cases ended
      -- An early failure shows that the staging has not begun.
      cases early : failure.isEarly with
      | true => exact .unstaged (stageSources_of_isEarly early staged ▸ fetching)
      | false =>
        have staging := (stageSources_idle pipeline sources).of_error staged
        exact .staging early (trans_of (Same World.toolRecord) idle staging)
    | ok result between =>
      rw [Effect.bind_of_ok staged] at ended
      have staging := (stageSources_idle pipeline sources).of_ok staged
      exact .staged (trans_of (Same World.toolRecord) idle staging) ended

/-- What a call to analyze an address does once all is staged. -/
def analyzeStaged (pipeline : Pipeline) (address : String) (source : FetchedSource)
    (sources : SourceMap) (project : Project) (remaps : RemapTable) : Run PipelineRun := do
  let version ← Toolchain.select pipeline.manager sources source.compilerVersion
  let analyses ← Analyzer.analyzeAll pipeline.analyzer sources.keys project remaps
  let failed := (analyses.filter (·.output?.isNone)).length
  Run.note .info
    ("Analysis of " ++ address ++ " complete: " ++ toString analyses.length ++ " file(s), " ++
      toString failed ++ " failed")
  return ⟨address, version, sources, project, remaps, analyses,
    AnalysisResult.ofAnalyses sources analyses⟩

/-- A call to analyze an address fetches it, stages it and goes on from there. -/
theorem execute_eq (pipeline : Pipeline) (address : String) :
    pipeline.execute address = (do
      let (source, sources) ← fetchAndParse address
      let (project, remaps) ← pipeline.stageSources sources
      pipeline.analyzeStaged address source sources project remaps) :=
  rfl

/-- Once all is staged, a call fails only for its compiler version: either there is none to be found,
and nothing has been done, or it cannot be put in place. -/
theorem analyzeStaged_error {pipeline : Pipeline} {address : String} {source : FetchedSource}
    {sources : SourceMap} {project : Project} {remaps : RemapTable} {world final : World}
    {failure : Failure}
    (ended : pipeline.analyzeStaged address source sources project remaps world =
      .error failure final) :
    (failure = .versionUnresolvable source.compilerVersion ∧ final = world) ∨
      Toolchain.IsSwitch failure := by
  -- The version is chosen before any file is analyzed.
  unfold analyzeStaged at ended
  cases selected : Toolchain.select pipeline.manager sources source.compilerVersion world with
  | error other between =>
    rw [Effect.bind_of_error selected] at ended
    cases ended
    rcases Toolchain.select_error selected with ⟨-, missing⟩ | ⟨version, fault, -, switch⟩
    · exact .inl missing
    · exact .inr ⟨version, fault, switch⟩
  | ok version between =>
    -- The analysis itself tells what went wrong in its result, and never fails.
    obtain ⟨analyzing, after, analyzed, -⟩ :=
      Analyzer.analyzeAll_ran pipeline.analyzer sources.keys project remaps between
    rw [Effect.bind_of_ok selected, Effect.bind_of_ok analyzed] at ended
    cases ended

/-- A call to analyze an address fails before or during its staging, or for its compiler version. -/
theorem execute_stopped {pipeline : Pipeline} {address : String} {before after : World}
    {failure : Failure} (ended : pipeline.execute address before = .error failure after) :
    Same World.besideExplorer before after ∨
      failure.IsLate ∧ (Same World.toolRecord before after ∨ Toolchain.IsSwitch failure) := by
  rw [execute_eq] at ended
  -- Behind the staging only the switch to a compiler version can fail.
  cases stopped (pipeline.analyzeStaged address) ended with
  | unstaged same => exact .inl same
  | staging late idle => exact .inr ⟨late, .inl idle⟩
  | staged idle ended =>
    rcases analyzeStaged_error ended with ⟨rfl, rfl⟩ | ⟨version, fault, rfl⟩
    · exact .inr ⟨rfl, .inl idle⟩
    · exact .inr ⟨rfl, .inr ⟨version, fault, rfl⟩⟩

/-- A call to stage an address fails before or during its staging. -/
theorem stage_stopped {pipeline : Pipeline} {address : String} {before after : World}
    {failure : Failure} (ended : pipeline.stage address before = .error failure after) :
    Same World.besideExplorer before after ∨ failure.IsLate := by
  have stopped := stopped (fun source sources project remaps =>
    (pure ⟨source, sources, project, remaps⟩ : Run StagedRun)) ended
  -- Once all is staged, there is nothing left that could fail.
  cases stopped with
  | unstaged same => exact .inl same
  | staging late idle => exact .inr late
  | staged idle ended => cases ended

/-- A blank address is refused before anything is asked for. -/
theorem fetchAndParse_blank {address : String} (blank : Text.isAllBlank address = true)
    (world : World) :
    fetchAndParse address world =
      .error (.sourceUnavailable "" "empty contract address") world := by
  simp only [fetchAndParse, Text.trimmed_of_isAllBlank blank]
  rfl

/-- A call that fails early leaves the disk, the tools and their record as they were, whichever key or
reply it fails for; a published text that is refused is such a failure. A call that finds no compiler
version has run no command, and a blank address is refused before the explorer is asked. -/
theorem early_failure_spares (pipeline : Pipeline) (address : String) (before : World) :
    (∀ failure after, failure.isEarly = true →
      (pipeline.execute address before = .error failure after ∨
        pipeline.stage address before = .error failure after) →
      after.disk = before.disk ∧ after.launches = before.launches ∧
        Same World.besideExplorer before after) ∧
    (∀ payload contractName cause, Payload.parse payload contractName = .error cause →
      (Failure.malformedSourceMap cause).isEarly = true) ∧
    (∀ reported after,
      pipeline.execute address before = .error (.versionUnresolvable reported) after →
      after.launches = before.launches) ∧
    (Text.isAllBlank address = true →
      pipeline.execute address before =
        .error (.sourceUnavailable "" "empty contract address") before ∧
      pipeline.stage address before =
        .error (.sourceUnavailable "" "empty contract address") before) := by
  refine ⟨?spared, fun _ _ _ => Payload.isEarly_of_parse, ?unresolved, ?blank⟩
  case spared =>
    -- What comes with the staging or after it is no early failure.
    intro failure after early ended
    have notLate : ¬failure.IsLate := by simp [Failure.IsLate, early]
    have same : Same World.besideExplorer before after := by
      rcases ended with ended | ended
      · exact (execute_stopped ended).resolve_right fun late => notLate late.1
      · exact (stage_stopped ended).resolve_right notLate
    exact ⟨same.view fun beside => beside.1, same.view fun beside => beside.2.2.2.1, same⟩
  case unresolved =>
    intro reported after ended
    rcases execute_stopped ended with same | ⟨-, idle | ⟨version, fault, other⟩⟩
    · exact same.view fun beside => beside.2.2.2.1
    · exact idle.view Prod.fst
    · cases other
  case blank =>
    intro blank
    have refused := fetchAndParse_blank blank before
    exact ⟨Effect.bind_of_error refused, Effect.bind_of_error refused⟩

/-- A world in which the last of two published keys leads out of the staging root, where a file is left
from before. -/
def strayWorld : World :=
  let published :=
    "\x7b\"A.sol\":\x7b\"content\":\"a\"\x7d,\"../B.sol\":\x7b\"content\":\"b\"\x7d\x7d"
  let disk := ((Disk.atHome ["work"]).put ["work", "out"] .directory).put ["work", "out", "Old.sol"]
    (.file "old")
  .fresh disk (.scripted [("0x1", [.ok ⟨"1", "OK",
    .entries [⟨published, "v0.8.19+commit.7dd6d404", "A"⟩]⟩])]) ⟨[], none⟩

/-- The key is refused before the file from before is removed, and so is an address of blanks. -/
theorem strayWorld_spared :
    (∃ failure after, samplePipeline.execute "0x1" strayWorld = .error failure after ∧
      failure.message = "Refusing to stage unsafe source path: ../B.sol" ∧
      after.disk = strayWorld.disk ∧ after.launches = []) ∧
    samplePipeline.execute " \t" strayWorld =
      .error (.sourceUnavailable "" "empty contract address") strayWorld := by
  -- A run shows that the key is refused, and the rest is read off from that.
  have outcome : (match samplePipeline.execute "0x1" strayWorld with
    | .ok _ _ => false
    | .error failure _ => decide (failure.isEarly = true ∧
        failure.message = "Refusing to stage unsafe source path: ../B.sol")) = true := by
    decide +kernel
  split at outcome
  · cases outcome
  · rename_i failure after ended
    obtain ⟨early, told⟩ := of_decide_eq_true outcome
    obtain ⟨disk, launches, -⟩ :=
      (early_failure_spares samplePipeline "0x1" strayWorld).1 failure after early (.inl ended)
    have blank : Text.isAllBlank " \t" = true := by decide
    exact ⟨⟨failure, after, ended, told, disk, launches⟩,
      ((early_failure_spares samplePipeline " \t" strayWorld).2.2.2 blank).1⟩

end Pipeline

end AuditStage
