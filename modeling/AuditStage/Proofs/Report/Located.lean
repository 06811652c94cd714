import AuditStage.Proofs.Path.Relative
import AuditStage.Proofs.Remap.Targets
import AuditStage.Proofs.Report.Views
import AuditStage.Proofs.Staging.Stageable

/-! Where the report shows a file to be staged: the path that it shows leads there from the staging root. -/

namespace AuditStage

/-- An entry shows by which path a file is reached from a directory: joined to that and without its
detours it is the path of the file, and it leads up unless the file lies at or below the directory. -/
structure ReportEntry.LeadsTo (entry : ReportEntry) (directory path : String) : Prop where
  reached : Path.components (Path.normal (Path.join directory entry.stagedPath)) = Path.components path
  level : .up ∉ Path.components entry.stagedPath ↔ Path.isBelow path directory = true

/-- The entry for the analysis of a file leads to it from the staging root, if neither path leads up. -/
theorem Report.leadsTo_entryOf {project : Project} {analysis : FileAnalysis} (index : Nat)
    (rooted : Path.isAbsolute project.stagingRoot = true)
    (flat : .up ∉ Path.components project.stagingRoot)
    (absolute : Path.isAbsolute analysis.path = true) (level : .up ∉ Path.components analysis.path) :
    (entryOf project (analysis, index)).LeadsTo project.stagingRoot analysis.path := by
  obtain ⟨relative, told, reached, below⟩ := Path.relative?_leads absolute level rooted flat
  -- The path that leads there can be told, so the entry shows that and not the path of the file.
  have shown : (entryOf project (analysis, index)).stagedPath = relative := by
    show (Path.relative? analysis.path project.stagingRoot).getD analysis.path = relative
    rw [told, Option.getD_some]
  exact ⟨by rw [shown, reached], by rw [shown, below]⟩

namespace Staging

variable {layout : Layout} {sources : SourceMap} {project : Project} {world final : World}

/-- The entry at the place of any analysis of a staged file leads from the staging root to the file, be it
of a package or of the project itself, wherever the dependency root lies. -/
theorem build_located (ended : build layout sources world = .ok project final) {run : PipelineRun}
    (staged : run.project = project) (timestamp : Nat) :
    ∀ (index : Nat) (analysis : FileAnalysis), run.analyses[index]? = some analysis →
      ∀ file ∈ project.files, analysis.path = file.path →
        ∃ entry, (Report.ofRun run timestamp).entries[index]? = some entry ∧
          entry.LeadsTo project.stagingRoot file.path := by
  intro index analysis there file member same
  obtain ⟨_, _, _, _, _, _, built⟩ := build_ok ended
  -- Neither the staging root nor the path of the file ever leads up.
  obtain ⟨⟨rooted, flat⟩, -⟩ := built.roots_level
  obtain ⟨-, level⟩ := built.files_below member
  -- What is shown of an analysis is told by its own path, which is that of the file.
  have absolute := build_absolute ended file member
  rw [← same] at absolute level ⊢
  refine ⟨Report.entryOf project (analysis, index), ?_,
    Report.leadsTo_entryOf index rooted flat absolute level⟩
  rw [Report.getElem?_entries_ofRun, there, staged]
  rfl

/-- The file of a package beside the staging root is shown by a path that leads up once, and without the
dot and the slash that its key has too many. -/
theorem mixedSources_located :
    ∃ (run : PipelineRun) (final : World) (entry : ReportEntry),
      build ⟨"/work/out", "/work/deps"⟩ mixedSources emptyWorld = .ok run.project final ∧
        (Report.ofRun run 0).entries = [entry] ∧ entry.stagedPath = "../deps/@x/B.sol" ∧
        entry.LeadsTo run.project.stagingRoot "/work/deps/@x/./B.sol" := by
  let file : StagedFile := ⟨"@x//./B.sol", "/work/deps/@x/./B.sol", some "@x"⟩
  let action := build ⟨"/work/out", "/work/deps"⟩ mixedSources
  -- A run of the build gives the project, and the file of the package is in it.
  have outcome : (Effect.outcome action emptyWorld).toOption.any (fun project =>
      file ∈ project.files ∧
        Path.relative? file.path project.stagingRoot = some "../deps/@x/B.sol") = true := by
    decide +kernel
  obtain ⟨project, final, ended, told⟩ := Effect.exists_ok_of_any outcome
  obtain ⟨member, relative⟩ := of_decide_eq_true told
  let analysis : FileAnalysis := ⟨file.key, file.path, .completed ""⟩
  let run : PipelineRun :=
    ⟨"0x1", "0.8.19", mixedSources, project, ⟨[]⟩, [analysis], .ofAnalyses mixedSources [analysis]⟩
  -- The analysis of the package file is the only one, and so stands at the first place.
  have located := build_located ended (rfl : run.project = project) 0
  obtain ⟨entry, there, leads⟩ := located 0 analysis rfl file member rfl
  have shown : Report.entryOf project (analysis, 0) = entry := Option.some.inj there
  refine ⟨run, final, entry, ended, congrArg (fun other => [other]) shown, ?_, leads⟩
  rw [← shown]
  exact congrArg (Option.getD · file.path) relative

end Staging

end AuditStage
