import AuditStage.Proofs.Pipeline.Execute
import AuditStage.Proofs.Report.Painted
import AuditStage.Report.Markdown

/-! What the views of a report tell about each file. The entry, the counts and the terminal agree with the
outcome of its analysis, and so does the document, except that it cannot show a failure without words. -/

namespace AuditStage

namespace FileAnalysis

variable {analysis : FileAnalysis} {reason : String}

/-- The analyzer could be run on the file. -/
def IsCompleted (analysis : FileAnalysis) : Prop :=
  ∃ output, analysis.outcome = .completed output

/-- The analyzer could not be run on the file, for a reason. -/
def FailedFor (analysis : FileAnalysis) (reason : String) : Prop :=
  ∃ failure, analysis.outcome = .failed failure ∧ failure.message = reason

/-- An analysis has no error exactly if it was completed. -/
theorem error?_eq_none_iff : analysis.error? = none ↔ analysis.IsCompleted := by
  unfold error? failure? IsCompleted
  cases analysis.outcome <;> simp

/-- The error of an analysis is the reason for which it failed. -/
theorem error?_eq_some_iff : analysis.error? = some reason ↔ analysis.FailedFor reason := by
  unfold error? failure? FailedFor
  cases analysis.outcome <;> simp

end FileAnalysis

namespace Report

variable {entry : ReportEntry} {colored : Bool} {reason : String}

/-- The row for a file with some status. -/
def statusRow (entry : ReportEntry) (status : String) : String :=
  row [toString entry.index, code entry.key, code entry.stagedPath, status]

/-- The line for a file with some remark, the name and the remark each in a style. -/
def remarkLine (nameStyle style : Style) (colored : Bool) (entry : ReportEntry) (remark : String) :
    String :=
  "  " ++ Style.cyan.paint colored ("#" ++ toString entry.index) ++ " " ++
    nameStyle.paint colored entry.key ++ " " ++ style.paint colored remark

/-- The line for a file that the analyzer was run on: its name, and where it is staged. -/
def analyzedLine (colored : Bool) (entry : ReportEntry) : String :=
  remarkLine .white .dimmed colored entry ("(" ++ entry.stagedPath ++ ")")

/-- The line for a file that the analyzer could not be run on: its name, and the reason. -/
def failedLine (colored : Bool) (entry : ReportEntry) (reason : String) : String :=
  remarkLine .red .dimmedRed colored entry ("[failed: " ++ reason ++ "]")

/-- How many entries have a row that says that their file was analyzed. A key with line breaks makes
further lines of the document, which are not counted as rows. -/
def rowsAnalyzed (report : Report) : Nat :=
  report.entries.countP fun entry => entryRow entry = statusRow entry "analyzed"

/-- From the row for a file one can tell its status. -/
theorem statusRow_injective (entry : ReportEntry) : Function.Injective (statusRow entry) := by
  intro status other same
  -- The cells in front of the status are the same, and so is what ends the row.
  simpa [statusRow, row, String.intercalate_cons_of_ne_nil] using same

/-- From the line for a file in given styles one can tell its remark. -/
theorem remarkLine_injective (nameStyle style : Style) (colored : Bool) (entry : ReportEntry) :
    Function.Injective (remarkLine nameStyle style colored entry) := by
  intro remark other same
  -- All that stands before the remark is the same in both lines.
  exact style.paint_injective colored (String.append_right_inj _ |>.1 same)

/-- From the line for a file that the analyzer could not be run on one can tell the reason. -/
theorem failedLine_injective (colored : Bool) (entry : ReportEntry) :
    Function.Injective (failedLine colored entry) := by
  intro reason other same
  have remarks := remarkLine_injective .red .dimmedRed colored entry same
  -- The brackets around the reason are the same as well.
  rwa [String.append_left_inj, String.append_right_inj] at remarks

/-- No line looks both as if the analyzer had been run on the file and as if it had not. -/
theorem analyzedLine_ne_failedLine : analyzedLine colored entry ≠ failedLine colored entry reason := by
  intro same
  unfold analyzedLine failedLine remarkLine at same
  simp only [String.append_assoc, String.append_right_inj] at same
  cases colored with
  | false =>
    -- Without colours the remarks begin with brackets of different kinds.
    simp only [Style.paint, Bool.false_eq_true, if_false, String.append_right_inj] at same
    have first := congrArg (·.toList.head?) same
    simp at first
  | true =>
    -- In colour the names begin with codes of different styles.
    have texts := congrArg String.toList same
    simp only [Style.paint, if_true, String.toList_append, String.toList_ofList,
      List.append_assoc] at texts
    obtain ⟨codes, -⟩ := List.append_inj texts (by decide)
    exact absurd codes (by decide)

/-- A failure is not spelled like a success. -/
theorem failed_ne_analyzed : "failed: " ++ reason ≠ "analyzed" := by
  intro same
  have first := congrArg (·.toList.head?) same
  simp at first

/-- The document says that a file was analyzed if there is no error, and if the error has no words. -/
theorem entryRow_eq_analyzed_iff : entryRow entry = statusRow entry "analyzed" ↔
    entry.error? = none ∨ entry.error? = some "" := by
  show statusRow entry (status entry) = _ ↔ _
  rw [(statusRow_injective entry).eq_iff, status]
  -- The row shows an error only if there is some text to be shown.
  cases entry.error? with
  | none => simp
  | some error =>
    by_cases wordless : error = ""
    · simp [wordless]
    · simp [wordless, failed_ne_analyzed]

/-- The document says for which reason there is no analysis if the reason has words. -/
theorem entryRow_eq_failed_iff : entryRow entry = statusRow entry ("failed: " ++ reason) ↔
    reason ≠ "" ∧ entry.error? = some reason := by
  show statusRow entry (status entry) = _ ↔ _
  rw [(statusRow_injective entry).eq_iff, status]
  cases entry.error? with
  | none => simp [failed_ne_analyzed.symm]
  | some error =>
    by_cases wordless : error = ""
    · -- Such an error is shown as a success, and has no words to be the reason.
      simp [wordless, failed_ne_analyzed.symm]
    · have filled : error = reason → reason ≠ "" := fun same => same ▸ wordless
      simpa [wordless] using filled

/-- The line for an entry without an error is that for a file that was analyzed. -/
theorem entryLine_of_none (faultless : entry.error? = none) (colored : Bool) :
    entryLine colored entry = analyzedLine colored entry := by
  rw [entryLine, faultless]
  rfl

/-- The line for an entry with an error is that for a file that was not analyzed, for this reason. -/
theorem entryLine_of_some (said : entry.error? = some reason) (colored : Bool) :
    entryLine colored entry = failedLine colored entry reason := by
  rw [entryLine, said]
  rfl

/-- The terminal shows a file as analyzed if there is no error. -/
theorem entryLine_eq_analyzed_iff :
    entryLine colored entry = analyzedLine colored entry ↔ entry.error? = none := by
  constructor
  · intro shown
    -- An error would have been shown as one, for the two kinds of lines are apart.
    cases said : entry.error? with
    | none => rfl
    | some error =>
      rw [entryLine_of_some said] at shown
      exact absurd shown.symm analyzedLine_ne_failedLine
  · intro faultless
    exact entryLine_of_none faultless colored

/-- The terminal shows a file as failed for the reason that is its error. -/
theorem entryLine_eq_failed_iff :
    entryLine colored entry = failedLine colored entry reason ↔ entry.error? = some reason := by
  constructor
  · intro shown
    -- The line shows whether there is an error, and by its remark which one.
    cases said : entry.error? with
    | none =>
      rw [entryLine_of_none said] at shown
      exact absurd shown analyzedLine_ne_failedLine
    | some error =>
      rw [entryLine_of_some said] at shown
      rw [failedLine_injective colored entry shown]
  · intro said
    exact entryLine_of_some said colored

/-- The files that are counted as failed are those with an error. -/
theorem filesFailed_eq (report : Report) :
    report.filesFailed = report.entries.countP (·.error?.isSome) :=
  List.countP_eq_length_filter.symm

/-- Every file is counted as analyzed or as failed. -/
theorem filesAnalyzed_add_filesFailed (report : Report) :
    report.filesAnalyzed + report.filesFailed = report.entries.length := by
  have most : report.filesFailed ≤ report.entries.length := List.length_filter_le _ _
  rw [filesAnalyzed, Nat.sub_add_cancel most]

/-- Each entry is shown in a row as analyzed or has an error, and an error without words is both. -/
theorem countP_rows (entries : List ReportEntry) :
    entries.countP (fun entry => entryRow entry = statusRow entry "analyzed") +
        entries.countP (·.error?.isSome) =
      entries.length + entries.countP (·.error? = some "") := by
  -- Entry by entry, both sides grow by the same number.
  induction entries with
  | nil => rfl
  | cons entry entries ih =>
    have shown : entryRow entry = statusRow entry "analyzed" ↔
        entry.error? = none ∨ entry.error? = some "" := entryRow_eq_analyzed_iff
    rw [List.countP_cons, List.countP_cons, List.countP_cons, List.length_cons]
    cases said : entry.error? with
    | none =>
      simp only [shown, said, reduceCtorEq, or_false, decide_true, if_true, Option.isSome_none,
        Bool.false_eq_true, if_false, Nat.add_zero, decide_false]
      omega
    | some error =>
      by_cases wordless : error = ""
      · -- The entry counts on every side: as a row, as failed, as an entry and as wordless.
        simp only [shown, said, wordless, or_true, decide_true, if_true, Option.isSome_some]
        omega
      · simp only [shown, said, reduceCtorEq, Option.some.injEq, wordless, or_self, decide_false,
          Bool.false_eq_true, if_false, Nat.add_zero, Option.isSome_some, if_true]
        omega

/-- The rows that say that a file was analyzed are those of the files that are counted so, and those of
the files with an error without words. -/
theorem rowsAnalyzed_eq (report : Report) :
    report.rowsAnalyzed = report.filesAnalyzed + report.entries.countP (·.error? = some "") := by
  -- Rows and failed files together are as many as the entries, and the wordless ones once more.
  have rows := countP_rows report.entries
  have files := report.filesAnalyzed_add_filesFailed
  rw [← filesFailed_eq] at rows
  unfold rowsAnalyzed
  omega

/-- What an entry and the views of it tell about the analysis of a file: the counts and the terminal
agree with the outcome, and the row shows a failure without words as a success. -/
structure Agrees (analysis : FileAnalysis) (entry : ReportEntry) : Prop where
  key : entry.key = analysis.key
  counted : entry.error?.isSome = true ↔ ¬analysis.IsCompleted
  lineAnalyzed : ∀ colored, entryLine colored entry = analyzedLine colored entry ↔
    analysis.IsCompleted
  lineFailed : ∀ colored reason, entryLine colored entry = failedLine colored entry reason ↔
    analysis.FailedFor reason
  rowAnalyzed : entryRow entry = statusRow entry "analyzed" ↔
    analysis.IsCompleted ∨ analysis.FailedFor ""
  rowFailed : ∀ reason, entryRow entry = statusRow entry ("failed: " ++ reason) ↔
    reason ≠ "" ∧ analysis.FailedFor reason

/-- The entry of an analysis agrees with it, whatever its place. -/
theorem agrees_entryOf (project : Project) (analysis : FileAnalysis) (index : Nat) :
    Agrees analysis (entryOf project (analysis, index)) := by
  -- The error of the entry is that of the analysis, which tells how it came out.
  have error : (entryOf project (analysis, index)).error? = analysis.error? := rfl
  -- Each view is told by the error of the entry, and the error by the outcome.
  exact {
    key := rfl
    counted := by
      rw [error, ← FileAnalysis.error?_eq_none_iff, ← Option.ne_none_iff_isSome]
    lineAnalyzed := fun colored => by
      rw [entryLine_eq_analyzed_iff, error, FileAnalysis.error?_eq_none_iff]
    lineFailed := fun colored reason => by
      rw [entryLine_eq_failed_iff, error, FileAnalysis.error?_eq_some_iff]
    rowAnalyzed := by
      rw [entryRow_eq_analyzed_iff, error, FileAnalysis.error?_eq_none_iff,
        FileAnalysis.error?_eq_some_iff]
    rowFailed := fun reason => by
      rw [entryRow_eq_failed_iff, error, FileAnalysis.error?_eq_some_iff] }

section OfRun

variable (run : PipelineRun) (timestamp : Nat)

/-- The entry at a place is that of the analysis there. -/
theorem getElem?_entries_ofRun (index : Nat) : (ofRun run timestamp).entries[index]? =
    run.analyses[index]?.map fun analysis => entryOf run.project (analysis, index) := by
  -- The entries are made of the analyses with their places.
  show (run.analyses.zipIdx.map (entryOf run.project))[index]? = _
  rw [List.getElem?_map, List.getElem?_zipIdx, Option.map_map, Nat.zero_add]
  rfl

/-- Whatever is counted by the errors of entries can be counted by those of the analyses. -/
theorem countP_entries_ofRun (counts : Option String → Bool) :
    (ofRun run timestamp).entries.countP (fun entry => counts entry.error?) =
      run.analyses.countP (fun analysis => counts analysis.error?) := by
  -- Place by place, the error of the entry is that of the analysis.
  have errors : (ofRun run timestamp).entries.map (·.error?) = run.analyses.map (·.error?) := by
    apply List.ext_getElem?
    intro index
    rw [List.getElem?_map, List.getElem?_map, getElem?_entries_ofRun, Option.map_map]
    rfl
  have same := congrArg (List.countP counts) errors
  rwa [List.countP_map, List.countP_map] at same

/-- Every analysis has one entry. -/
theorem length_entries_ofRun : (ofRun run timestamp).entries.length = run.analyses.length := by
  simp [ofRun]

/-- The files that are counted as failed are those whose analysis has no output. -/
theorem filesFailed_ofRun :
    (ofRun run timestamp).filesFailed = run.analyses.countP (·.output?.isNone) := by
  rw [filesFailed_eq, countP_entries_ofRun run timestamp Option.isSome]
  -- An analysis has an error or an output, and never both.
  congr 1
  funext analysis
  unfold FileAnalysis.error? FileAnalysis.failure? FileAnalysis.output?
  cases analysis.outcome <;> rfl

/-- The rows that say that a file was analyzed are those of the files that were, and those of the files
on which the analyzer could not be run for a reason without words. -/
theorem rowsAnalyzed_ofRun : (ofRun run timestamp).rowsAnalyzed =
    (ofRun run timestamp).filesAnalyzed + run.analyses.countP (·.error? = some "") := by
  rw [rowsAnalyzed_eq, countP_entries_ofRun run timestamp (· = some "")]

/-- As many rows say that a file was analyzed as files were, exactly if no analysis has failed without
words. -/
theorem rowsAnalyzed_eq_iff :
    (ofRun run timestamp).rowsAnalyzed = (ofRun run timestamp).filesAnalyzed ↔
      ∀ analysis ∈ run.analyses, ¬analysis.FailedFor "" := by
  rw [rowsAnalyzed_ofRun, Nat.add_eq_left, List.countP_eq_zero]
  -- The numbers agree exactly if nothing is counted on top.
  refine forall₂_congr fun analysis _ => not_congr ?_
  rw [decide_eq_true_iff, FileAnalysis.error?_eq_some_iff]

/-- The views of a report on a run: the entries are those of the analyses, in order and numbered from one,
each view of an entry tells what became of its file, the counts cover all files, and both the document and
the terminal show every entry once, in order. -/
structure Views (run : PipelineRun) (report : Report) : Prop where
  numbered : report.entries.map (·.index) = List.range' 1 run.analyses.length
  agree : ∀ (index : Nat) (analysis : FileAnalysis), run.analyses[index]? = some analysis →
    ∃ entry, report.entries[index]? = some entry ∧ Agrees analysis entry
  total : report.filesAnalyzed + report.filesFailed = run.analyses.length
  failed : report.filesFailed = run.analyses.countP (·.output?.isNone)
  document : ∃ front back,
    report.markdown = asLines (front ++ report.entries.map entryRow ++ back) ∧
      row ["Files analyzed", toString report.filesAnalyzed] ∈ front ∧
      row ["Files failed", toString report.filesFailed] ∈ front
  terminal : ∀ colored, ∃ front back,
    report.terminal colored = asLines (front ++ report.entries.map (entryLine colored) ++ back)

/-- The views of the report on any run agree with its analyses, but for the rows of files on which the
analyzer could not be run for a reason without words: these say that the file was analyzed. So the document
has as many such rows as it counts files exactly if there is no failure of that kind. -/
theorem ofRun_views : Views run (ofRun run timestamp) ∧
    (ofRun run timestamp).rowsAnalyzed =
      (ofRun run timestamp).filesAnalyzed + run.analyses.countP (·.error? = some "") ∧
    ((ofRun run timestamp).rowsAnalyzed = (ofRun run timestamp).filesAnalyzed ↔
      ∀ analysis ∈ run.analyses, ¬analysis.FailedFor "") := by
  refine ⟨⟨?numbered, ?agree, ?total, filesFailed_ofRun run timestamp, ?document, ?terminal⟩,
    rowsAnalyzed_ofRun run timestamp, rowsAnalyzed_eq_iff run timestamp⟩
  case numbered =>
    show (run.analyses.zipIdx.map (entryOf run.project)).map (·.index) = _
    have own : ReportEntry.index ∘ entryOf run.project = (· + 1) ∘ Prod.snd := rfl
    rw [List.map_map, own, ← List.map_map, List.zipIdx_map_snd, ← List.range'_succ_left]
  case agree =>
    intro index analysis there
    refine ⟨entryOf run.project (analysis, index), ?_, agrees_entryOf run.project analysis index⟩
    rw [getElem?_entries_ofRun, there]
    rfl
  case total =>
    rw [filesAnalyzed_add_filesFailed, length_entries_ofRun]
  case document =>
    -- The counts stand in the table at the top, and the rows behind the list of the libraries.
    exact ⟨_, _, rfl, by simp, by simp⟩
  case terminal =>
    intro colored
    exact ⟨_, _, congrArg asLines (List.append_assoc _ _ _)⟩

end OfRun

/-- A world in which one contract of one file is published, and the analyzer cannot be run on it for a
reason that has no words. -/
def speechlessWorld : World :=
  let replies : List ToolReply :=
    [.ok (.succeeded ""), .ok (.succeeded ""), .ok (.succeeded ""), .error (.described "")]
  { Pipeline.sampleWorld with tools := ⟨replies, none⟩ }

/-- The document on a run says that its one file was analyzed, and counts none. -/
theorem not_rowsAnalyzed_speechlessWorld :
    ¬ ∀ (pipeline : Pipeline) (address : String) (before after : World) (run : PipelineRun)
      (timestamp : Nat), pipeline.execute address before = .ok run after →
        (ofRun run timestamp).rowsAnalyzed = (ofRun run timestamp).filesAnalyzed := by
  intro equal
  let action := Pipeline.samplePipeline.execute "0x1"
  -- The run ends well with an analysis that has failed without a word.
  have outcome : (Effect.outcome action speechlessWorld).toOption.any
      (·.analyses.any (·.error? = some "")) = true := by decide +kernel
  obtain ⟨run, after, ended, told⟩ := Effect.exists_ok_of_any outcome
  obtain ⟨analysis, member, wordless⟩ := List.any_eq_true.1 told
  have none := (rowsAnalyzed_eq_iff run 0).1 (equal _ _ _ after run 0 ended) analysis member
  exact none (FileAnalysis.error?_eq_some_iff.1 (of_decide_eq_true wordless))

end Report

end AuditStage
