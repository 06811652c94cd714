import AuditStage.Report.Terminal

/-! A report as a Markdown document. -/

namespace AuditStage.Report

/-- A row of a table. -/
def row (cells : List String) : String :=
  "| " ++ " | ".intercalate cells ++ " |"

/-- A text between back ticks. -/
def code (text : String) : String :=
  "`" ++ text ++ "`"

/-- What became of a file, in words. -/
def status (entry : ReportEntry) : String :=
  match entry.error? with
  | none => "analyzed"
  -- A failure without words cannot be told from a success here.
  | some error => if error.toList.isEmpty then "analyzed" else "failed: " ++ error

/-- The row for one file. -/
def entryRow (entry : ReportEntry) : String :=
  row [toString entry.index, code entry.key, code entry.stagedPath, status entry]

/-- The lines for the libraries. -/
def libraryLines (report : Report) : List String :=
  if report.libraries.isEmpty then ["_No library packages detected._"]
  else report.libraries.map fun library => "- " ++ code library

/-- The report as a document. -/
def markdown (report : Report) : String :=
  asLines <|
    ["# Contract Analysis Report", "",
      row ["Field", "Value"], "|-------|-------|",
      row ["Address", code report.address],
      row ["Compiler", code report.compilerVersion],
      row ["Files analyzed", toString report.filesAnalyzed],
      row ["Files failed", toString report.filesFailed],
      row ["Generated", toString report.timestamp],
      row ["Tool version", programVersion], "",
      "## Libraries"] ++
    report.libraryLines ++
    ["", "## Files", "",
      row ["#", "Source", "Staged at", "Status"], "|---|--------|-----------|--------|"] ++
    report.entries.map entryRow ++
    ["", "## Slither Output", "", "```", report.result.slitherResults, "```", "",
      "<details>",
      "<summary>Combined source (" ++ toString report.sourceLines ++ " lines)</summary>", "",
      "```solidity", report.result.combinedSourceCode, "```", "", "</details>"]

end AuditStage.Report
