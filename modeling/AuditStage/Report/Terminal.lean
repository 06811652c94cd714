import AuditStage.Report.Basic
import AuditStage.Report.Style

/-! A report as it is shown on a terminal. -/

namespace AuditStage.Report

/-- Lines with a line feed after each. -/
def asLines (lines : List String) : String :=
  String.join (lines.map (· ++ "\n"))

/-- A rule across the page. -/
def rule (colored : Bool) : String :=
  Style.cyan.paint colored (Text.repeated 60 "=")

/-- The line for one file. -/
def entryLine (colored : Bool) (entry : ReportEntry) : String :=
  let number := Style.cyan.paint colored ("#" ++ toString entry.index)
  match entry.error? with
  | none =>
    "  " ++ number ++ " " ++ Style.white.paint colored entry.key ++ " " ++
      Style.dimmed.paint colored ("(" ++ entry.stagedPath ++ ")")
  | some error =>
    "  " ++ number ++ " " ++ Style.red.paint colored entry.key ++ " " ++
      Style.dimmedRed.paint colored ("[failed: " ++ error ++ "]")

/-- The lines for what the analyzer found. -/
def findings (report : Report) (colored : Bool) : List String :=
  if Text.isAllBlank report.result.slitherResults then
    [Style.green.paint colored "[+] Slither produced no output."]
  else (Text.linesOf report.result.slitherResults).map ("  " ++ ·)

/-- The report on the files and on what the analyzer found. -/
def terminal (report : Report) (colored : Bool) : String :=
  asLines <|
    ["\n" ++ Style.boldGreen.paint colored "[*] Staged Files:", rule colored] ++
    report.entries.map (entryLine colored) ++
    ["\n" ++ Style.boldGreen.paint colored "[*] Slither Output:", rule colored] ++
    report.findings colored

/-- The counts of a report on one line, and a warning if files are missing. -/
def summary (report : Report) (colored : Bool) : String :=
  let libraries := report.libraries.length
  let counts :=
    "[*] Summary: " ++ toString report.filesAnalyzed ++ " analyzed | " ++
      toString report.filesFailed ++ " failed | solc " ++ report.compilerVersion ++ " | " ++
      toString libraries ++ " librar" ++ (if libraries = 1 then "y" else "ies")
  let warning := "[!] " ++ toString report.filesFailed ++ " file(s) could not be analyzed"
  asLines <|
    Style.bold.paint colored counts ::
      (if 0 < report.filesFailed then [Style.boldYellow.paint colored warning] else [])

end AuditStage.Report
