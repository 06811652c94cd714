import AuditStage.Report.Markdown
import AuditStage.Session.Arguments
import AuditStage.Session.Banner
import AuditStage.Session.Trouble

/-! A session: what the program does for one command line, and what it prints. -/

namespace AuditStage

/-- What a session can see and change. -/
structure Desk where
  world : World
  /-- What has been printed. -/
  out : String
  /-- What has been printed for errors. -/
  err : String

/-- A part of a session. -/
abbrev Session := EStateM Trouble Desk

/-- What a session depends on besides the world. -/
structure Setting where
  colored : Bool
  /-- The key for the explorer from the environment. -/
  environmentKey : Option String
  /-- The seconds that a report made now is dated by. -/
  now : Nat

namespace Session

/-- Prints a line. -/
def print (line : String) : Session Unit :=
  modify fun desk => { desk with out := desk.out ++ line ++ "\n" }

/-- Prints text as it is. -/
def printText (text : String) : Session Unit :=
  modify fun desk => { desk with out := desk.out ++ text }

/-- Prints a line for errors. -/
def printError (line : String) : Session Unit :=
  modify fun desk => { desk with err := desk.err ++ line ++ "\n" }

/-- Does a run in the session's world. -/
def run {α : Type} (trouble : Failure → Trouble) (action : Run α) : Session α := fun desk =>
  match action desk.world with
  | .ok value world => .ok value { desk with world }
  | .error failure world => .error (trouble failure) { desk with world }

/-- Does something to the disk. -/
def onDisk (trouble : SystemError → Trouble) (action : Disk.Action Unit) : Session Unit :=
  fun desk =>
    match action desk.world.disk with
    | .ok _ disk => .ok () { desk with world := { desk.world with disk } }
    | .error error disk => .error (trouble error) { desk with world := { desk.world with disk } }

/-- Sets up the pipeline that the settings ask for, and its explorer: a client for their endpoint, on
the network that there is. A script in the place of that stays, and stands for whatever an explorer may
answer. -/
def setUp (shared : SharedArgs) : Session Pipeline := do
  let desk ← get
  let settings := do
    let settings ← Settings.load desk.world.disk shared.config
    (settings.override shared.overrides).pipeline
  match settings with
  | .error fault => throw (.settings fault)
  | .ok (pipeline, endpoint) =>
    let explorer :=
      match desk.world.explorer with
      | .http _ network => .http endpoint network
      | scripted => scripted
    set { desk with world := { desk.world with explorer } }
    return pipeline

/-- Writes a report into a directory, which is made if need be, and returns its path. -/
def writeReport (directory name content : String) : Session String := do
  onDisk (.outputDirectory directory) (Disk.makeDirectories directory)
  let path := Path.join directory name
  onDisk .outputFile (Disk.attempt fun disk => disk.withFile path content)
  return path

/-- The ways in which a report can be written. -/
inductive Format where
  | terminal
  | json
  | markdown
deriving Repr, DecidableEq

/-- The format of a name. -/
def Format.ofName? : String → Option Format
  | "terminal" => some .terminal
  | "json" => some .json
  | "markdown" => some .markdown
  | _ => none

/-- Prints a report, or writes it into a directory where its format allows. -/
def deliver (setting : Setting) (format : Format) (output : Option String) (report : Report) :
    Session Unit := do
  let colored := setting.colored
  match format, output with
  | .terminal, _ => printText (report.terminal colored)
  | .json, none => print report.result.prettyText
  | .json, some directory =>
    let path ← writeReport directory "analysis.json" report.result.prettyText
    printError ("[+] Report saved to: " ++ path)
  | .markdown, none => print report.markdown
  | .markdown, some directory =>
    let path ← writeReport directory "analysis_report.md" report.markdown
    print
      (Style.green.paint colored "[+] Report saved to:" ++ " " ++ Style.yellow.paint colored path)

/-- Analyzes an address and reports on it. -/
def analyze (setting : Setting) (address format : String) (output : Option String)
    (shared : SharedArgs) : Session Unit := do
  let colored := setting.colored
  -- With JSON nothing but the result is printed, so that another program can read it.
  let chatty := format ≠ "json"
  if chatty then print (Style.boldCyan.paint colored banner)
  match Format.ofName? format with
  | none => throw (.unknownFormat format)
  | some format =>
    let pipeline ← setUp shared
    if chatty then
      print (Style.boldGreen.paint colored "[*] Analyzing:" ++ " " ++
        Style.yellow.paint colored address)
    let finished ← run (.analysis address) (pipeline.execute address)
    let report := Report.ofRun finished setting.now
    deliver setting format output report
    if chatty then
      print ("\n" ++ Report.rule colored)
      printText (report.summary colored)

/-- The lines that tell about a staged project. -/
def stagedLines (colored : Bool) (staged : StagedRun) : List String :=
  let project := staged.project
  let heading := Style.boldGreen.paint colored
  let origin := if project.preexisted then "(existing, merged)" else "(created)"
  let libraries :=
    if project.libraries.isEmpty then
      ["\n" ++ Style.dimmed.paint colored "[*] No library packages detected."]
    else
      ("\n" ++ heading "[*] Libraries:") ::
        project.libraries.map fun library => "    " ++ Style.cyan.paint colored library
  ["\n" ++ heading "[+] Staged into" ++ " " ++ Style.yellow.paint colored project.stagingRoot] ++
    (project.files.map fun file => "    -> " ++ file.path) ++
    ["\n" ++ heading "[*] Dependency root:" ++ " " ++ project.dependencyRoot ++ " " ++
      Style.dimmed.paint colored origin] ++
    libraries ++
    ["\n" ++ heading "[*] Compiler (explorer):" ++ " " ++ staged.source.compilerVersion,
     heading "[*] Remaps:" ++ " " ++ staged.remaps.argument]

/-- Stages an address and tells what was staged. -/
def stage (setting : Setting) (address : String) (shared : SharedArgs) : Session Unit := do
  let colored := setting.colored
  print (Style.boldCyan.paint colored banner)
  let pipeline ← setUp shared
  print (Style.boldGreen.paint colored "[*] Staging:" ++ " " ++ Style.yellow.paint colored address)
  let staged ← run (.staging address) (pipeline.stage address)
  for line in stagedLines colored staged do
    print line

/-- Does what a command line asks for. -/
def perform (setting : Setting) : Invocation → Session Unit
  | .analyze address format output shared => analyze setting address format output shared
  | .stage address shared => stage setting address shared
  | .version =>
    print (Style.green.paint setting.colored "Contract-Sentinel version:" ++ " " ++
      Style.yellow.paint setting.colored programVersion)

end Session

/-- How a session ended. -/
structure Ending where
  code : Nat
  out : String
  err : String
  world : World
  /-- Why there is not what was asked for. -/
  trouble : Option Trouble

/-- The name of the program. -/
def programName : String :=
  "contract-sentinel"

/-- The line that tells the version, as the named command tells it. -/
def versionLine (args : List String) : String :=
  let command :=
    match args.head? with
    | some word => if Invocation.commandNames.contains word then "-" ++ word else ""
    | none => ""
  programName ++ command ++ " " ++ programVersion ++ "\n"

/-- The session for the words of a command line. -/
def Session.ofArgs (setting : Setting) (world : World) (args : List String) : Ending :=
  match Invocation.parse setting.environmentKey args with
  | .error fault =>
    -- The words for help are not written here.
    ⟨fault.exitCode, if fault = .versionAsked then versionLine args else "", "", world, none⟩
  | .ok invocation =>
    match Session.perform setting invocation ⟨world, "", ""⟩ with
    | .ok _ desk => ⟨0, desk.out, desk.err, desk.world, none⟩
    | .error trouble desk =>
      ⟨1, desk.out, desk.err ++ trouble.account, desk.world, some trouble⟩

end AuditStage
