import AuditStage.Proofs.Disk.Making
import AuditStage.Proofs.Pipeline.Execute
import AuditStage.Session.Basic

/-! Sessions that are asked for JSON: what they print and where they leave the result, and that they
print nothing when they fail. -/

namespace AuditStage.Session

variable {α : Type} {desk : Desk} {shared : SharedArgs} {address : String} {world : World}

/-- A part of a session stops in the world that its run has led to. -/
theorem run_of_error (desk : Desk) {trouble : Failure → Trouble} {action : Run α} {failure : Failure}
    {after : World} (ended : action desk.world = .error failure after) :
    run trouble action desk = .error (trouble failure) { desk with world := after } := by
  simp only [run, ended]

/-- A part of a session goes on in the world that its run has led to. -/
theorem run_of_ok (desk : Desk) {trouble : Failure → Trouble} {action : Run α} {value : α}
    {after : World} (ended : action desk.world = .ok value after) :
    run trouble action desk = .ok value { desk with world := after } := by
  simp only [run, ended]

/-- A part of a session stops with the disk that its work has left behind. -/
theorem onDisk_of_error (desk : Desk) {trouble : SystemError → Trouble} {action : Disk.Action Unit}
    {error : SystemError} {disk : Disk} (ended : action desk.world.disk = .error error disk) :
    onDisk trouble action desk =
      .error (trouble error) { desk with world := { desk.world with disk } } := by
  simp only [onDisk, ended]

/-- A part of a session goes on with the disk that its work has left behind. -/
theorem onDisk_of_ok (desk : Desk) {trouble : SystemError → Trouble} {action : Disk.Action Unit}
    {disk : Disk} (ended : action desk.world.disk = .ok () disk) :
    onDisk trouble action desk = .ok () { desk with world := { desk.world with disk } } := by
  simp only [onDisk, ended]

/-- Setting up a pipeline prints nothing: it gives the explorer its place, or stops for the settings. -/
theorem setUp_cases (shared : SharedArgs) (desk : Desk) :
    (∃ pipeline explorer,
      setUp shared desk = .ok pipeline { desk with world := { desk.world with explorer } }) ∨
      ∃ fault, setUp shared desk = .error (.settings fault) desk := by
  have looked : (get : Session Desk) desk = .ok desk desk := rfl
  -- Only the settings can stop it, and they are read before anything is changed.
  unfold setUp
  rw [Effect.bind_of_ok looked]
  generalize (do
    let settings ← Settings.load desk.world.disk shared.config
    (settings.override shared.overrides).pipeline : Except SettingsFault _) = settings
  cases settings with
  | error fault => exact .inr ⟨fault, rfl⟩
  | ok found => exact .inl ⟨found.1, _, rfl⟩

/-- What is done to the disk to save a text in a directory, which is made if need be. -/
def saving (directory name content : String) : Disk.Action Unit := do
  Disk.makeDirectories directory
  Disk.attempt fun disk => disk.withFile (Path.join directory name) content

/-- A text that is saved can be read where it was saved. -/
theorem content_of_saving {directory name content : String} {disk saved : Disk}
    (ended : saving directory name content disk = .ok () saved) :
    saved.content (Path.join directory name) = .ok content := by
  -- The file is written last, and nothing is done to the disk after that.
  obtain ⟨_, made, -, last⟩ := Effect.bind_ok ended
  exact Disk.content_ok_iff.2 (Disk.content_of_withFile (Disk.attempt_ok last))

/-- A report is written as its text is saved, and nothing is printed. -/
theorem writeReport_of_ok {directory name content : String} {disk : Disk}
    (saved : saving directory name content desk.world.disk = .ok () disk) :
    writeReport directory name content desk =
      .ok (Path.join directory name) { desk with world := { desk.world with disk } } := by
  obtain ⟨_, made, making, writing⟩ := Effect.bind_ok saved
  let between : Desk := { desk with world := { desk.world with disk := made } }
  -- First the directory is made and then the file is written, each without a word.
  unfold writeReport
  rw [Effect.bind_of_ok (onDisk_of_ok desk making)]
  exact Effect.bind_of_ok (onDisk_of_ok between writing)

/-- Writing a report stops where its text cannot be saved, and nothing is printed. -/
theorem writeReport_of_error {directory name content : String} {error : SystemError} {disk : Disk}
    (unsaved : saving directory name content desk.world.disk = .error error disk) :
    ∃ trouble, writeReport directory name content desk =
      .error trouble { desk with world := { desk.world with disk } } := by
  unfold writeReport
  cases making : Disk.makeDirectories directory desk.world.disk with
  | error other left =>
    -- Without the directory the text is not written at all.
    rw [saving, Effect.bind_of_error making] at unsaved
    cases unsaved
    exact ⟨_, Effect.bind_of_error (onDisk_of_error desk making)⟩
  | ok _ made =>
    let between : Desk := { desk with world := { desk.world with disk := made } }
    rw [saving, Effect.bind_of_ok making] at unsaved
    rw [Effect.bind_of_ok (onDisk_of_ok desk making)]
    exact ⟨_, Effect.bind_of_error (onDisk_of_error between unsaved)⟩

/-- With JSON a session sets up its pipeline, runs it and delivers the report, and does nothing else. -/
theorem analyze_json (setting : Setting) (address : String) (output : Option String)
    (shared : SharedArgs) :
    analyze setting address "json" output shared = (do
      let pipeline ← setUp shared
      let finished ← run (.analysis address) (pipeline.execute address)
      deliver setting .json output (Report.ofRun finished setting.now)) := by
  -- The banner, the word before the start and the summary belong to the other formats.
  unfold analyze
  simp [Format.ofName?]

/-- The settings are in order, and the pipeline that they ask for analyzes an address: this is what it
comes to, and the world that it leaves. -/
def Analyzed (shared : SharedArgs) (address : String) (world : World) (finished : PipelineRun)
    (after : World) : Prop :=
  ∃ pipeline desk, setUp shared ⟨world, "", ""⟩ = .ok pipeline desk ∧
    pipeline.execute address desk.world = .ok finished after

/-- Once a pipeline is set up, an analysis comes to what the pipeline comes to. -/
theorem analyzed_iff {pipeline : Pipeline} {finished : PipelineRun} {after : World}
    (ready : setUp shared ⟨world, "", ""⟩ = .ok pipeline desk) :
    Analyzed shared address world finished after ↔
      pipeline.execute address desk.world = .ok finished after := by
  constructor
  · -- The settings ask for one pipeline only.
    rintro ⟨other, between, ready', ended⟩
    rw [ready] at ready'
    cases ready'
    exact ended
  · intro ended
    exact ⟨pipeline, desk, ready, ended⟩

/-- An analysis comes to one result. -/
theorem Analyzed.unique {finished finished' : PipelineRun} {after after' : World}
    (one : Analyzed shared address world finished after)
    (other : Analyzed shared address world finished' after') :
    finished = finished' ∧ after = after' := by
  -- Both come from the one pipeline that the settings ask for.
  obtain ⟨pipeline, desk, ready, ended⟩ := one
  rw [analyzed_iff ready, ended] at other
  cases other
  exact ⟨rfl, rfl⟩

/-- With JSON a result is printed on lines of its own where no directory is named. -/
theorem deliver_printed (setting : Setting) (report : Report) (desk : Desk) :
    deliver setting .json none report desk =
      .ok () { desk with out := desk.out ++ report.result.prettyText ++ "\n" } :=
  rfl

/-- With JSON nothing is printed where the result is saved, but for a line on the error output. -/
theorem deliver_saved (setting : Setting) (report : Report) (desk : Desk) {directory : String}
    {disk : Disk}
    (saved : saving directory "analysis.json" report.result.prettyText desk.world.disk =
      .ok () disk) :
    ∃ err, deliver setting .json (some directory) report desk =
      .ok () { desk with err, world := { desk.world with disk } } :=
  ⟨_, Effect.bind_of_ok (writeReport_of_ok saved)⟩

/-- With JSON nothing is printed where the result cannot be saved. -/
theorem deliver_unsaved (setting : Setting) (report : Report) (desk : Desk) {directory : String}
    {disk : Disk} {error : SystemError}
    (unsaved : saving directory "analysis.json" report.result.prettyText desk.world.disk =
      .error error disk) :
    ∃ trouble, deliver setting .json (some directory) report desk =
      .error trouble { desk with world := { desk.world with disk } } := by
  -- The line on the error output comes after the writing, and is not reached.
  obtain ⟨trouble, stopped⟩ := writeReport_of_error unsaved
  exact ⟨trouble, Effect.bind_of_error stopped⟩

/-- How a session ends once what it is asked for has been done or has failed. -/
def endingOf : EStateM.Result Trouble Desk Unit → Ending
  | .ok _ desk => ⟨0, desk.out, desk.err, desk.world, none⟩
  | .error trouble desk => ⟨1, desk.out, desk.err ++ trouble.account, desk.world, some trouble⟩

/-- A session whose words are understood ends as what they ask for does. -/
theorem ofArgs_of_parse {setting : Setting} {args : List String} {invocation : Invocation}
    (asked : Invocation.parse setting.environmentKey args = .ok invocation) (world : World) :
    ofArgs setting world args = endingOf (perform setting invocation ⟨world, "", ""⟩) := by
  simp only [ofArgs, asked]
  -- The outcome of what was asked for is all that the ending tells.
  cases perform setting invocation ⟨world, "", ""⟩ <;> rfl

/-- What comes of a session that is asked for JSON. -/
inductive JsonOutcome (shared : SharedArgs) (address : String) (output : Option String)
    (world : World) : EStateM.Result Trouble Desk Unit → Prop where
  /-- There is no result, because of the settings or of a failure on the way to it. -/
  | failed {trouble : Trouble} {after : World}
      (none : ∀ finished after, ¬ Analyzed shared address world finished after) :
      JsonOutcome shared address output world (.error trouble ⟨after, "", ""⟩)
  /-- The result is printed. -/
  | printed {finished : PipelineRun} {after : World}
      (analyzed : Analyzed shared address world finished after) (bare : output = none) :
      JsonOutcome shared address output world
        (.ok () ⟨after, finished.result.prettyText ++ "\n", ""⟩)
  /-- The result is saved in a directory. -/
  | saved {finished : PipelineRun} {after : World} {directory err : String} {disk : Disk}
      (analyzed : Analyzed shared address world finished after) (named : output = some directory)
      (saved : saving directory "analysis.json" finished.result.prettyText after.disk = .ok () disk) :
      JsonOutcome shared address output world (.ok () ⟨{ after with disk }, "", err⟩)
  /-- The result cannot be saved in the directory. -/
  | unsaved {finished : PipelineRun} {after : World} {directory : String} {disk : Disk}
      {error : SystemError} {trouble : Trouble}
      (analyzed : Analyzed shared address world finished after) (named : output = some directory)
      (unsaved : saving directory "analysis.json" finished.result.prettyText after.disk =
        .error error disk) :
      JsonOutcome shared address output world (.error trouble ⟨{ after with disk }, "", ""⟩)

/-- A session that is asked for JSON comes to one of these. -/
theorem analyze_outcome (setting : Setting) (shared : SharedArgs) (address : String)
    (output : Option String) (world : World) :
    JsonOutcome shared address output world
      (analyze setting address "json" output shared ⟨world, "", ""⟩) := by
  -- The session goes from stage to stage, and a stage that fails leaves the output as it is: empty.
  rw [analyze_json]
  rcases setUp_cases shared ⟨world, "", ""⟩ with ⟨pipeline, explorer, ready⟩ | ⟨fault, stopped⟩
  · rw [Effect.bind_of_ok ready]
    cases ended : pipeline.execute address { world with explorer } with
    | error failure after =>
      rw [Effect.bind_of_error (run_of_error ⟨{ world with explorer }, "", ""⟩ ended)]
      -- A result would be what the pipeline has ended with, and it has failed.
      refine .failed fun finished after analyzed => ?_
      rw [analyzed_iff ready, ended] at analyzed
      cases analyzed
    | ok finished after =>
      have analyzed : Analyzed shared address world finished after := (analyzed_iff ready).2 ended
      rw [Effect.bind_of_ok (run_of_ok ⟨{ world with explorer }, "", ""⟩ ended)]
      show JsonOutcome shared address output world
        (deliver setting .json output (Report.ofRun finished setting.now) ⟨after, "", ""⟩)
      cases output with
      | none =>
        -- What is printed is all of the output, since nothing was printed before.
        rw [deliver_printed, String.empty_append]
        exact .printed analyzed rfl
      | some directory =>
        -- The report is delivered where its text is saved, and only there.
        cases done : saving directory "analysis.json" finished.result.prettyText after.disk with
        | ok _ disk =>
          obtain ⟨err, delivered⟩ := deliver_saved setting (Report.ofRun finished setting.now)
            ⟨after, "", ""⟩ done
          rw [delivered]
          exact .saved analyzed rfl done
        | error error disk =>
          obtain ⟨trouble, stopped⟩ := deliver_unsaved setting (Report.ofRun finished setting.now)
            ⟨after, "", ""⟩ done
          rw [stopped]
          exact .unsaved analyzed rfl done
  · rw [Effect.bind_of_error stopped]
    refine .failed ?_
    -- Without settings there is no pipeline that could have given a result.
    rintro finished after ⟨pipeline, desk, ready, -⟩
    rw [stopped] at ready
    cases ready

namespace JsonOutcome

variable {output : Option String} {result : EStateM.Result Trouble Desk Unit}
  (outcome : JsonOutcome shared address output world result)

include outcome

/-- The code is zero exactly if there is a result and, where a directory is named, it is saved there. -/
theorem code_eq_zero_iff : (endingOf result).code = 0 ↔
    ∃ finished after, Analyzed shared address world finished after ∧
      ∀ directory, output = some directory → ∃ disk,
        saving directory "analysis.json" finished.result.prettyText after.disk = .ok () disk := by
  cases outcome with
  | failed none =>
    constructor
    · intro zero
      exact absurd zero Nat.one_ne_zero
    · -- A result is just what there is none of.
      rintro ⟨finished, after, analyzed, -⟩
      exact absurd analyzed (none finished after)
  | printed analyzed bare =>
    refine ⟨fun _ => ⟨_, _, analyzed, fun directory named => ?_⟩, fun _ => rfl⟩
    -- No directory is named, so there is nowhere to save it.
    rw [bare] at named
    cases named
  | saved analyzed named saved =>
    refine ⟨fun _ => ⟨_, _, analyzed, fun directory same => ?_⟩, fun _ => rfl⟩
    obtain rfl := Option.some.inj (named.symm.trans same)
    exact ⟨_, saved⟩
  | unsaved analyzed named unsaved =>
    constructor
    · intro zero
      exact absurd zero Nat.one_ne_zero
    · -- The result that could be saved would be this one, and it cannot.
      rintro ⟨finished, after, analyzed', saves⟩
      obtain ⟨rfl, rfl⟩ := analyzed.unique analyzed'
      obtain ⟨disk, saved⟩ := saves _ named
      rw [unsaved] at saved
      cases saved

/-- With code zero the result is printed, or nothing is printed and it stands in a file of the directory. -/
theorem delivered (zero : (endingOf result).code = 0) :
    ∃ finished after, Analyzed shared address world finished after ∧
      (output = none → (endingOf result).out = finished.result.prettyText ++ "\n") ∧
      ∀ directory, output = some directory → (endingOf result).out = "" ∧
        (endingOf result).world.disk.content (Path.join directory "analysis.json") =
          .ok finished.result.prettyText := by
  cases outcome with
  | failed none => exact absurd zero Nat.one_ne_zero
  | printed analyzed bare =>
    refine ⟨_, _, analyzed, fun _ => rfl, fun directory named => ?_⟩
    rw [bare] at named
    cases named
  | saved analyzed named saved =>
    refine ⟨_, _, analyzed, fun bare => ?_, fun directory same => ⟨rfl, ?_⟩⟩
    · rw [named] at bare
      cases bare
    · -- The directory that was named is the one in which the text was saved.
      obtain rfl := Option.some.inj (named.symm.trans same)
      exact content_of_saving saved
  | unsaved analyzed named unsaved => exact absurd zero Nat.one_ne_zero

/-- With any other code nothing is printed. -/
theorem silent (failed : (endingOf result).code ≠ 0) : (endingOf result).out = "" := by
  -- Text is printed in one case only, and that one ends with code zero.
  cases outcome with
  | failed none => rfl
  | printed analyzed bare => exact absurd rfl failed
  | saved analyzed named saved => rfl
  | unsaved analyzed named unsaved => rfl

end JsonOutcome

/-- A session that is asked for JSON ends with code zero exactly if there is a result and, where a
directory is named, it is saved there. Then its output is the result's text and a line break, or nothing
where a directory is named, which holds that text in a file; and a session that ends with another code
has printed nothing. -/
theorem ofArgs_json {setting : Setting} {args : List String} {output : Option String}
    (asked : Invocation.parse setting.environmentKey args =
      .ok (.analyze address "json" output shared)) (world : World) :
    let ending := ofArgs setting world args
    (ending.code = 0 ↔ ∃ finished after, Analyzed shared address world finished after ∧
      ∀ directory, output = some directory → ∃ disk,
        saving directory "analysis.json" finished.result.prettyText after.disk = .ok () disk) ∧
    (ending.code = 0 → ∃ finished after, Analyzed shared address world finished after ∧
      (output = none → ending.out = finished.result.prettyText ++ "\n") ∧
      ∀ directory, output = some directory → ending.out = "" ∧
        ending.world.disk.content (Path.join directory "analysis.json") =
          .ok finished.result.prettyText) ∧
    (ending.code ≠ 0 → ending.out = "") := by
  have ends : ofArgs setting world args =
      endingOf (analyze setting address "json" output shared ⟨world, "", ""⟩) :=
    ofArgs_of_parse asked world
  have outcome := analyze_outcome setting shared address output world
  rw [ends]
  exact ⟨outcome.code_eq_zero_iff, outcome.delivered, outcome.silent⟩

/-- Words that ask for JSON in a directory. -/
def sampleWords : List String :=
  ["analyze", "0x1", "--format=json", "--output", "/work/report", "--staging-dir", "/work/out"]

/-- What a session for them depends on: the key comes from the environment. -/
def sampleSetting : Setting :=
  ⟨false, some "key", 0⟩

/-- The settings that the words give. -/
def sampleShared : SharedArgs :=
  ⟨none, some "key", some "/work/out", none, none, none⟩

/-- A world whose settings name an explorer behind a secure connection, with one contract to show. -/
def publishedWorld : World :=
  let settings := "api_url = \"https://[2001:db8::1]/api\""
  let entry := "\x7b\"SourceCode\":\"contract A\",\"CompilerVersion\":\"v0.8.19\",\"ContractName\":\"A\"\x7d"
  let body := "\x7b\"status\":\"1\",\"message\":\"OK\",\"result\":[" ++ entry ++ "]\x7d"
  .fresh ((Disk.atHome ["work"]).put ["work", "sentinel.toml"] (.file settings))
    (.http ⟨"", ""⟩ ⟨true, [⟨200, body, none⟩]⟩) ⟨[], none⟩

/-- A session for the words, which asks the explorer over the network, prints nothing and leaves its
result in the directory. -/
theorem sampleWords_json :
    Invocation.parse sampleSetting.environmentKey sampleWords =
        .ok (.analyze "0x1" "json" (some "/work/report") sampleShared) ∧
      (ofArgs sampleSetting publishedWorld sampleWords).code = 0 ∧
      ∃ finished after, Analyzed sampleShared "0x1" publishedWorld finished after ∧
        (ofArgs sampleSetting publishedWorld sampleWords).out = "" ∧
        (ofArgs sampleSetting publishedWorld sampleWords).world.disk.content
          "/work/report/analysis.json" = .ok finished.result.prettyText := by
  have asked : Invocation.parse sampleSetting.environmentKey sampleWords =
      .ok (.analyze "0x1" "json" (some "/work/report") sampleShared) := by decide +kernel
  -- The explorer is asked, and the text is saved in the directory.
  have zero : (ofArgs sampleSetting publishedWorld sampleWords).code = 0 := by decide +kernel
  obtain ⟨-, delivers, -⟩ := ofArgs_json asked publishedWorld
  obtain ⟨finished, after, analyzed, -, saves⟩ := delivers zero
  exact ⟨asked, zero, finished, after, analyzed, saves "/work/report" rfl⟩

end AuditStage.Session
