import AuditStage.Proofs.Launches
import Mathlib.Data.List.Basic

/-! One analyzer command for every key, in order, whatever comes of the others. -/

namespace AuditStage

/-- What becomes of the file of a key at a path by the reply to its command. -/
def Outcome.ofReply (key path : String) : ToolReply → Outcome
  | .ok output => .completed (Analyzer.diagnostics output)
  | .error error => .failed ⟨key, path, error.message⟩

namespace Analyzer

/-- The analysis of a key that follows from the launch of its command. -/
def analysisOf (project : Project) (key : String) (launch : Launch) : FileAnalysis :=
  ⟨key, pathFor project key, .ofReply key (pathFor project key) launch.reply⟩

/-- What an observer is told about a file that takes its turn. -/
def told (total : Nat) (turn : FileAnalysis × Nat) : List Event :=
  [.started turn.1.key turn.2 total, .finished turn.1.key turn.1.output?]

/-- Between two worlds the files of keys were analyzed, the first of them as the one at a place among
many: each by one command, and with a word to the observer before and after it. -/
structure Swept (analyzer : String) (project : Project) (remaps : RemapTable) (total start : Nat)
    (keys : List String) (launches : List Launch) (before after : World) : Prop where
  ran : Ran launches before after
  active : after.active = before.active
  issued : launches.map (·.command) =
    keys.map fun key => commandFor analyzer (pathFor project key) project remaps
  found : ∀ launch ∈ launches, launch.FoundIn before
  served : Served launches before after
  told : after.events = before.events ++
    ((List.zipWith (analysisOf project) keys launches).zipIdx start).flatMap (told total)

/-- Files that take their turns after the first one go on with the next place. -/
theorem Swept.cons {analyzer : String} {project : Project} {remaps : RemapTable} {total start : Nat}
    {key : String} {keys : List String} {launch : Launch} {launches : List Launch}
    {before between after : World}
    (first : Swept analyzer project remaps total start [key] [launch] before between)
    (others : Swept analyzer project remaps total (start + 1) keys launches between after) :
    Swept analyzer project remaps total start (key :: keys) (launch :: launches) before after where
  ran := first.ran.append others.ran
  active := others.active.trans first.active
  issued := by
    have issued := first.issued
    simp only [List.map_cons, List.map_nil, List.cons.injEq, and_true] at issued
    rw [List.map_cons, List.map_cons, issued, others.issued]
  found := by
    intro other member
    -- The others are launched in the world that the first one has left.
    rcases List.mem_cons.1 member with rfl | later
    · exact first.found other (by simp)
    · exact ⟨(others.found other later).active.trans first.active,
        (others.found other later).disk.trans first.ran.disk⟩
  served := first.served.append others.served
  told := by
    rw [others.told, first.told, List.append_assoc]
    simp

section Sweep

variable (analyzer : String) (project : Project) (remaps : RemapTable) (total : Nat)

/-- A file is analyzed by one command, which never ends the run. -/
theorem analyzeFile_swept (key : String) (index : Nat) (world : World) :
    ∃ launch after, analyzeFile analyzer project remaps total (key, index) world =
        .ok (analysisOf project key launch) after ∧
      Swept analyzer project remaps total index [key] [launch] world after := by
  -- The file is announced and the command is put in the log before the command is run.
  let announced : World := { world with events := world.events ++ [.started key index total] }
  let command := commandFor analyzer (pathFor project key) project remaps
  let noted : World := { announced with
    log := announced.log ++ [⟨.info, "Running Slither command: " ++ command.display⟩] }
  have opened : Run.tell (.started key index total) world = .ok () announced := rfl
  have shown : Run.note .info ("Running Slither command: " ++ command.display) announced =
    .ok () noted := rfl
  have notedRan : Ran [] world noted := (Ran.none world).noted rfl rfl
  have notedServed : Served [] world noted := (Served.none world).noted rfl rfl
  obtain ⟨launch, between, done, ran, active, issued, found⟩ := Run.command_ran command noted
  have served : Served [launch] noted between := Run.command_served (issued ▸ done)
  -- Whatever is put in the log behind the command, the observer hears no more than its end.
  have swept (log : List LogRecord) : Swept analyzer project remaps total index [key] [launch] world
      { between with
        log
        events := between.events ++ [.finished key (analysisOf project key launch).output?] } :=
    { ran := (notedRan.append ran).noted rfl rfl
      active := active
      issued := by rw [List.map_singleton, List.map_singleton, issued]
      found := by simpa using ⟨found.active, found.disk⟩
      served := (notedServed.append served).noted rfl rfl
      told := by
        rw [Run.command_quiet done, List.append_assoc]
        rfl }
  -- The reply decides about the outcome and the log, and about nothing else.
  unfold analyzeFile
  dsimp only
  rw [Effect.bind_of_ok opened, Effect.bind_of_ok shown]
  cases reply : launch.reply with
  | ok output =>
    refine ⟨launch, _, ?_, swept between.log⟩
    simp only [reply, command] at done
    simp only [bind, EStateM.bind, done, analysisOf, reply]
    rfl
  | error error =>
    -- A file that cannot be analyzed is remarked on, and the run goes on.
    let remark : LogRecord := ⟨.warn, "Failed to analyze contract file: " ++ pathFor project key ++
      " (" ++ error.message ++ ")"⟩
    refine ⟨launch, _, ?_, swept (between.log ++ [remark])⟩
    simp only [reply, command] at done
    simp only [bind, EStateM.bind, done, analysisOf, reply]
    rfl

/-- Files are analyzed one by one, whatever becomes of the others. -/
theorem mapM_swept (keys : List String) (start : Nat) (world : World) :
    ∃ launches after, (keys.zipIdx start).mapM (analyzeFile analyzer project remaps total) world =
        .ok (List.zipWith (analysisOf project) keys launches) after ∧
      Swept analyzer project remaps total start keys launches world after := by
  -- The induction is on the keys that are left.
  induction keys generalizing start world with
  | nil =>
    exact ⟨[], world, rfl, .none world, rfl, rfl, by simp, .none world, (List.append_nil _).symm⟩
  | cons key keys ih =>
    -- The first file comes to its end in any case, so the others always get their turn.
    obtain ⟨launch, between, done, first⟩ :=
      analyzeFile_swept analyzer project remaps total key start world
    obtain ⟨launches, after, allDone, others⟩ := ih (start + 1) between
    refine ⟨launch :: launches, after, ?_, first.cons others⟩
    rw [List.zipIdx_cons, List.mapM_cons, Effect.bind_of_ok done, Effect.bind_of_ok allDone]
    rfl

end Sweep

/-- All files are analyzed, each by one command that finds the disk and the version of the start. -/
theorem analyzeAll_ran (analyzer : String) (keys : List String) (project : Project)
    (remaps : RemapTable) (world : World) :
    ∃ launches after, analyzeAll analyzer keys project remaps world =
        .ok (List.zipWith (analysisOf project) keys launches) after ∧
      Ran launches world after ∧ after.active = world.active ∧
      launches.map (·.command) =
        keys.map (fun key => commandFor analyzer (pathFor project key) project remaps) ∧
      ∀ launch ∈ launches, launch.FoundIn world := by
  obtain ⟨launches, after, done, swept⟩ :=
    mapM_swept analyzer project remaps keys.length keys 0 world
  exact ⟨launches, after, done, swept.ran, swept.active, swept.issued, swept.found⟩

/-- Each analysis is of the key whose command it follows from. -/
theorem keys_zipWith (project : Project) {keys : List String} {launches : List Launch}
    (complete : launches.length = keys.length) :
    (List.zipWith (analysisOf project) keys launches).map (·.key) = keys := by
  have first (key : String) (launch : Launch) : (analysisOf project key launch).key = key := rfl
  -- Keys and launches are paired one by one, and there are as many of both.
  induction keys generalizing launches with
  | nil => rfl
  | cons key keys ih =>
    obtain ⟨launch, launches, rfl⟩ := List.exists_cons_of_length_eq_add_one complete
    simpa [first] using ih (Nat.succ.inj complete)

/-- What a launch adds to the findings of a run: nothing where no program could be run. -/
def findings (launch : Launch) : String :=
  match launch.reply with
  | .ok output => diagnostics output ++ "\n"
  | .error _ => ""

/-- The outputs of analyses, each ended by a line feed, are what their launches have brought to light. -/
theorem join_outputs (project : Project) {keys : List String} {launches : List Launch}
    (complete : launches.length = keys.length) :
    String.join (((List.zipWith (analysisOf project) keys launches).filterMap
        FileAnalysis.output?).map (· ++ "\n")) = String.join (launches.map findings) := by
  induction keys generalizing launches with
  | nil => rw [List.length_eq_zero_iff.1 complete]; rfl
  | cons key keys ih =>
    obtain ⟨launch, launches, rfl⟩ := List.exists_cons_of_length_eq_add_one complete
    -- The other files are joined behind what the first one adds.
    have rest := ih (Nat.succ.inj complete)
    -- Only a process that could be launched has something to say.
    cases reply : launch.reply with
    | ok output =>
      have said : (analysisOf project key launch).output? = some (diagnostics output) := by
        simp [analysisOf, Outcome.ofReply, FileAnalysis.output?, reply]
      simp [said, findings, reply, rest]
    | error error =>
      have nothing : (analysisOf project key launch).output? = none := by
        simp [analysisOf, Outcome.ofReply, FileAnalysis.output?, reply]
      simp [nothing, findings, reply, rest]

/-- A result holds what the launches have brought to light, in the order of the keys. -/
theorem slitherResults_eq {sources : SourceMap} {project : Project} {launches : List Launch}
    (complete : launches.length = sources.keys.length) :
    (AnalysisResult.ofAnalyses sources
        (List.zipWith (analysisOf project) sources.keys launches)).slitherResults =
      String.join (launches.map findings) := by
  rw [← join_outputs project complete]
  generalize listed : List.zipWith (analysisOf project) sources.keys launches = analyses
  have keys : analyses.map (·.key) = sources.keys := listed ▸ keys_zipWith project complete
  have distinct : (analyses.map (·.key)).Nodup := keys ▸ sources.distinct
  -- Every analysis is found by its key, for the keys are distinct.
  simp only [AnalysisResult.ofAnalyses, ← keys, List.filterMap_map]
  congr 2
  refine List.filterMap_congr fun analysis member => ?_
  rw [Function.comp_apply, find?_of_mem (·.key) distinct member]
  rfl

end Analyzer

end AuditStage
