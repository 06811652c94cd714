import AuditStage.Proofs.Analyzer

/-! One file that the analyzer cannot be run on, or that it has something else to say about, makes a
difference to no other. -/

namespace AuditStage

namespace World

/-- A world whose tools follow a script. -/
def scripted (world : World) (replies : List ToolReply) : World :=
  { world with tools := { world.tools with replies } }

/-- The place in the script of the reply that the command at an index takes, if it can be started. -/
def slot? (world : World) (commands : List Command) (index : Nat) : Option Nat :=
  (commands[index]?.filter fun command => (world.commandFault? command).isNone).map fun _ =>
    world.taken (commands.take index)

section Slots

variable {world : World} {commands : List Command} {index : Nat}

/-- A command takes a reply exactly if it can be started. -/
theorem slot?_eq_some {place : Nat} : world.slot? commands index = some place ↔
    (∃ command, commands[index]? = some command ∧ world.commandFault? command = none) ∧
      world.taken (commands.take index) = place := by
  simp [slot?, Option.filter_eq_some_iff]

/-- What is taken rises by one behind a command that takes a reply. -/
theorem taken_take_succ {place : Nat} (taken : world.slot? commands index = some place) :
    world.taken (commands.take (index + 1)) = place + 1 := by
  obtain ⟨⟨command, found, starts⟩, before⟩ := slot?_eq_some.1 taken
  -- The command behind the others starts as well, and so counts for one.
  rw [List.take_add_one, taken_append, before, found]
  simp [World.taken, starts]

/-- No reply is taken by two commands. -/
theorem slot?_inj {other place : Nat} (taken : world.slot? commands index = some place)
    (again : world.slot? commands other = some place) : index = other := by
  -- Behind the earlier one of two commands more is taken than what comes before it.
  have later {early late : Nat} (first : world.slot? commands early = some place)
      (second : world.slot? commands late = some place) : ¬early < late := by
    intro before
    have risen := taken_take_succ first
    have same := (slot?_eq_some.1 second).2
    have more : world.taken (commands.take (early + 1)) ≤ world.taken (commands.take late) :=
      (List.take_sublist_take_left before).countP_le
    omega
  exact Nat.le_antisymm (Nat.not_lt.1 (later again taken)) (Nat.not_lt.1 (later taken again))

/-- If every program can be found, each command takes the reply at its own index. -/
theorem slot?_of_programs (programs : world.tools.programs = none) (within : index < commands.length) :
    world.slot? commands index = some index := by
  -- With every program to be found, there is no command that fails to start.
  have starts (command : Command) : world.commandFault? command = none := by
    simp only [commandFault?, programs]
  refine slot?_eq_some.2 ⟨⟨commands[index], List.getElem?_eq_getElem within, starts _⟩, ?_⟩
  rw [taken, List.countP_eq_length.2 fun command _ => by rw [starts]; rfl, List.length_take]
  exact Nat.min_eq_left (Nat.le_of_lt within)

/-- There is one place at most where a reply is taken: its own, if every program can be found. -/
theorem slot?_place (world : World) (commands : List Command) (j : Nat) :
    ∃ place, (world.tools.programs = none → place = j) ∧
      ∀ index, world.slot? commands index = some j → index = place := by
  -- If some command takes the reply, its index is the place; if none does, any place will do.
  by_cases taken : ∃ place, world.slot? commands place = some j
  · obtain ⟨place, taken⟩ := taken
    refine ⟨place, fun programs => ?_, fun index again => slot?_inj again taken⟩
    obtain ⟨⟨command, found, -⟩, -⟩ := slot?_eq_some.1 taken
    have within : place < commands.length := (List.getElem?_eq_some_iff.1 found).1
    rw [slot?_of_programs programs within] at taken
    exact Option.some.inj taken
  · exact ⟨j, fun _ => rfl, fun index again => absurd ⟨index, again⟩ taken⟩

end Slots

end World

namespace Analyzer

/-- An analysis tells what came of a launch: it is of the path that the command names first, it has failed
if and only if no program could be run, with the words for the reason, and else holds the findings. -/
structure Reports (analysis : FileAnalysis) (launch : Launch) : Prop where
  located : launch.command.args.head? = some analysis.path
  failed : ∀ failure, analysis.failure? = some failure ↔ ∃ error, launch.reply = .error error ∧
    failure = ⟨analysis.key, analysis.path, error.message⟩
  completed : ∀ output, analysis.outcome = .completed output ↔
    ∃ result, launch.reply = .ok result ∧ output = diagnostics result

/-- Keys were analyzed one by one: each by the command that is meant for it, which was given the next reply
of the script or could not be started, each with an analysis that tells what came of its own launch, and
each with a word to the observer before and after. -/
structure OneByOne (keys : List String) (commands : List Command) (before : World)
    (analyses : List FileAnalysis) (after : World) : Prop where
  issued : after.commands = before.commands ++ commands
  keyed : analyses.map (·.key) = keys
  reported : ∃ launches, after.launches = before.launches ++ launches ∧
    Served launches before after ∧ List.Forall₂ Reports analyses launches
  observed : after.events = before.events ++ analyses.zipIdx.flatMap fun (analysis, index) =>
    [.started analysis.key index keys.length, .finished analysis.key analysis.output?]

/-- An analysis that follows from a launch tells what came of it. -/
theorem analysisOf_reports {analyzer key : String} {project : Project} {remaps : RemapTable}
    {launch : Launch} (issued : launch.command = commandFor analyzer (pathFor project key) project remaps) :
    Reports (analysisOf project key launch) launch where
  located := by rw [issued]; rfl
  failed := by
    intro failure
    -- Only a reply that is an error is told as a failure.
    cases reply : launch.reply with
    | ok output => simp [analysisOf, FileAnalysis.failure?, Outcome.ofReply, reply]
    | error error =>
      simp [analysisOf, FileAnalysis.failure?, Outcome.ofReply, reply, eq_comm]
  completed := by
    intro output
    cases reply : launch.reply <;> simp [analysisOf, Outcome.ofReply, reply, eq_comm]

/-- Every analysis tells what came of its own launch, if the launches are of the commands for the keys. -/
theorem reports_zipWith {analyzer : String} {project : Project} {remaps : RemapTable} {keys : List String}
    {launches : List Launch} (issued : launches.map (·.command) =
      keys.map fun key => commandFor analyzer (pathFor project key) project remaps) :
    List.Forall₂ Reports (List.zipWith (analysisOf project) keys launches) launches := by
  -- Keys and launches are taken off their lists together, one by one.
  induction keys generalizing launches with
  | nil => rw [List.map_eq_nil_iff.1 issued]; exact .nil
  | cons key keys ih =>
    obtain ⟨launch, launches, rfl, first, others⟩ := List.map_eq_cons_iff.1 issued
    exact .cons (analysisOf_reports first) (ih others)

/-- Whatever replies a script has, the keys are analyzed one by one. -/
theorem Swept.oneByOne {analyzer : String} {project : Project} {remaps : RemapTable}
    {keys : List String} {launches : List Launch} {before after : World}
    (swept : Swept analyzer project remaps keys.length 0 keys launches before after) :
    OneByOne keys (keys.map fun key => commandFor analyzer (pathFor project key) project remaps) before
      (List.zipWith (analysisOf project) keys launches) after where
  issued := by rw [World.commands, swept.ran.launched, List.map_append, swept.issued]; rfl
  keyed := keys_zipWith project (by simpa using congrArg List.length swept.issued)
  reported := ⟨launches, swept.ran.launched, swept.served, reports_zipWith swept.issued⟩
  observed := swept.told

section TwoScripts

variable {world after final : World} {script other : List ToolReply} {j index : Nat}
  {launches others : List Launch}

/-- A command that does not take the reply in which two scripts differ is given the same one by both. -/
theorem replyTo_agrees {commands : List Command} {command : Command}
    (differ : ∀ place, place ≠ j →
      (world.scripted script).tools.replyAt place = (world.scripted other).tools.replyAt place)
    (listed : commands[index]? = some command) (spared : world.slot? commands index ≠ some j) :
    (world.scripted script).replyTo (world.taken (commands.take index)) command =
      (world.scripted other).replyTo (world.taken (commands.take index)) command := by
  -- A command that cannot be started takes no reply from either script.
  have either (replies : List ToolReply) :
      (world.scripted replies).commandFault? command = world.commandFault? command := rfl
  unfold World.replyTo
  rw [either, either]
  cases fault : world.commandFault? command with
  | some error => rfl
  | none =>
    -- A command that starts takes the reply at its own place, where the scripts agree.
    have taken : world.slot? commands index = some (world.taken (commands.take index)) :=
      World.slot?_eq_some.2 ⟨⟨command, listed, fault⟩, rfl⟩
    exact differ _ fun same => spared (same ▸ taken)

/-- The launches of the same commands by two scripts bring the same reply, but for the command that takes
the one in which the scripts differ. -/
theorem reply_agrees (first : Served launches (world.scripted script) after)
    (second : Served others (world.scripted other) final)
    (issued : launches.map (·.command) = others.map (·.command))
    (differ : ∀ place, place ≠ j →
      (world.scripted script).tools.replyAt place = (world.scripted other).tools.replyAt place)
    (spared : world.slot? (launches.map (·.command)) index ≠ some j) :
    launches[index]?.map (·.reply) = others[index]?.map (·.reply) := by
  have same : launches[index]?.map (·.command) = others[index]?.map (·.command) := by
    rw [← List.getElem?_map, issued, List.getElem?_map]
  -- Both runs have a launch at the index, or none of them has.
  cases found : launches[index]? with
  | none =>
    rw [found, Option.map_none] at same
    rw [Option.map_eq_none_iff.1 same.symm]
  | some launch =>
    rw [found, Option.map_some] at same
    obtain ⟨twin, met, command⟩ := Option.map_eq_some_iff.1 same.symm
    -- Up to this command the two runs have taken the same number of replies.
    have before : (others.take index).map (·.command) = (launches.map (·.command)).take index := by
      rw [List.map_take, issued]
    have listed : (launches.map (·.command))[index]? = some launch.command := by
      rw [List.getElem?_map, found, Option.map_some]
    -- What a launch was given is told by the script, by what was taken before and by its command.
    have replied := first.replied index launch found
    have again := second.replied index twin met
    rw [List.map_take] at replied
    rw [before, command] at again
    rw [met, Option.map_some, Option.map_some, replied, again]
    exact congrArg some (replyTo_agrees differ listed spared)

end TwoScripts

/-- Analyses agree wherever the replies do. -/
theorem analyses_agree {project : Project} {keys : List String} {launches others : List Launch}
    {index : Nat} (same : launches[index]?.map (·.reply) = others[index]?.map (·.reply)) :
    (List.zipWith (analysisOf project) keys launches)[index]? =
      (List.zipWith (analysisOf project) keys others)[index]? := by
  -- Nothing but the key and the reply is told by an analysis.
  have told (launches : List Launch) : (List.zipWith (analysisOf project) keys launches)[index]? =
      keys[index]?.bind fun key => (launches[index]?.map (·.reply)).map fun reply =>
        ⟨key, pathFor project key, .ofReply key (pathFor project key) reply⟩ := by
    rw [List.getElem?_zipWith]
    cases keys[index]? <;> cases launches[index]? <;> rfl
  rw [told, told, same]

/-- Whatever script the tools follow, all keys are analyzed one by one. -/
theorem analyzeAll_oneByOne (analyzer : String) (keys : List String) (project : Project)
    (remaps : RemapTable) (world : World) :
    ∃ launches after, analyzeAll analyzer keys project remaps world =
        .ok (List.zipWith (analysisOf project) keys launches) after ∧
      Served launches world after ∧
      launches.map (·.command) =
        (keys.map fun key => commandFor analyzer (pathFor project key) project remaps) ∧
      OneByOne keys (keys.map fun key => commandFor analyzer (pathFor project key) project remaps) world
        (List.zipWith (analysisOf project) keys launches) after := by
  obtain ⟨launches, after, done, swept⟩ := mapM_swept analyzer project remaps keys.length keys 0 world
  exact ⟨launches, after, done, swept.served, swept.issued, swept.oneByOne⟩

/-- Two scripts that differ in one reply make for the same commands, and for the same analyses but for the
one that this reply is given to; and whatever the script, every key is analyzed by one command. -/
theorem analyzeAll_isolated (analyzer : String) (sources : SourceMap) (project : Project)
    (remaps : RemapTable) (world : World) {script other : List ToolReply} {j : Nat}
    (differ : ∀ place, place ≠ j →
      (world.scripted script).tools.replyAt place = (world.scripted other).tools.replyAt place) :
    let commands := sources.keys.map fun key => commandFor analyzer (pathFor project key) project remaps
    ∃ analyses after others final,
      analyzeAll analyzer sources.keys project remaps (world.scripted script) = .ok analyses after ∧
      analyzeAll analyzer sources.keys project remaps (world.scripted other) = .ok others final ∧
      OneByOne sources.keys commands (world.scripted script) analyses after ∧
      OneByOne sources.keys commands (world.scripted other) others final ∧
      ∃ place, (world.tools.programs = none → place = j) ∧
        (∀ index, world.slot? commands index = some j → index = place) ∧
        ∀ index, index ≠ place → analyses[index]? = others[index]? := by
  intro commands
  obtain ⟨launches, after, done, served, issued, oneByOne⟩ :=
    analyzeAll_oneByOne analyzer sources.keys project remaps (world.scripted script)
  obtain ⟨twins, final, done', served', issued', oneByOne'⟩ :=
    analyzeAll_oneByOne analyzer sources.keys project remaps (world.scripted other)
  refine ⟨_, after, _, final, done, done', oneByOne, oneByOne', ?_⟩
  -- One place at most takes the reply in which the scripts differ.
  obtain ⟨place, own, alone⟩ := world.slot?_place commands j
  refine ⟨place, own, alone, fun index apart => analyses_agree ?_⟩
  -- Every other command takes another reply, or none at all.
  have spared : world.slot? (launches.map (·.command)) index ≠ some j := by
    rw [issued]
    exact fun taken => apart (alone index taken)
  exact reply_agrees served served' (issued.trans issued'.symm) differ spared

/-- Three files that stand in one directory. -/
def threeSources : SourceMap :=
  .ofList [("A.sol", "contract A {}"), ("B.sol", "contract B {}"), ("C.sol", "contract C {}")]

/-- The project of three files. -/
def threeStaged : Project :=
  ⟨"/stage", "/stage/node_modules", false,
    threeSources.keys.map fun key => ⟨key, "/stage/" ++ key, none⟩, []⟩

/-- A script by which the second of three files goes wrong in a given way. -/
def secondReply (reply : ToolReply) : List ToolReply :=
  [.ok (.failed 1 "findings for A"), reply, .ok (.failed 1 "findings for C")]

/-- The analyzer that cannot be run on the second of three files is run on the third, and what it finds in
the first and the third is what it would have found anyway. -/
theorem secondReply_isolated :
    let world : World := .fresh (.atHome ["work"]) (.scripted []) ⟨[], none⟩
    let run := analyzeAll "slither" threeSources.keys threeStaged .empty
    ∃ analyses after others final,
      run (world.scripted (secondReply (.error (.described "boom")))) = .ok analyses after ∧
      run (world.scripted (secondReply (.ok (.failed 1 "findings for B")))) = .ok others final ∧
      analyses.map (·.failure?) = [none, some ⟨"B.sol", "/stage/B.sol", "boom"⟩, none] ∧
      others.map (·.failure?) = [none, none, none] ∧
      after.commands = final.commands ∧
      ∀ index, index ≠ 1 → analyses[index]? = others[index]? := by
  intro world run
  -- The two scripts are the same at every place but the second.
  have differ (place : Nat) (other : place ≠ 1) :
      (world.scripted (secondReply (.error (.described "boom")))).tools.replyAt place =
        (world.scripted (secondReply (.ok (.failed 1 "findings for B")))).tools.replyAt place := by
    match place with
    | 0 => rfl
    | 1 => exact absurd rfl other
    | 2 => rfl
    | place + 3 => rfl
  obtain ⟨analyses, after, others, final, done, done', first, second, place, own, -, agree⟩ :=
    analyzeAll_isolated "slither" threeSources threeStaged .empty world differ
  obtain rfl := own rfl
  refine ⟨analyses, after, others, final, done, done', ?_, ?_, ?_, agree⟩
  · injection done with analyses
    rw [← analyses]
    decide
  · injection done' with others
    rw [← others]
    decide
  · rw [first.issued, second.issued]
    rfl

end Analyzer

end AuditStage
