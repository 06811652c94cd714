import AuditStage.Proofs.Pipeline.Execute
import Mathlib.Data.List.Basic

/-! The discipline of the tools over whole histories: which commands each call on a pipeline issues, in
which order, and which compiler version is in place between the calls. -/

namespace AuditStage

open Toolchain (plan inPlaceAfter placed? Managed)

/-- What a pipeline is called for. -/
inductive Call where
  | execute (address : String)
  | stage (address : String)
deriving Repr, DecidableEq

/-- One call on a pipeline: the worlds before and after it, and what it has to show if it was to
analyze an address and did not fail. -/
structure Turn where
  call : Call
  before : World
  after : World
  run : Option PipelineRun

namespace Turn

/-- The launches that a call has added to the record. -/
def issued (turn : Turn) : List Launch :=
  turn.after.launches.drop turn.before.launches.length

/-- The commands of a call to analyze an address, once its sources are staged: the version manager's by
its plan, and behind them the analyzer's, which wait for the version to be in place. -/
structure Disciplined (pipeline : Pipeline) (turn : Turn) (sources : SourceMap) (project : Project)
    (remaps : RemapTable) (version : String) (listing : Launch) (managing analyzing : List Launch) :
    Prop where
  launched : turn.after.launches = turn.before.launches ++ (managing ++ analyzing)
  listed : managing.head? = some listing
  scheduled : (managing ++ analyzing).map (·.command) <+:
    plan pipeline.manager version listing.reply ++
      sources.keys.map (pipeline.analyzerCommand project remaps)
  managed : managing.map (·.command) <+: plan pipeline.manager version listing.reply
  analyzed : analyzing.map (·.command) <+: sources.keys.map (pipeline.analyzerCommand project remaps)
  switched : analyzing ≠ [] →
    managing.map (·.command) = plan pipeline.manager version listing.reply ∧
      ∃ use, managing.getLast? = some use ∧ use.succeeded = true
  inPlace : ∀ launch ∈ analyzing, launch.active = some version
  kept : turn.after.active =
    inPlaceAfter pipeline.manager turn.before.active (managing ++ analyzing)
  finished : ∀ run, turn.run = some run → run.compilerVersion = version ∧ run.sources = sources ∧
    analyzing.map (·.command) = sources.keys.map (pipeline.analyzerCommand project remaps) ∧
    turn.after.active = some version

/-- A call keeps to the discipline: staging issues no command and leaves the version in place, and
analyzing either fails before its first command or issues its commands in order. -/
def Orderly (pipeline : Pipeline) (turn : Turn) : Prop :=
  match turn.call with
  | .stage _ =>
    turn.after.launches = turn.before.launches ∧ turn.after.active = turn.before.active
  | .execute address =>
    (turn.after.launches = turn.before.launches ∧ turn.after.active = turn.before.active ∧
      turn.run = none) ∨
      ∃ source sources project remaps version staged listing managing analyzing,
        pipeline.Ready address turn.before source sources project remaps version staged ∧
          turn.Disciplined pipeline sources project remaps version listing managing analyzing

/-- An orderly call only adds to the record, and the version in place follows from what it adds. -/
theorem Orderly.recorded {pipeline : Pipeline} {turn : Turn} (orderly : turn.Orderly pipeline) :
    turn.after.launches = turn.before.launches ++ turn.issued ∧
      turn.after.active = inPlaceAfter pipeline.manager turn.before.active turn.issued := by
  -- A call that runs nothing adds nothing, and so leaves the version as it is.
  have idle (launched : turn.after.launches = turn.before.launches)
      (active : turn.after.active = turn.before.active) :
      turn.after.launches = turn.before.launches ++ turn.issued ∧
        turn.after.active = inPlaceAfter pipeline.manager turn.before.active turn.issued := by
    have none : turn.issued = [] := by simp [issued, launched]
    exact ⟨by simp [none, launched], by rw [none, active]; rfl⟩
  -- Only a call to analyze runs commands.
  unfold Orderly at orderly
  cases made : turn.call with
  | stage address =>
    rw [made] at orderly
    exact idle orderly.1 orderly.2
  | execute address =>
    rw [made] at orderly
    rcases orderly with ⟨launched, active, -⟩ |
      ⟨_, _, _, _, _, _, _, managing, analyzing, -, disciplined⟩
    · exact idle launched active
    · -- What is on record from then on are the commands of both tools.
      have added : turn.issued = managing ++ analyzing := by
        simp [issued, disciplined.launched]
      exact ⟨added ▸ disciplined.launched, added ▸ disciplined.kept⟩

end Turn

namespace Pipeline

/-- Calls a pipeline in a world. -/
def turn (pipeline : Pipeline) (call : Call) (before : World) : Turn :=
  match call with
  | .execute address =>
    match pipeline.execute address before with
    | .ok run after => ⟨call, before, after, some run⟩
    | .error _ after => ⟨call, before, after, none⟩
  | .stage address => ⟨call, before, Effect.after (pipeline.stage address) before, none⟩

/-- The calls on a pipeline so far, and the world that they have led to; between two calls anything may
change but the record of launches and the version in place. -/
inductive History (pipeline : Pipeline) (first : World) : List Turn → World → Prop where
  | start : History pipeline first [] first
  | call {turns : List Turn} {world : World} (earlier : History pipeline first turns world)
      (call : Call) :
      History pipeline first (turns ++ [pipeline.turn call world]) (pipeline.turn call world).after
  | meanwhile {turns : List Turn} {world next : World} (earlier : History pipeline first turns world)
      (launches : next.launches = world.launches) (active : next.active = world.active) :
      History pipeline first turns next

variable (pipeline : Pipeline)

/-- An analyzer command puts no version in place. -/
theorem placed?_analyzer {manager : String} {launch : Launch} {project : Project}
    {remaps : RemapTable} {key : String}
    (issued : launch.command = pipeline.analyzerCommand project remaps key) :
    placed? manager launch = none := by
  -- The analyzer is run in a directory, and the manager is not.
  unfold placed?
  split
  · simp [issued, analyzerCommand, Analyzer.commandFor, Toolchain.managerCommand]
  · rfl

/-- A call starts in the world that it is made in. -/
theorem turn_before (call : Call) (world : World) : (pipeline.turn call world).before = world := by
  cases call with
  | stage address => rfl
  | execute address =>
    simp only [turn]
    split <;> rfl

section Ready

variable {pipeline : Pipeline} {address version : String} {before staged switched after : World}
  {source : FetchedSource} {sources : SourceMap} {project : Project} {remaps : RemapTable}
  {managing analyzing : List Launch}
  (ready : Ready pipeline address before source sources project remaps version staged)

include ready

/-- A call that cannot put the version in place ends with the version manager's commands. -/
theorem Ready.unswitched (managed : Managed pipeline.manager version managing false)
    (ran : Ran managing staged after) (active : after.active = staged.active) :
    ∃ listing, Turn.Disciplined pipeline ⟨.execute address, before, after, none⟩ sources project
      remaps version listing managing [] := by
  -- No file is analyzed where the version is not in place.
  obtain ⟨listing, rest, first, planned, -⟩ := managed.follows_plan
  -- Staging has run no command before.
  obtain ⟨launches, kept⟩ := Prod.mk.inj ready.idle
  exact ⟨listing, {
    launched := by rw [List.append_nil, ran.launched, launches]
    listed := first ▸ rfl
    scheduled := by
      rw [List.append_nil]
      exact planned.trans (List.prefix_append _ _)
    managed := planned
    analyzed := List.nil_prefix
    switched := fun some => absurd rfl some
    inPlace := by simp
    kept := by
      rw [List.append_nil, managed.inPlaceAfter, active, kept]
      rfl
    finished := by simp }⟩

/-- A call that puts the version in place goes on to its end with the analyzer's commands. -/
theorem Ready.analyzed (managed : Managed pipeline.manager version managing true)
    (switching : Ran managing staged switched) (ran : Ran analyzing switched after)
    (issued : analyzing.map (·.command) = sources.keys.map (pipeline.analyzerCommand project remaps))
    (found : ∀ launch ∈ analyzing, launch.FoundIn switched)
    (inPlace : switched.active = some version) (active : after.active = some version) :
    ∃ listing, ∀ analyses result, Turn.Disciplined pipeline ⟨.execute address, before, after,
        some ⟨address, version, sources, project, remaps, analyses, result⟩⟩
      sources project remaps version listing managing analyzing := by
  obtain ⟨listing, rest, first, planned, complete⟩ := managed.follows_plan
  -- The plan has been gone through to its end, where the version was switched to.
  obtain ⟨whole, use, last, succeeded⟩ := complete rfl
  obtain ⟨launches, -⟩ := Prod.mk.inj ready.idle
  -- So the two lists of commands are complete, and they stand behind each other.
  have all : (managing ++ analyzing).map (·.command) =
      plan pipeline.manager version listing.reply ++
        sources.keys.map (pipeline.analyzerCommand project remaps) := by
    rw [List.map_append, whole, issued]
  -- The analyzer's commands make no difference to what the manager's have put in place.
  have analyzers : ∀ launch ∈ analyzing, placed? pipeline.manager launch = none := by
    intro launch member
    have command := List.mem_map_of_mem (f := (·.command)) member
    rw [issued] at command
    obtain ⟨key, -, same⟩ := List.mem_map.1 command
    exact placed?_analyzer pipeline same.symm
  exact ⟨listing, fun analyses result => {
    launched := by rw [ran.launched, switching.launched, launches, List.append_assoc]
    listed := first ▸ rfl
    scheduled := all ▸ List.prefix_rfl
    managed := planned
    analyzed := issued ▸ List.prefix_rfl
    switched := fun _ => ⟨whole, use, last, succeeded⟩
    inPlace := fun launch member => (found launch member).active.trans inPlace
    kept := by
      rw [Toolchain.inPlaceAfter_append, managed.inPlaceAfter,
        Toolchain.inPlaceAfter_idle _ analyzers]
      exact active
    finished := by
      rintro run ⟨⟩
      exact ⟨rfl, rfl, issued, active⟩ }⟩

end Ready

/-- Every call keeps to the discipline. -/
theorem turn_orderly (call : Call) (world : World) : (pipeline.turn call world).Orderly pipeline := by
  cases call with
  | stage address =>
    exact Prod.mk.inj (stage_idle pipeline address world)
  | execute address =>
    -- Of the ways a call can end, two are failures and one is not.
    have ended := executed pipeline address world
    cases outcome : pipeline.execute address world with
    | error failure after =>
      have made : pipeline.turn (.execute address) world = ⟨.execute address, world, after, none⟩ := by
        simp only [turn, outcome]
      rw [outcome] at ended
      rw [made]
      cases ended with
      -- It fails before its first command, or with the version manager.
      | unready idle =>
        obtain ⟨launches, active⟩ := Prod.mk.inj idle
        exact .inl ⟨launches, active, rfl⟩
      | unswitched managing ready managed ran active =>
        obtain ⟨listing, disciplined⟩ := ready.unswitched managed ran active
        exact .inr ⟨_, _, _, _, _, _, listing, managing, [], ready, disciplined⟩
    | ok run after =>
      have made : pipeline.turn (.execute address) world =
          ⟨.execute address, world, after, some run⟩ := by
        simp only [turn, outcome]
      rw [outcome] at ended
      rw [made]
      cases ended with
      | analyzed managing analyzing ready managed switching ran issued found inPlace active =>
        obtain ⟨listing, disciplined⟩ :=
          ready.analyzed managed switching ran issued found inPlace active
        exact .inr ⟨_, _, _, _, _, _, listing, managing, analyzing, ready, disciplined _ _⟩

/-- Over a whole history every call keeps to the discipline, and what is on record at any time, between
the calls and at the end, is what the calls before have put there. -/
theorem history_disciplined {pipeline : Pipeline} {first last : World} {turns : List Turn}
    (history : History pipeline first turns last) :
    (∀ turn ∈ turns, turn.Orderly pipeline) ∧
      (∀ earlier turn later, turns = earlier ++ turn :: later →
        turn.before.launches = first.launches ++ earlier.flatMap Turn.issued ∧
          turn.before.active =
            inPlaceAfter pipeline.manager first.active (earlier.flatMap Turn.issued)) ∧
      last.launches = first.launches ++ turns.flatMap Turn.issued ∧
      last.active = inPlaceAfter pipeline.manager first.active (turns.flatMap Turn.issued) := by
  -- The induction is on the calls, and the record at the end carries it from one call to the next.
  induction history with
  | start => exact ⟨by simp, by simp, by simp, rfl⟩
  | call earlier call ih =>
    rename_i turns world
    obtain ⟨orderly, before, launched, active⟩ := ih
    -- The new call is orderly, and it starts from the record that the earlier ones have left.
    have next := turn_orderly pipeline call world
    obtain ⟨added, placed⟩ := next.recorded
    rw [turn_before] at added placed
    refine ⟨?_, ?_, ?_, ?_⟩
    · intro turn member
      rcases List.mem_append.1 member with old | new
      · exact orderly turn old
      · exact List.mem_singleton.1 new ▸ next
    · intro front turn later split
      -- The call in question is the new one or one of those before it.
      rcases List.eq_nil_or_concat' later with rfl | ⟨rest, final, rfl⟩
      · obtain ⟨rfl, same⟩ := List.append_inj' split rfl
        obtain rfl : pipeline.turn call world = turn := by simpa using same
        rw [turn_before]
        exact ⟨launched, active⟩
      · rw [← List.cons_append, ← List.append_assoc] at split
        exact before front turn rest (List.append_inj' split rfl).1
    · rw [added, launched, List.flatMap_append, List.append_assoc]
      simp
    · rw [placed, active, List.flatMap_append, Toolchain.inPlaceAfter_append]
      simp
  | meanwhile earlier launches active ih =>
    exact ⟨ih.1, ih.2.1, launches.trans ih.2.2.1, active.trans ih.2.2.2⟩

/-- Staging an address and then analyzing it is such a history, with a command of every kind. -/
theorem sample_disciplined :
    let staged := samplePipeline.turn (.stage "0x1") sampleWorld
    let analyzed := samplePipeline.turn (.execute "0x1") staged.after
    (∀ turn ∈ [staged, analyzed], turn.Orderly samplePipeline) ∧
      analyzed.issued.map (·.command.args.head?) =
        [some "versions", some "install", some "use", some "/work/out/A.sol"] := by
  refine ⟨?_, by decide +kernel⟩
  -- The history stages first and analyzes in the world that this has left.
  exact (history_disciplined (.call (.call .start (.stage "0x1")) (.execute "0x1"))).1

end Pipeline

end AuditStage
