import AuditStage.Proofs.World

/-! What running commands adds to the record of a run, and what it leaves alone. -/

namespace AuditStage

open Effect (Same)

/-- Whether a command could be run and ended well. -/
def Launch.succeeded (launch : Launch) : Bool :=
  match launch.reply with
  | .ok output => output.success
  | .error _ => false

/-- A command was run in a world as it stood. -/
structure Launch.FoundIn (launch : Launch) (world : World) : Prop where
  active : launch.active = world.active
  disk : launch.disk = world.disk

/-- Between two worlds some commands were run, and nothing else happened but records. -/
structure Ran (launches : List Launch) (before after : World) : Prop where
  launched : after.launches = before.launches ++ launches
  beside : Same World.besideTools before after

namespace Ran

variable {first next : List Launch} {before between after : World}

/-- Without a command nothing happens. -/
theorem none (world : World) : Ran [] world world :=
  ⟨(List.append_nil _).symm, refl_of (Same World.besideTools) world⟩

/-- Commands that are run in a row are recorded in a row. -/
theorem append (ran : Ran first before between) (further : Ran next between after) :
    Ran (first ++ next) before after where
  launched := by rw [further.launched, ran.launched, List.append_assoc]
  beside := trans_of (Same World.besideTools) ran.beside further.beside

/-- Records that follow the commands make no difference. -/
theorem noted (ran : Ran first before between) (launched : after.launches = between.launches)
    (beside : Same World.besideTools between after) : Ran first before after where
  launched := launched.trans ran.launched
  beside := trans_of (Same World.besideTools) ran.beside beside

/-- Running commands leaves the disk as it is. -/
theorem disk (ran : Ran first before after) : after.disk = before.disk :=
  congrArg Prod.fst ran.beside

/-- Running commands asks the explorer for nothing. -/
theorem inquiries (ran : Ran first before after) : after.inquiries = before.inquiries :=
  congrArg (·.2.2) ran.beside

end Ran

/-- The reply at a place in the script that the tools follow; behind its end nothing goes wrong. -/
def Tools.replyAt (tools : Tools) (place : Nat) : ToolReply :=
  tools.replies.getD place (.ok (.succeeded ""))

/-- A script gives its first reply and goes on with the others. -/
theorem Tools.run_spec (tools : Tools) : tools.run.1 = tools.replyAt 0 ∧
    (∀ place, tools.run.2.replyAt place = tools.replyAt (1 + place)) ∧
    tools.run.2.programs = tools.programs := by
  -- A script at its end stays there.
  cases script : tools.replies with
  | nil => simp [run, replyAt, script]
  | cons reply replies => simp [run, replyAt, script, Nat.add_comm 1]

namespace World

/-- How many replies commands take from the script: a command that cannot be started takes none. -/
def taken (world : World) (commands : List Command) : Nat :=
  commands.countP fun command => (world.commandFault? command).isNone

/-- The reply to a command that comes when the script has got to a place. -/
def replyTo (world : World) (place : Nat) (command : Command) : ToolReply :=
  match world.commandFault? command with
  | some error => .error error
  | none => world.tools.replyAt place

/-- Commands in a row take what the first of them take and what the others take. -/
theorem taken_append (world : World) (first next : List Command) :
    world.taken (first ++ next) = world.taken first + world.taken next :=
  List.countP_append

end World

/-- Between two worlds commands were given their replies: each the next of the script, unless it could not
be started. -/
structure Served (launches : List Launch) (before after : World) : Prop where
  replied : ∀ index launch, launches[index]? = some launch → launch.reply =
    before.replyTo (before.taken ((launches.take index).map (·.command))) launch.command
  left : ∀ place, after.tools.replyAt place =
    before.tools.replyAt (before.taken (launches.map (·.command)) + place)
  startable : ∀ command, after.commandFault? command = before.commandFault? command

namespace Served

variable {first next : List Launch} {before between after : World}

/-- Without a command no reply is given. -/
theorem none (world : World) : Served [] world world :=
  ⟨by simp, by simp [World.taken], fun _ => rfl⟩

/-- What a command finds after other commands is what their start has left to it. -/
theorem replyTo (served : Served first before between) (place : Nat) (command : Command) :
    between.replyTo place command =
      before.replyTo (before.taken (first.map (·.command)) + place) command := by
  simp only [World.replyTo, served.startable, served.left]

/-- Commands take as many replies after other commands as before them. -/
theorem taken (served : Served first before between) (commands : List Command) :
    between.taken commands = before.taken commands := by
  simp only [World.taken, served.startable]

/-- Commands that are run in a row are given their replies in a row. -/
theorem append (served : Served first before between) (further : Served next between after) :
    Served (first ++ next) before after where
  replied := by
    intro index launch found
    rcases Nat.lt_or_ge index first.length with early | late
    · -- An early command has the same commands before it as in the first part.
      rw [List.getElem?_append_left early] at found
      rw [List.take_append_of_le_length (Nat.le_of_lt early)]
      exact served.replied index launch found
    · -- A later command follows all of the first ones.
      rw [List.getElem?_append_right late] at found
      rw [further.replied _ launch found, served.replyTo, served.taken, List.take_append,
        List.take_of_length_le late, List.map_append, World.taken_append]
  left := by
    intro place
    rw [further.left, served.left, served.taken, List.map_append, World.taken_append, Nat.add_assoc]
  startable command := (further.startable command).trans (served.startable command)

/-- Records make no difference to the replies that were given. -/
theorem noted {other : World} {launches : List Launch} (served : Served launches before after)
    (tools : other.tools = after.tools) (disk : other.disk = after.disk) :
    Served launches before other where
  replied := served.replied
  left := tools ▸ served.left
  startable command := by
    -- Whether a command can be started is seen from the tools and the disk alone.
    rw [← served.startable command, World.commandFault?, World.commandFault?, tools, disk]

end Served

/-- Running a command adds its launch to the record, and gives what came of it. -/
theorem Run.command_ran (command : Command) (world : World) :
    ∃ launch after, Run.command command world = .ok launch.reply after ∧ Ran [launch] world after ∧
      after.active = world.active ∧ launch.command = command ∧ launch.FoundIn world := by
  obtain ⟨started, reply, tools, done⟩ : ∃ started reply tools,
      Run.command command world = .ok reply
        { world with
          tools
          launches := world.launches ++
            [⟨command, started, reply, world.active, world.disk⟩] } := by
    -- A command that cannot be started is put on record like any other.
    cases fault : world.commandFault? command with
    | none => exact ⟨true, world.tools.run.1, world.tools.run.2, by simp only [Run.command, fault]⟩
    | some error => exact ⟨false, .error error, world.tools, by simp only [Run.command, fault]⟩
  exact ⟨⟨command, started, reply, world.active, world.disk⟩, _, done, ⟨rfl, rfl⟩, rfl, rfl,
    ⟨rfl, rfl⟩⟩

/-- Running a command tells an observer nothing. -/
theorem Run.command_quiet {command : Command} {world after : World} {reply : ToolReply}
    (done : Run.command command world = .ok reply after) : after.events = world.events := by
  -- No event is added where a command is run.
  simp only [Run.command, EStateM.Result.ok.injEq] at done
  rw [← done.2]

/-- A command is given the next reply, and only a command that could be started uses it up. -/
theorem Run.command_served {launch : Launch} {world after : World}
    (done : Run.command launch.command world = .ok launch.reply after) :
    Served [launch] world after := by
  -- There is one launch to be told about, the first.
  have alone {index : Nat} {other : Launch} (found : [launch][index]? = some other) :
      index = 0 ∧ launch = other := by
    simpa [List.getElem?_singleton] using found
  unfold Run.command at done
  cases fault : world.commandFault? launch.command with
  | some error =>
    -- A command that cannot be started is answered by its fault, and the script stays as it is.
    simp only [fault, EStateM.Result.ok.injEq] at done
    obtain ⟨reply, rfl⟩ := done
    refine ⟨fun index other found => ?_, fun place => ?_, fun _ => rfl⟩
    · obtain ⟨rfl, rfl⟩ := alone found
      simp only [World.replyTo, fault, reply]
    · simp [World.taken, fault]
  | none =>
    simp only [fault, EStateM.Result.ok.injEq] at done
    obtain ⟨reply, rfl⟩ := done
    -- A command that starts takes the first reply of the script.
    obtain ⟨given, left, same⟩ := world.tools.run_spec
    refine ⟨fun index other found => ?_, fun place => ?_, fun command => ?_⟩
    · obtain ⟨rfl, rfl⟩ := alone found
      simp only [World.replyTo, fault, ← reply, given]
      rfl
    · have one : world.taken [launch.command] = 1 := by simp [World.taken, fault]
      exact (left place).trans (congrArg (world.tools.replyAt <| · + place) one.symm)
    · simp only [World.commandFault?, same]

end AuditStage
