import AuditStage.Pipeline
import AuditStage.Proofs.Effect

/-! What the parts of a run leave alone: fetching, staging, and running the tools. -/

namespace AuditStage

open Effect (Composes Keeps Same)

namespace World

/-- All of a world that asking the explorer has nothing to do with, the log apart. -/
def besideExplorer (world : World) :
    Disk × Tools × Option String × List Launch × List Event :=
  (world.disk, world.tools, world.active, world.launches, world.events)

/-- All of a world that staging has nothing to do with, the log apart. -/
def besideDisk (world : World) :
    Explorer × List Inquiry × Tools × Option String × List Launch × List Event :=
  (world.explorer, world.inquiries, world.tools, world.active, world.launches, world.events)

/-- All of a world that running the tools has nothing to do with, the log apart. -/
def besideTools (world : World) : Disk × Explorer × List Inquiry :=
  (world.disk, world.explorer, world.inquiries)

/-- What is on record about the tools: the launches, and the version in place. -/
def toolRecord (world : World) : List Launch × Option String :=
  (world.launches, world.active)

end World

namespace Run

variable {γ : Type} {part : World → γ}

/-- Adding to the log leaves alone what the log has nothing to do with. -/
theorem note_keeps (blind : ∀ world log, part { world with log } = part world) (level : Level)
    (text : String) : Keeps (Same part) (note level text) :=
  fun world => blind world _

/-- Changing the disk leaves alone what the disk has nothing to do with. -/
theorem onDisk_keeps {α : Type} (blind : ∀ world disk, part { world with disk } = part world)
    (action : Disk.Action α) : Keeps (Same part) (onDisk action) := by
  intro world
  -- Whether or not the work fails, nothing but the disk is replaced.
  cases done : action world.disk <;> simp only [Effect.after, onDisk, done] <;> exact blind world _

/-- Reading from the disk changes nothing. -/
theorem fromDisk_keeps {α : Type} (read : Disk → Except SystemError α) :
    Keeps (Same part) (fromDisk read) := by
  intro world
  -- What is read is given or not; the world stays the same in both cases.
  cases done : read world.disk <;> simp only [Effect.after, fromDisk, done] <;> rfl

/-- A run goes on with the disk that its work has left behind. -/
theorem onDisk_of_ok {α : Type} {action : Disk.Action α} {value : α} {world : World} {disk : Disk}
    (ended : action world.disk = .ok value disk) :
    onDisk action world = .ok value { world with disk } := by
  simp only [onDisk, ended]

/-- A run stops with the disk that its work has left behind. -/
theorem onDisk_of_error {α : Type} {action : Disk.Action α} {error : SystemError} {world : World}
    {disk : Disk} (ended : action world.disk = .error error disk) :
    onDisk action world = .error (.io error) { world with disk } := by
  simp only [onDisk, ended]

/-- A run goes on with what it has read from the disk. -/
theorem fromDisk_of_ok {α : Type} {read : Disk → Except SystemError α} {value : α} {world : World}
    (found : read world.disk = .ok value) : fromDisk read world = .ok value world := by
  simp only [fromDisk, found]

/-- A change of the disk that ends well changes the disk, and nothing else. -/
theorem onDisk_ok {α : Type} {action : Disk.Action α} {value : α} {world final : World}
    (ended : onDisk action world = .ok value final) :
    ∃ disk, action world.disk = .ok value disk ∧ final = { world with disk } := by
  -- A run ends well only where the work on the disk has.
  cases done : action world.disk with
  | error error disk => simp [onDisk, done] at ended
  | ok value disk =>
    simp only [onDisk, done] at ended
    cases ended
    exact ⟨disk, rfl, rfl⟩

/-- A change of the disk fails for the reason that the disk gives. -/
theorem onDisk_error {α : Type} {action : Disk.Action α} {failure : Failure} {world final : World}
    (ended : onDisk action world = .error failure final) : ∃ error, failure = .io error := by
  -- A failure of the run is one of the disk, passed on as it is.
  cases done : action world.disk with
  | error error disk =>
    simp only [onDisk, done] at ended
    cases ended
    exact ⟨error, rfl⟩
  | ok value disk => simp [onDisk, done] at ended

/-- Reading from the disk fails for the reason that the disk gives. -/
theorem fromDisk_error {α : Type} {read : Disk → Except SystemError α} {failure : Failure}
    {world final : World} (ended : fromDisk read world = .error failure final) :
    ∃ error, failure = .io error := by
  -- Only a reading that fails ends in a failure.
  cases done : read world.disk with
  | error error =>
    simp only [fromDisk, done] at ended
    cases ended
    exact ⟨error, rfl⟩
  | ok value => simp [fromDisk, done] at ended

/-- Reading from the disk gives what is read there, and changes nothing. -/
theorem fromDisk_ok {α : Type} {read : Disk → Except SystemError α} {value : α} {world final : World}
    (ended : fromDisk read world = .ok value final) : read world.disk = .ok value ∧ final = world := by
  -- Reading leaves the world as it is.
  cases done : read world.disk with
  | error error => simp [fromDisk, done] at ended
  | ok value =>
    simp only [fromDisk, done] at ended
    cases ended
    exact ⟨rfl, rfl⟩

/-- Asking the explorer leaves alone what the explorer has nothing to do with. -/
theorem ask_keeps
    (blind : ∀ world explorer inquiries, part { world with explorer, inquiries } = part world)
    (address : String) : Keeps (Same part) (ask address) :=
  fun world => blind world _ _

/-- Resolving the remappings of a project does no more than to add to the log. -/
theorem remaps_keeps (blind : ∀ world log, part { world with log } = part world)
    (project : Project) (declared : List String) :
    Keeps (Same part) (Run.remaps project declared) := by
  -- Each rule that is no rule is remarked on, and that is all that is written.
  refine Keeps.bind (.forIn (fun raw _ _ => ?_) _) fun _ => .pure _
  exact (note_keeps blind _ _).bind fun _ => .pure _

end Run

/-- A property that composes, and that asking for an address, notes in the log and failing have, is one
of fetching the source of the address. -/
theorem Fetch.source_composes {holds : (α : Type) → Run α → Prop} (composes : Composes holds)
    {address : String} (asks : holds ExplorerReply (Run.ask address))
    (notes : ∀ level text, holds Unit (Run.note level text))
    (fails : ∀ {α : Type} (failure : Failure), holds α (throw failure)) :
    holds FetchedSource (Fetch.source address) := by
  refine composes.bind (composes.bind asks fun reply => ?_) fun envelope => ?_
  · -- Only a failing gateway is asked a second time.
    cases reply with
    | ok envelope => exact composes.pure _
    | error error =>
      dsimp only
      split
      · -- A warning is noted, and what comes of the second question is the end of it.
        refine composes.bind (notes _ _) fun _ => composes.bind asks fun reply => ?_
        cases reply with
        | ok envelope => exact composes.pure _
        | error error => dsimp only; split <;> exact fails _
      · exact fails _
  · -- What the reply holds is a source or a failure, and a source is noted in the log.
    split
    · exact fails _
    · exact composes.bind (notes _ _) fun _ => composes.pure _

/-- Fetching a source leaves the disk and the tools alone. -/
theorem Fetch.source_keeps (address : String) :
    Keeps (Same World.besideExplorer) (Fetch.source address) :=
  source_composes Keeps.composes (Run.ask_keeps (fun _ _ _ => rfl) address)
    (Run.note_keeps fun _ _ => rfl) .throw

namespace Staging

variable {γ : Type} {part : World → γ}

/-- A property that composes, and that work on the disk, notes in the log and the failure for a shared
path have, is one of a build once its keys have been looked at. -/
theorem build_composes {holds : (α : Type) → Run α → Prop} (composes : Composes holds)
    (disks : ∀ {α : Type} (action : Disk.Action α), holds α (Run.onDisk action))
    (reads : ∀ {α : Type} (read : Disk → Except SystemError α), holds α (Run.fromDisk read))
    (notes : ∀ level text, holds Unit (Run.note level text)) (looks : holds World MonadState.get)
    (shared : ∀ owner key path,
      holds (List StagedFile) (throw (.malformedSourceMap (.sharedPath owner key path))))
    (layout : Layout) (sources : SourceMap) :
    holds Project (do
      let stagingRoot ← resetRoot layout.stagingRoot
      let staged ← stageOwn stagingRoot sources
      let (dependencyRoot, preexisted) ← openDependencyRoot layout stagingRoot
      finish stagingRoot dependencyRoot preexisted sources staged) := by
  -- Making a root is work on the disk, and then its path is read.
  have makes (root : String) : holds String (makeRoot root) :=
    composes.bind (disks _) fun _ => reads _
  -- A file whose path is taken ends the build, and any other is written.
  have stages (staged : List StagedFile) (file : StagedFile) (content : String) :
      holds (List StagedFile) (stageFile staged file content) := by
    unfold stageFile
    split
    · exact shared _ _ _
    · exact composes.bind (disks _) fun _ => composes.pure _
  -- The parts come in the order in which the build goes through them.
  refine composes.bind ?reset fun root => composes.bind ?own fun staged =>
    composes.bind ?opened fun opened => composes.bind ?packages fun staged => ?finish
  case reset => exact composes.bind (disks _) fun _ => makes _
  case own =>
    refine composes.foldlM (fun file _ staged => ?_) _
    obtain ⟨key, content⟩ := file
    dsimp only
    split
    · exact composes.pure _
    · exact stages _ _ _
  case opened =>
    refine composes.bind looks fun world => composes.bind (makes _) fun root => ?_
    split
    · exact composes.bind (notes _ _) fun _ => composes.pure _
    · exact composes.pure _
  case packages =>
    refine composes.foldlM (fun package _ staged => composes.bind (disks _) fun _ => ?_) _
    refine composes.foldlM (fun file _ staged => ?_) _
    obtain ⟨key, content⟩ := file
    dsimp only
    split
    · exact stages _ _ _
    · exact composes.pure _
  case finish =>
    exact composes.bind (reads _) fun found => composes.bind (notes _ _) fun _ =>
      composes.bind (notes _ _) fun _ => composes.pure _

/-- Building a project leaves alone what the disk and the log have nothing to do with. -/
theorem build_keeps (blind : ∀ world disk log, part { world with disk, log } = part world)
    (layout : Layout) (sources : SourceMap) : Keeps (Same part) (build layout sources) := by
  refine Keeps.bind ?required fun _ => build_composes Keeps.composes
    (Run.onDisk_keeps fun world disk => blind world disk world.log) Run.fromDisk_keeps
    (Run.note_keeps fun world log => blind world world.disk log) .get (fun _ _ _ => .throw _) _ _
  -- Looking at the keys does no more than to fail.
  case required =>
    unfold requireStageable
    split
    · exact .throw _
    · exact .pure _

end Staging

namespace Pipeline

/-- Fetching and parsing leaves the disk and the tools alone. -/
theorem fetchAndParse_keeps (address : String) :
    Keeps (Same World.besideExplorer) (fetchAndParse address) := by
  have notes : ∀ level text, Keeps (Same World.besideExplorer) (Run.note level text) :=
    Run.note_keeps fun _ _ => rfl
  -- All that is done beyond asking is to write to the log.
  unfold fetchAndParse
  dsimp only
  split
  · exact .throw _
  · -- The source that was fetched is parsed, which touches nothing.
    refine (Fetch.source_keeps _).bind fun source => ?_
    split
    · exact .throw _
    · split
      · exact (notes _ _).bind fun _ => .pure _
      · exact .pure _

/-- Staging leaves the explorer and the tools alone. -/
theorem stageSources_keeps (pipeline : Pipeline) (sources : SourceMap) :
    Keeps (Same World.besideDisk) (pipeline.stageSources sources) := by
  -- The build touches the disk and the log, and the rules are no more than noted.
  exact (Staging.build_keeps (fun _ _ _ => rfl) _ _).bind fun project =>
    (Run.remaps_keeps (fun _ _ => rfl) _ _).bind fun _ => .pure _

/-- Fetching and parsing runs no tool. -/
theorem fetchAndParse_idle (address : String) :
    Keeps (Same World.toolRecord) (fetchAndParse address) :=
  (fetchAndParse_keeps address).mono fun _ _ same =>
    same.view fun beside => (beside.2.2.2.1, beside.2.2.1)

/-- Building a project and resolving its remappings runs no tool. -/
theorem stageSources_idle (pipeline : Pipeline) (sources : SourceMap) :
    Keeps (Same World.toolRecord) (pipeline.stageSources sources) :=
  (stageSources_keeps pipeline sources).mono fun _ _ same =>
    same.view fun beside => (beside.2.2.2.2.1, beside.2.2.2.1)

/-- Fetching and staging an address runs no tool. -/
theorem stage_idle (pipeline : Pipeline) (address : String) :
    Keeps (Same World.toolRecord) (pipeline.stage address) :=
  (fetchAndParse_idle address).bind fun (_, sources) =>
    (stageSources_idle pipeline sources).bind fun _ => .pure _

end Pipeline

end AuditStage
