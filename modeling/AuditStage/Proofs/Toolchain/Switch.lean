import AuditStage.Proofs.Launches

/-! Which commands put a compiler version in place, and what each of them decides. -/

namespace AuditStage.Toolchain

/-- Whether the answer to a request for a listing confirms that a version is installed. -/
def confirms (listing : ToolReply) (version : String) : Bool :=
  match listing with
  | .ok output => output.success && lists output.stdout version
  | .error _ => false

/-- The commands that put a version in place, by what the first of them brings to light. -/
def plan (manager version : String) (listing : ToolReply) : List Command :=
  managerCommand manager ["versions"] ::
    ((if confirms listing version then [] else [managerCommand manager ["install", version]]) ++
      [managerCommand manager ["use", version]])

/-- The launches of one try to put a version in place, and whether it is in place at the end. -/
inductive Managed (manager version : String) : List Launch → Bool → Prop where
  /-- The version is missing and cannot be installed. -/
  | refused (listing install : Launch)
      (listed : listing.command = managerCommand manager ["versions"])
      (missing : confirms listing.reply version = false)
      (installed : install.command = managerCommand manager ["install", version])
      (failed : install.succeeded = false) : Managed manager version [listing, install] false
  /-- The version is missing, is installed, and is then asked for. -/
  | installed (listing install use : Launch)
      (listed : listing.command = managerCommand manager ["versions"])
      (missing : confirms listing.reply version = false)
      (installed : install.command = managerCommand manager ["install", version])
      (succeeded : install.succeeded = true)
      (used : use.command = managerCommand manager ["use", version]) :
      Managed manager version [listing, install, use] use.succeeded
  /-- The version is there and is asked for. -/
  | present (listing use : Launch)
      (listed : listing.command = managerCommand manager ["versions"])
      (confirmed : confirms listing.reply version = true)
      (used : use.command = managerCommand manager ["use", version]) :
      Managed manager version [listing, use] use.succeeded

/-- The manager's commands follow the plan, to its end and with success if the version is in place. -/
theorem Managed.follows_plan {manager version : String} {launches : List Launch} {done : Bool}
    (managed : Managed manager version launches done) :
    ∃ listing rest, launches = listing :: rest ∧
      launches.map (·.command) <+: plan manager version listing.reply ∧
      (done = true → launches.map (·.command) = plan manager version listing.reply ∧
        ∃ use, launches.getLast? = some use ∧ use.succeeded = true) := by
  -- Each way to put a version in place is one branch of the plan, or breaks it off.
  cases managed with
  | refused listing install listed missing installed failed =>
    exact ⟨listing, _, rfl, by simp [plan, missing, listed, installed], by simp⟩
  | installed listing install use listed missing installed succeeded used =>
    have planned : [listing, install, use].map (·.command) = plan manager version listing.reply := by
      simp [plan, missing, listed, installed, used]
    exact ⟨listing, _, rfl, planned ▸ List.prefix_rfl, fun done => ⟨planned, use, rfl, done⟩⟩
  | present listing use listed confirmed used =>
    have planned : [listing, use].map (·.command) = plan manager version listing.reply := by
      simp [plan, confirmed, listed, used]
    exact ⟨listing, _, rfl, planned ▸ List.prefix_rfl, fun done => ⟨planned, use, rfl, done⟩⟩

/-- Asking for a listing is one command, and only its answer tells whether a version is there. -/
theorem isInstalled_ran (manager version : String) (world : World) :
    ∃ listing after, isInstalled manager version world =
        .ok (confirms listing.reply version) after ∧
      Ran [listing] world after ∧ after.active = world.active ∧
      listing.command = managerCommand manager ["versions"] := by
  obtain ⟨listing, after, done, ran, active, issued, -⟩ :=
    Run.command_ran (managerCommand manager ["versions"]) world
  refine ⟨listing, after, ?_, ran, active, issued⟩
  -- A listing that cannot be had confirms nothing, and is no failure either.
  rw [isInstalled, Effect.bind_of_ok done]
  cases reply : listing.reply <;> rfl

/-- The manager is given one command, and the run goes on only if the command succeeds. -/
theorem manage_ran (manager action version : String) (world : World) :
    ∃ launch after, Ran [launch] world after ∧ after.active = world.active ∧
      launch.command = managerCommand manager [action, version] ∧
      if launch.succeeded then manage manager action version world = .ok () after
      else ∃ failure, manage manager action version world = .error failure after := by
  obtain ⟨launch, after, done, ran, active, issued, -⟩ :=
    Run.command_ran (managerCommand manager [action, version]) world
  refine ⟨launch, after, ran, active, issued, ?_⟩
  simp only [manage, Effect.bind_of_ok done, Launch.succeeded]
  -- The action is done only where the command starts and reports success.
  cases launch.reply with
  | error error => exact ⟨_, rfl⟩
  | ok output =>
    cases success : output.success with
    | true => simp [success]; rfl
    | false => simp [success]; exact ⟨_, rfl⟩

/-- Asking for a version is the last command, and its success is what puts the version on record. -/
theorem putInPlace_ran (manager version : String) (world : World) :
    ∃ use after, Ran [use] world after ∧
      use.command = managerCommand manager ["use", version] ∧
      after.active = (if use.succeeded then some version else world.active) ∧
      if use.succeeded then putInPlace manager version world = .ok () after
      else ∃ failure, putInPlace manager version world = .error failure after := by
  obtain ⟨use, used, ran, active, issued, ended⟩ := manage_ran manager "use" version world
  -- The version in place changes where the manager reports success, and only there.
  cases success : use.succeeded with
  | true =>
    rw [success] at ended
    -- The version is put on record once the manager has been heard.
    obtain ⟨after, afterRan, afterActive, done⟩ : ∃ after, Ran [use] world after ∧
        after.active = some version ∧ putInPlace manager version world = .ok () after := by
      refine ⟨{ used with
        active := some version
        log := used.log ++ [⟨.info, "Switched to solc version " ++ version⟩] },
        ran.noted rfl rfl, rfl, ?_⟩
      rw [putInPlace, Effect.bind_of_ok ended]
      rfl
    exact ⟨use, after, afterRan, issued, by rw [success]; exact afterActive,
      by rw [success]; exact done⟩
  | false =>
    rw [success] at ended
    obtain ⟨failure, ended⟩ := ended
    refine ⟨use, used, ran, issued, by rw [success]; exact active, ?_⟩
    rw [success]
    exact ⟨failure, Effect.bind_of_error ended⟩

/-- Putting a version in place takes the planned commands up to the first that fails, and the version
is recorded as the one in place exactly if all goes well. -/
theorem activate_ran (manager version : String) (world : World) :
    ∃ launches after done, Ran launches world after ∧ Managed manager version launches done ∧
      after.active = (if done then some version else world.active) ∧
      if done then activate manager version world = .ok () after
      else ∃ failure, activate manager version world = .error failure after := by
  obtain ⟨listing, asked, answered, listingRan, listingActive, listed⟩ :=
    isInstalled_ran manager version world
  unfold activate
  rw [Effect.bind_of_ok answered]
  -- A version that is listed is asked for at once; any other is installed first.
  cases confirmed : confirms listing.reply version with
  | true =>
    obtain ⟨use, after, useRan, used, active, ended⟩ := putInPlace_ran manager version asked
    exact ⟨[listing, use], after, use.succeeded, listingRan.append useRan,
      .present listing use listed confirmed used, listingActive ▸ active, ended⟩
  | false =>
    -- The version is installed first, after a word in the log.
    obtain ⟨told, toldRan, toldActive, noted⟩ : ∃ told, Ran [listing] world told ∧
        told.active = world.active ∧
        Run.note .info ("Installing solc " ++ version) asked = .ok () told :=
      ⟨{ asked with log := asked.log ++ [⟨.info, "Installing solc " ++ version⟩] },
        listingRan.noted rfl rfl, listingActive, rfl⟩
    obtain ⟨install, tried, installRan, installActive, installed, installEnded⟩ :=
      manage_ran manager "install" version told
    -- The listing and the try to install it have been run by now.
    have firstRan := toldRan.append installRan
    have firstActive := installActive.trans toldActive
    simp only [Bool.not_false, if_true, Effect.bind_of_ok noted]
    cases success : install.succeeded with
    | false =>
      rw [success] at installEnded
      obtain ⟨failure, installEnded⟩ := installEnded
      exact ⟨[listing, install], tried, false, firstRan,
        .refused listing install listed confirmed installed success, firstActive, failure,
        Effect.bind_of_error installEnded⟩
    | true =>
      rw [success] at installEnded
      obtain ⟨use, after, useRan, used, active, ended⟩ := putInPlace_ran manager version tried
      refine ⟨[listing, install, use], after, use.succeeded, firstRan.append useRan,
        .installed listing install use listed confirmed installed success used,
        firstActive ▸ active, ?_⟩
      rw [Effect.bind_of_ok installEnded]
      exact ended

/-- Selecting a version that is known puts it in place, and gives it if that succeeds. -/
theorem select_ran (manager : String) {reported version : String} {sources : SourceMap}
    (resolved : Version.resolve? sources reported = some version) (world : World) :
    ∃ launches after done, Ran launches world after ∧ Managed manager version launches done ∧
      after.active = (if done then some version else world.active) ∧
      if done then select manager sources reported world = .ok version after
      else ∃ failure, select manager sources reported world = .error failure after := by
  -- A note in the log comes before the first command.
  obtain ⟨told, toldRan, toldActive, noted⟩ : ∃ told, Ran [] world told ∧
      told.active = world.active ∧
      Run.note .info ("solc version: " ++ version) world = .ok () told :=
    ⟨{ world with log := world.log ++ [⟨.info, "solc version: " ++ version⟩] },
      (Ran.none world).noted rfl rfl, rfl, rfl⟩
  obtain ⟨launches, after, done, ran, managed, active, ended⟩ := activate_ran manager version told
  refine ⟨launches, after, done, toldRan.append ran, managed, toldActive ▸ active, ?_⟩
  simp only [select, resolved, Effect.bind_of_ok noted]
  -- What comes of the selection is what comes of putting the version in place.
  cases done with
  | true =>
    rw [Effect.bind_of_ok (if_pos rfl ▸ ended)]
    rfl
  | false =>
    obtain ⟨failure, ended⟩ := ended
    exact ⟨failure, Effect.bind_of_error ended⟩

/-- The version that a launch puts in place, if it asks the manager for one and succeeds. -/
def placed? (manager : String) (launch : Launch) : Option String :=
  match launch.command.args with
  | ["use", version] =>
    if launch.command = managerCommand manager ["use", version] && launch.succeeded then some version
    else none
  | _ => none

/-- The version that is in place after some launches. -/
def inPlaceAfter (manager : String) (active : Option String) (launches : List Launch) :
    Option String :=
  launches.foldl (fun active launch => (placed? manager launch).or active) active

/-- What is in place after launches in a row follows from what is in place between them. -/
theorem inPlaceAfter_append (manager : String) (active : Option String)
    (first next : List Launch) :
    inPlaceAfter manager active (first ++ next) =
      inPlaceAfter manager (inPlaceAfter manager active first) next :=
  List.foldl_append

/-- Launches that put nothing in place leave there what was there. -/
theorem inPlaceAfter_idle {manager : String} {launches : List Launch} (active : Option String)
    (idle : ∀ launch ∈ launches, placed? manager launch = none) :
    inPlaceAfter manager active launches = active := by
  -- Each launch leaves to the next what it was given.
  induction launches with
  | nil => rfl
  | cons launch launches ih =>
    have rest := ih fun other member => idle other (List.mem_cons_of_mem _ member)
    simpa [inPlaceAfter, idle launch (by simp)] using rest

/-- A try to put a version in place leaves it there exactly if it succeeds. -/
theorem Managed.inPlaceAfter {manager version : String} {launches : List Launch} {done : Bool}
    (managed : Managed manager version launches done) (active : Option String) :
    inPlaceAfter manager active launches = if done then some version else active := by
  -- Only the last command of the plan puts anything in place.
  have listing {launch : Launch} (listed : launch.command = managerCommand manager ["versions"]) :
      placed? manager launch = none := by simp [placed?, listed, managerCommand]
  have install {launch : Launch}
      (installed : launch.command = managerCommand manager ["install", version]) :
      placed? manager launch = none := by simp [placed?, installed, managerCommand]
  have use {launch : Launch} (used : launch.command = managerCommand manager ["use", version]) :
      placed? manager launch = if launch.succeeded then some version else none := by
    simp [placed?, used, managerCommand]
  cases managed with
  | refused _ _ listed _ installed _ =>
    simp [Toolchain.inPlaceAfter, listing listed, install installed]
  | installed _ _ launch listed _ installed _ used =>
    cases success : launch.succeeded <;>
      simp [Toolchain.inPlaceAfter, listing listed, install installed, use used, success]
  | present _ launch listed _ used =>
    cases success : launch.succeeded <;>
      simp [Toolchain.inPlaceAfter, listing listed, use used, success]

end AuditStage.Toolchain
