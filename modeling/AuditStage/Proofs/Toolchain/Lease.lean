import AuditStage.Proofs.Toolchain.Consensus

/-! Requests that are made one after another while the toolchain is held. Main statement: every attempt
at a switch issues the commands that it needs and no other, and the version on record is at any time the
one that the latest successful switch has put in place. -/

namespace AuditStage.Toolchain

/-- What the holder of the toolchain may ask for. -/
inductive Request where
  /-- Whether a version is installed. -/
  | listing (version : String)
  /-- That a version is put in place. -/
  | activation (version : String)
  /-- That the version for sources is found and put in place. -/
  | selection (sources : SourceMap) (reported : String)

/-- What a request is answered with, if it does not fail. -/
inductive Answer where
  | told (installed : Bool)
  | activated
  | selected (version : String)
deriving Repr, DecidableEq

/-- What is done about a request. -/
def Request.run (manager : String) : Request → Run Answer
  | .listing version => do return .told (← isInstalled manager version)
  | .activation version => do
    activate manager version
    return .activated
  | .selection sources reported => do return .selected (← select manager sources reported)

/-- One request: the worlds before and after it, and what came of it. -/
structure Exchange where
  request : Request
  before : World
  after : World
  outcome : Except Failure Answer

/-- Makes a request in a world. -/
def exchange (manager : String) (request : Request) (before : World) : Exchange where
  request := request
  before := before
  after := Effect.after (request.run manager) before
  outcome :=
    match request.run manager before with
    | .ok answer _ => .ok answer
    | .error failure _ => .error failure

/-- The version that the latest successful switch among some launches asked for. -/
def latest? (manager : String) (launches : List Launch) : Option String :=
  launches.reverse.findSome? (placed? manager)

/-- The requests made so far, and the world that they have led to; between two requests anything may
change, the replies of the tools too, but the record of launches and the version in place. -/
inductive Leased (manager : String) (first : World) : List Exchange → World → Prop where
  | start : Leased manager first [] first
  | made {exchanges : List Exchange} {world : World} (earlier : Leased manager first exchanges world)
      (request : Request) :
      Leased manager first (exchanges ++ [exchange manager request world])
        (exchange manager request world).after
  | meanwhile {exchanges : List Exchange} {world next : World}
      (earlier : Leased manager first exchanges world) (launches : next.launches = world.launches)
      (active : next.active = world.active) : Leased manager first exchanges next

namespace Exchange

/-- The launches that a request has added to the record. -/
def issued (exchange : Exchange) : List Launch :=
  exchange.after.launches.drop exchange.before.launches.length

/-- An attempt to put a version in place: the listing, the installation if the listing does not confirm
the version, and the switch unless the installation failed. -/
structure Attempts (manager version : String) (exchange : Exchange) (listing : Launch)
    (installing switching : List Launch) : Prop where
  launched :
    exchange.after.launches = exchange.before.launches ++ listing :: (installing ++ switching)
  listed : listing.command = managerCommand manager ["versions"]
  installs : installing.map (·.command) =
    if confirms listing.reply version then [] else [managerCommand manager ["install", version]]
  switches : switching.map (·.command) =
    if installing.all Launch.succeeded then [managerCommand manager ["use", version]] else []
  succeeds : exchange.outcome.isOk = switching.any Launch.succeeded
  fails : ∀ failure, exchange.outcome = .error failure → ∃ fault, failure = .toolchainSwitch version fault
  recorded : exchange.after.active =
    if exchange.outcome.isOk then some version else exchange.before.active

/-- A request is dealt with as it should be: asking whether a version is installed is a listing and
changes nothing, and a version that is asked for, or found for sources, is put in place or left alone. -/
def Orderly (manager : String) (exchange : Exchange) : Prop :=
  match exchange.request with
  | .listing version =>
    ∃ listing : Launch, exchange.after.launches = exchange.before.launches ++ [listing] ∧
      listing.command = managerCommand manager ["versions"] ∧
      exchange.after.active = exchange.before.active ∧
      exchange.outcome = .ok (.told (confirms listing.reply version))
  | .activation version =>
    (∃ listing installing switching,
      exchange.Attempts manager version listing installing switching) ∧
      ∀ answer, exchange.outcome = .ok answer → answer = .activated
  | .selection sources reported =>
    match Version.resolve? sources reported with
    | none =>
      exchange.after.launches = exchange.before.launches ∧
        exchange.after.active = exchange.before.active ∧
        exchange.outcome = .error (.versionUnresolvable reported)
    | some version =>
      (∃ listing installing switching,
        exchange.Attempts manager version listing installing switching) ∧
        ∀ answer, exchange.outcome = .ok answer → answer = .selected version

end Exchange

open Effect (Fails)

variable {manager : String}

/-- Of launches in a row, the later ones decide which switch is the latest. -/
theorem latest?_append (earlier later : List Launch) :
    latest? manager (earlier ++ later) = (latest? manager later).or (latest? manager earlier) := by
  simp [latest?, List.findSome?_append]

/-- What is in place after launches is what their latest switch asked for, or else what was there. -/
theorem inPlaceAfter_eq (active : Option String) (launches : List Launch) :
    inPlaceAfter manager active launches = (latest? manager launches).or active := by
  induction launches generalizing active with
  | nil => rfl
  | cons launch launches ih =>
    -- The first launch counts only where none of the others has put a version in place.
    have first : latest? manager [launch] = placed? manager launch := by
      cases placed : placed? manager launch <;> simp [latest?, placed]
    have step : inPlaceAfter manager active (launch :: launches) =
        inPlaceAfter manager ((placed? manager launch).or active) launches := rfl
    rw [step, ih, ← List.singleton_append, latest?_append, first, Option.or_assoc]

/-- The commands that put a version in place are a listing, at most one installation and at most one
switch. -/
theorem Managed.parts {version : String} {launches : List Launch} {done : Bool}
    (managed : Managed manager version launches done) :
    ∃ listing installing switching, launches = listing :: (installing ++ switching) ∧
      listing.command = managerCommand manager ["versions"] ∧
      installing.map (·.command) = (if confirms listing.reply version then []
        else [managerCommand manager ["install", version]]) ∧
      switching.map (·.command) = (if installing.all Launch.succeeded
        then [managerCommand manager ["use", version]] else []) ∧
      done = switching.any Launch.succeeded := by
  -- Each way to put a version in place tells which of the commands were issued.
  cases managed with
  | refused listing install listed missing installed failed =>
    exact ⟨listing, [install], [], by simp [listed, missing, installed, failed]⟩
  | installed listing install use listed missing installed succeeded used =>
    exact ⟨listing, [install], [use], by simp [listed, missing, installed, succeeded, used]⟩
  | present listing use listed confirmed used =>
    exact ⟨listing, [], [use], by simp [listed, confirmed, used]⟩

/-- A request that is answered leaves the world that its run ends in. -/
theorem exchange_of_ok {request : Request} {world after : World} {answer : Answer}
    (ended : request.run manager world = .ok answer after) :
    exchange manager request world = ⟨request, world, after, .ok answer⟩ := by
  simp only [exchange, Effect.after, ended]

/-- A request that fails leaves the world that its run fails in. -/
theorem exchange_of_error {request : Request} {world after : World} {failure : Failure}
    (ended : request.run manager world = .error failure after) :
    exchange manager request world = ⟨request, world, after, .error failure⟩ := by
  simp only [exchange, Effect.after, ended]

/-- A request that runs the commands of an attempt, and is answered exactly if they put the version in
place, is an attempt at it. -/
theorem Managed.exchanged {answer : Answer} {version : String} {launches : List Launch} {done : Bool}
    {world after : World} (managed : Managed manager version launches done) (request : Request)
    (ran : Ran launches world after)
    (active : after.active = if done then some version else world.active)
    (ended : if done then request.run manager world = .ok answer after
      else ∃ failure, request.run manager world = .error failure after)
    (fails : Fails (fun failure => ∃ fault, failure = .toolchainSwitch version fault)
      (request.run manager)) :
    ((∃ listing installing switching,
      (exchange manager request world).Attempts manager version listing installing switching) ∧
        ∀ other, (exchange manager request world).outcome = .ok other → other = answer) ∧
      ∃ launches, (exchange manager request world).after.launches = world.launches ++ launches ∧
        (exchange manager request world).after.active =
          (latest? manager launches).or world.active := by
  obtain ⟨listing, installing, switching, split, listed, installs, switches, success⟩ := managed.parts
  -- What is on record afterwards is known from the commands, and from the latest of their switches.
  have placed : after.active = (latest? manager launches).or world.active := by
    rw [active, ← inPlaceAfter_eq, managed.inPlaceAfter]
  -- The request is answered where the version is in place at the end, and fails where it is not.
  cases done with
  | true =>
    have ended : request.run manager world = .ok answer after := ended
    rw [exchange_of_ok ended]
    exact ⟨⟨⟨listing, installing, switching, split ▸ ran.launched, listed, installs, switches,
      success, nofun, active⟩, fun other same => by cases same; rfl⟩, launches, ran.launched, placed⟩
  | false =>
    obtain ⟨failure, ended⟩ : ∃ failure, request.run manager world = .error failure after := ended
    -- There was a failure, so it is one of the kind that the request may have.
    have switch := fails world failure after ended
    rw [exchange_of_error ended]
    exact ⟨⟨⟨listing, installing, switching, split ▸ ran.launched, listed, installs, switches,
      success, fun other same => by cases same; exact switch, active⟩, nofun⟩,
      launches, ran.launched, placed⟩

/-- A request for what an action gives is answered where the action ends well. -/
theorem answered {α : Type} {action : Run α} {value : α} {done : Bool} {world after : World}
    (answer : α → Answer)
    (ended : if done then action world = .ok value after
      else ∃ failure, action world = .error failure after) :
    if done then (action >>= fun value => pure (answer value)) world = .ok (answer value) after
    else ∃ failure, (action >>= fun value => pure (answer value)) world = .error failure after := by
  -- What is given where the action ends well is wrapped up as an answer.
  cases done with
  | true =>
    rw [if_pos rfl] at ended ⊢
    rw [Effect.bind_of_ok ended]
    rfl
  | false =>
    obtain ⟨failure, ended⟩ : ∃ failure, action world = .error failure after := ended
    exact ⟨failure, Effect.bind_of_error ended⟩

/-- Where a version is found for sources, only the switch to it can fail. -/
theorem select_fails {reported version : String} {sources : SourceMap}
    (resolved : Version.resolve? sources reported = some version) :
    Fails (fun failure => ∃ fault, failure = .toolchainSwitch version fault)
      (select manager sources reported) := by
  intro world failure final failed
  -- Of the two ways for a selection to fail, one is that there is no version.
  rcases select_error failed with ⟨missing, -⟩ | ⟨other, fault, found, switch⟩
  · rw [resolved] at missing
    cases missing
  · -- The version that could not be put in place is the one that was found.
    rw [resolved] at found
    cases found
    exact ⟨fault, switch⟩

/-- Every request is dealt with as it should be, and the version on record afterwards follows from the
launches that it adds. -/
theorem exchange_orderly (manager : String) (request : Request) (world : World) :
    (exchange manager request world).Orderly manager ∧
      ∃ launches, (exchange manager request world).after.launches = world.launches ++ launches ∧
        (exchange manager request world).after.active =
          (latest? manager launches).or world.active := by
  cases request with
  | listing version =>
    obtain ⟨listing, after, answered, ran, active, listed⟩ := isInstalled_ran manager version world
    have ended : (Request.listing version).run manager world =
        .ok (.told (confirms listing.reply version)) after := by
      rw [Request.run, Effect.bind_of_ok answered]
      rfl
    -- A listing is no switch, so what was in place stays there.
    have idle : placed? manager listing = none := by simp [placed?, listed, managerCommand]
    have kept : after.active = (latest? manager [listing]).or world.active := by
      simpa [latest?, idle] using active
    rw [exchange_of_ok ended]
    exact ⟨⟨listing, ran.launched, listed, active, rfl⟩, [listing], ran.launched, kept⟩
  | activation version =>
    obtain ⟨launches, after, done, ran, managed, active, ended⟩ := activate_ran manager version world
    -- The same commands are run, and the answer is that they have been.
    have fails : Fails (fun failure => ∃ fault, failure = .toolchainSwitch version fault)
        (activate manager version) := activate_fails (fun fault => ⟨fault, rfl⟩) manager
    exact managed.exchanged (.activation version) ran active (answered (fun _ => .activated) ended)
      (fails.bind fun _ => .pure _)
  | selection sources reported =>
    unfold Exchange.Orderly
    cases resolved : Version.resolve? sources reported with
    | none =>
      -- Without a version to be found, no command is issued.
      have ended : (Request.selection sources reported).run manager world =
          .error (.versionUnresolvable reported) world := by
        rw [Request.run, Effect.bind_of_error (select_unresolvable_iff.2 ⟨resolved, rfl, rfl⟩)]
      rw [exchange_of_error ended]
      refine ⟨?_, [], (List.append_nil _).symm, rfl⟩
      simp [resolved]
    | some version =>
      -- A version that is found is put in place as if it had been asked for.
      obtain ⟨launches, after, done, ran, managed, active, ended⟩ := select_ran manager resolved world
      have orderly := managed.exchanged (.selection sources reported) ran active
        (answered .selected ended) ((select_fails resolved).bind fun _ => .pure _)
      simpa only [exchange, resolved] using orderly

/-- Over all requests that are made while the toolchain is held, each is dealt with as it should be, and
after each the version on record is the one that the latest successful switch asked for, if there was
any, and else the one that was on record at the start. -/
theorem lease_recorded {first last : World} {exchanges : List Exchange}
    (leased : Leased manager first exchanges last) :
    (∀ exchange ∈ exchanges, exchange.Orderly manager) ∧
      (∀ earlier exchange later, exchanges = earlier ++ exchange :: later →
        exchange.after.active =
          (latest? manager ((earlier ++ [exchange]).flatMap Exchange.issued)).or first.active) ∧
      last.active = (latest? manager (exchanges.flatMap Exchange.issued)).or first.active := by
  -- The induction is on the requests, and what is on record at the end carries it on.
  induction leased with
  | start => exact ⟨by simp, by simp, rfl⟩
  | made earlier request ih =>
    rename_i exchanges world
    obtain ⟨orderly, recorded, active⟩ := ih
    obtain ⟨next, launches, launched, placed⟩ := exchange_orderly manager request world
    -- What a request has issued is what the launches have grown by.
    have issued : (exchange manager request world).issued = launches := by
      rw [Exchange.issued, launched]
      exact List.drop_left
    -- A later switch makes the earlier ones count for nothing.
    have final : (exchange manager request world).after.active =
        (latest? manager ((exchanges ++ [exchange manager request world]).flatMap
          Exchange.issued)).or first.active := by
      rw [placed, active, List.flatMap_append, latest?_append, Option.or_assoc]
      simp [issued]
    refine ⟨?_, ?_, final⟩
    · intro made member
      -- Those made before are dealt with as they should be by the induction.
      rcases List.mem_append.1 member with old | new
      · exact orderly made old
      · exact List.mem_singleton.1 new ▸ next
    · intro front made later split
      -- The request in question is the new one, or it was made before.
      rcases List.eq_nil_or_concat' later with rfl | ⟨rest, final, rfl⟩
      · obtain ⟨rfl, same⟩ := List.append_inj' split rfl
        obtain rfl : exchange manager request world = made := by simpa using same
        exact final
      · rw [← List.cons_append, ← List.append_assoc] at split
        exact recorded front made rest (List.append_inj' split rfl).1
  | meanwhile earlier launches active ih => exact ⟨ih.1, ih.2.1, active.trans ih.2.2⟩

/-- A world in which the manager installs one version, and lists another one but cannot switch to it. -/
def stubbornWorld : World :=
  .fresh (.atHome ["work"]) (.scripted [])
    ⟨[.ok (.succeeded "0.8.24\n"), .ok (.succeeded ""), .ok (.succeeded ""),
      .ok (.succeeded "0.8.20 (current)\n"), .ok (.failed 1 "no")], none⟩

/-- A switch that fails after one that succeeded leaves the version of the first on record. -/
theorem stubbornWorld_recorded :
    let one := exchange Pipeline.defaultManager (.activation "0.8.19") stubbornWorld
    let two := exchange Pipeline.defaultManager (.selection agreeingSources "v0.8.26") one.after
    one.issued.map (·.command.args) = [["versions"], ["install", "0.8.19"], ["use", "0.8.19"]] ∧
      two.issued.map (·.command.args) = [["versions"], ["use", "0.8.20"]] ∧
      two.outcome.isOk = false ∧ (∀ exchange ∈ [one, two], exchange.Orderly Pipeline.defaultManager) ∧
      two.after.active = some "0.8.19" := by
  intro one two
  -- The requests are made in a row, one in the world that the other has left.
  have leased : Leased Pipeline.defaultManager stubbornWorld [one, two] two.after :=
    .made (.made .start (.activation "0.8.19")) (.selection agreeingSources "v0.8.26")
  obtain ⟨orderly, -, active⟩ := lease_recorded leased
  refine ⟨by decide +kernel, by decide +kernel, by decide +kernel, orderly, ?_⟩
  rw [active]
  decide +kernel

end AuditStage.Toolchain
