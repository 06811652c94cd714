import AuditStage.Proofs.Explorer.Retry
import AuditStage.Proofs.Pipeline.Execute
import AuditStage.Proofs.Staging.Faithful

/-! From the explorer's answer to the result: a finished run reports on what was published, and on
nothing else. -/

namespace AuditStage

open Effect (Keeps Same)

/-- Sources are what the first entry of the last answer holds. -/
def PublishedIn (inquiries : List Inquiry) (sources : SourceMap) : Prop :=
  ∃ earlier inquiry envelope entry entries, inquiries = earlier ++ [inquiry] ∧
    inquiry.reply = .ok envelope ∧ envelope.result = .entries (entry :: entries) ∧
    Payload.parse entry.sourceCode entry.contractName = .ok sources

/-- The first argument of a launch is the path of a file that holds a content at that time. -/
def Launch.Reads (launch : Launch) (content : String) : Prop :=
  ∃ path rest, launch.command.args = path :: rest ∧ launch.disk.content path = .ok content

namespace Fetch

/-- A source that was fetched is settled by the last of the replies. -/
theorem Concludes.fetched {address : String} {replies : List ExplorerReply} {source : FetchedSource}
    (concludes : Concludes address replies (.ok source)) :
    ∃ earlier reply, replies = earlier ++ [reply] ∧ settle address reply = .ok source := by
  generalize came : Except.ok source = outcome at concludes ⊢
  -- The call that gave up has fetched nothing.
  cases concludes with
  | @once reply => exact ⟨[], reply, rfl, rfl⟩
  | @again reply => exact ⟨[gatewayDown], reply, rfl, rfl⟩
  | gone => cases came

/-- A source that was fetched is the first entry of the last answer. -/
theorem source_ok {address : String} {fetched : FetchedSource} {before after : World}
    (ended : source address before = .ok fetched after) :
    ∃ earlier inquiry envelope entry entries,
      after.inquiries = before.inquiries ++ (earlier ++ [inquiry]) ∧ inquiry.reply = .ok envelope ∧
        envelope.result = .entries (entry :: entries) ∧
        fetched = ⟨entry.sourceCode, entry.compilerVersion, entry.contractName⟩ := by
  obtain ⟨replies, asked, concludes⟩ := source_concludes address before
  rw [Effect.after_ok ended] at asked
  rw [Effect.outcome_ok ended] at concludes
  obtain ⟨others, reply, rfl, settled⟩ := concludes.fetched
  obtain ⟨envelope, entry, entries, rfl, -, listed, -, copied⟩ := settle_ok_iff.1 settled
  -- The last reply stands at the end of the record.
  obtain ⟨inquiries, added, given⟩ := asked.recorded
  obtain ⟨earlier, last, rfl, -, replied⟩ := List.map_eq_append_iff.1 given
  obtain ⟨inquiry, none, rfl, answered, nothing⟩ := List.map_eq_cons_iff.1 replied
  obtain rfl := List.map_eq_nil_iff.1 nothing
  exact ⟨earlier, inquiry, envelope, entry, entries, added, answered, listed, copied⟩

end Fetch

namespace Pipeline

/-- Sources that were fetched and parsed are those that the last answer holds. -/
theorem fetchAndParse_ok {address : String} {source : FetchedSource} {sources : SourceMap}
    {before after : World} (ended : fetchAndParse address before = .ok (source, sources) after) :
    ∃ inquiries, after.inquiries = before.inquiries ++ inquiries ∧ PublishedIn inquiries sources := by
  -- A blank address is turned down before anything is asked.
  unfold fetchAndParse at ended
  dsimp only at ended
  split at ended
  · cases ended
  · obtain ⟨source, between, fetched, ended⟩ := Effect.bind_ok ended
    obtain ⟨earlier, inquiry, envelope, entry, entries, asked, answered, result, rfl⟩ :=
      Fetch.source_ok fetched
    dsimp only at ended
    -- The sources are those of the entry that was fetched.
    cases parsed : Payload.parse entry.sourceCode entry.contractName with
    | error cause =>
      simp only [parsed] at ended
      cases ended
    | ok read =>
      simp only [parsed] at ended
      -- After the parsing there is only a word in the log, if anything.
      obtain ⟨kept, rfl⟩ : after.inquiries = between.inquiries ∧ read = sources := by
        split at ended
        · obtain ⟨_, told, noted, ended⟩ := Effect.bind_ok ended
          cases noted
          cases ended
          exact ⟨rfl, rfl⟩
        · cases ended
          exact ⟨rfl, rfl⟩
      exact ⟨_, kept.trans asked, earlier, inquiry, envelope, entry, entries, rfl, answered, result,
        parsed⟩

/-- No two files with different contents have been staged at one place. -/
def Separate (sources : SourceMap) (project : Project) (disk : Disk) : Prop :=
  ∀ file ∈ sources.files, ∀ other ∈ sources.files, ∀ location,
    disk.resolve (Analyzer.pathFor project file.1) = .ok location →
    disk.resolve (Analyzer.pathFor project other.1) = .ok location → file.2 = other.2

/-- A finished run reports on the sources of the last answer: their keys, what the analyzer had to say
about each of them, and their contents. -/
structure Reported (pipeline : Pipeline) (before after : World) (run : PipelineRun)
    (inquiries : List Inquiry) (managing analyzing : List Launch) : Prop where
  asked : after.inquiries = before.inquiries ++ inquiries
  published : PublishedIn inquiries run.sources
  launched : after.launches = before.launches ++ (managing ++ analyzing)
  managed : Toolchain.Managed pipeline.manager run.compilerVersion managing true
  issued : analyzing.map (·.command) =
    run.sources.keys.map (pipeline.analyzerCommand run.project run.remaps)
  analyses : run.analyses.map (·.key) = run.sources.keys
  findings : run.result.slitherResults = String.join (analyzing.map Analyzer.findings)
  combined : run.result.combinedSourceCode = "\n".intercalate (run.sources.files.map Prod.snd)

/-- Each launch of the analyzer reads the content of its own file. -/
def Delivered (sources : SourceMap) (analyzing : List Launch) : Prop :=
  List.Forall₂ (fun file launch => launch.Reads file.2) sources.files analyzing

end Pipeline

namespace Staging.Built

variable {layout : Layout} {sources : SourceMap} {project : Project}
  {before cleared reset owned opened after : Disk} {root deep : Location}
  (built : Built layout sources before cleared reset owned opened after root deep project)

include built

/-- The path that is analyzed for a key is that of its staged file. -/
theorem pathFor_eq {key : String} (member : key ∈ sources.keys) :
    Analyzer.pathFor project key = (fileIn (baseOf root deep key) key).path := by
  simp [Analyzer.pathFor, built.pathOf?_eq member, fileIn]

/-- Every file holds its own content exactly if no two with different contents are at one place. -/
theorem stored_iff :
    (∀ file ∈ sources.files, after.content (Analyzer.pathFor project file.1) = .ok file.2) ↔
      Pipeline.Separate sources project after := by
  -- Where two keys share a location, only one content can be there.
  constructor
  · intro stored file member other known location resolved same
    obtain ⟨place, leads, holds⟩ := Disk.content_ok_iff.1 (stored file member)
    obtain ⟨place', leads', holds'⟩ := Disk.content_ok_iff.1 (stored other known)
    obtain rfl : location = place := Except.ok.inj (resolved.symm.trans leads)
    obtain rfl : location = place' := Except.ok.inj (same.symm.trans leads')
    simpa [holds] using holds'
  · rintro separate ⟨key, content⟩ member
    have listed : key ∈ sources.keys := List.mem_map_of_mem (f := Prod.fst) member
    -- The file holds what was written through some path that leads to it.
    obtain ⟨location, resolved, other, known, text, source, same, found⟩ :=
      built.standing.holds (fileIn (baseOf root deep key) key)
        (built.files ▸ List.mem_map_of_mem listed)
    rw [built.files] at known
    obtain ⟨key', listed', rfl⟩ := List.mem_map.1 known
    rw [← built.pathFor_eq listed] at resolved
    rw [← built.pathFor_eq listed'] at same
    obtain rfl : content = text := separate _ member _ source location resolved same
    exact Disk.content_ok_iff.2 ⟨location, resolved, found⟩

end Staging.Built

namespace Pipeline

variable {pipeline : Pipeline} {address : String} {before after : World} {run : PipelineRun}

/-- A launch of the analyzer for a key reads what lies at the path that is analyzed for it. -/
theorem reads_iff {project : Project} {remaps : RemapTable} {key content : String} {launch : Launch}
    (issued : launch.command = pipeline.analyzerCommand project remaps key) :
    launch.Reads content ↔ launch.disk.content (Analyzer.pathFor project key) = .ok content := by
  simp [Launch.Reads, issued, analyzerCommand, Analyzer.commandFor]

/-- The launches of the analyzer read what they should if every file holds what it should. -/
theorem delivered_iff {sources : SourceMap} {project : Project} {remaps : RemapTable} {disk : Disk}
    {analyzing : List Launch} (found : ∀ launch ∈ analyzing, launch.disk = disk)
    (issued : analyzing.map (·.command) = sources.keys.map (pipeline.analyzerCommand project remaps)) :
    Delivered sources analyzing ↔
      ∀ file ∈ sources.files, disk.content (Analyzer.pathFor project file.1) = .ok file.2 := by
  unfold Delivered SourceMap.keys pathsOf at *
  generalize sources.files = files at *
  -- The launches and the files are gone through side by side.
  induction files generalizing analyzing with
  | nil => simp_all
  | cons file files ih =>
    -- There are as many launches as files, so there is one for this file.
    obtain ⟨launch, rest, rfl⟩ : ∃ launch rest, analyzing = launch :: rest := by
      cases analyzing with
      | nil => simp at issued
      | cons launch rest => exact ⟨launch, rest, rfl⟩
    simp only [List.map_cons, List.cons.injEq] at issued
    rw [List.forall₂_cons, reads_iff issued.1, found launch (by simp), List.forall_mem_cons,
      ih (fun other member => found other (by simp [member])) issued.2]

/-- Sources that were staged have been built to the end, and the rest of it leaves the disk alone. -/
theorem stageSources_ok {sources : SourceMap} {project : Project} {remaps : RemapTable}
    (ended : pipeline.stageSources sources before = .ok (project, remaps) after) :
    ∃ built, Staging.build pipeline.layout sources before = .ok project built ∧
      after.disk = built.disk := by
  obtain ⟨staged, built, building, ended⟩ := Effect.bind_ok ended
  obtain ⟨table, told, resolving, ended⟩ := Effect.bind_ok ended
  cases ended
  -- The table of remappings is only worked out.
  have same : Same World.disk built after := (Run.remaps_keeps (fun _ _ => rfl) _ _).of_ok resolving
  exact ⟨built, building, same⟩

/-- A run that comes to its end reports on the sources of the explorer's last answer; and the analyzer
reads the content of every key exactly if no two keys with different contents were led to one place,
as can only be where the path of the staging root leads up. -/
theorem execute_reported (ended : pipeline.execute address before = .ok run after) :
    ∃ inquiries managing analyzing,
      Reported pipeline before after run inquiries managing analyzing ∧
        (Delivered run.sources analyzing ↔ Separate run.sources run.project after.disk) ∧
        ∀ root, pipeline.layout = .nested root → .up ∉ Path.components root →
          Delivered run.sources analyzing := by
  have outcome := executed pipeline address before
  rw [ended] at outcome
  -- A run that comes to its end has analyzed all its files.
  cases outcome with
  | @analyzed source sources project remaps version staged switched _ managing analyzing ready managed
      switching ran issued found inPlace active =>
    obtain ⟨fetched, parsed, stagedOk⟩ := ready.fetched
    obtain ⟨inquiries, asked, published⟩ := fetchAndParse_ok parsed
    obtain ⟨final, building, kept⟩ := stageSources_ok stagedOk
    have idle := Prod.mk.inj ready.idle
    have beside : staged.inquiries = fetched.inquiries :=
      congrArg (·.2.1) ((stageSources_keeps pipeline sources).of_ok stagedOk)
    -- No launch is missing, so keys and launches can be paired.
    have complete : analyzing.length = sources.keys.length := by
      simpa using congrArg List.length issued
    -- From the build on, nothing has changed on the disk.
    have disk : after.disk = final.disk := ran.disk.trans (switching.disk.trans kept)
    have delivered := delivered_iff (fun launch member => (found launch member).disk.trans
      ran.disk.symm) issued
    -- What the disk holds is what the build has left there.
    obtain ⟨cleared, reset, owned, opened, base, deep, built⟩ := Staging.build_ok building
    refine ⟨inquiries, managing, analyzing, ?_, ?_, ?_⟩
    · exact {
        asked := by rw [ran.inquiries, switching.inquiries, beside, asked]
        published
        launched := by rw [ran.launched, switching.launched, idle.1, List.append_assoc]
        managed
        issued
        analyses := Analyzer.keys_zipWith project complete
        findings := Analyzer.slitherResults_eq complete
        combined := rfl }
    · rw [delivered, disk]
      exact built.stored_iff
    · intro root nested down
      rw [nested] at built
      rw [delivered, disk]
      -- Without a way up the build is faithful, and each path holds the content of its key.
      rintro ⟨key, content⟩ member
      have listed : key ∈ sources.keys := List.mem_map_of_mem (f := Prod.fst) member
      have faithful := built.faithful_iff.2 (built.swept down)
      obtain ⟨text, known, stored⟩ := faithful.stored _ (built.files ▸ List.mem_map_of_mem listed)
      obtain rfl : content = text :=
        Option.some.inj ((SourceMap.get?_of_mem member).symm.trans known)
      rw [built.pathFor_eq listed]
      exact stored

/-- The analyzer is given the one file of a contract that consists of it. -/
theorem sample_reported :
    ∃ run after inquiries managing analyzing,
      samplePipeline.execute "0x1" sampleWorld = .ok run after ∧
        Reported samplePipeline sampleWorld after run inquiries managing analyzing ∧
        Delivered run.sources analyzing ∧ run.sources.files = [("A.sol", "contract A {}")] := by
  -- A run shows that the call ends well and which sources it has found.
  have outcome : (match samplePipeline.execute "0x1" sampleWorld with
    | .ok run _ => decide (run.sources.files = [("A.sol", "contract A {}")])
    | .error _ _ => false) = true := by decide +kernel
  split at outcome
  · rename_i run after ended
    obtain ⟨inquiries, managing, analyzing, reported, -, delivers⟩ := execute_reported ended
    exact ⟨run, after, inquiries, managing, analyzing, ended, reported,
      delivers "/work/out" rfl (by decide +kernel), of_decide_eq_true outcome⟩
  · cases outcome

/-- A world in which a link in the staging root stands where a file is going to be staged. -/
def linkedWorld : World :=
  let published :=
    "\x7b\"A.sol\":\x7b\"content\":\"contract A \x7b\x7d\"\x7d," ++
      "\"B.sol\":\x7b\"content\":\"contract B \x7b\x7d\"\x7d\x7d"
  let disk := ((Disk.atHome ["work"]).put ["work", "out"] .directory).put ["work", "out", "A.sol"]
    (.link "B.sol")
  .fresh disk (.scripted [("0x1", [.ok ⟨"1", "OK",
    .entries [⟨published, "v0.8.19+commit.7dd6d404", "A"⟩]⟩])]) ⟨[], none⟩

/-- Where the path of the staging root leads up from a directory that is missing, the link stays, and
the analyzer reads one file in the place of another. -/
theorem not_delivered_linkedWorld :
    ¬ ∀ (pipeline : Pipeline) (root address : String) (before after : World) (run : PipelineRun),
      pipeline.layout = .nested root → pipeline.execute address before = .ok run after →
        ∃ inquiries managing analyzing,
          Reported pipeline before after run inquiries managing analyzing ∧
            Delivered run.sources analyzing := by
  intro delivers
  let root := "/work/missing/../out"
  let pipeline : Pipeline := ⟨.nested root, defaultAnalyzer, defaultManager⟩
  -- After the run no path that a command names holds the content of the first key.
  have outcome : (match pipeline.execute "0x1" linkedWorld with
    | .ok run after =>
      decide (run.sources.files = [("A.sol", "contract A \x7b\x7d"), ("B.sol", "contract B \x7b\x7d")] ∧
        ∀ launch ∈ after.launches, ∀ path ∈ launch.command.args,
          launch.disk.content path ≠ .ok "contract A \x7b\x7d")
    | .error _ _ => false) = true := by decide +kernel
  split at outcome
  · rename_i run after ended
    obtain ⟨files, others⟩ := of_decide_eq_true outcome
    obtain ⟨inquiries, managing, analyzing, reported, delivered⟩ :=
      delivers pipeline root "0x1" linkedWorld after run rfl ended
    rw [Delivered, files] at delivered
    cases delivered with
    | @cons _ launch _ _ reads _ =>
      obtain ⟨path, rest, args, holds⟩ := reads
      refine others launch ?_ path (by simp [args]) holds
      rw [reported.launched]
      simp
  · cases outcome

end Pipeline

end AuditStage
