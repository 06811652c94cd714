import AuditStage.Proofs.Staging.Libraries
import AuditStage.Proofs.Staging.Spelled

/-! Consistent sources are staged to the end: where nothing else is in the way, no directory is ever
asked for in place of a file, and no file in place of a directory. -/

namespace AuditStage.Staging

open Disk (Grows)
open AuditStage.Path (ofNames)

variable {root : String} {base : Location} {keys : List String} {key : String}
  {names front packages : List String} {location tree : Location} {disk after : Disk}
  {chosen : String → Bool} {kind : String → Prop} {sources : SourceMap}
  {staged : List StagedFile} {world : World}

/-- Nothing that lies below a staging root is in the way of what is planned there. -/
structure Unobstructed (base : Location) (keys : List String) (disk : Disk) : Prop where
  ways : ∀ names, Planned keys names .directory → disk.Plain (base ++ names)
  places : ∀ key ∈ keys, disk.Writable (base ++ place key)

/-- Below a directory in which nothing lies nothing is in the way. -/
theorem Unobstructed.of_bare (consistent : Consistent base keys)
    (directory : disk.entryAt? base = some .directory) (bare : disk.Bare base) :
    Unobstructed base keys disk := by
  refine ⟨fun names planned => ?_, fun key member => ?_⟩
  · -- No names at all lead to the directory itself.
    by_cases here : names = []
    · exact .inr (by simpa [here] using directory)
    · exact .inl (bare names here)
  · exact .inl (bare _ (place_ne_nil (consistent.spelled key member)))

/-- What a location holds is what it held before, or what is planned there. -/
def Foreseen (base : Location) (keys : List String) (disk : Disk) (location : Location)
    (held : Option Entry) : Prop :=
  held = disk.entryAt? location ∨
    ∃ names entry, location = base ++ names ∧ Planned keys names entry ∧ held = some entry

/-- A staging root is a directory in which nothing is in the way. -/
structure Ready (base : Location) (keys : List String) (disk : Disk) : Prop extends
    Unobstructed base keys disk where
  directory : disk.entryAt? base = some .directory

namespace Ready

variable (ready : Ready base keys disk)

include ready

/-- The names that lead to a staging root are plain. -/
theorem plain : ∀ name ∈ base, Path.isPlain name = true :=
  plain_of_entryAt? ready.directory

/-- A directory is foreseen on the way to something planned, above the staging root and below it. -/
theorem above (planned : ∀ way, way <+: front → Planned keys way .directory)
    (shorter : location <+: base ++ front) : Foreseen base keys disk location (some .directory) := by
  -- The location leads to the staging root, or the root leads to the location.
  rcases List.prefix_or_prefix_of_prefix shorter (List.prefix_append base front) with inside | beyond
  · obtain ⟨below, rfl⟩ := inside
    by_cases last : below = []
    · exact .inl (by simpa [last] using ready.directory.symm)
    · exact .inl (Disk.entryAt?_above ready.directory last).symm
  · obtain ⟨way, rfl⟩ := beyond
    exact .inr ⟨way, .directory, rfl, planned way ((List.prefix_append_right_inj base).1 shorter), rfl⟩

/-- Nothing but directories lies on the way to something planned. -/
theorem way (planned : ∀ way, way <+: front → Planned keys way .directory) :
    ∀ above, above <+: base ++ front → disk.Plain above := by
  intro above shorter
  rcases ready.above planned shorter with same | ⟨way, entry, rfl, inside, held⟩
  · exact .inr same.symm
  · cases held
    exact ready.ways way inside

/-- A staging root stays ready while nothing but what is planned is made in it. -/
theorem of_foreseen (consistent : Consistent base keys) (grows : Grows disk after)
    (foreseen : ∀ location, Foreseen base keys disk location (after.entryAt? location)) :
    Ready base keys after := by
  refine ⟨⟨fun names planned => ?_, fun key member => ?_⟩, grows.directory _ ready.directory⟩
  · rcases foreseen (base ++ names) with same | ⟨names', entry, split, planned', made⟩
    · rw [Disk.Plain, same]
      exact ready.ways names planned
    obtain rfl := List.append_cancel_left split
    -- What has been made in the place of a directory is no file.
    cases entry with
    | directory => exact .inr made
    | link target => exact planned'.elim
    | file content =>
      obtain ⟨key, member, rfl⟩ := planned'
      exact absurd planned (consistent.not_place_of_planned ready.plain member)
  · rcases foreseen (base ++ place key) with same | ⟨names', entry, split, planned', made⟩
    · rw [Disk.Writable, same]
      exact ready.places key member
    obtain rfl := List.append_cancel_left split
    -- And what has been made in the place of a file is no directory.
    cases entry with
    | file content => exact .inr ⟨content, made⟩
    | link target => exact planned'.elim
    | directory => exact absurd planned' (consistent.not_place_of_planned ready.plain member)

variable (consistent : Consistent base keys)

include consistent

/-- The file of a key can be written. -/
theorem writeFile (member : key ∈ keys) (content : String) :
    ∃ after, Disk.writeFile (stagedPath base key) content disk = .ok () after ∧ Ready base keys after ∧
      Grows disk after := by
  have spelled := consistent.spelled key member
  -- The last name of a place is that of the file, and those before it lead through directories.
  obtain ⟨front, last, split⟩ :=
    (List.eq_nil_or_concat' (place key)).resolve_left (place_ne_nil spelled)
  have whole : stagedPath base key = ofNames (base ++ front ++ [last]) := by
    rw [stagedPath_eq ready.plain spelled, split, List.append_assoc]
  -- Every location on the way to the file is planned to be a directory.
  have planned : ∀ way, way <+: front → Planned keys way .directory := by
    rintro way ⟨rest, rfl⟩
    exact .inr ⟨key, member, rest ++ [last], by simp, by rw [split, List.append_assoc]⟩
  -- The names of the root stand on a disk, and those of the place are proper ones.
  have named : ∀ name ∈ base ++ front ++ [last], Disk.isName name = true := by
    rw [List.append_assoc, ← split]
    exact List.forall_mem_append.2 ⟨Disk.isName_of_entryAt? ready.directory, isName_of_mem_place spelled⟩
  have fits := consistent.fits key member
  rw [whole] at fits
  obtain ⟨after, written, entries⟩ := Disk.writeFile_ofNames named fits (ready.way planned)
    (by simpa [split] using ready.places key member) content
  have grows : Disk.Adds _ _ disk after := (Disk.writeFile_adds _ _).of_ok written
  refine ⟨after, whole ▸ written, ready.of_foreseen consistent grows.toGrows fun location => ?_,
    grows.toGrows⟩
  -- The file itself is planned, and so are the directories that were made for it.
  rw [entries]
  split
  · rename_i here
    exact .inr ⟨place key, .file content, by rw [here, split, List.append_assoc], ⟨key, member, rfl⟩, rfl⟩
  split
  · exact ready.above planned ‹_›
  · exact .inl rfl

/-- A directory on the way to the file of a key can be made. -/
theorem makeDirectories {further : List String} (member : key ∈ keys) (some : further ≠ [])
    (split : names ++ further = place key) :
    ∃ after, Disk.makeDirectories (ofNames (base ++ names)) disk = .ok () after ∧
      Ready base keys after ∧ Grows disk after := by
  have spelled := consistent.spelled key member
  -- Whatever leads to the directory leads to the file of the key.
  have planned : ∀ way, way <+: names → Planned keys way .directory := by
    rintro way ⟨rest, rfl⟩
    exact .inr ⟨key, member, rest ++ further, by simp [some], by rw [← split, List.append_assoc]⟩
  have named : ∀ name ∈ base ++ names, Disk.isName name = true :=
    List.forall_mem_append.2 ⟨Disk.isName_of_entryAt? ready.directory, fun name inside =>
      isName_of_mem_place spelled name (split ▸ List.mem_append_left _ inside)⟩
  -- The path of the file is accepted, and this one is a part of it.
  have fits := consistent.fits key member
  rw [stagedPath_eq ready.plain spelled, ← split, ← List.append_assoc] at fits
  obtain ⟨after, made, entries⟩ := Disk.makeDirectories_ofNames named
    (Disk.isPath_shorter (List.prefix_append _ _) fits) (ready.way planned)
  have grows : Disk.Adds _ _ disk after := (Disk.makeDirectories_adds _).of_ok made
  refine ⟨after, made, ready.of_foreseen consistent grows.toGrows fun location => ?_, grows.toGrows⟩
  rw [entries]
  split
  · exact ready.above planned ‹_›
  · exact .inl rfl

/-- The dependency root can be made, by the path that the staging root was given. -/
theorem makeDependencyRoot (resolved : disk.resolve root = .ok base)
    (fits : Disk.isPath (Layout.nested root).dependencyRoot = true) :
    ∃ after, Disk.makeDirectories (Layout.nested root).dependencyRoot disk = .ok () after ∧
      Ready base keys after ∧
      after.resolve (Layout.nested root).dependencyRoot = .ok (base ++ [Layout.dependencyName]) ∧
      after.entryAt? (base ++ [Layout.dependencyName]) = some .directory := by
  have planned : Planned keys [Layout.dependencyName] .directory := .inl rfl
  -- The given path need not be canonical, so it is the location it stands for that is looked at.
  have whole : Disk.Names disk (Layout.nested root).dependencyRoot (base ++ [Layout.dependencyName]) :=
    Disk.names_join resolved ready.directory (by decide) fits
  -- Its location is free or holds a directory already.
  obtain ⟨after, made, entries⟩ := Disk.makeDirectory_of_plain whole (ready.ways _ planned)
  rw [← Disk.makeDirectories_of_names whole] at made
  have grows : Disk.Adds _ _ disk after := (Disk.makeDirectories_adds _).of_ok made
  have found : after.entryAt? (base ++ [Layout.dependencyName]) = some .directory := by
    rw [entries, if_pos rfl]
  refine ⟨after, made, ready.of_foreseen consistent grows.toGrows fun location => ?_,
    (grows.names whole).resolve found, found⟩
  rw [entries]
  split
  · rename_i here
    exact .inr ⟨_, .directory, here, planned, rfl⟩
  · exact .inl rfl

end Ready

/-- A file is staged if it can be written and no other one stands at its path. -/
theorem stageFile_ends {file : StagedFile} {content : String}
    (fresh : ∀ other ∈ staged, Path.components other.path ≠ Path.components file.path)
    (written : Disk.writeFile file.path content world.disk = .ok () after) :
    stageFile staged file content world = .ok (staged ++ [file]) { world with disk := after } := by
  -- Nobody claims the path, so all that is left is the writing.
  have free : ownerOf? staged file.path = none :=
    List.find?_eq_none.2 fun other member => by simpa using fresh other member
  simp only [stageFile, free]
  exact Effect.bind_of_ok (Run.onDisk_of_ok written)

/-- The files that stand are staged for keys of some kind. -/
def StagedFor (base : Location) (keys : List String) (kind : String → Prop)
    (staged : List StagedFile) : Prop :=
  ∀ file ∈ staged, ∃ key ∈ keys, kind key ∧ file.path = stagedPath base key

/-- Files that are staged for keys of one kind are staged for those of a wider one. -/
theorem StagedFor.mono {wider : String → Prop} (standing : StagedFor base keys kind staged)
    (fewer : ∀ key, kind key → wider key) : StagedFor base keys wider staged := by
  intro file before
  obtain ⟨key, member, fits, path⟩ := standing file before
  exact ⟨key, member, fewer key fits, path⟩

/-- One more file may stand for a key of the kind. -/
theorem StagedFor.concat {file : StagedFile} (standing : StagedFor base keys kind staged)
    (member : key ∈ keys) (fits : kind key) (path : file.path = stagedPath base key) :
    StagedFor base keys kind (staged ++ [file]) :=
  List.forall_mem_append.2 ⟨standing, List.forall_mem_singleton.2 ⟨key, member, fits, path⟩⟩

/-- The files of chosen keys are staged to the last one, if those that stand are for keys of a kind that
has not been chosen. -/
theorem stageChosen_ends (consistent : Consistent base sources.keys)
    (ready : Ready base sources.keys world.disk)
    (stands : ∀ key, chosen key = true → pathIn (ofNames tree) key = stagedPath base key)
    (standing : StagedFor base sources.keys kind staged) (apart : ∀ key, kind key → chosen key = false) :
    ∃ next final, stageChosen tree chosen sources.files staged world = .ok next final ∧
      StagedFor base sources.keys (fun key => kind key ∨ chosen key = true) next ∧
      Ready base sources.keys final.disk ∧ Grows world.disk final.disk := by
  -- What is chosen among the keys that have had their turn stands beside what stood before.
  have ends : ∃ next final, stageChosen tree chosen sources.files staged world = .ok next final ∧
      StagedFor base sources.keys
        (fun key => kind key ∨ (chosen key = true ∧ key ∈ pathsOf sources.files)) next ∧
      Ready base sources.keys final.disk ∧ Grows world.disk final.disk := by
    refine Effect.foldlM_ends
      (motive := fun done next (between : World) =>
        StagedFor base sources.keys (fun key => kind key ∨ (chosen key = true ∧ key ∈ pathsOf done)) next ∧
          Ready base sources.keys between.disk ∧ Grows world.disk between.disk)
      ⟨standing.mono fun _ => .inl, ready, refl_of Grows _⟩ ?_
    rintro done ⟨key, content⟩ rest next between split ⟨standing, ready, grows⟩
    have member : key ∈ sources.keys := by simp [SourceMap.keys, pathsOf, split]
    have wider (other : String) : kind other ∨ (chosen other = true ∧ other ∈ pathsOf done) →
        kind other ∨ (chosen other = true ∧ other ∈ pathsOf (done ++ [(key, content)])) := by
      refine Or.imp_right (And.imp_right fun before => ?_)
      rw [pathsOf, List.map_append]
      exact List.mem_append_left _ before
    -- No key has its turn twice.
    have later : key ∉ pathsOf done := by
      have distinct := sources.distinct
      rw [split, pathsOf, List.map_append] at distinct
      exact fun before => List.disjoint_of_nodup_append distinct before (by simp)
    dsimp only
    split
    swap
    · exact ⟨next, between, rfl, standing.mono wider, ready, grows⟩
    rename_i chose
    obtain ⟨after, written, ready, further⟩ := ready.writeFile consistent member content
    -- Whatever stands is for another key, and so at another path.
    rw [← stands key chose] at written
    have fresh : ∀ file ∈ next, Path.components file.path ≠ Path.components (fileIn tree key).path := by
      intro file before
      obtain ⟨other, member', fits, path⟩ := standing file before
      rw [path, show (fileIn tree key).path = stagedPath base key from stands key chose]
      refine consistent.components_ne member' member ?_
      rintro rfl
      rcases fits with early | ⟨-, early⟩
      · simp [apart other early] at chose
      · exact later early
    refine ⟨_, _, stageFile_ends fresh written,
      (standing.mono wider).concat member (.inr ⟨chose, by simp [pathsOf]⟩) (stands key chose), ready,
      trans_of Grows grows further⟩
  obtain ⟨next, final, ended, standing, left⟩ := ends
  exact ⟨next, final, ended, standing.mono fun key => Or.imp_right And.left, left⟩

/-- The path of a library file starts with that of the dependency root. -/
theorem stagedPath_library (plain : ∀ name ∈ base, Path.isPlain name = true)
    (belongs : (Key.package? key).isSome) :
    pathIn (ofNames (base ++ [Layout.dependencyName])) key = stagedPath base key := by
  rw [stagedPath, treeOf, if_pos belongs, nested_ofNames plain]

/-- The path of one of the project's own files starts with that of the staging root. -/
theorem stagedPath_own (own : Key.package? key = none) :
    pathIn (ofNames base) key = stagedPath base key := by
  rw [stagedPath, treeOf, own]
  rfl

/-- A key belongs to no package but perhaps to one of some. -/
def IsAmong (packages : List String) (key : String) : Prop :=
  ∀ package, Key.package? key = some package → package ∈ packages

/-- The files of a package are staged to the last one, if none of them stands already. -/
theorem stagePackage_ends {package : String} (consistent : Consistent base sources.keys)
    (ready : Ready base sources.keys world.disk) (known : package ∈ Key.packagesOf sources.keys)
    (absent : package ∉ packages) (standing : StagedFor base sources.keys (IsAmong packages) staged) :
    ∃ next final, stagePackage (ofNames (base ++ [Layout.dependencyName])) sources staged package world =
        .ok next final ∧
      StagedFor base sources.keys (IsAmong (packages ++ [package])) next ∧
      Ready base sources.keys final.disk ∧ Grows world.disk final.disk := by
  -- The directory of the package lies on the way to the file of a key.
  obtain ⟨key, member, belongs⟩ := Key.mem_packagesOf.1 known
  obtain ⟨name, rest, names⟩ := Key.names_package (consistent.spelled key member).stageable belongs
  have split : [Layout.dependencyName, package] ++ name :: rest = place key := by
    simp [place, belongs, names]
  obtain ⟨after, made, readied, grows⟩ :=
    ready.makeDirectories consistent member (List.cons_ne_nil _ _) split
  have directory : Path.join (ofNames (base ++ [Layout.dependencyName])) package =
      ofNames (base ++ [Layout.dependencyName, package]) := by
    rw [Path.join_ofNames (plain_nested ready.plain) (Key.isPlain_package belongs), List.append_assoc]
    rfl
  rw [← directory] at made
  have stands : ∀ key, isOf package key = true →
      pathIn (ofNames (base ++ [Layout.dependencyName])) key = stagedPath base key := fun key chose =>
    stagedPath_library ready.plain (by simp [beq_iff_eq.1 chose])
  -- Nothing that stands is for a key of this package.
  have apart : ∀ key, IsAmong packages key → isOf package key = false := fun key among =>
    beq_eq_false_iff_ne.2 fun belongs => absent (among package belongs)
  obtain ⟨next, final, filled, standing, readied, further⟩ :
      ∃ next final, stageChosen (base ++ [Layout.dependencyName]) (isOf package) sources.files staged
          { world with disk := after } = .ok next final ∧
        StagedFor base sources.keys (fun key => IsAmong packages key ∨ isOf package key = true) next ∧
        Ready base sources.keys final.disk ∧ Grows after final.disk :=
    stageChosen_ends consistent readied stands standing apart
  refine ⟨next, final, ?_, standing.mono ?_, readied, trans_of Grows grows further⟩
  · rw [stagePackage_eq, Effect.bind_of_ok (Run.onDisk_of_ok made), filled]
  · rintro key (among | chose) other belongs
    · exact List.mem_append_left _ (among other belongs)
    · obtain rfl : package = other := Option.some.inj ((beq_iff_eq.1 chose).symm.trans belongs)
      simp

/-- The files of all packages are staged to the last one, if none of them stands already. -/
theorem packages_ends (consistent : Consistent base sources.keys)
    (ready : Ready base sources.keys world.disk)
    (standing : StagedFor base sources.keys (IsAmong []) staged) :
    ∃ next final, (Key.packagesOf sources.keys).foldlM
        (stagePackage (ofNames (base ++ [Layout.dependencyName])) sources) staged world = .ok next final ∧
      Grows world.disk final.disk := by
  have ends : ∃ next final, (Key.packagesOf sources.keys).foldlM
      (stagePackage (ofNames (base ++ [Layout.dependencyName])) sources) staged world = .ok next final ∧
        StagedFor base sources.keys (IsAmong (Key.packagesOf sources.keys)) next ∧
        Ready base sources.keys final.disk ∧ Grows world.disk final.disk := by
    refine Effect.foldlM_ends
      (motive := fun done next (between : World) => StagedFor base sources.keys (IsAmong done) next ∧
        Ready base sources.keys between.disk ∧ Grows world.disk between.disk)
      ⟨standing, ready, refl_of Grows _⟩ ?_
    rintro done package rest next between split ⟨standing, ready, grows⟩
    -- No package has its turn twice.
    have distinct := Key.nodup_packagesOf sources.keys
    rw [split] at distinct
    have absent : package ∉ done := fun before =>
      List.disjoint_of_nodup_append distinct before (by simp)
    -- So what stands before its turn is for none of its keys.
    obtain ⟨further, after, stepped, stands, readied, grown⟩ :=
      stagePackage_ends consistent ready (by simp [split]) absent standing
    exact ⟨further, after, stepped, stands, readied, trans_of Grows grows grown⟩
  obtain ⟨next, final, ended, -, -, grows⟩ := ends
  exact ⟨next, final, ended, grows⟩

/-- A root can be opened where directories can be made and the path leads to one. -/
theorem makeRoot_ends {path : String} (made : Disk.makeDirectories path world.disk = .ok () after)
    (resolved : after.resolve path = .ok location) :
    makeRoot path world = .ok (ofNames location) { world with disk := after } := by
  rw [makeRoot, Effect.bind_of_ok (Run.onDisk_of_ok made)]
  exact Run.fromDisk_of_ok (Disk.canonical_ok_iff.2 ⟨location, resolved, rfl⟩)

/-- The dependency root is opened where it can be made. -/
theorem openDependencyRoot_ends {layout : Layout} (stagingRoot : String)
    (made : Disk.makeDirectories layout.dependencyRoot world.disk = .ok () after)
    (resolved : after.resolve layout.dependencyRoot = .ok location) :
    ∃ preexisted final, openDependencyRoot layout stagingRoot world =
      .ok (ofNames location, preexisted) final ∧ final.disk = after := by
  have opened := makeRoot_ends made resolved
  have looked : (get : Run World) world = .ok world world := rfl
  unfold openDependencyRoot
  refine ⟨world.disk.isDirectory layout.dependencyRoot, ?_⟩
  rw [Effect.bind_of_ok looked]
  dsimp only
  rw [Effect.bind_of_ok opened]
  -- A remark in the log is all that may come on top.
  split
  · exact ⟨_, rfl, rfl⟩
  · exact ⟨_, rfl, rfl⟩

/-- The last part of a build ends well if the packages are staged and the dependency root is listed. -/
theorem finish_ends {stagingRoot dependencyRoot : String} {preexisted : Bool} {next : List StagedFile}
    {filled : World} {found : List (String × Entry)}
    (packages : (Key.packagesOf sources.keys).foldlM (stagePackage dependencyRoot sources) staged world =
      .ok next filled)
    (listed : filled.disk.listing dependencyRoot = .ok found) :
    ∃ project final, finish stagingRoot dependencyRoot preexisted sources staged world =
      .ok project final := by
  rw [finish, Effect.bind_of_ok packages, Effect.bind_of_ok (Run.fromDisk_of_ok listed)]
  exact ⟨_, _, rfl⟩

/-- The system accepts the path of the dependency root, both behind the path that was given for the staging
root and behind the canonical one. -/
def Roomy (root : String) (base : Location) : Prop :=
  Disk.isPath (Layout.nested root).dependencyRoot = true ∧
    Disk.isPath (Layout.nested (ofNames base)).dependencyRoot = true

instance : Decidable (Roomy root base) :=
  inferInstanceAs (Decidable (_ ∧ _))

/-- From a staging root that is ready all files are staged. -/
theorem stage_ends (consistent : Consistent base sources.keys) (ready : Ready base sources.keys world.disk)
    (rooted : world.disk.resolve root = .ok base) (roomy : Roomy root base) :
    ∃ project final, stage (.nested root) sources (ofNames base) world = .ok project final := by
  have stands : ∀ key, isOwn key = true → pathIn (ofNames base) key = stagedPath base key :=
    fun key own => stagedPath_own (Option.isNone_iff_eq_none.1 own)
  obtain ⟨staged, owned, owning, standing, readied, grows⟩ :
      ∃ staged owned, stageChosen base isOwn sources.files [] world = .ok staged owned ∧
        StagedFor base sources.keys (fun key => False ∨ isOwn key = true) staged ∧
        Ready base sources.keys owned.disk ∧ Grows world.disk owned.disk :=
    stageChosen_ends consistent ready stands (by simp [StagedFor]) (fun _ => False.elim)
  -- None of the files that stand so far is for a key of a package.
  have alone : StagedFor base sources.keys (IsAmong []) staged := by
    refine standing.mono ?_
    rintro key (never | own) package belongs
    · exact never.elim
    · simp [isOwn, belongs] at own
  -- The project's own files leave the dependency root free.
  obtain ⟨after, made, readied, resolved, directory⟩ :=
    readied.makeDependencyRoot consistent (grows.resolve rooted) roomy.1
  obtain ⟨preexisted, opened, opening, rfl⟩ :=
    openDependencyRoot_ends (ofNames base) made resolved
  -- The packages find nothing in their way but what the build has made itself.
  obtain ⟨all, filled, packages, further⟩ := packages_ends consistent readied alone
  -- The dependency root is still the directory that its path spells.
  have listed : filled.disk.listing (ofNames (base ++ [Layout.dependencyName])) =
      .ok (filled.disk.children (base ++ [Layout.dependencyName])) := by
    have kept := further.directory _ directory
    have canonical := roomy.2
    rw [nested_ofNames ready.plain] at canonical
    simp only [Disk.listing, Disk.resolve_ofNames canonical kept, bind, Except.bind, kept, if_true]
  obtain ⟨project, final, ended⟩ := finish_ends packages listed
  refine ⟨project, final, ?_⟩
  rw [stage, stageOwn_eq, Effect.bind_of_ok owning, Effect.bind_of_ok opening]
  exact ended

/-- A build from consistent sources comes to its end if nothing is in the way in the new staging root. -/
theorem build_of_unobstructed {cleared reset : Disk} (consistent : Consistent base sources.keys)
    (clearing : Disk.clear root world.disk = .ok () cleared)
    (making : Disk.makeDirectories root cleared = .ok () reset)
    (rooted : reset.resolve root = .ok base) (roomy : Roomy root base)
    (free : Unobstructed base sources.keys reset) :
    ∃ project final, build (.nested root) sources world = .ok project final := by
  have stageable : ∀ key ∈ sources.keys, Key.isStageable key = true :=
    fun key member => (consistent.spelled key member).stageable
  have resetting : resetRoot (Layout.nested root).stagingRoot world =
      .ok (ofNames base) { world with disk := reset } :=
    (Effect.bind_of_ok (Run.onDisk_of_ok clearing)).trans (makeRoot_ends making rooted)
  -- The keys pass the check, the root is made anew, and the rest is the staging.
  rw [build_eq, Effect.bind_of_ok (requireStageable_ok stageable world), Effect.bind_of_ok resetting]
  exact stage_ends consistent ⟨free, Disk.directory_of_makeDirectories making rooted⟩ rooted roomy

/-- Without links, a build that comes to its end has had room for its dependency root. -/
theorem roomy_of_build {cleared reset owned opened : Disk} {deep : Location} {project : Project}
    {final : World} (ended : build (.nested root) sources world = .ok project final)
    (built : Built (.nested root) sources world.disk cleared reset owned opened final.disk base deep project)
    (unlinked : Unlinked reset base) : Roomy root base := by
  refine ⟨(Disk.resolve_ok_iff.1 built.deepened).1, ?_⟩
  -- The canonical path is the one whose directory is listed in the end.
  obtain ⟨found, listed, -⟩ := build_libraries ended
  obtain ⟨location, resolved, -⟩ := exists_children_of_listing listed
  rw [built.dependencyRoot, built.deep_eq (built.unlinked unlinked)] at resolved
  rw [nested_ofNames (plain_of_entryAt? built.directory)]
  exact (Disk.resolve_ok_iff.1 resolved).1

/-- Without links, a build that comes to its end has found nothing in the way. -/
theorem Built.unobstructed {before cleared reset owned opened : Disk} {deep : Location} {project : Project}
    (built : Built (.nested root) sources before cleared reset owned opened after base deep project)
    (unlinked : Unlinked reset base) : Unobstructed base sources.keys reset := by
  have clear : Unlinked after base := built.unlinked unlinked
  -- Where a file was planned there is one in the end.
  have stands : ∀ key ∈ sources.keys, ∃ text, after.entryAt? (base ++ place key) = some (.file text) := by
    intro key member
    obtain ⟨text, -, read⟩ := built.content_file clear member
    obtain ⟨location, resolved, found⟩ := Disk.content_ok_iff.1 read
    obtain rfl := Except.ok.inj ((built.resolve_file clear member).symm.trans resolved)
    exact ⟨text, found⟩
  -- Above it there are directories, and where the dependency root was planned there is one.
  have opens : ∀ names, Planned sources.keys names .directory →
      after.entryAt? (base ++ names) = some .directory := by
    rintro names (rfl | ⟨key, member, further, some, split⟩)
    · exact built.deep_eq clear ▸ built.filling.directory _ built.deepDirectory
    · obtain ⟨text, found⟩ := stands key member
      rw [← split, ← List.append_assoc] at found
      exact Disk.entryAt?_above found some
  -- What lay there when the root was made anew lies there still, but for the content of a file.
  refine ⟨fun names planned => ?_, fun key member => ?_⟩
  · have held := opens names planned
    cases found : reset.entryAt? (base ++ names) with
    | none => exact .inl found
    | some entry =>
      cases entry with
      | directory => exact .inr found
      | link target => simp [built.grows.link _ _ found] at held
      | file text =>
        obtain ⟨other, kept⟩ := built.grows.file _ _ found
        simp [kept] at held
  · obtain ⟨text, held⟩ := stands key member
    cases found : reset.entryAt? (base ++ place key) with
    | none => exact .inl found
    | some entry =>
      cases entry with
      | file text => exact .inr ⟨text, found⟩
      | link target => simp [built.grows.link _ _ found] at held
      | directory => simp [built.grows.directory _ found] at held

/-- Consistent sources, in whatever order their keys come, are all staged where the staging root can be
cleared and made anew, there is room for the dependency root, and nothing is in the way then. Links apart,
this is needed too; and where the path of the root never leads up, nothing is ever in the way. -/
theorem build_complete {cleared reset : Disk}
    (clearing : Disk.clear root world.disk = .ok () cleared)
    (making : Disk.makeDirectories root cleared = .ok () reset)
    (rooted : reset.resolve root = .ok base) (consistent : Consistent base sources.keys) :
    (Roomy root base → Unobstructed base sources.keys reset →
      ∃ project final, build (.nested root) sources world = .ok project final) ∧
    (Unlinked reset base → ((∃ project final, build (.nested root) sources world = .ok project final) ↔
      Roomy root base ∧ Unobstructed base sources.keys reset)) ∧
    (.up ∉ Path.components root →
      ((∃ project final, build (.nested root) sources world = .ok project final) ↔ Roomy root base)) := by
  have ends := build_of_unobstructed consistent clearing making rooted
  -- A build that has come to its end has passed through this reset.
  have needs (unlinked : Unlinked reset base)
      (ended : ∃ project final, build (.nested root) sources world = .ok project final) :
      Roomy root base ∧ Unobstructed base sources.keys reset := by
    obtain ⟨project, final, ended⟩ := ended
    obtain ⟨cleared', reset', owned, opened, base', deep, built⟩ := build_ok ended
    obtain ⟨rfl, rfl, rfl⟩ := built.unique clearing making rooted
    exact ⟨roomy_of_build ended built unlinked, built.unobstructed unlinked⟩
  refine ⟨ends, fun unlinked => ⟨needs unlinked, fun ⟨roomy, free⟩ => ends roomy free⟩, fun down => ?_⟩
  -- Once it is cleared the root leads nowhere, so all of it is new when it is made.
  obtain ⟨location, resolved, directory, bare⟩ := Disk.fresh_of_makeDirectories
    (Disk.ne_empty_of_resolve rooted) down (fun _ => Disk.resolve_ne_of_clear clearing) making
  obtain rfl : location = base := Except.ok.inj (resolved.symm.trans rooted)
  have unlinked : Unlinked reset location := by
    intro names target further linked
    rw [bare names further] at linked
    cases linked
  exact ⟨fun ended => (needs unlinked ended).1, fun roomy => ends roomy (.of_bare consistent directory bare)⟩

/-- Whether a staging root can be cleared and made anew, and leads to a location once it has been. -/
def renewsAt (root : String) (base : Location) (disk : Disk) : Bool :=
  match (do Disk.clear root; Disk.makeDirectories root : Disk.Action Unit) disk with
  | .ok _ reset => decide (reset.resolve root = .ok base)
  | .error _ _ => false

/-- A staging root that can be cleared and made anew leaves a disk behind each of the two. -/
theorem exists_of_renewsAt (root : String) (base : Location) (world : World)
    (renews : renewsAt root base world.disk = true) :
    ∃ cleared reset, Disk.clear root world.disk = .ok () cleared ∧
      Disk.makeDirectories root cleared = .ok () reset ∧ reset.resolve root = .ok base := by
  unfold renewsAt at renews
  -- The check is passed only if the root could be made anew.
  split at renews
  · rename_i reset renewed
    obtain ⟨_, cleared, clearing, making⟩ := Effect.bind_ok renewed
    exact ⟨cleared, reset, clearing, making, of_decide_eq_true renews⟩
  · cases renews

/-- Sources with two packages, with files of the project's own between them, and with one such file that
lies in the dependency root. -/
def mingledSources : SourceMap :=
  .ofList [("@x/lib/B.sol", "library B {}"), ("A.sol", "contract A {}"), ("@y/C.sol", "library C {}"),
    ("node_modules/@x/D.sol", "library D {}"), ("lib/A.sol", "contract A {}")]

/-- They are staged where an earlier run has left a file in the staging root. -/
theorem mingledSources_complete :
    ∃ project final, build (.nested "/work/out") mingledSources (.fresh usedDisk (.scripted []) ⟨[], none⟩) =
      .ok project final := by
  obtain ⟨cleared, reset, clearing, making, rooted⟩ := exists_of_renewsAt "/work/out" ["work", "out"]
    (.fresh usedDisk (.scripted []) ⟨[], none⟩) (by decide +kernel)
  -- The keys are checked one by one, and against each other.
  have consistent : Consistent ["work", "out"] mingledSources.keys := by decide +kernel
  have down : .up ∉ Path.components "/work/out" := by decide +kernel
  exact ((build_complete clearing making rooted consistent).2.2 down).2 (by decide +kernel)

/-- A disk on which an earlier run has left a directory in the staging root. -/
def shadowedDisk : Disk :=
  ((Disk.atHome ["work"]).put ["work", "out"] .directory).put ["work", "out", "A.sol"] .directory

/-- Where the path of the staging root leads up from a directory that is missing, it is not found to be
cleared, and a directory that was left there stands in the way of a file. -/
theorem not_complete_shadowedDisk :
    ¬ ∀ (root : String) (base : Location) (sources : SourceMap) (world : World) (cleared reset : Disk),
      Disk.clear root world.disk = .ok () cleared →
        Disk.makeDirectories root cleared = .ok () reset → reset.resolve root = .ok base →
          Consistent base sources.keys → Roomy root base →
            ∃ project final, build (.nested root) sources world = .ok project final := by
  intro complete
  obtain ⟨cleared, reset, clearing, making, rooted⟩ :=
    exists_of_renewsAt "/work/missing/../out" ["work", "out"]
      (.fresh shadowedDisk (.scripted []) ⟨[], none⟩) (by decide +kernel)
  obtain ⟨project, final, ended⟩ := complete "/work/missing/../out" ["work", "out"]
    (.ofList [("A.sol", "contract A {}")]) _ cleared reset clearing making rooted (by decide +kernel)
    (by decide +kernel)
  -- The name of the one file belongs to a directory already.
  have failed : (match build (.nested "/work/missing/../out") (.ofList [("A.sol", "contract A {}")])
      (.fresh shadowedDisk (.scripted []) ⟨[], none⟩) with
    | .ok _ _ => false
    | .error _ _ => true) = true := by decide +kernel
  rw [ended] at failed
  cases failed

end AuditStage.Staging
