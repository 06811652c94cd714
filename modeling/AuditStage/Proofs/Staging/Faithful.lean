import AuditStage.Proofs.Disk.Fresh
import AuditStage.Proofs.Staging.Build

/-! When a build leaves nothing below the staging root but what it was asked to stage there. -/

namespace AuditStage.Staging

open Disk (Adds Grows linkLimit)
open AuditStage.Path (ofNames)

/-- What may lie at a location below the root of a project: a staged file, a directory on the way to
one, or the dependency root. -/
def Accounted (layout : Layout) (project : Project) (disk : Disk) (location : Location) : Entry → Prop
  | .link _ => False
  | .file _ => ∃ file ∈ project.files, disk.resolve file.path = .ok location
  | .directory => disk.resolve layout.dependencyRoot = .ok location ∨
      ∃ file ∈ project.files, ∃ names, names ≠ [] ∧ disk.resolve file.path = .ok (location ++ names)

/-- A project lists the keys of its sources in order, each with its package; every listed path leads to
a file with the content of its key; and nothing else lies below the staging root. -/
structure Faithful (layout : Layout) (sources : SourceMap) (project : Project) (disk : Disk) :
    Prop where
  listed : project.files.map (fun file => (file.key, file.package)) =
    sources.keys.map fun key => (key, Key.package? key)
  stored : ∀ file ∈ project.files, ∃ content, sources.get? file.key = some content ∧
    disk.content file.path = .ok content
  alone : ∃ root, disk.resolve layout.stagingRoot = .ok root ∧
    ∀ names entry, names ≠ [] → disk.entryAt? (root ++ names) = some entry →
      Accounted layout project disk (root ++ names) entry

/-- The names that lead from a staging root to the file of a key. -/
def place (key : String) : List String :=
  if (Key.package? key).isSome then Layout.dependencyName :: Key.names key else Key.names key

/-- What the staging of some keys makes below a staging root. -/
def Planned (keys : List String) (names : List String) : Entry → Prop
  | .link _ => False
  | .file _ => ∃ key ∈ keys, names = place key
  | .directory => names = [Layout.dependencyName] ∨
      ∃ key ∈ keys, ∃ further, further ≠ [] ∧ names ++ further = place key

/-- Clearing the staging root and making it anew leaves nothing below it but what is going to be made
there. -/
def Swept (root : String) (keys : List String) (disk : Disk) : Prop :=
  ∀ cleared reset base, Disk.clear root disk = .ok () cleared →
    Disk.makeDirectories root cleared = .ok () reset → reset.resolve root = .ok base →
    ∀ names entry, names ≠ [] → reset.entryAt? (base ++ names) = some entry → Planned keys names entry

variable {root : String} {keys : List String} {sources : SourceMap} {project : Project}
  {before cleared reset owned opened after : Disk} {base deep location : Location}

/-- No link lies below a location. -/
def Unlinked (disk : Disk) (base : Location) : Prop :=
  ∀ names target, names ≠ [] → disk.entryAt? (base ++ names) ≠ some (.link target)

/-- What lies below a location without links lies below every location beneath it without them. -/
theorem Unlinked.below (unlinked : Unlinked after base) (names : List String) :
    Unlinked after (base ++ names) := by
  intro more target further
  simpa using unlinked (names ++ more) target (by simp [further])

/-- No link lies where none will lie. -/
theorem Unlinked.earlier (unlinked : Unlinked after base) (grows : Grows before after) :
    Unlinked before base :=
  fun names target further linked => unlinked names target further (grows.link _ _ linked)

/-- Without links the path of a key's file leads where the names of the key say. -/
theorem Unlinked.resolve_pathIn {disk : Disk} {key : String} (unlinked : Unlinked disk base)
    (directory : disk.entryAt? base = some .directory) (stageable : Key.isStageable key = true)
    (resolved : disk.resolve (pathIn (ofNames base) key) = .ok location) :
    location = base ++ Key.names key := by
  obtain ⟨spare, walked⟩ :=
    follow_of_resolve_pathIn (plain_of_entryAt? directory) stageable resolved
  exact Disk.follow_straight directory (Key.names_plain stageable)
    (fun way further _ target => unlinked way target further) walked

/-- Without links a nested dependency root lies in the staging root. -/
theorem nested_location (resolved : after.resolve root = .ok base) (unlinked : Unlinked after base)
    (deepened : after.resolve (Path.join root Layout.dependencyName) = .ok deep) :
    deep = base ++ [Layout.dependencyName] := by
  have named : Disk.isName Layout.dependencyName = true := by decide
  obtain ⟨relative, own⟩ := Path.steps_plain (Disk.isPlain_of_isName named)
  have filled := Disk.ne_empty_of_resolve resolved
  -- The path of the dependency root is that of the staging root and one name more.
  have split : Disk.dropDots (Path.steps (Path.join root Layout.dependencyName)) =
      Disk.dropDots (Path.steps root) ++ [Layout.dependencyName] := by
    rw [Path.steps_join relative, own, Disk.dropDots_append]
    rfl
  -- So its walk goes on from where the staging root is, by that name.
  obtain ⟨links, spare, walked⟩ := Disk.follow_of_resolve_further resolved
    (Path.isAbsolute_join relative filled) split deepened
  exact (Disk.follow_downward (by decide)
    (fun names further _ target => unlinked names target further) walked).1

/-- Without links, what is new after files have been staged lies where the first names of a key say: a
directory, or where all of its names say, a file. -/
theorem straight_of_traced (directory : before.entryAt? base = some .directory)
    (stageable : ∀ key ∈ keys, Key.isStageable key = true)
    (adds : Adds (Made base keys) (Written base keys) before after) (unlinked : Unlinked after base)
    (changed : after.entryAt? location ≠ before.entryAt? location) :
    ∃ key ∈ keys, ∃ names further, Key.names key = names ++ further ∧ location = base ++ names ∧
      ((further ≠ [] ∧ after.entryAt? location = some .directory) ∨
        (further = [] ∧ ∃ content, after.entryAt? location = some (.file content))) := by
  obtain ⟨key, member, names, spare, -, ⟨further, split⟩, walked, kind⟩ :=
    traced directory stageable adds changed
  -- A change comes from the walk of some key, which no link leads astray.
  have plain := Key.names_plain (stageable key member)
  have straight := Disk.follow_straight (adds.directory _ directory)
    (fun name inside => plain name (split ▸ List.mem_append_left further inside))
    (fun way longer _ target => unlinked way target longer) walked
  -- These are all names of the key if none are left behind them.
  have whole : names = Key.names key ↔ further = [] := by
    rw [← split, List.self_eq_append_right]
  rw [ne_eq, whole] at kind
  exact ⟨key, member, names, further, split.symm, straight, kind⟩

/-- Without links, what is new after files have been staged is what their keys plan. -/
theorem planned_of_traced (chosen front : List String) {names : List String} {entry : Entry}
    (directory : before.entryAt? (base ++ front) = some .directory)
    (known : ∀ key ∈ chosen, key ∈ keys ∧ Key.isStageable key = true ∧
      place key = front ++ Key.names key)
    (adds : Adds (Made (base ++ front) chosen) (Written (base ++ front) chosen) before after)
    (unlinked : Unlinked after base)
    (changed : after.entryAt? (base ++ names) ≠ before.entryAt? (base ++ names))
    (found : after.entryAt? (base ++ names) = some entry) : Planned keys names entry := by
  obtain ⟨key, member, first, further, split, straight, kind⟩ := straight_of_traced directory
    (fun key member => (known key member).2.1) adds (unlinked.below front) changed
  obtain ⟨listed, -, placed⟩ := known key member
  obtain rfl : names = front ++ first := by simpa using straight
  rw [split, ← List.append_assoc] at placed
  rw [found] at kind
  -- A directory has more names of the key below it, and a file has none.
  rcases kind with ⟨deeper, made⟩ | ⟨whole, content, written⟩
  · cases made
    exact .inr ⟨key, listed, further, deeper, placed.symm⟩
  · cases written
    rw [whole, List.append_nil] at placed
    exact ⟨key, listed, placed.symm⟩

namespace Built

variable (built : Built (.nested root) sources before cleared reset owned opened after base deep project)

include built

/-- A nested dependency root is the only directory that is made for it. -/
theorem opening_adds :
    Adds (· = Path.join root Layout.dependencyName) Never owned opened := by
  have made : Adds (Above (Path.join root Layout.dependencyName)) Never owned opened :=
    (Disk.makeDirectories_adds _).of_ok built.opening
  exact made.join (built.owning.resolve built.rooted) (built.owning.directory _ built.directory)
    (by decide)

/-- Nothing is lost once the staging root has been made anew. -/
theorem grows : Grows reset after :=
  trans_of Grows built.owning.toGrows
    (trans_of Grows built.opening_adds.toGrows built.filling.toGrows)

/-- The staging root leads where it led when it was made. -/
theorem resolve_root : after.resolve root = .ok base :=
  built.grows.resolve built.rooted

/-- A link below the staging root was left there when the root was made anew. -/
theorem unlinked (swept : Unlinked reset base) : Unlinked after base := by
  -- No step of the build makes a link.
  intro names target further linked
  exact swept names target further
    (built.owning.linked (built.opening_adds.linked (built.filling.linked linked)))

variable (unlinked : Unlinked after base)

include unlinked

/-- Without links the dependency root lies in the staging root. -/
theorem deep_eq : deep = base ++ [Layout.dependencyName] :=
  nested_location built.resolve_root unlinked (built.filling.resolve built.deepened)

/-- Without links the place of a key is where its names lead from its tree. -/
theorem baseOf_names (key : String) : baseOf base deep key ++ Key.names key = base ++ place key := by
  rw [built.deep_eq unlinked]
  unfold baseOf place
  split <;> simp

/-- Without links the tree of a key is a directory, and no link lies in it. -/
theorem tree (key : String) : after.entryAt? (baseOf base deep key) = some .directory ∧
    Unlinked after (baseOf base deep key) := by
  unfold baseOf
  split
  · exact ⟨built.filling.directory _ built.deepDirectory, built.deep_eq unlinked ▸ unlinked.below _⟩
  · exact ⟨built.grows.directory _ built.directory, unlinked⟩

/-- Without links the file of a key stands at its place. -/
theorem resolve_file {key : String} (member : key ∈ sources.keys) :
    after.resolve (fileIn (baseOf base deep key) key).path = .ok (base ++ place key) := by
  obtain ⟨location, resolved, -⟩ := built.standing.holds (fileIn (baseOf base deep key) key)
    (built.files ▸ List.mem_map_of_mem member)
  obtain ⟨directory, clear⟩ := built.tree unlinked key
  have stageable := built.stageable key member
  -- Where no link stands on the way, names lead where they say.
  have straight := clear.resolve_pathIn directory stageable resolved
  rw [resolved, straight, built.baseOf_names unlinked]

/-- Without links the file of a key holds the content of the key. -/
theorem content_file {key : String} (member : key ∈ sources.keys) :
    ∃ content, sources.get? key = some content ∧
      after.content (fileIn (baseOf base deep key) key).path = .ok content := by
  obtain ⟨location, resolved, other, known, content, source, same, found⟩ :=
    built.standing.holds (fileIn (baseOf base deep key) key)
      (built.files ▸ List.mem_map_of_mem member)
  rw [built.files] at known
  obtain ⟨key', member', rfl⟩ := List.mem_map.1 known
  -- What stands there was written for some key whose place is the same.
  have places : base ++ place key' = base ++ place key := by
    rw [built.resolve_file unlinked member'] at same
    rw [built.resolve_file unlinked member, ← same] at resolved
    exact (Except.ok.inj resolved).symm
  have spelled {key : String} (member : key ∈ sources.keys) :
      Path.components (fileIn (baseOf base deep key) key).path =
        .root :: (base ++ place key).map .name := by
    rw [← built.baseOf_names unlinked]
    exact components_pathIn (plain_of_entryAt? (built.tree unlinked key).1) (built.stageable key member)
  -- Files at one place have one path, and the staged files have paths of their own.
  have one : fileIn (baseOf base deep key') key' = fileIn (baseOf base deep key) key := by
    by_contra different
    refine built.standing.apart _ ?_ _ ?_ different ?_
    · exact built.files ▸ List.mem_map_of_mem member'
    · exact built.files ▸ List.mem_map_of_mem member
    · rw [spelled member', spelled member, places]
  obtain rfl : key' = key := congrArg StagedFile.key one
  exact ⟨content, SourceMap.get?_of_mem source, Disk.content_ok_iff.2 ⟨location, resolved, found⟩⟩

/-- Without links what may lie below the staging root is what has been planned. -/
theorem accounted_iff {names : List String} {entry : Entry} :
    Accounted (.nested root) project after (base ++ names) entry ↔
      Planned sources.keys names entry := by
  -- A staged file is at a location exactly if the location is the place of a key.
  have stands {names : List String} : (∃ file ∈ project.files,
      after.resolve file.path = .ok (base ++ names)) ↔ ∃ key ∈ sources.keys, names = place key := by
    rw [built.files]
    constructor
    · rintro ⟨file, known, resolved⟩
      obtain ⟨key, member, rfl⟩ := List.mem_map.1 known
      rw [built.resolve_file unlinked member] at resolved
      exact ⟨key, member, (List.append_cancel_left (Except.ok.inj resolved)).symm⟩
    · rintro ⟨key, member, rfl⟩
      exact ⟨_, List.mem_map_of_mem member, built.resolve_file unlinked member⟩
  cases entry with
  | link target => exact Iff.rfl
  | file content => exact stands
  | directory =>
    have deep : after.resolve (Layout.nested root).dependencyRoot =
        .ok (base ++ [Layout.dependencyName]) :=
      built.deep_eq unlinked ▸ built.filling.resolve built.deepened
    -- A directory is the dependency root or on the way to a file.
    refine or_congr ?_ ?_
    · rw [deep, Except.ok.injEq, List.append_cancel_left_eq, eq_comm]
    · constructor
      · rintro ⟨file, known, more, further, resolved⟩
        rw [List.append_assoc] at resolved
        obtain ⟨key, member, same⟩ := stands.1 ⟨file, known, resolved⟩
        exact ⟨key, member, more, further, same⟩
      · rintro ⟨key, member, more, further, same⟩
        obtain ⟨file, known, resolved⟩ := stands.2 ⟨key, member, same⟩
        exact ⟨file, known, more, further, by rw [List.append_assoc, resolved]⟩

/-- Whatever lies below the staging root has been planned, if all that was left there had been. -/
theorem planned {names : List String} {entry : Entry}
    (left : ∀ entry, reset.entryAt? (base ++ names) = some entry → Planned sources.keys names entry)
    (found : after.entryAt? (base ++ names) = some entry) : Planned sources.keys names entry := by
  have deep := built.deep_eq unlinked
  -- The last change decides what lies there.
  by_cases late : after.entryAt? (base ++ names) = opened.entryAt? (base ++ names)
  swap
  · refine planned_of_traced (libraryKeys sources.keys) [Layout.dependencyName]
      (deep ▸ built.deepDirectory) (fun key member => ?_) (deep ▸ built.filling) unlinked late found
    obtain ⟨known, belongs⟩ := List.mem_filter.1 member
    exact ⟨known, built.stageable key known, if_pos belongs⟩
  by_cases middle : opened.entryAt? (base ++ names) = owned.entryAt? (base ++ names)
  swap
  · -- Opening the dependency root makes no more than this one directory.
    obtain ⟨path, resolved, ⟨rfl, -, made⟩ | ⟨never, -⟩⟩ := built.opening_adds.reached _ middle
    · have same := resolved.symm.trans built.deepened
      rw [late, made] at found
      cases found
      exact .inl (List.append_cancel_left ((Except.ok.inj same).trans deep))
    · exact never.elim
  by_cases early : owned.entryAt? (base ++ names) = reset.entryAt? (base ++ names)
  swap
  · have later := trans_of Grows built.opening_adds.toGrows built.filling.toGrows
    refine planned_of_traced (ownKeys sources.keys) [] (by simpa using built.directory)
      (fun key member => ?_) (by simpa using built.owning) (unlinked.earlier later) early
      (middle ▸ late ▸ found)
    obtain ⟨known, belongs⟩ := List.mem_filter.1 member
    exact ⟨known, built.stageable key known,
      if_neg (by simp [Option.isNone_iff_eq_none.1 belongs])⟩
  · exact left entry (early ▸ middle ▸ late ▸ found)

omit unlinked in
/-- What the new staging root was left with comes to nothing exactly if it has been planned. -/
theorem swept_iff : Swept root sources.keys before ↔ ∀ names entry, names ≠ [] →
    reset.entryAt? (base ++ names) = some entry → Planned sources.keys names entry := by
  -- Clearing and making anew can only come out in one way.
  constructor
  · exact fun swept => swept cleared reset base built.clearing built.making built.rooted
  · intro left cleared' reset' base' clearing making rooted
    obtain ⟨rfl, rfl, rfl⟩ := built.unique clearing making rooted
    exact left

omit unlinked in
/-- A build is faithful exactly if nothing but what was planned is left below the new staging root. -/
theorem faithful_iff :
    Faithful (.nested root) sources project after ↔ Swept root sources.keys before := by
  rw [built.swept_iff]
  constructor
  · rintro ⟨-, -, base', rooted, alone⟩ names entry further found
    obtain rfl : base = base' := Except.ok.inj (built.resolve_root.symm.trans rooted)
    -- A faithful build has no link below the root, so every name leads where it says.
    have unlinked : Unlinked after base := fun names target further linked =>
      alone names _ further linked
    have grows := built.grows
    -- What was left is still there, or a file with another content is.
    cases entry with
    | link target =>
      exact (built.accounted_iff unlinked).1 (alone names _ further (grows.link _ _ found))
    | directory =>
      exact (built.accounted_iff unlinked).1 (alone names _ further (grows.directory _ found))
    | file content =>
      obtain ⟨content, found⟩ := grows.file _ _ found
      -- Whether a file has been planned does not depend on its content.
      have planned := (built.accounted_iff unlinked).1 (alone names _ further found)
      exact planned
  · intro left
    have unlinked : Unlinked after base := built.unlinked fun names target further linked =>
      left names _ further linked
    -- What was left there has been planned, so it includes no link.
    refine ⟨?_, fun file known => ?_, base, built.resolve_root, fun names entry further found => ?_⟩
    · rw [built.files, List.map_map]
      rfl
    · rw [built.files] at known
      obtain ⟨key, member, rfl⟩ := List.mem_map.1 known
      exact built.content_file unlinked member
    · exact (built.accounted_iff unlinked).2
        (built.planned unlinked (fun entry => left names entry further) found)

omit unlinked in
/-- A staging root whose path never leads up has nothing below it when it has been made anew. -/
theorem swept (down : .up ∉ Path.components root) : Swept root sources.keys before := by
  rw [built.swept_iff]
  intro names entry further found
  -- It is found to be cleared, and what is made then is empty.
  obtain ⟨-, bare⟩ := Disk.bare_of_anew down built.clearing built.making built.rooted
  simp [bare names further] at found

end Built

/-- A build with the default dependency root is faithful exactly if clearing the staging root and making
it anew leaves nothing there but what has been planned; where the path of the root never leads up, it
always is. -/
theorem build_faithful_iff {world final : World}
    (ended : build (.nested root) sources world = .ok project final) :
    (Faithful (.nested root) sources project final.disk ↔ Swept root sources.keys world.disk) ∧
      (.up ∉ Path.components root → Faithful (.nested root) sources project final.disk) := by
  obtain ⟨cleared, reset, owned, opened, base, deep, built⟩ := build_ok ended
  exact ⟨built.faithful_iff, fun down => built.faithful_iff.2 (built.swept down)⟩

/-- A disk on which an earlier run has left a file in the staging root. -/
def usedDisk : Disk :=
  ((Disk.atHome ["work"]).put ["work", "out"] .directory).put ["work", "out", "Old.sol"]
    (.file "contract Old {}")

/-- What an earlier run has left is gone after a build. -/
theorem usedDisk_faithful :
    ∃ project final, build (.nested "/work/out") (.ofList [("A.sol", "contract A {}")])
        (.fresh usedDisk (.scripted []) ⟨[], none⟩) = .ok project final ∧
      Faithful (.nested "/work/out") (.ofList [("A.sol", "contract A {}")]) project final.disk := by
  -- The build comes to its end.
  have well : (match build (.nested "/work/out") (.ofList [("A.sol", "contract A {}")])
      (.fresh usedDisk (.scripted []) ⟨[], none⟩) with
    | .ok _ _ => true
    | .error _ _ => false) = true := by decide +kernel
  split at well
  · rename_i project final ended
    exact ⟨project, final, ended, (build_faithful_iff ended).2 (by decide +kernel)⟩
  · cases well

/-- Where the path of the staging root leads up from a directory that is missing, it is not found to be
cleared, but it is found once the directory has been made; and what lay there stays. -/
theorem not_faithful_usedDisk :
    ¬ ∀ (root : String) (sources : SourceMap) (world final : World) (project : Project),
      build (.nested root) sources world = .ok project final →
        Faithful (.nested root) sources project final.disk := by
  intro faithful
  let root := "/work/missing/../out"
  let sources : SourceMap := .ofList [("A.sol", "contract A {}")]
  let world : World := .fresh usedDisk (.scripted []) ⟨[], none⟩
  -- The old file is below the root after the build, and no staged path leads to it.
  have outcome : (match build (.nested root) sources world with
    | .ok project final =>
      decide (final.disk.resolve root = .ok ["work", "out"] ∧
        final.disk.entryAt? ["work", "out", "Old.sol"] = some (.file "contract Old {}") ∧
        ∀ file ∈ project.files, final.disk.resolve file.path ≠ .ok ["work", "out", "Old.sol"])
    | .error _ _ => false) = true := by decide +kernel
  split at outcome
  · rename_i project final ended
    obtain ⟨leads, left, none⟩ := of_decide_eq_true outcome
    obtain ⟨base, rooted, alone⟩ := (faithful root sources world final project ended).alone
    obtain rfl : base = ["work", "out"] := Except.ok.inj (rooted.symm.trans leads)
    obtain ⟨file, member, resolved⟩ := alone ["Old.sol"] _ (by simp) left
    exact none file member resolved
  · cases outcome

end AuditStage.Staging
