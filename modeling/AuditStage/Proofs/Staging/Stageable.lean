import AuditStage.Proofs.Staging.Build
import AuditStage.Proofs.Staging.Rebuild

/-! The check of a key and the placing of its file: the one reads the components of the key and the other
its text, and the two agree for every text. -/

namespace AuditStage.Key

variable {key package : String}

/-- The parts of a key between its slashes. -/
def segments (key : String) : List (List Char) :=
  key.toList.splitOn '/'

/-- Whether a part of a key is a name, and neither blank nor made of one or two dots. -/
def isNamed (segment : List Char) : Bool :=
  segment ≠ [] && segment ≠ ['.'] && segment ≠ ['.', '.']

/-- A key is a relative path that never leads up and has as many names as it needs. -/
structure LeadsDown (key : String) : Prop where
  relative : key.toList.head? ≠ some '/'
  level : ['.', '.'] ∉ segments key
  enough : (if key.toList.head? = some '@' then 2 else 1) ≤ ((segments key).filter isNamed).length

/-- The steps of a key are its parts that are not blank. -/
theorem mem_steps_iff {step : String} :
    step ∈ Path.steps key ↔ step ≠ "" ∧ step.toList ∈ segments key := by
  simp only [Path.steps, segments, List.mem_map, List.mem_filter, bne_iff_ne]
  -- A part that is not blank is a step, read as a text.
  constructor
  · rintro ⟨segment, ⟨inside, filled⟩, rfl⟩
    exact ⟨fun blank => filled (by simpa using congrArg String.toList blank), by simpa using inside⟩
  · rintro ⟨filled, inside⟩
    exact ⟨step.toList, ⟨inside, fun blank => filled (String.toList_eq_nil_iff.1 blank)⟩,
      String.ofList_toList⟩

/-- A key that never leads up has as many names as there are names among its parts. -/
theorem length_names (level : ['.', '.'] ∉ segments key) :
    (names key).length = ((segments key).filter isNamed).length := by
  have here : (".": String).toList = ['.'] := rfl
  simp only [names, Disk.dropDots, Path.steps, List.filter_map, List.length_map, List.filter_filter]
  -- Two dots would be a step that is kept, but they are none of the parts.
  refine congrArg List.length (List.filter_congr fun segment member => ?_)
  have up : segment ≠ ['.', '.'] := fun same => level (same ▸ member)
  have dot : String.ofList segment = "." ↔ segment = ['.'] := by
    rw [← String.toList_inj, String.toList_ofList, here]
  by_cases blank : segment = [] <;> by_cases single : segment = ['.'] <;>
    simp [isNamed, blank, single, up, dot]

/-- A key passes the check exactly if it leads down, as its text is read. -/
theorem isStageable_iff_leadsDown : isStageable key = true ↔ LeadsDown key := by
  -- Two names are needed behind the mark of a package, and else one.
  have needed : namesNeeded key = if key.toList.head? = some '@' then 2 else 1 := by
    unfold namesNeeded package? packageMark
    split <;> simp_all
  have upward : (".." : String).toList = ['.', '.'] := rfl
  have root : Path.isAbsolute key = false ↔ key.toList.head? ≠ some '/' := by
    simp [Path.isAbsolute]
  constructor
  · intro stageable
    obtain ⟨relative, down⟩ := downward stageable
    -- Two dots among the parts would be a step up.
    have level : ['.', '.'] ∉ segments key := fun up =>
      (down ".." (mem_steps_iff.2 ⟨by decide, upward ▸ up⟩)).2 rfl
    exact ⟨root.1 relative, level, by
      rw [← needed, ← length_names level]
      exact namesNeeded_le stageable⟩
  · rintro ⟨relative, level, enough⟩
    have steps : ∀ step ∈ Path.steps key, step ≠ "" ∧ step ≠ ".." := by
      intro step member
      obtain ⟨filled, inside⟩ := mem_steps_iff.1 member
      refine ⟨filled, ?_⟩
      rintro rfl
      exact level (upward ▸ inside)
    rw [isStageable_iff_names (root.2 relative) steps, length_names level, needed]
    exact enough

/-- The package of a key is the text before its first slash, and the first component of the key. -/
theorem package_first (belongs : package? key = some package) :
    package.toList = key.toList.takeWhile (· ≠ '/') ∧
      (Path.components key).head? = some (.name package) := by
  obtain ⟨filled, here, up, -⟩ := Path.isPlain_iff.1 (isPlain_package belongs)
  obtain ⟨rest, spelled, ends, bare, marked⟩ := package_split belongs
  have steps := steps_withinPackage belongs
  constructor
  · -- The package holds no slash, and ends the text or stands before one.
    have before : ∀ c ∈ package.toList, decide (c ≠ '/') = true := fun c member =>
      decide_eq_true fun slash => bare (slash ▸ member)
    rw [spelled, List.takeWhile_append_of_pos before]
    rcases ends with rfl | ⟨after, rfl⟩ <;> simp
  · -- The key is not absolute, as the mark stands where the slash would.
    have relative : Path.isAbsolute key = false := by
      obtain ⟨c, front, cons⟩ := List.exists_cons_of_ne_nil fun empty =>
        filled (String.toList_eq_nil_iff.1 empty)
      obtain rfl : c = packageMark := by simpa [cons] using marked
      simp [Path.isAbsolute, spelled, cons, packageMark]
    rw [Path.components_eq, steps]
    simp [Path.lead, relative, steps, here, Path.stepComponent?_name filled here up]

end AuditStage.Key

namespace AuditStage.Staging

open AuditStage.Path (ofNames)

variable {key package root : String} {sources : SourceMap}

/-- A path lies below another: it has the components of that one, and names behind them. -/
def LiesBelow (path base : String) : Prop :=
  ∃ names, names ≠ [] ∧ (∀ name ∈ names, Path.isPlain name = true) ∧
    Path.components path = Path.components base ++ names.map .name

/-- A path that lies below another leads up only where that one does. -/
theorem LiesBelow.up_iff {path base : String} (below : LiesBelow path base) :
    .up ∈ Path.components path ↔ .up ∈ Path.components base := by
  obtain ⟨names, -, -, spelled⟩ := below
  simp [spelled]

/-- The components of a file's path are those of its root and then the names of its key. -/
theorem components_pathIn_absolute (absolute : Path.isAbsolute root = true)
    (stageable : Key.isStageable key = true) :
    Path.components (pathIn root key) = Path.components root ++ (Key.names key).map .name := by
  have filled : root ≠ "" := by
    rintro rfl
    cases absolute
  -- The path starts at the root of the disk, as its tree does.
  have lead : Path.isAbsolute (pathIn root key) = true := by
    rw [isAbsolute_pathIn stageable filled, absolute]
  rw [Path.components_absolute lead, Path.components_absolute absolute, steps_pathIn stageable,
    List.filterMap_append, Disk.filterMap_downward (Key.downward stageable).2]
  rfl

/-- A file lies below the root of its tree. -/
theorem pathIn_below (absolute : Path.isAbsolute root = true)
    (stageable : Key.isStageable key = true) : LiesBelow (pathIn root key) root :=
  ⟨Key.names key, Key.names_ne_nil stageable, Key.names_plain stageable,
    components_pathIn_absolute absolute stageable⟩

/-- A library file lies below the directory of its package. -/
theorem pathIn_below_package (absolute : Path.isAbsolute root = true)
    (stageable : Key.isStageable key = true) (belongs : Key.package? key = some package) :
    LiesBelow (pathIn root key) (Path.join root package) := by
  obtain ⟨name, rest, split⟩ := Key.names_package stageable belongs
  have plain := Key.names_plain stageable
  have directory := Path.components_join_plain absolute (Key.isPlain_package belongs)
  -- The package is the first name of the key, and the others are left behind its directory.
  refine ⟨name :: rest, by simp, fun other member => plain other (by simp [split, member]), ?_⟩
  rw [components_pathIn_absolute absolute stageable, split, directory]
  simp

/-- A project's roots are paths from the root of the disk, and no file of it is reached by a way up. -/
theorem Built.files_below {layout : Layout} {project : Project}
    {before cleared reset owned opened after : Disk} {base deep : Location} {file : StagedFile}
    (built : Built layout sources before cleared reset owned opened after base deep project)
    (member : file ∈ project.files) :
    file.path = pathIn (if file.package.isSome then project.dependencyRoot else project.stagingRoot)
      file.key ∧ .up ∉ Path.components file.path := by
  rw [built.files] at member
  obtain ⟨key, known, rfl⟩ := List.mem_map.1 member
  have plain : ∀ name ∈ baseOf base deep key, Path.isPlain name = true := by
    unfold baseOf
    split
    · exact built.plain_roots.2
    · exact built.plain_roots.1
  -- Which of the two roots it is depends on the key alone.
  have root : (if (Key.package? key).isSome then project.dependencyRoot else project.stagingRoot) =
      ofNames (baseOf base deep key) := by
    rw [built.dependencyRoot, built.stagingRoot, baseOf]
    split <;> rfl
  refine ⟨congrArg (pathIn · key) root.symm, fun up => ?_⟩
  -- The root is spelled by names alone, and the key adds nothing but names.
  simp only [fileIn, components_pathIn plain (built.stageable key known)] at up
  simp at up

/-- A key can be staged exactly if its text leads down. Its file then lies below the root of its tree, and
that of a library key below the directory of the package, which is the first component of the key. A
build is refused for the first key that cannot be staged, and the files of a project stand where the
check has found them to lie. -/
theorem stageable_exact :
    (∀ key, Key.isStageable key = true ↔ Key.LeadsDown key) ∧
    (∀ root key, Path.isAbsolute root = true → Key.isStageable key = true →
      LiesBelow (pathIn root key) root ∧
        (.up ∉ Path.components root → .up ∉ Path.components (pathIn root key))) ∧
    (∀ root key package, Path.isAbsolute root = true → Key.isStageable key = true →
      Key.package? key = some package →
        package.toList = key.toList.takeWhile (· ≠ '/') ∧
          (Path.components key).head? = some (.name package) ∧
          LiesBelow (pathIn root key) (Path.join root package)) ∧
    (∀ layout sources world, (∃ key ∈ sources.keys, ¬Key.LeadsDown key) →
      ∃ first, sources.keys.find? (!Key.isStageable ·) = some first ∧ ¬Key.LeadsDown first ∧
        build layout sources world = .error (.unsafePath first) world) ∧
    ∀ layout sources world project final, build layout sources world = .ok project final →
      ∀ file ∈ project.files,
        file.path = pathIn (if file.package.isSome then project.dependencyRoot else project.stagingRoot)
          file.key ∧ .up ∉ Path.components file.path := by
  refine ⟨fun key => Key.isStageable_iff_leadsDown, fun root key absolute stageable => ?_,
    fun root key package absolute stageable belongs => ?_, fun layout sources world unfit => ?_,
    fun layout sources world project final ended file member => ?_⟩
  · have below := pathIn_below absolute stageable
    exact ⟨below, fun level up => level (below.up_iff.1 up)⟩
  · obtain ⟨before, first⟩ := Key.package_first belongs
    exact ⟨before, first, pathIn_below_package absolute stageable belongs⟩
  · obtain ⟨key, member, unfit⟩ := unfit
    rw [← Key.isStageable_iff_leadsDown] at unfit
    -- The first of the keys that do not pass is the one that the build is refused for.
    cases found : sources.keys.find? (!Key.isStageable ·) with
    | none => exact absurd (List.find?_eq_none.1 found key member) (by simpa using unfit)
    | some first =>
      have refused := List.find?_some found
      exact ⟨first, rfl, by simpa [← Key.isStageable_iff_leadsDown] using refused,
        build_unfit world found⟩
  · obtain ⟨_, _, _, _, _, _, built⟩ := build_ok ended
    exact built.files_below member

/-- Slashes behind a package do not lead back to the root, and a package alone is no file. -/
theorem stageable_exact_package :
    LiesBelow (pathIn "/work/out/node_modules" "@x//etc/passwd")
      (Path.join "/work/out/node_modules" "@x") ∧
    ∃ first, build (.nested "/work/out") (.ofList [("A.sol", ""), ("@x/.", "")])
      (worldWith (.atHome ["work"])) = .error (.unsafePath first) (worldWith (.atHome ["work"])) := by
  obtain ⟨checks, -, places, refuses, -⟩ := stageable_exact
  refine ⟨(places _ _ _ (by decide) (by decide) (by decide)).2.2, ?_⟩
  -- The dot names nothing, so the package has no name behind it.
  obtain ⟨first, -, -, refused⟩ := refuses (.nested "/work/out")
    (.ofList [("A.sol", ""), ("@x/.", "")]) (worldWith (.atHome ["work"]))
    ⟨"@x/.", by decide, (checks _).not.1 (by decide)⟩
  exact ⟨first, refused⟩

end AuditStage.Staging
