import AuditStage.Proofs.Remap.Table
import Mathlib.Data.List.Induction

/-! Where rules lead: a key that starts with the name or the target of a rule, and its staged file. -/

namespace AuditStage

open AuditStage.Path (components isAbsolute join ofNames steps stepsOf stepComponent?)

namespace RemapTable

/-- Slashes at the end of a path part no steps. -/
theorem stepsOf_dropTrailing (cs : List Char) : stepsOf (Text.dropTrailing '/' cs) = stepsOf cs := by
  rw [Text.dropTrailing_eq]
  -- The induction takes the last character off: a slash there parts nothing from what follows.
  induction cs using List.reverseRecOn with
  | nil => rfl
  | append_singleton front last ih =>
    rw [List.rdropWhile_concat]
    split
    · rename_i slash
      rw [ih, beq_iff_eq.1 slash, Path.stepsOf_append, Path.stepsOf_nil, List.append_nil]
    · rfl

/-- The steps that stay in place name nothing, so a path means the same without those at its front. -/
theorem filterMap_dropHere (cs rest : List Char) :
    (stepsOf (dropHere cs ++ rest)).filterMap stepComponent? =
      (stepsOf (cs ++ rest)).filterMap stepComponent? := by
  -- Each time a dot and its slash are dropped, the one step that is lost names nothing.
  induction cs using dropHere.induct with
  | case1 cs ih =>
    have here : stepsOf ['.'] = ["."] := rfl
    have split : '.' :: '/' :: cs ++ rest = ['.'] ++ '/' :: (cs ++ rest) := rfl
    rw [dropHere, ih, split, Path.stepsOf_append, here, List.singleton_append,
      List.filterMap_cons_none Path.stepComponent?_here]
  | case2 cs other => rw [dropHere.eq_2 cs other]

/-- A target that is read from a root means the path that is joined to the root, whatever is written
behind it. -/
theorem components_rebase {root target rest : String} (absolute : isAbsolute root = true)
    (relative : isAbsolute (target ++ rest) = false) :
    components (rebase root target ++ rest) = components (join root (target ++ rest)) := by
  -- What starts with an absolute path is one, so the target is relative too.
  have front : isAbsolute target = false := by
    refine Bool.eq_false_iff.2 fun absolute => ?_
    rw [Path.isAbsolute_append absolute] at relative
    cases relative
  have spelled : (rebase root target ++ rest).toList =
      Text.dropTrailing '/' root.toList ++ '/' :: (dropHere target.toList ++ rest.toList) := by
    simp [rebase, front, String.toList_append]
  -- Both paths start at the root of the disk.
  have rooted : isAbsolute (rebase root target ++ rest) = true := by
    rw [Path.isAbsolute_iff, spelled]
    obtain ⟨after, split⟩ := Path.isAbsolute_iff.1 absolute
    -- Of the root, at least its first slash is left, or else the slash behind it comes first.
    have shorter : Text.dropTrailing '/' ('/' :: after) <+: '/' :: after :=
      List.rdropWhile_prefix (· == '/') _
    rw [split]
    rcases List.prefix_cons_iff.1 shorter with none | ⟨some, kept, -⟩
    · rw [none]
      exact ⟨_, rfl⟩
    · rw [kept]
      exact ⟨_, rfl⟩
  have joined := Path.isAbsolute_join_of_isAbsolute absolute (target ++ rest)
  -- They take the steps of the root, and from there on they name the same.
  rw [Path.components_absolute rooted, Path.components_absolute joined, Path.steps_join relative,
    Path.steps_eq (rebase root target ++ rest), spelled, Path.stepsOf_append, stepsOf_dropTrailing,
    List.filterMap_append, List.filterMap_append, filterMap_dropHere, Path.steps_eq, Path.steps_eq,
    String.toList_append]

end RemapTable

namespace Staging.Built

variable {layout : Layout} {sources : SourceMap} {project : Project}
  {before cleared reset owned opened after : Disk} {root deep : Location}
  (built : Built layout sources before cleared reset owned opened after root deep project)

include built

/-- The path of a key has the components of the key joined to the root of its tree. -/
theorem components_path {key : String} (member : key ∈ sources.keys) :
    components (pathIn (ofNames (baseOf root deep key)) key) =
      components (join (ofNames (baseOf root deep key)) key) := by
  have stageable := built.stageable key member
  -- A key that can be staged leads down, so joining it keeps the root.
  have relative := (Key.downward stageable).1
  have filled := Path.ofNames_ne_empty (baseOf root deep key)
  have staged : isAbsolute (pathIn (ofNames (baseOf root deep key)) key) = true := by
    rw [isAbsolute_pathIn stageable filled, Path.isAbsolute_ofNames]
  -- Both paths start at the root of the disk, and they take the same steps.
  have joined := Path.isAbsolute_join_of_isAbsolute (Path.isAbsolute_ofNames (baseOf root deep key)) key
  rw [Path.components_absolute staged, Path.components_absolute joined, steps_pathIn stageable,
    Path.steps_join relative]

/-- A key joined to the staging root is the path of the key exactly if it belongs to no package, or
both roots are one. -/
theorem components_join_root_iff {key : String} (member : key ∈ sources.keys) :
    components (join (ofNames root) key) = components (pathIn (ofNames (baseOf root deep key)) key) ↔
      Key.package? key = none ∨ ofNames deep = ofNames root := by
  obtain ⟨plain, plainDeep⟩ := built.plain_roots
  rw [built.components_path member]
  unfold baseOf
  -- Only the file of a package stands elsewhere than in the staging root.
  cases belongs : Key.package? key with
  | none => simp
  | some package =>
    have stageable := built.stageable key member
    have relative := (Key.downward stageable).1
    have absolute {base : Location} : isAbsolute (join (ofNames base) key) = true :=
      Path.isAbsolute_join_of_isAbsolute (Path.isAbsolute_ofNames base) key
    simp only [Option.isSome_some, if_true, reduceCtorEq, false_or]
    constructor
    · -- Names are all that the roots are made of, so paths that agree have roots that agree.
      intro same
      rw [Path.components_absolute absolute, Path.components_absolute absolute,
        Path.steps_join relative, Path.steps_join relative, Path.steps_ofNames plain,
        Path.steps_ofNames plainDeep, List.filterMap_append, List.filterMap_append,
        Path.filterMap_plain plain, Path.filterMap_plain plainDeep] at same
      have names := List.append_cancel_right (List.cons.inj same).2
      have injective : Function.Injective Path.Component.name := fun _ _ => Path.Component.name.inj
      rw [List.map_injective_iff.2 injective names]
    · intro same
      rw [same]

end Staging.Built

namespace Staging

variable {layout : Layout} {sources : SourceMap} {project : Project} {world final : World}

/-- Whatever is declared, the table of a project has one rule for the package of a key; it is limited to
no files, and read from its target the key is the path of its staged file in the dependency root. -/
theorem build_packageRules (ended : build layout sources world = .ok project final)
    (declared : List String) :
    ∀ key ∈ sources.keys, ∀ package, Key.package? key = some package →
      ∃ rule rest path,
        (RemapTable.resolve project declared).entries.filter
          (fun entry => Remapping.plainName entry.name == package) = [rule] ∧
        rule.context = none ∧ key = package ++ rest ∧ project.pathOf? key = some path ∧
        components (rule.target ++ rest) = components path ∧
        components path = components (join project.dependencyRoot key) := by
  intro key member package belongs
  obtain ⟨cleared, reset, owned, opened, root, deep, built⟩ := build_ok ended
  -- The package is one of the project's, and all of these are plain names.
  have plain : ∀ other ∈ project.libraries, Path.isPlain other = true :=
    fun other inside => (marked_of_mem_libraries ended inside).1
  obtain ⟨found, -, libraries⟩ := build_libraries ended
  have listed : package ∈ project.libraries := by
    rw [libraries]
    exact List.mem_append_left _ (Key.mem_packagesOf.2 ⟨key, member, belongs⟩)
  -- The table has its rule for the package, and no other rule for that name.
  have own := RemapTable.get?_resolve_of_library plain listed declared
  have alone := RemapTable.filter_of_get? (RemapTable.distinct_resolve project declared) own
  rw [Remapping.plainName_of_isPlain (plain package listed)] at alone
  obtain ⟨rest, spelled, -⟩ := Key.package_split belongs
  have split : key = package ++ String.ofList rest := by
    rw [← String.toList_inj, String.toList_append, spelled, String.toList_ofList]
  -- The file of the key is staged in the dependency root.
  have base : baseOf root deep key = deep := by simp [baseOf, belongs]
  have path := built.components_path member
  rw [base, ← built.dependencyRoot] at path
  -- What is written behind the target of the rule is joined to the dependency root with it.
  have relative : isAbsolute (package ++ String.ofList rest) = false :=
    split ▸ (Key.downward (built.stageable key member)).1
  have target : (RemapTable.packageRule project package).target ++ String.ofList rest =
      join project.dependencyRoot key := by
    rw [RemapTable.packageRule, Path.join_append relative, split]
  refine ⟨_, String.ofList rest, _, alone, rfl, split, built.pathOf?_eq member, ?_, ?_⟩
  · rw [target, base, ← built.dependencyRoot, path]
  · rw [base, ← built.dependencyRoot, path]

/-- Sources of a project that has a file of its own and one of a package. -/
def mixedSources : SourceMap :=
  .ofList [("lib/A.sol", "contract A {}"), ("@x//./B.sol", "contract B {}")]

/-- A world with an empty directory to work in. -/
def emptyWorld : World :=
  .fresh (.atHome ["work"]) (.scripted []) ⟨[], none⟩

/-- The project that these sources make in it. -/
def mixedProject : Project where
  stagingRoot := "/work/out"
  dependencyRoot := "/work/out/node_modules"
  preexisted := false
  files := [⟨"lib/A.sol", "/work/out/lib/A.sol", none⟩,
    ⟨"@x//./B.sol", "/work/out/node_modules/@x/./B.sol", some "@x"⟩]
  libraries := ["@x"]

/-- A build of these sources comes to its end. -/
theorem mixedSources_build :
    ∃ final, build (.nested "/work/out") mixedSources emptyWorld = .ok mixedProject final := by
  have well : (match build (.nested "/work/out") mixedSources emptyWorld with
    | .ok project _ => decide (project = mixedProject)
    | .error _ _ => false) = true := by decide +kernel
  split at well
  · rename_i project final ended
    exact ⟨final, of_decide_eq_true well ▸ ended⟩
  · cases well

/-- Another rule for the package is left out, and slashes and dots in the key make no difference. -/
theorem mixedSources_packageRules :
    ∃ project final, build (.nested "/work/out") mixedSources emptyWorld = .ok project final ∧
      ∃ rule rest path,
        (RemapTable.resolve project ["@x/=lib/"]).entries.filter
          (fun entry => Remapping.plainName entry.name == "@x") = [rule] ∧
        rule.context = none ∧ "@x//./B.sol" = "@x" ++ rest ∧
        project.pathOf? "@x//./B.sol" = some path ∧
        components (rule.target ++ rest) = components path ∧
        components path = components (join project.dependencyRoot "@x//./B.sol") := by
  obtain ⟨final, ended⟩ := mixedSources_build
  exact ⟨mixedProject, final, ended,
    build_packageRules ended ["@x/=lib/"] "@x//./B.sol" (by decide) "@x" (by decide)⟩

/-- A declared rule with a relative target leads to the staging root: read from its target, a key is the
path of its staged file exactly if it belongs to no package, or both roots are one. -/
theorem build_declaredRules (ended : build layout sources world = .ok project final)
    (declared : List String) :
    ∀ raw ∈ declared, ∀ rule, Remapping.parse raw = some rule → isAbsolute rule.target = false →
      ∀ entry ∈ (RemapTable.resolve project declared).entries,
        RemapTable.declaredRule? project raw = some entry →
        ∀ key ∈ sources.keys, ∀ rest, key = rule.target ++ rest →
          ∃ path, project.pathOf? key = some path ∧
            components (entry.target ++ rest) = components (join project.stagingRoot key) ∧
            (components (entry.target ++ rest) = components path ↔
              Key.package? key = none ∨ project.dependencyRoot = project.stagingRoot) := by
  intro raw _ rule parsed _ entry _ moved key member rest split
  obtain ⟨cleared, reset, owned, opened, root, deep, built⟩ := build_ok ended
  -- The entry is the declared rule with its target read from the staging root.
  have target : entry.target = RemapTable.rebase project.stagingRoot rule.target := by
    rw [RemapTable.declaredRule?, parsed, Option.map_some, Option.some.injEq] at moved
    rw [← moved]
  have relative := (Key.downward (built.stageable key member)).1
  have absolute : isAbsolute project.stagingRoot = true := by
    rw [built.stagingRoot, Path.isAbsolute_ofNames]
  -- The key is what the rule has for its target with the rest behind it.
  have leads : components (entry.target ++ rest) = components (join project.stagingRoot key) := by
    rw [target, split]
    exact RemapTable.components_rebase absolute (split ▸ relative)
  refine ⟨_, built.pathOf?_eq member, leads, ?_⟩
  rw [leads, built.stagingRoot, built.dependencyRoot]
  exact built.components_join_root_iff member

/-- A rule for a directory of the project's own files leads to the file that was staged there. -/
theorem mixedSources_declaredRules :
    ∃ project final, build (.nested "/work/out") mixedSources emptyWorld = .ok project final ∧
      ∃ path, project.pathOf? "lib/A.sol" = some path ∧
        components (RemapTable.rebase project.stagingRoot "lib/" ++ "A.sol") =
          components (join project.stagingRoot "lib/A.sol") ∧
        (components (RemapTable.rebase project.stagingRoot "lib/" ++ "A.sol") = components path ↔
          Key.package? "lib/A.sol" = none ∨ project.dependencyRoot = project.stagingRoot) := by
  obtain ⟨final, ended⟩ := mixedSources_build
  exact ⟨mixedProject, final, ended,
    build_declaredRules ended ["y/=lib/"] "y/=lib/" (by decide) ⟨none, "y/", "lib/"⟩ (by decide)
      (by decide) ⟨none, "y/", "/work/out/lib/"⟩ (by decide) (by decide) "lib/A.sol" (by decide) "A.sol"
      (by decide)⟩

/-- A declared rule for the files of a package leads past them: it is read from the staging root, and
they are staged in the dependency root. -/
theorem not_declaredRules_mixedSources :
    ¬ ∀ (layout : Layout) (sources : SourceMap) (world final : World) (project : Project),
      build layout sources world = .ok project final →
      ∀ declared : List String, ∀ raw ∈ declared, ∀ rule, Remapping.parse raw = some rule →
        isAbsolute rule.target = false →
        ∀ entry ∈ (RemapTable.resolve project declared).entries,
          RemapTable.declaredRule? project raw = some entry →
          ∀ key ∈ sources.keys, ∀ rest, key = rule.target ++ rest →
            ∃ path, project.pathOf? key = some path ∧
              components (entry.target ++ rest) = components path := by
  intro leads
  obtain ⟨final, ended⟩ := mixedSources_build
  -- The file is expected outside of the directory that holds the packages.
  obtain ⟨path, found, same⟩ := leads (.nested "/work/out") mixedSources emptyWorld final mixedProject
    ended ["y/=@x/"] "y/=@x/" (by decide) ⟨none, "y/", "@x/"⟩ (by decide) (by decide)
    ⟨none, "y/", "/work/out/@x/"⟩ (by decide) (by decide) "@x//./B.sol" (by decide) "/./B.sol" (by decide)
  have staged : mixedProject.pathOf? "@x//./B.sol" = some "/work/out/node_modules/@x/./B.sol" := by
    decide
  rw [staged, Option.some.injEq] at found
  subst found
  exact absurd same (by decide)

end Staging

end AuditStage
