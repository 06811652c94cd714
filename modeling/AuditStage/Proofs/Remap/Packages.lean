import AuditStage.Proofs.Remap.Targets
import AuditStage.Proofs.Staging.Successive

/-! The packages of a project and the rules for them: none is listed twice, each has one rule, and the
rules come in the order of the packages. -/

namespace AuditStage.Staging

open AuditStage.Path (ofNames)

variable {layout : Layout} {sources : SourceMap} {project : Project} {world final : World}

/-- A project lists the packages of its keys as they first appear, and behind them, in order, the other
directories with the mark at their front that lie in the dependency root after the build. Its table
starts with one rule for each of them, which is limited to no files and leads into the dependency root;
no two rules are for names that differ in no more than the slashes at their end, and such slashes make
no difference to the rule that is found. -/
theorem build_table (ended : build layout sources world = .ok project final) (declared : List String) :
    project.libraries.Nodup ∧
    (∃ deep beside, final.disk.resolve layout.dependencyRoot = .ok deep ∧
      project.dependencyRoot = ofNames deep ∧
      project.libraries = (sources.keys.filterMap Key.package?).eraseDups ++ beside ∧
      beside.Pairwise (· < ·) ∧ ∀ package, package ∈ beside ↔
        final.disk.entryAt? (deep ++ [package]) = some .directory ∧
          package.toList.head? = some Key.packageMark ∧
          ∀ key ∈ sources.keys, Key.package? key ≠ some package) ∧
    (∃ further, (RemapTable.resolve project declared).entries =
      project.libraries.map (fun package => ⟨none, package, Path.join project.dependencyRoot package⟩) ++
        further) ∧
    (∀ package ∈ project.libraries, (RemapTable.resolve project declared).entries.filter
      (fun entry => Remapping.plainName entry.name == package) =
        [⟨none, package, Path.join project.dependencyRoot package⟩]) ∧
    ((RemapTable.resolve project declared).entries.map fun entry =>
      Remapping.plainName entry.name).Nodup ∧
    (∀ name count, (RemapTable.resolve project declared).get?
      (name ++ String.ofList (List.replicate count '/')) =
        (RemapTable.resolve project declared).get? name) ∧
    ∀ entry ∈ (RemapTable.resolve project declared).entries,
      (RemapTable.resolve project declared).get? entry.name = some entry := by
  have plain : ∀ package ∈ project.libraries, Path.isPlain package = true :=
    fun package member => (marked_of_mem_libraries ended member).1
  have distinct := nodup_libraries ended
  -- No two rules of the table are for one name, so each is found by its own.
  have told := RemapTable.distinct_resolve project declared
  obtain ⟨deep, beside, resolved, named, -, libraries, sorted, found⟩ := libraries_eq ended
  obtain ⟨further, split⟩ := RemapTable.prefix_resolve plain distinct declared
  refine ⟨distinct, ⟨deep, beside, resolved, named, libraries, sorted, found⟩, ⟨further, split.symm⟩,
    fun package member => ?_, told, fun name count => RemapTable.get?_slashes _ name count,
    fun entry member => RemapTable.get?_of_mem told member⟩
  -- The one rule that is told by the name of a package is the project's own.
  have own := RemapTable.get?_resolve_of_library plain member declared
  have alone := RemapTable.filter_of_get? told own
  rwa [Remapping.plainName_of_isPlain (plain package member)] at alone

/-- A dependency root outside the staging root that came with packages of its own. -/
def seededDisk : Disk :=
  ((((Disk.atHome ["work", "deps"]).put ["work", "deps", "@z"] .directory).put
    ["work", "deps", "@b"] .directory).put ["work", "deps", "c"] .directory).put
      ["work", "deps", "@l"] (.link "@z")

/-- The package of the keys comes first, and then those that were there, each once and in order; a rule
that is declared for one of them is left out. -/
theorem seededDisk_table :
    ∃ project final beside, build ⟨"/work/out", "/work/deps"⟩ mixedSources (worldWith seededDisk) =
        .ok project final ∧
      project.libraries.Nodup ∧ project.libraries = "@x" :: beside ∧ beside.Pairwise (· < ·) ∧
      "@b" ∈ beside ∧ "@z" ∈ beside ∧
      (RemapTable.resolve project ["@b//=lib/", "y/=lib/"]).entries.filter
        (fun entry => Remapping.plainName entry.name == "@b") = [⟨none, "@b", "/work/deps/@b"⟩] := by
  have outcome : (match build ⟨"/work/out", "/work/deps"⟩ mixedSources (worldWith seededDisk) with
    | .ok _ final => decide (final.disk.resolve "/work/deps" = .ok ["work", "deps"] ∧
        ∀ package ∈ ["@b", "@z"], final.disk.entryAt? ["work", "deps", package] = some .directory)
    | .error _ _ => false) = true := by decide +kernel
  split at outcome
  · rename_i project final ended
    obtain ⟨leads, held⟩ := of_decide_eq_true outcome
    obtain ⟨distinct, ⟨deep, beside, resolved, root, libraries, sorted, found⟩, -, alone, -⟩ :=
      build_table ended ["@b//=lib/", "y/=lib/"]
    obtain rfl : deep = ["work", "deps"] := Except.ok.inj (resolved.symm.trans leads)
    -- Of the keys only one belongs to a package.
    have own : (mixedSources.keys.filterMap Key.package?).eraseDups = ["@x"] := by decide +kernel
    rw [own, List.singleton_append] at libraries
    -- What was there before the build is found beside it.
    have first : "@b" ∈ beside := (found "@b").2 ⟨held "@b" (by decide), by decide, by decide⟩
    have last : "@z" ∈ beside := (found "@z").2 ⟨held "@z" (by decide), by decide, by decide⟩
    have rule := alone "@b" (by simp [libraries, first])
    rw [root] at rule
    exact ⟨project, final, beside, ended, distinct, libraries, sorted, first, last, rule⟩
  · cases outcome

end AuditStage.Staging
