import AuditStage.Proofs.Disk.Completion
import AuditStage.Proofs.Staging.Contained
import AuditStage.Proofs.Staging.Stageable

/-! Keys that are spelled by proper names with slashes between them, and sources whose files do not get
in each other's way. -/

namespace AuditStage.Key

open AuditStage.Path (ofNames)

variable {key package : String} {base : Location}

/-- A key is spelled by proper names with slashes between them, and by two of them at least if it belongs
to a package. -/
structure IsSpelled (key : String) : Prop where
  named : ∀ segment ∈ segments key, Disk.isName (String.ofList segment) = true
  enough : key.toList.head? = some '@' → 2 ≤ (segments key).length

instance : Decidable (IsSpelled key) :=
  decidable_of_iff ((∀ segment ∈ segments key, Disk.isName (String.ofList segment) = true) ∧
      (key.toList.head? = some '@' → 2 ≤ (segments key).length))
    ⟨fun both => ⟨both.1, both.2⟩, fun spelled => ⟨spelled.named, spelled.enough⟩⟩

namespace IsSpelled

variable (spelled : IsSpelled key)

include spelled

/-- The names of a key are all of its parts. -/
theorem names_eq : names key = (segments key).map String.ofList := by
  -- No segment is empty, and none is a dot, so none is left out.
  have filled : ∀ segment ∈ segments key, (segment != []) = true := by
    intro segment member
    obtain ⟨some, -⟩ := Path.isPlain_iff.1 (Disk.isPlain_of_isName (spelled.named segment member))
    refine bne_iff_ne.2 ?_
    rintro rfl
    exact some rfl
  have steps : Path.steps key = (segments key).map String.ofList := by
    rw [Path.steps, ← segments, List.filter_eq_self.2 filled]
  -- Nor is any of them a dot to be dropped.
  rw [names, steps, Disk.dropDots_plain]
  intro name member
  obtain ⟨segment, inside, rfl⟩ := List.mem_map.1 member
  exact Disk.isPlain_of_isName (spelled.named segment inside)

/-- The names of a key are proper ones. -/
theorem isName : ∀ name ∈ names key, Disk.isName name = true := by
  intro name member
  rw [spelled.names_eq] at member
  obtain ⟨segment, inside, rfl⟩ := List.mem_map.1 member
  exact spelled.named segment inside

/-- The names of a key are plain ones. -/
theorem plain : ∀ name ∈ names key, Path.isPlain name = true :=
  fun name member => Disk.isPlain_of_isName (spelled.isName name member)

/-- A key is its names with slashes between them. -/
theorem eq_intercalate : key = "/".intercalate (names key) := by
  have slash : ("/" : String).toList = ['/'] := rfl
  -- Parting a text at its slashes and joining the parts with slashes gives the text.
  have texts : ((segments key).map String.ofList).map String.toList = segments key := by
    rw [List.map_map]
    exact (List.map_congr_left fun segment _ => String.toList_ofList).trans (List.map_id _)
  rw [← String.toList_inj, String.toList_intercalate, spelled.names_eq, texts, slash, segments,
    List.intercalate_splitOn]

/-- A key that is spelled by names can be staged. -/
theorem stageable : isStageable key = true := by
  -- Every segment counts as a name.
  have all : (segments key).filter isNamed = segments key := by
    refine List.filter_eq_self.2 fun segment member => ?_
    obtain ⟨some, here, up, -⟩ :=
      Path.isPlain_iff.1 (Disk.isPlain_of_isName (spelled.named segment member))
    simp only [isNamed, Bool.and_eq_true, decide_eq_true_eq]
    refine ⟨⟨?_, ?_⟩, ?_⟩ <;> rintro rfl
    · exact some rfl
    · exact here rfl
    · exact up rfl
  -- Names with slashes between them do not start with a slash.
  have front := Path.isAbsolute_intercalate spelled.plain
  rw [← spelled.eq_intercalate] at front
  refine isStageable_iff_leadsDown.2 ⟨by simpa [Path.isAbsolute] using front, fun up => ?_, ?_⟩
  · -- Two dots are no name.
    cases spelled.named _ up
  · rw [all]
    split
    · exact spelled.enough ‹_›
    · exact List.length_pos_iff.2 (List.splitOn_ne_nil _ _)

/-- The file of a key stands where the names of its tree and those of the key lead. -/
theorem pathIn_eq (plain : ∀ name ∈ base, Path.isPlain name = true) :
    Staging.pathIn (ofNames base) key = ofNames (base ++ names key) := by
  have whole := spelled.eq_intercalate
  unfold Staging.pathIn
  cases belongs : package? key with
  | none =>
    have joined := Path.join_intercalate plain spelled.plain (names_ne_nil spelled.stageable)
    rwa [← whole] at joined
  | some package =>
    obtain ⟨name, rest, split⟩ := names_package spelled.stageable belongs
    have named := isPlain_package belongs
    have inner : ∀ other ∈ name :: rest, Path.isPlain other = true := fun other member =>
      spelled.plain other (split ▸ List.mem_cons_of_mem _ member)
    -- Behind the package and a slash stand the other names.
    have within : withinPackage key package = "/".intercalate (name :: rest) := by
      -- What stands behind the slash starts with a name, so no more slashes are dropped.
      have relative := Path.isAbsolute_intercalate inner
      rw [split, String.intercalate_cons_cons] at whole
      have slash : ("/" : String).toList = ['/'] := rfl
      rw [withinPackage, whole, String.toList_append, String.toList_append, slash, List.append_assoc,
        List.drop_left, List.singleton_append, List.dropWhile_cons_of_pos (by rfl), ← String.toList_inj,
        String.toList_ofList]
      cases front : ("/".intercalate (name :: rest)).toList with
      | nil => rfl
      | cons c more =>
        refine List.dropWhile_cons_of_neg ?_
        simpa [Path.isAbsolute, front] using relative
    -- The package is one more directory on the way.
    have directory : ∀ other ∈ base ++ [package], Path.isPlain other = true :=
      List.forall_mem_append.2 ⟨plain, List.forall_mem_singleton.2 named⟩
    dsimp only
    rw [within, Path.join_ofNames plain named,
      Path.join_intercalate directory inner (List.cons_ne_nil _ _), split, List.append_assoc,
      List.singleton_append]

end IsSpelled

end AuditStage.Key

namespace AuditStage.Staging

open AuditStage.Path (ofNames)

variable {base : Location} {keys : List String} {key other : String} {names : List String}

/-- The path at which the file of a key is staged with the dependency root inside the staging root. -/
def stagedPath (base : Location) (key : String) : String :=
  pathIn (treeOf (.nested (ofNames base)) key) key

/-- Keys are spelled by names, their paths are accepted by the system, and the file of none stands in
place of the dependency root, or at or above the file of another one. -/
structure Consistent (base : Location) (keys : List String) : Prop where
  spelled : ∀ key ∈ keys, Key.IsSpelled key
  fits : ∀ key ∈ keys, Disk.isPath (stagedPath base key) = true
  aside : ∀ key ∈ keys, Path.components (stagedPath base key) ≠
    Path.components (Layout.nested (ofNames base)).dependencyRoot
  apart : ∀ key ∈ keys, ∀ other ∈ keys, key ≠ other →
    Path.isBelow (stagedPath base other) (stagedPath base key) = false

instance : Decidable (Consistent base keys) :=
  decidable_of_iff ((∀ key ∈ keys, Key.IsSpelled key) ∧
      (∀ key ∈ keys, Disk.isPath (stagedPath base key) = true) ∧
      (∀ key ∈ keys, Path.components (stagedPath base key) ≠
        Path.components (Layout.nested (ofNames base)).dependencyRoot) ∧
      ∀ key ∈ keys, ∀ other ∈ keys, key ≠ other →
        Path.isBelow (stagedPath base other) (stagedPath base key) = false)
    ⟨fun ⟨spelled, fits, aside, apart⟩ => ⟨spelled, fits, aside, apart⟩,
      fun consistent => ⟨consistent.spelled, consistent.fits, consistent.aside, consistent.apart⟩⟩

/-- The names that lead to a dependency root inside a staging root are plain. -/
theorem plain_nested (plain : ∀ name ∈ base, Path.isPlain name = true) :
    ∀ name ∈ base ++ [Layout.dependencyName], Path.isPlain name = true := by
  have named : Path.isPlain Layout.dependencyName = true := by decide
  exact List.forall_mem_append.2 ⟨plain, List.forall_mem_singleton.2 named⟩

/-- The dependency root inside a staging root is made of one name more. -/
theorem nested_ofNames (plain : ∀ name ∈ base, Path.isPlain name = true) :
    (Layout.nested (ofNames base)).dependencyRoot = ofNames (base ++ [Layout.dependencyName]) := by
  have named : Path.isPlain Layout.dependencyName = true := by decide
  exact Path.join_ofNames plain named

/-- The file of a key that is spelled by names stands at its place. -/
theorem stagedPath_eq (plain : ∀ name ∈ base, Path.isPlain name = true) (spelled : Key.IsSpelled key) :
    stagedPath base key = ofNames (base ++ place key) := by
  unfold stagedPath treeOf place
  -- A key of a package stands in the dependency root, and any other in the staging root.
  split
  · rw [nested_ofNames plain, spelled.pathIn_eq (plain_nested plain), List.append_assoc,
      List.singleton_append]
  · exact spelled.pathIn_eq plain

/-- The place of a key is spelled by proper names. -/
theorem isName_of_mem_place (spelled : Key.IsSpelled key) :
    ∀ name ∈ place key, Disk.isName name = true := by
  unfold place
  split
  · intro name member
    -- The name of the dependency root is a proper one as well.
    rcases List.mem_cons.1 member with rfl | inside
    · decide
    · exact spelled.isName name inside
  · exact spelled.isName

/-- The place of a key is not the staging root itself. -/
theorem place_ne_nil (spelled : Key.IsSpelled key) : place key ≠ [] := by
  unfold place
  split
  · exact List.cons_ne_nil _ _
  · exact Key.names_ne_nil spelled.stageable

namespace Consistent

variable (consistent : Consistent base keys) (plain : ∀ name ∈ base, Path.isPlain name = true)

include consistent plain

/-- The components of a staged path are the names that lead to the file. -/
theorem components_stagedPath (member : key ∈ keys) :
    Path.components (stagedPath base key) = .root :: (base ++ place key).map .name := by
  have spelled := consistent.spelled key member
  rw [stagedPath_eq plain spelled, Path.components_ofNames]
  exact List.forall_mem_append.2 ⟨plain, fun name own =>
    Disk.isPlain_of_isName (isName_of_mem_place spelled name own)⟩

/-- No place of a key lies at or above that of another one. -/
theorem place_apart (member : key ∈ keys) (member' : other ∈ keys) (different : key ≠ other) :
    ¬place key <+: place other := by
  rintro ⟨further, split⟩
  -- With one place behind the other, the one path would lie below the other.
  have above : Path.isBelow (stagedPath base other) (stagedPath base key) = true := by
    rw [Path.isBelow_iff_prefix (consistent.components_stagedPath plain member')
      (consistent.components_stagedPath plain member), ← split, ← List.append_assoc]
    exact List.prefix_append _ further
  rw [consistent.apart key member other member' different] at above
  cases above

omit plain in
/-- Files of different keys are staged at different paths. -/
theorem components_ne (member : key ∈ keys) (member' : other ∈ keys) (different : key ≠ other) :
    Path.components (stagedPath base key) ≠ Path.components (stagedPath base other) := by
  intro same
  -- A path is at or above itself.
  have above := consistent.apart key member other member' different
  rw [Path.isBelow, same, List.isPrefixOf_iff_prefix.2 List.prefix_rfl] at above
  cases above

/-- Where a directory is to be made, no file is to be written. -/
theorem not_place_of_planned (member : key ∈ keys) : ¬Planned keys (place key) .directory := by
  -- It would be the dependency root, or lie above the file of a key.
  rintro (root | ⟨other, member', further, some, split⟩)
  · refine consistent.aside key member ?_
    rw [consistent.components_stagedPath plain member, root, nested_ofNames plain,
      Path.components_ofNames (plain_nested plain)]
  · by_cases same : key = other
    · subst same
      exact some (List.append_cancel_left (split.trans (List.append_nil _).symm))
    · exact consistent.place_apart plain member member' same ⟨further, split⟩

end Consistent

end AuditStage.Staging
