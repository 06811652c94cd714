import AuditStage.Proofs.Disk.Making
import AuditStage.Proofs.Distinct
import AuditStage.Staging.Build

/-! Keys that can be staged: which names they lead down by, and at which paths their files stand. -/

namespace AuditStage.Key

variable {key package : String}

/-- The names by which a key leads down, the dots on the way left out. -/
def names (key : String) : List String :=
  Disk.dropDots (Path.steps key)

/-- A key that can be staged is a relative path that never leads up. -/
theorem downward (stageable : isStageable key = true) :
    Path.isAbsolute key = false ∧ ∀ step ∈ Path.steps key, step ≠ "" ∧ step ≠ ".." := by
  simp only [isStageable, Bool.and_eq_true, List.all_eq_true, Path.components_eq,
    List.mem_append] at stageable
  obtain ⟨down, -⟩ := stageable
  -- Neither a root nor a step up is among the components of the key.
  constructor
  · refine Bool.eq_false_iff.2 fun absolute => ?_
    have root := down .root (.inl (by simp [Path.lead, absolute]))
    cases root
  · -- A step up would be a component that leads up.
    refine fun step member => ⟨(Path.of_mem_steps member).1, fun up => ?_⟩
    have up := down .up (.inr (List.mem_filterMap.2 ⟨step, member, up ▸ rfl⟩))
    cases up

/-- The names of a key that can be staged are plain ones. -/
theorem names_plain (stageable : isStageable key = true) :
    ∀ name ∈ names key, Path.isPlain name = true := by
  intro name member
  obtain ⟨inside, here⟩ := List.mem_filter.1 member
  exact Path.isPlain_of_mem_steps inside (of_decide_eq_true here) ((downward stageable).2 name inside).2

/-- A relative key that never leads up can be staged exactly if it has as many names as it needs. -/
theorem isStageable_iff_names (relative : Path.isAbsolute key = false)
    (level : ∀ step ∈ Path.steps key, step ≠ "" ∧ step ≠ "..") :
    isStageable key = true ↔ namesNeeded key ≤ (names key).length := by
  -- The components are the names of the key, with a dot in front of them at most.
  have lead : ∀ part ∈ Path.lead key, isDownward part = true ∧ isName part = false := by
    intro part member
    simp only [Path.lead, relative, Bool.false_eq_true, if_false] at member
    split at member
    · obtain rfl := List.mem_singleton.1 member
      exact ⟨rfl, rfl⟩
    · cases member
  have named : ∀ part ∈ (Disk.dropDots (Path.steps key)).map Path.Component.name,
      isDownward part = true ∧ isName part = true := by
    intro part member
    obtain ⟨name, -, rfl⟩ := List.mem_map.1 member
    exact ⟨rfl, rfl⟩
  have spelled := Path.components_eq key
  rw [Disk.filterMap_downward level] at spelled
  -- So nothing among the components leads up, and those that are names are those of the key.
  have down : (Path.components key).all isDownward = true := by
    rw [spelled, List.all_append, Bool.and_eq_true, List.all_eq_true, List.all_eq_true]
    exact ⟨fun part member => (lead part member).1, fun part member => (named part member).1⟩
  have all : (Path.components key).filter isName = (names key).map .name := by
    rw [spelled, List.filter_append, List.filter_eq_nil_iff.2 fun part member => by
      simp [(lead part member).2], List.filter_eq_self.2 fun part member => (named part member).2]
    rfl
  simp only [isStageable, down, all, Bool.true_and, List.length_map, decide_eq_true_eq]

/-- A key that can be staged has as many names as it needs. -/
theorem namesNeeded_le (stageable : isStageable key = true) :
    namesNeeded key ≤ (names key).length :=
  (isStageable_iff_names (downward stageable).1 (downward stageable).2).1 stageable

/-- A key that can be staged has a name. -/
theorem names_ne_nil (stageable : isStageable key = true) : names key ≠ [] := by
  have enough := namesNeeded_le stageable
  -- At least one name is needed, and two for a key of a package.
  intro none
  simp only [none, List.length_nil, namesNeeded] at enough
  split at enough <;> omega

/-- A library key starts with its package, and goes on with a slash if at all. -/
theorem package_split (belongs : package? key = some package) :
    ∃ rest, key.toList = package.toList ++ rest ∧ (rest = [] ∨ ∃ after, rest = '/' :: after) ∧
      '/' ∉ package.toList ∧ package.toList.head? = some packageMark := by
  unfold package? at belongs
  split at belongs
  · rename_i marked
    obtain rfl := Option.some.inj belongs
    -- The package is what stands before the first slash.
    refine ⟨key.toList.dropWhile (· != '/'), ?_, ?_, ?_, ?_⟩
    · simp [firstPart, List.takeWhile_append_dropWhile]
    · have head := List.head?_dropWhile_not (· != '/') key.toList
      cases rest : key.toList.dropWhile (· != '/') with
      | nil => exact .inl rfl
      | cons c after =>
        rw [rest] at head
        exact .inr ⟨after, by simpa using head⟩
    · intro slash
      -- A part before the first slash has none in it.
      have kept := List.all_eq_true.1 (List.all_takeWhile (p := (· != '/')) (l := key.toList)) '/'
        (by simpa [firstPart] using slash)
      simp at kept
    · cases spelled : key.toList with
      | nil => simp [spelled] at marked
      | cons c rest =>
        obtain rfl : c = packageMark := by simpa [spelled] using marked
        simp [firstPart, spelled, packageMark]
  · cases belongs

/-- A package is a plain name. -/
theorem isPlain_package (belongs : package? key = some package) : Path.isPlain package = true := by
  obtain ⟨rest, -, -, bare, marked⟩ := package_split belongs
  -- Its first character is the mark, so it is none of the names that are not plain.
  refine Path.isPlain_iff.2 ⟨?_, ?_, ?_, bare⟩ <;>
    · rintro rfl
      simp [packageMark] at marked

/-- Slashes at the front of a text part no steps. -/
theorem stepsOf_dropWhile (cs : List Char) :
    Path.stepsOf (cs.dropWhile (· == '/')) = Path.stepsOf cs := by
  -- Each slash in front parts an empty step from the others, which does not count.
  induction cs with
  | nil => rfl
  | cons c rest ih =>
    by_cases slash : c = '/'
    · subst slash
      simpa using ih
    · simp [slash]

/-- A library key takes the step to its package first, and its other steps from there. -/
theorem steps_withinPackage (belongs : package? key = some package) :
    Path.steps key = package :: Path.steps (withinPackage key package) := by
  obtain ⟨rest, spelled, ends, bare, -⟩ := package_split belongs
  have filled := (Path.isPlain_iff.1 (isPlain_package belongs)).1
  have own := Path.stepsOf_name filled bare
  simp only [Path.steps_eq, withinPackage, String.toList_ofList, spelled, List.drop_left,
    stepsOf_dropWhile]
  -- Either the package is all of the key, or a slash stands behind it.
  rcases ends with rfl | ⟨after, rfl⟩
  · simp [own]
  · rw [Path.stepsOf_append, own, Path.stepsOf_slash]
    rfl

/-- A library key leads to its package first, and on from there. -/
theorem names_package (stageable : isStageable key = true) (belongs : package? key = some package) :
    ∃ name rest, names key = package :: name :: rest := by
  have enough := namesNeeded_le stageable
  have here := (Path.isPlain_iff.1 (isPlain_package belongs)).2.1
  have split : names key = package :: Disk.dropDots (Path.steps (withinPackage key package)) := by
    simp [names, steps_withinPackage belongs, Disk.dropDots, here]
  -- A key with nothing behind its package has too few names.
  cases rest : Disk.dropDots (Path.steps (withinPackage key package)) with
  | nil => simp [split, rest, namesNeeded, belongs] at enough
  | cons name rest' => exact ⟨name, rest', by rw [split, rest]⟩

/-- What is left of a library key without its package is a relative path. -/
theorem isAbsolute_withinPackage : Path.isAbsolute (withinPackage key package) = false := by
  refine Bool.eq_false_iff.2 fun absolute => ?_
  obtain ⟨rest, spelled⟩ := Path.isAbsolute_iff.1 absolute
  -- All slashes in front have been dropped.
  have head := List.head?_dropWhile_not (· == '/') (key.toList.drop package.toList.length)
  simp only [withinPackage, String.toList_ofList] at spelled
  simp [spelled] at head

/-- The packages of keys stand in the order in which they first appear. -/
theorem packagesOf_eq (keys : List String) :
    packagesOf keys = (keys.filterMap package?).eraseDups := by
  unfold packagesOf
  generalize keys.filterMap package? = packages
  -- A package that is known is not taken a second time.
  induction packages using List.reverseRecOn with
  | nil => rfl
  | append_singleton packages package ih =>
    rw [List.foldl_append, ih, eraseDups_concat]
    by_cases known : package ∈ packages <;> simp [known]

/-- The packages of keys are those that a key belongs to. -/
theorem mem_packagesOf {keys : List String} :
    package ∈ packagesOf keys ↔ ∃ key ∈ keys, package? key = some package := by
  rw [packagesOf_eq, List.mem_eraseDups, List.mem_filterMap]

/-- No package of keys is listed twice. -/
theorem nodup_packagesOf (keys : List String) : (packagesOf keys).Nodup := by
  rw [packagesOf_eq]
  exact nodup_eraseDups _

end AuditStage.Key

namespace AuditStage.Staging

variable {base : Location} {key : String}

/-- The path at which the file of a key stands in a tree. -/
def pathIn (base key : String) : String :=
  match Key.package? key with
  | none => Path.join base key
  | some package => Path.join (Path.join base package) (Key.withinPackage key package)

/-- The path of a file takes the steps of its key behind those of its tree. -/
theorem steps_pathIn (stageable : Key.isStageable key = true) (base : String) :
    Path.steps (pathIn base key) = Path.steps base ++ Path.steps key := by
  unfold pathIn
  -- The name of a package is written again in front of the rest of the key.
  cases belongs : Key.package? key with
  | none => exact Path.steps_join (Key.downward stageable).1
  | some package =>
    obtain ⟨relative, own⟩ := Path.steps_plain (Key.isPlain_package belongs)
    rw [Path.steps_join Key.isAbsolute_withinPackage, Path.steps_join relative, own,
      Key.steps_withinPackage belongs]
    simp

/-- The path of a file starts where the path of its tree does. -/
theorem isAbsolute_pathIn (stageable : Key.isStageable key = true) {base : String}
    (filled : base ≠ "") : Path.isAbsolute (pathIn base key) = Path.isAbsolute base := by
  unfold pathIn
  -- Whether the key is joined at once or in two parts, the tree stays in front.
  cases belongs : Key.package? key with
  | none => exact Path.isAbsolute_join (Key.downward stageable).1 filled
  | some package =>
    obtain ⟨relative, -⟩ := Path.steps_plain (Key.isPlain_package belongs)
    rw [Path.isAbsolute_join Key.isAbsolute_withinPackage (Path.join_ne_empty (.inl filled)),
      Path.isAbsolute_join relative filled]

/-- The components of a file's path are the names of its tree and then those of its key. -/
theorem components_pathIn (plain : ∀ name ∈ base, Path.isPlain name = true)
    (stageable : Key.isStageable key = true) :
    Path.components (pathIn (Path.ofNames base) key) = .root :: (base ++ Key.names key).map .name := by
  -- The tree lies at the root of the disk, so the path is an absolute one.
  have absolute : Path.isAbsolute (pathIn (Path.ofNames base) key) = true := by
    rw [isAbsolute_pathIn stageable (Path.ofNames_ne_empty base), Path.isAbsolute_ofNames]
  rw [Path.components_absolute absolute, steps_pathIn stageable, Path.steps_ofNames plain,
    List.filterMap_append, Path.filterMap_plain plain,
    Disk.filterMap_downward (Key.downward stageable).2, List.map_append]
  rfl

/-- The paths above the path of a file lead down from the root towards it. -/
theorem of_mem_pathsAbove_pathIn (plain : ∀ name ∈ base, Path.isPlain name = true)
    (stageable : Key.isStageable key = true) {path : String}
    (above : path ∈ Path.pathsAbove (pathIn (Path.ofNames base) key)) :
    Path.isAbsolute path = true ∧
      Disk.dropDots (Path.steps path) <+: base ++ (Key.names key).dropLast := by
  have absolute : Path.isAbsolute (pathIn (Path.ofNames base) key) = true := by
    rw [isAbsolute_pathIn stageable (Path.ofNames_ne_empty base), Path.isAbsolute_ofNames]
  obtain ⟨lead, rest, further, split⟩ :=
    Path.of_mem_pathsAbove above (Path.ne_empty_of_mem_pathsAbove absolute above)
  -- The last name of the key is that of the file, and a path above leaves it out at least.
  obtain ⟨front, last, rfl⟩ := (List.eq_nil_or_concat' rest).resolve_left further
  rw [steps_pathIn stageable, Path.steps_ofNames plain, Disk.dropDots_append,
    Disk.dropDots_plain plain] at split
  refine ⟨lead.trans absolute, ?_⟩
  rw [← List.dropLast_append_of_ne_nil (Key.names_ne_nil stageable), Key.names, split,
    ← List.append_assoc, List.dropLast_concat]
  exact List.prefix_append _ front

end AuditStage.Staging
