import AuditStage.Proofs.Staging.Libraries
import AuditStage.Proofs.Text.Trim
import AuditStage.Remap

/-! Tables of rules: no two rules for one name, and of the rules that are added the first one stays. -/

namespace AuditStage

variable {name : String}

namespace Remapping

/-- A name without a slash is the name that its rule is told by. -/
theorem plainName_of_isPlain (plain : Path.isPlain name = true) : plainName name = name := by
  obtain ⟨-, -, -, bare⟩ := Path.isPlain_iff.1 plain
  rw [plainName, Text.dropTrailing_of_notMem bare, String.ofList_toList]

/-- Slashes behind a name do not count. -/
theorem plainName_slashes (name : String) (count : Nat) :
    plainName (name ++ String.ofList (List.replicate count '/')) = plainName name := by
  rw [plainName, plainName, String.toList_append, String.toList_ofList, Text.dropTrailing_replicate]

end Remapping

namespace RemapTable

open Remapping (plainName)

variable {table : RemapTable} {rules : List Remapping} {rule : Remapping}

/-- A table has no two rules for one name. -/
def Distinct (table : RemapTable) : Prop :=
  (table.entries.map fun entry => plainName entry.name).Nodup

/-- A table has a rule for a name if one of its rules is told by that name. -/
theorem get?_isSome_iff : (table.get? name).isSome ↔
    plainName name ∈ table.entries.map fun entry => plainName entry.name := by
  simp [get?, List.find?_isSome, List.mem_map]

/-- Adding a rule gives no name a second one. -/
theorem Distinct.add (distinct : table.Distinct) (rule : Remapping) : (table.add rule).Distinct := by
  unfold RemapTable.add
  -- A table that has a rule for the name stays as it is.
  split
  · exact distinct
  · -- A rule that is added is one for a name that had none.
    rename_i fresh
    rw [get?_isSome_iff] at fresh
    simp only [Distinct, List.map_append, List.map_cons, List.map_nil]
    refine List.nodup_append.2 ⟨distinct, by simp, fun one old two new => ?_⟩
    rintro rfl
    exact fresh (List.mem_singleton.1 new ▸ old)

/-- Adding rules one after the other gives no name a second one. -/
theorem Distinct.foldl (distinct : table.Distinct) : (rules.foldl RemapTable.add table).Distinct := by
  induction rules generalizing table with
  | nil => exact distinct
  | cons rule rules ih => exact ih (distinct.add rule)

/-- A rule that is added is found by its name, unless there was another one before. -/
theorem get?_add (table : RemapTable) (rule : Remapping) (name : String) :
    (table.add rule).get? name =
      (table.get? name).or (if plainName rule.name = plainName name then some rule else none) := by
  unfold add
  by_cases known : (table.get? rule.name).isSome
  · -- Where the name is that of the rule, the one before is found.
    rw [if_pos known]
    by_cases same : plainName rule.name = plainName name
    · have found : table.get? rule.name = table.get? name := by simp only [get?, same]
      rw [found] at known
      obtain ⟨entry, held⟩ := Option.isSome_iff_exists.1 known
      simp [held]
    · simp [same]
  · -- A name that is new is that of the added rule or of none.
    rw [if_neg known]
    by_cases same : plainName rule.name = plainName name <;>
      simp [get?, List.find?_append, same]

/-- Of rules that are added one after the other, the first one for a name is found by it. -/
theorem get?_foldl_add (table : RemapTable) (rules : List Remapping) (name : String) :
    (rules.foldl add table).get? name =
      (table.get? name).or (rules.find? fun rule => plainName rule.name == plainName name) := by
  induction rules generalizing table with
  | nil => simp
  | cons rule rules ih =>
    rw [List.foldl_cons, ih, get?_add]
    -- The rule at the front is found before those behind it, and after those of the table.
    by_cases same : plainName rule.name = plainName name <;> simp [same]

/-- A rule for a name that has none is added behind the others. -/
theorem add_of_notMem (fresh : plainName rule.name ∉ table.entries.map fun entry => plainName entry.name) :
    table.add rule = ⟨table.entries ++ [rule]⟩ :=
  if_neg fun known => fresh (get?_isSome_iff.1 known)

/-- Rules for names that differ are all added, in order. -/
theorem foldl_add_of_nodup
    (distinct : ((table.entries ++ rules).map fun entry => plainName entry.name).Nodup) :
    rules.foldl add table = ⟨table.entries ++ rules⟩ := by
  induction rules generalizing table with
  | nil => simp
  | cons rule rules ih =>
    -- The first rule has none of the names before it, so it is put behind them.
    have fresh : plainName rule.name ∉ table.entries.map fun entry => plainName entry.name := by
      rw [List.map_append, List.nodup_append] at distinct
      exact fun known => distinct.2.2 _ known _ (by simp) rfl
    rw [List.foldl_cons, add_of_notMem fresh, ih (by simpa using distinct)]
    simp

/-- Rules that are added stand behind those that were there. -/
theorem prefix_foldl_add (table : RemapTable) (rules : List Remapping) :
    table.entries <+: (rules.foldl add table).entries := by
  induction rules generalizing table with
  | nil => exact List.prefix_rfl
  | cons rule rules ih =>
    -- Whether or not the first rule is added, nothing before it moves.
    refine List.IsPrefix.trans ?_ (ih (table.add rule))
    unfold add
    split
    · exact List.prefix_rfl
    · exact List.prefix_append _ _

/-- In a table without two rules for one name, each rule is found by its name. -/
theorem get?_of_mem (distinct : table.Distinct) (member : rule ∈ table.entries) :
    table.get? rule.name = some rule := by
  have found := find?_of_mem (fun entry : Remapping => plainName entry.name) distinct member
  exact found

/-- Slashes behind a name lead to the same rule. -/
theorem get?_slashes (table : RemapTable) (name : String) (count : Nat) :
    table.get? (name ++ String.ofList (List.replicate count '/')) = table.get? name := by
  simp only [get?, Remapping.plainName_slashes]

/-- What is found by a name is the only rule that is told by it. -/
theorem filter_of_get? (distinct : table.Distinct) (found : table.get? name = some rule) :
    table.entries.filter (fun entry => plainName entry.name == plainName name) = [rule] := by
  obtain ⟨told, before, after, split, others⟩ := List.find?_eq_some_iff_append.1 found
  simp only [beq_iff_eq] at told
  -- Before the rule there is none of its name, and behind it there is none either.
  have first : before.filter (fun entry => plainName entry.name == plainName name) = [] :=
    List.filter_eq_nil_iff.2 fun entry member => by simpa using others entry member
  have last : after.filter (fun entry => plainName entry.name == plainName name) = [] := by
    refine List.filter_eq_nil_iff.2 fun entry member => ?_
    simp only [Distinct, split, List.map_append, List.map_cons, List.nodup_append, List.nodup_cons]
      at distinct
    obtain ⟨-, ⟨unique, -⟩, -⟩ := distinct
    simp only [beq_iff_eq]
    exact fun same => unique (List.mem_map.2 ⟨entry, member, same.trans told.symm⟩)
  rw [split, List.filter_append, List.filter_cons_of_pos (by simp [told]), first, last]
  rfl

/-- Plain names are told apart as they are written. -/
theorem find?_of_isPlain {names : List String} (plain : ∀ other ∈ names, Path.isPlain other = true)
    (member : name ∈ names) : names.find? (plainName · == plainName name) = some name := by
  have own : plainName name = name := Remapping.plainName_of_isPlain (plain name member)
  rw [own]
  induction names with
  | nil => cases member
  | cons first names ih =>
    have known : plainName first = first :=
      Remapping.plainName_of_isPlain (plain first List.mem_cons_self)
    -- The names before it are other plain names, so they are passed over.
    by_cases same : first = name
    · simp [same, own]
    · have behind : name ∈ names := (List.mem_cons.1 member).resolve_left (Ne.symm same)
      simp only [List.find?_cons, known, beq_false_of_ne same]
      exact ih (fun other inside => plain other (List.mem_cons_of_mem _ inside)) behind

/-- A project's own rule is found for each of its packages, whatever else is declared. -/
theorem get?_resolve_of_library {project : Project} {package : String}
    (plain : ∀ other ∈ project.libraries, Path.isPlain other = true)
    (member : package ∈ project.libraries) (declared : List String) :
    (resolve project declared).get? package = some (packageRule project package) := by
  have known := find?_of_isPlain plain member
  -- The rules of packages come first, and nothing is in the table before them.
  rw [resolve, get?_foldl_add, List.find?_append, List.find?_map]
  simp only [Function.comp_def, packageRule, known, Option.map_some, Option.some_or]
  rfl

/-- The table of a project starts with the rules of its packages, if these are plain names that differ. -/
theorem prefix_resolve {project : Project}
    (plain : ∀ package ∈ project.libraries, Path.isPlain package = true)
    (distinct : project.libraries.Nodup) (declared : List String) :
    project.libraries.map (packageRule project) <+: (resolve project declared).entries := by
  -- Plain names are told apart as they are written.
  have names : (project.libraries.map (packageRule project)).map (fun entry => plainName entry.name) =
      project.libraries := by
    rw [List.map_map]
    exact (List.map_congr_left fun package member =>
      Remapping.plainName_of_isPlain (plain package member)).trans (List.map_id _)
  have packages : (project.libraries.map (packageRule project)).foldl add empty =
      ⟨project.libraries.map (packageRule project)⟩ :=
    foldl_add_of_nodup (names.symm ▸ distinct)
  rw [resolve, List.foldl_append, packages]
  exact prefix_foldl_add _ _

/-- The table of a project has no two rules for one name. -/
theorem distinct_resolve (project : Project) (declared : List String) :
    (resolve project declared).Distinct := by
  have start : empty.Distinct := List.nodup_nil
  exact start.foldl

end RemapTable

end AuditStage
