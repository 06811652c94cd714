import AuditStage.Proofs.Path.Normal
import AuditStage.Proofs.Remap.Targets

/-! The rules that are declared: which of them a table keeps, and whether they lead into the staged tree. -/

namespace AuditStage.RemapTable

open AuditStage.Path (components isAbsolute isBelow join normal normalNames ofNames wayOf)
open AuditStage.Remapping (plainName)
open AuditStage.Staging (mixedProject)

variable {project : Project} {declared : List String} {rule : Remapping} {name : String}

/-- A rule with its target moved to the staged tree. -/
def moved (project : Project) (rule : Remapping) : Remapping :=
  { rule with target := rebase project.stagingRoot rule.target }

/-- No package of a project is told by a name. -/
def IsForeign (project : Project) (name : String) : Prop :=
  ∀ package ∈ project.libraries, plainName package ≠ plainName name

/-- Of the declared rules, the first one for a name, with its target moved to the staged tree. -/
def firstFor? (project : Project) (declared : List String) (name : String) : Option Remapping :=
  (declared.filterMap (declaredRule? project)).find? fun rule => plainName rule.name == plainName name

/-- A text that describes a rule gives this rule, moved to the staged tree. -/
theorem declaredRule?_of_parse {raw : String} (parsed : Remapping.parse raw = some rule) :
    declaredRule? project raw = some (moved project rule) := by
  rw [declaredRule?, parsed]
  rfl

/-- What is found first is one of the declared rules, and it is one for the name. -/
theorem of_firstFor? (found : firstFor? project declared name = some rule) :
    ∃ raw ∈ declared, ∃ other, Remapping.parse raw = some other ∧ moved project other = rule ∧
      plainName other.name = plainName name := by
  obtain ⟨raw, member, described⟩ := List.mem_filterMap.1 (List.mem_of_find?_eq_some found)
  obtain ⟨other, parsed, same⟩ := Option.map_eq_some_iff.1 described
  -- It was found by its name, and moving it has left the name as it was.
  have told := List.find?_some found
  rw [beq_iff_eq] at told
  subst same
  exact ⟨raw, member, other, parsed, rfl, told⟩

/-- For the name of a declared rule there is a first one. -/
theorem exists_firstFor? {raw : String} (project : Project) (member : raw ∈ declared)
    (parsed : Remapping.parse raw = some rule) :
    ∃ first, firstFor? project declared rule.name = some first := by
  apply Option.isSome_iff_exists.1
  -- The rule itself is one that the search would stop at.
  refine List.find?_isSome.2 ⟨moved project rule, ?_, beq_self_eq_true _⟩
  exact List.mem_filterMap.2 ⟨raw, member, declaredRule?_of_parse parsed⟩

/-- A rule is in a table without two rules for one name exactly if its name leads to it. -/
theorem mem_entries_iff {table : RemapTable} (distinct : table.Distinct) :
    rule ∈ table.entries ↔ table.get? rule.name = some rule := by
  constructor
  · exact get?_of_mem distinct
  · exact List.mem_of_find?_eq_some

/-- A name that is not one of a package leads to the first rule that is declared for it. -/
theorem get?_resolve_of_isForeign (foreign : IsForeign project name) :
    (resolve project declared).get? name = firstFor? project declared name := by
  -- The rules of the packages come first, and none of them is for the name.
  have past : (project.libraries.map (packageRule project)).find?
      (fun rule => plainName rule.name == plainName name) = none := by
    refine List.find?_eq_none.2 fun entry member => ?_
    obtain ⟨package, listed, rfl⟩ := List.mem_map.1 member
    simpa [packageRule] using foreign package listed
  rw [resolve, get?_foldl_add, List.find?_append, past]
  rfl

/-- A declared rule whose name is not one of a package is in the table exactly if it is the first that is
declared for its name, whatever files it is limited to. So all declared rules for such names are in the
table exactly if no two of them are for one name and differ. -/
theorem mem_resolve_iff_first (project : Project) (declared : List String) :
    (∀ raw ∈ declared, ∀ rule, Remapping.parse raw = some rule → IsForeign project rule.name →
      (moved project rule ∈ (resolve project declared).entries ↔
        firstFor? project declared rule.name = some (moved project rule))) ∧
    ((∀ raw ∈ declared, ∀ rule, Remapping.parse raw = some rule → IsForeign project rule.name →
        moved project rule ∈ (resolve project declared).entries) ↔
      ∀ one ∈ declared, ∀ two ∈ declared, ∀ rule other, Remapping.parse one = some rule →
        Remapping.parse two = some other → IsForeign project rule.name →
        plainName other.name = plainName rule.name → moved project other = moved project rule) := by
  have kept : ∀ raw ∈ declared, ∀ rule, Remapping.parse raw = some rule →
      IsForeign project rule.name →
      (moved project rule ∈ (resolve project declared).entries ↔
        firstFor? project declared rule.name = some (moved project rule)) := by
    intro raw _ rule _ foreign
    -- A rule is in the table if its name leads to it, and past the packages that is the first one for it.
    rw [mem_entries_iff (distinct_resolve project declared)]
    exact Eq.congr_left (get?_resolve_of_isForeign foreign)
  refine ⟨kept, fun all => ?_, fun same => ?_⟩
  · -- Two rules for one name are both the first one for it.
    intro one first two second rule other parsed described foreign told
    have elsewhere : IsForeign project other.name := fun package listed =>
      told ▸ foreign package listed
    have own := (kept one first rule parsed foreign).1 (all one first rule parsed foreign)
    have next := (kept two second other described elsewhere).1 (all two second other described elsewhere)
    have common : firstFor? project declared other.name = firstFor? project declared rule.name := by
      simp only [firstFor?, told]
    rw [common, own] at next
    exact (Option.some.inj next).symm
  · -- Whichever rule comes first for the name, it is the same rule.
    intro raw member rule parsed foreign
    obtain ⟨first, found⟩ := exists_firstFor? project member parsed
    obtain ⟨text, inside, other, described, rfl, told⟩ := of_firstFor? found
    rw [kept raw member rule parsed foreign, found,
      same raw member text inside rule other parsed described foreign told]

/-- No package of the sample project has this name. -/
theorem isForeign_mixedProject : IsForeign mixedProject "x/" := by
  unfold IsForeign
  decide

/-- The first of two rules for one name is kept, and the second is not, whatever files they are limited
to. -/
theorem mem_resolve_mixedProject :
    moved mixedProject ⟨some "a", "x/", "lib/a/"⟩ ∈
        (resolve mixedProject ["a:x/=lib/a/", "b:x/=lib/b/"]).entries ∧
      moved mixedProject ⟨some "b", "x/", "lib/b/"⟩ ∉
        (resolve mixedProject ["a:x/=lib/a/", "b:x/=lib/b/"]).entries := by
  obtain ⟨kept, -⟩ := mem_resolve_iff_first mixedProject ["a:x/=lib/a/", "b:x/=lib/b/"]
  have first := kept "a:x/=lib/a/" (by decide) ⟨some "a", "x/", "lib/a/"⟩ (by decide) isForeign_mixedProject
  have second := kept "b:x/=lib/b/" (by decide) ⟨some "b", "x/", "lib/b/"⟩ (by decide) isForeign_mixedProject
  -- What is found first for the name is the rule with the other context.
  exact ⟨first.2 (by decide), fun member => absurd (second.1 member) (by decide)⟩

/-- Of two rules for one name that are limited to different files, the second is lost, though there is
no package of that name. -/
theorem not_mem_resolve_mixedProject :
    ¬ ∀ (project : Project) (declared : List String), ∀ raw ∈ declared, ∀ rule,
      Remapping.parse raw = some rule → IsForeign project rule.name →
      ⟨rule.context, rule.name, rebase project.stagingRoot rule.target⟩ ∈
        (resolve project declared).entries := by
  intro kept
  have second := kept mixedProject ["a:x/=lib/a/", "b:x/=lib/b/"] "b:x/=lib/b/" (by decide)
    ⟨some "b", "x/", "lib/b/"⟩ (by decide) isForeign_mixedProject
  exact absurd second (by decide)

/-- The target of a rule that was declared with a relative one is the staging root, with as many names
taken back from it as the declared target leads up, and the names behind it by which that leads down. It
lies in the staged tree exactly if the names that are taken back are the first that are added, so always
where the declared target does not lead up from where it starts. -/
theorem isBelow_moved_iff (absolute : isAbsolute project.stagingRoot = true)
    (level : .up ∉ components project.stagingRoot) (declared : List String) :
    ∀ raw ∈ declared, ∀ rule, Remapping.parse raw = some rule → isAbsolute rule.target = false →
      ∀ entry ∈ (resolve project declared).entries, declaredRule? project raw = some entry →
        let names := normalNames project.stagingRoot
        let kept := names.length - (wayOf rule.target).up
        normal entry.target = ofNames (names.take kept ++ (wayOf rule.target).down) ∧
        (isBelow (normal entry.target) project.stagingRoot = true ↔
          names.drop kept <+: (wayOf rule.target).down) ∧
        ((wayOf rule.target).up = 0 → isBelow (normal entry.target) project.stagingRoot = true) := by
  intro raw _ rule parsed relative entry _ described
  rw [declaredRule?_of_parse parsed, Option.some.injEq] at described
  -- The text of the target means the declared one joined to the staging root.
  have spelled : components entry.target = components (join project.stagingRoot rule.target) := by
    have joined : components (rebase project.stagingRoot rule.target ++ "") =
        components (join project.stagingRoot (rule.target ++ "")) :=
      components_rebase absolute (by simpa using relative)
    rw [← described, moved]
    simpa using joined
  -- So what is known of paths that are joined is known of the target.
  have leads : normal entry.target = normal (join project.stagingRoot rule.target) := by
    rw [normal, normal, normalNames, normalNames, spelled]
  have within := Path.isBelow_join_iff absolute level relative
  refine ⟨?_, ?_, ?_⟩
  · rw [leads, normal, Path.normalNames_join absolute relative]
  · rw [leads, within]
  · -- Where nothing is taken back, there is nothing that would have to be added again.
    intro stays
    rw [leads, within, stays, Nat.sub_zero, List.drop_length]
    exact List.nil_prefix

/-- A target that turns back on its way stays in the staged tree, and so does one that leaves it and comes
back. -/
theorem isBelow_moved_mixedProject :
    (∃ entry ∈ (resolve mixedProject ["y/=./lib/../src/", "z/=../out/lib/"]).entries, entry.name = "y/" ∧
      isBelow (normal entry.target) mixedProject.stagingRoot = true) ∧
    ∃ entry ∈ (resolve mixedProject ["y/=./lib/../src/", "z/=../out/lib/"]).entries, entry.name = "z/" ∧
      isBelow (normal entry.target) mixedProject.stagingRoot = true := by
  have leads := @isBelow_moved_iff mixedProject (by decide) (by decide)
    ["y/=./lib/../src/", "z/=../out/lib/"]
  refine ⟨⟨⟨none, "y/", "/work/out/lib/../src/"⟩, by decide, rfl, ?_⟩,
    ⟨⟨none, "z/", "/work/out/../out/lib/"⟩, by decide, rfl, ?_⟩⟩
  · obtain ⟨-, -, stays⟩ := leads "y/=./lib/../src/" (by decide) ⟨none, "y/", "./lib/../src/"⟩ (by decide)
      (by decide) ⟨none, "y/", "/work/out/lib/../src/"⟩ (by decide) (by decide)
    exact stays (by decide)
  · obtain ⟨-, within, -⟩ := leads "z/=../out/lib/" (by decide) ⟨none, "z/", "../out/lib/"⟩ (by decide)
      (by decide) ⟨none, "z/", "/work/out/../out/lib/"⟩ (by decide) (by decide)
    -- One name is taken back from the root, and it is the first that is added again.
    exact within.2 (by decide)

/-- A relative target that leads up leaves the staged tree. -/
theorem not_isBelow_moved_mixedProject :
    ¬ ∀ (project : Project) (declared : List String), isAbsolute project.stagingRoot = true →
      .up ∉ components project.stagingRoot → ∀ raw ∈ declared, ∀ rule,
        Remapping.parse raw = some rule → isAbsolute rule.target = false →
        ∀ entry ∈ (resolve project declared).entries, declaredRule? project raw = some entry →
          isBelow (normal entry.target) project.stagingRoot = true := by
  intro below
  -- The one name of the root that is taken back is not added again.
  have left := below mixedProject ["y/=../outside/"] (by decide) (by decide) "y/=../outside/" (by decide)
    ⟨none, "y/", "../outside/"⟩ (by decide) (by decide) ⟨none, "y/", "/work/out/../outside/"⟩ (by decide)
    (by decide)
  exact absurd left (by decide)

end AuditStage.RemapTable
