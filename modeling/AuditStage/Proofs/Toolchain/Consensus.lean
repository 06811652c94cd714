import AuditStage.Proofs.Payload.Files
import AuditStage.Proofs.Pipeline.Early

/-! Which version the directives of all files pin together. Main statement: it is the one version that
every one of them pins, so neither the order of the files nor a file without directives plays a part. -/

namespace AuditStage.Version

variable {sources others : SourceMap} {version reported : String}

/-- Expressions agree on a version exactly if there is one of them and each of them pins it. -/
theorem agreed?_eq_some_iff {expressions : List String} : agreed? expressions = some version ↔
    expressions ≠ [] ∧ ∀ expression ∈ expressions, pinned? expression = some version := by
  cases expressions with
  | nil => simp [agreed?]
  | cons first more =>
    -- What the first expression pins is the only version that can be agreed on.
    unfold agreed?
    cases pinned : pinned? first with
    | none => simp [pinned]
    | some other =>
      simp only [Option.bind_eq_bind, Option.bind_some, Option.ite_none_right_eq_some,
        Option.some.injEq, List.all_eq_true, beq_iff_eq, ne_eq, reduceCtorEq, not_false_eq_true,
        true_and, List.forall_mem_cons, pinned]
      constructor
      · rintro ⟨agreeing, rfl⟩
        exact ⟨rfl, agreeing⟩
      · rintro ⟨rfl, agreeing⟩
        exact ⟨agreeing, rfl⟩

/-- Whether expressions agree, and on what, does not depend on their order or on how often one of them
stands there. -/
theorem agreed?_congr {one two : List String}
    (same : ∀ expression, expression ∈ one ↔ expression ∈ two) : agreed? one = agreed? two := by
  have filled : one ≠ [] ↔ two ≠ [] := by
    simp only [ne_eq, List.eq_nil_iff_forall_not_mem, same]
  -- Two options are the same if they hold the same versions.
  apply Option.ext
  intro version
  rw [agreed?_eq_some_iff, agreed?_eq_some_iff, filled]
  simp only [same]

/-- Sources pin a version exactly if one of their files has an expression, and every expression of every
file pins the version. -/
theorem fromSources?_eq_some_iff : fromSources? sources = some version ↔
    (∃ file ∈ sources.files, expressions file.2 ≠ []) ∧
      ∀ file ∈ sources.files, ∀ expression ∈ expressions file.2,
        pinned? expression = some version := by
  rw [fromSources?, agreed?_eq_some_iff]
  apply and_congr
  · simp [List.flatMap_eq_nil_iff]
  · -- Whatever is said of the expressions in a row is said of those of each file.
    simp only [List.mem_flatMap]
    exact ⟨fun pins file member expression inside => pins expression ⟨file, member, inside⟩,
      fun pins expression ⟨file, member, inside⟩ => pins file member expression inside⟩

/-- The order of the files makes no difference to the version that they pin. -/
theorem fromSources?_of_perm (same : others.files.Perm sources.files) :
    fromSources? others = fromSources? sources := by
  -- Files in another order have the same expressions, if not in the same order.
  have reordered := same.flatMap_right fun file => expressions file.2
  unfold fromSources?
  apply agreed?_congr
  intro expression
  exact reordered.mem_iff

/-- A file without an expression makes no difference, if it does not take the place of another one. -/
theorem fromSources?_insert {path content : String} (new : path ∉ sources.keys)
    (silent : expressions content = []) :
    fromSources? (sources.insert path content) = fromSources? sources := by
  -- The new file stands behind the others and has nothing to say.
  have files : (sources.insert path content).files = sources.files ++ [(path, content)] :=
    placeFile_of_notMem new
  simp [fromSources?, files, silent]

/-- The version for sources is the one that they pin, and only where they pin none the reported one. -/
theorem resolve?_eq_some_iff : resolve? sources reported = some version ↔
    fromSources? sources = some version ∨
      fromSources? sources = none ∧ reported? reported = some version := by
  unfold resolve?
  cases fromSources? sources <;> simp

end AuditStage.Version

namespace AuditStage.Toolchain

open Version (expressions fromSources? pinned? reported? resolve?)

variable {manager reported version : String} {sources : SourceMap} {world final : World}

/-- Selecting a version looks at nothing of the sources but the version that is found for them. -/
theorem select_congr {others : SourceMap} (same : resolve? others reported = resolve? sources reported)
    (manager : String) : select manager others reported = select manager sources reported := by
  simp only [select, same]

/-- A version that was selected is the one that is found for the sources. -/
theorem resolve?_of_select (ended : select manager sources reported world = .ok version final) :
    resolve? sources reported = some version := by
  -- Without a version that is found, nothing can have been selected.
  cases resolved : resolve? sources reported with
  | none =>
    simp only [select, resolved] at ended
    cases ended
  | some other =>
    -- With a version found, it is given or the switch to it fails.
    obtain ⟨-, after, done, -, -, -, outcome⟩ := select_ran manager resolved world
    cases done with
    | true =>
      have given : select manager sources reported world = .ok other after := outcome
      rw [given] at ended
      cases ended
      rfl
    | false =>
      obtain ⟨failure, failed⟩ := outcome
      rw [failed] at ended
      cases ended

/-- The version counts as unresolvable exactly if none is found; the report is then passed on as it was
given, and nothing has been done. -/
theorem select_unresolvable_iff {text : String} :
    select manager sources reported world = .error (.versionUnresolvable text) final ↔
      resolve? sources reported = none ∧ text = reported ∧ final = world := by
  constructor
  · intro failed
    -- A switch that fails is told of by another failure.
    rcases select_error failed with ⟨missing, same, kept⟩ | ⟨version, fault, -, other⟩
    · cases same
      exact ⟨missing, rfl, kept⟩
    · cases other
  · rintro ⟨missing, rfl, rfl⟩
    simp only [select, missing]
    rfl

/-- Sources pin a version exactly if some file has an expression and every expression of every file pins
just that version, in whatever order the files come. The version that they pin is selected, and else the
one that is reported; without either, the selection fails with the report as it was given. A new file
without an expression makes no difference to any of this. -/
theorem select_consensus (sources : SourceMap) (reported : String) :
    (∀ version, fromSources? sources = some version ↔
      (∃ file ∈ sources.files, expressions file.2 ≠ []) ∧
        ∀ file ∈ sources.files, ∀ expression ∈ expressions file.2,
          pinned? expression = some version) ∧
    (∀ others : SourceMap, others.files.Perm sources.files →
      fromSources? others = fromSources? sources) ∧
    (∀ version, resolve? sources reported = some version ↔ fromSources? sources = some version ∨
      fromSources? sources = none ∧ reported? reported = some version) ∧
    (∀ manager world,
      (∀ version final, select manager sources reported world = .ok version final →
        resolve? sources reported = some version) ∧
      ∀ text final,
        select manager sources reported world = .error (.versionUnresolvable text) final ↔
          resolve? sources reported = none ∧ text = reported ∧ final = world) ∧
    ∀ path content, path ∉ sources.keys → expressions content = [] →
      resolve? (sources.insert path content) reported = resolve? sources reported ∧
        ∀ manager, select manager (sources.insert path content) reported =
          select manager sources reported := by
  refine ⟨fun version => Version.fromSources?_eq_some_iff,
    fun others same => Version.fromSources?_of_perm same,
    fun version => Version.resolve?_eq_some_iff,
    fun manager world => ⟨fun version final => resolve?_of_select,
      fun text final => select_unresolvable_iff⟩, ?_⟩
  intro path content new silent
  -- What the sources pin stays the same, and so does all that follows from it.
  have kept : resolve? (sources.insert path content) reported = resolve? sources reported := by
    rw [resolve?, resolve?, Version.fromSources?_insert new silent]
  exact ⟨kept, select_congr kept⟩

/-- Sources whose directives pin one version in two ways. -/
def agreeingSources : SourceMap :=
  .ofList [("A.sol", "pragma solidity ^0.8.20;"), ("B.sol", "\tpragma  solidity =0.8.20 ;")]

/-- Neither turning the files round nor a file with a comment for a directive changes the version. -/
theorem agreeingSources_consensus :
    fromSources? agreeingSources = some "0.8.20" ∧
    fromSources? (.ofList agreeingSources.files.reverse) = fromSources? agreeingSources ∧
    resolve? (agreeingSources.insert "C.sol" "// pragma solidity 0.4.0;") "v0.8.26" =
      resolve? agreeingSources "v0.8.26" := by
  obtain ⟨-, reordered, -, -, added⟩ := select_consensus agreeingSources "v0.8.26"
  refine ⟨by decide +kernel, reordered _ ?_, (added "C.sol" _ (by decide) (by decide +kernel)).1⟩
  -- The paths are distinct, so the files may be turned round.
  have turned : (SourceMap.ofList agreeingSources.files.reverse).files =
      agreeingSources.files.reverse := by decide +kernel
  rw [turned]
  exact List.reverse_perm _

end AuditStage.Toolchain
