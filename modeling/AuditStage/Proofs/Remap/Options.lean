import AuditStage.Analyzer
import AuditStage.Payload
import AuditStage.Proofs.Remap.Argument

/-! Which arguments of an analyzer's command start with a dash, so that the analyzer takes them for
options of its own: those that every command has, and in one case the rules of the project. -/

namespace AuditStage

/-- A text starts with a dash, as the options of a command do. -/
def startsDashed (text : String) : Bool :=
  text.toList.head? == some '-'

namespace RemapTable

variable {table : RemapTable} {entry : Remapping} {project : Project} {raw : String}

/-- The rules of a project start with a dash: it has no package, and the first of the declared texts that
describes a rule starts with one. -/
def opensDashed (project : Project) (declared : List String) : Bool :=
  project.libraries.isEmpty &&
    (declared.find? fun raw => (Remapping.parse raw).isSome).any fun raw =>
      startsDashed (Text.trimmed raw)

/-- Of rules that are added one after the other, the first one stays in front. -/
theorem head?_foldl_add (table : RemapTable) (rules : List Remapping) :
    (rules.foldl add table).entries.head? = table.entries.head?.or rules.head? := by
  -- The induction is on the rules that are left to be added to whatever is in the table by then.
  induction rules generalizing table with
  | nil => simp
  | cons rule rules ih =>
    have step : (table.add rule).entries.head? = table.entries.head?.or (some rule) := by
      obtain ⟨entries⟩ := table
      cases entries with
      | nil => rfl
      | cons first others =>
        -- A rule that is added stands behind the first one, or is left out.
        unfold add
        split
        · rfl
        · rfl
    rw [List.foldl_cons, ih, step, List.head?_cons, Option.or_assoc, Option.some_or]

/-- The first rule of a project is that of its first package, or else the first one that is declared. -/
theorem head?_resolve (project : Project) (declared : List String) :
    (resolve project declared).entries.head? =
      (project.libraries.head?.map (packageRule project)).or
        (declared.findSome? (declaredRule? project)) := by
  -- The table starts empty, so its first rule is the first that is added.
  rw [resolve, head?_foldl_add, List.head?_append, List.head?_map, List.head?_filterMap]
  rfl

/-- An argument starts as the text of its first rule does. -/
theorem head?_argument (table : RemapTable) :
    table.argument.toList.head? = table.entries.head?.bind fun entry => entry.text.toList.head? := by
  rw [toList_argument]
  cases table.entries with
  | nil => rfl
  | cons entry entries =>
    -- The text of a rule is never empty.
    have filled : entry.text.toList ≠ [] := by simp [Remapping.toList_text]
    cases entries with
    | nil => simp [List.intercalate]
    | cons next entries =>
      rw [List.map_cons, List.map_cons, List.intercalate_cons_cons, List.append_assoc,
        List.head?_append_of_ne_nil _ filled]
      rfl

/-- A declared rule starts as the text that describes it, whatever becomes of its target. -/
theorem head?_declaredRule (moved : declaredRule? project raw = some entry) :
    entry.text.toList.head? = (Text.trim raw.toList).head? := by
  obtain ⟨rule, parsed, rfl⟩ := Option.map_eq_some_iff.1 moved
  obtain ⟨-, spelled⟩ := Remapping.parse_eq_some_iff.1 parsed
  -- The text of a rule starts with its label, which moving the target leaves alone.
  rw [← spelled, Remapping.toList_text, Remapping.toList_text, List.head?_append, List.head?_append]
  rfl

/-- The first rule that is declared starts as the first text that describes one. -/
theorem head?_firstDeclared (project : Project) (declared : List String) :
    ((declared.findSome? (declaredRule? project)).bind fun entry => entry.text.toList.head?) =
      (declared.find? fun raw => (Remapping.parse raw).isSome).bind fun raw =>
        (Text.trim raw.toList).head? := by
  induction declared with
  | nil => rfl
  | cons raw declared ih =>
    cases parsed : Remapping.parse raw with
    | none =>
      -- What describes no rule is passed over.
      have none : declaredRule? project raw = none := by simp [declaredRule?, parsed]
      rw [List.findSome?_cons, none, List.find?_cons, parsed]
      exact ih
    | some rule =>
      -- The first text that describes a rule is the first that gives one.
      obtain ⟨entry, moved⟩ : ∃ entry, declaredRule? project raw = some entry := by
        simp [declaredRule?, parsed]
      rw [List.findSome?_cons, moved, List.find?_cons, parsed]
      exact head?_declaredRule moved

/-- The rules of a project start with a dash as their argument does, where no package does. -/
theorem startsDashed_argument
    (marked : ∀ package ∈ project.libraries, package.toList.head? = some Key.packageMark)
    (declared : List String) :
    startsDashed (resolve project declared).argument = opensDashed project declared := by
  rw [startsDashed, head?_argument, head?_resolve, opensDashed]
  cases libraries : project.libraries with
  | nil =>
    rw [List.head?_nil, Option.map_none, Option.none_or, head?_firstDeclared]
    cases declared.find? fun raw => (Remapping.parse raw).isSome <;> simp [startsDashed, Text.trimmed]
  | cons package packages =>
    -- The rule of a package starts with the mark of packages.
    have first := marked package (by simp [libraries])
    have label : (packageRule project package).label = package := Remapping.label_of_no_context
    rw [List.head?_cons, Option.map_some, Option.some_or, Option.bind_some, Remapping.toList_text,
      label, List.head?_append, first]
    rfl

end RemapTable

/-- The arguments with a dash of a command for a path without one: the options of every command, and the
rules if their own text starts with one. -/
theorem Analyzer.filter_args {path : String} (plain : startsDashed path = false)
    (analyzer : String) (project : Project) (table : RemapTable) :
    (commandFor analyzer path project table).args.filter startsDashed =
      (if table.isEmpty then [] else ["--solc-remaps"]) ++
        (if startsDashed table.argument then [table.argument] else []) ++
          ["--solc-args=--allow-paths " ++ project.allowedPaths] := by
  have rules : startsDashed "--solc-remaps" = true := by decide
  -- The option for the compiler starts with a dash, whatever stands behind it.
  have compiler : startsDashed ("--solc-args=--allow-paths " ++ project.allowedPaths) = true := by
    rw [startsDashed, String.toList_append]
    rfl
  obtain ⟨entries⟩ := table
  cases entries with
  | nil =>
    -- Without rules there is no argument for them, and an empty one would have no dash.
    have still : startsDashed (RemapTable.mk []).argument = false := by decide
    have none : (RemapTable.mk []).isEmpty = true := rfl
    simp [commandFor, none, plain, compiler, still]
  | cons entry entries =>
    have some : (RemapTable.mk (entry :: entries)).isEmpty = false := rfl
    generalize RemapTable.mk (entry :: entries) = table at some
    cases dashed : startsDashed table.argument <;>
      simp [commandFor, some, plain, rules, compiler, dashed]

namespace Staging

variable {layout : Layout} {sources : SourceMap} {project : Project} {world final : World}

/-- The command for a staged file names the file by a path from the root of the disk. Of its arguments,
those that start with a dash are the option for the rules, where there are rules, and the one for the
compiler, and between them the rules themselves exactly if these start with a dash: then the project has
no package, and the first of the declared texts that describes a rule starts with one. -/
theorem build_options (ended : build layout sources world = .ok project final)
    (declared : List String) (analyzer : String) :
    ∀ file ∈ project.files,
      let table := RemapTable.resolve project declared
      let args := (Analyzer.commandFor analyzer file.path project table).args
      args.head? = some file.path ∧ file.path.toList.head? = some '/' ∧
        args.filter startsDashed =
          (if table.isEmpty then [] else ["--solc-remaps"]) ++
            (if RemapTable.opensDashed project declared then [table.argument] else []) ++
              ["--solc-args=--allow-paths " ++ project.allowedPaths] := by
  intro file member table args
  obtain ⟨rest, rooted⟩ := Path.isAbsolute_iff.1 (build_absolute ended file member)
  have marked : ∀ package ∈ project.libraries, package.toList.head? = some Key.packageMark :=
    fun package inside => (marked_of_mem_libraries ended inside).2
  -- A path from the root starts with a slash, and so with no dash.
  have plain : startsDashed file.path = false := by
    rw [startsDashed, rooted]
    rfl
  refine ⟨rfl, by rw [rooted]; rfl, ?_⟩
  -- Whether the rules start with a dash is told from what is declared, before they are joined.
  rw [← RemapTable.startsDashed_argument marked declared]
  exact Analyzer.filter_args plain analyzer project table

/-- Where the sources have a package, a declared rule that starts with a dash does not become an option. -/
theorem mixedSources_options :
    ∃ project final, build (.nested "/work/out") mixedSources emptyWorld = .ok project final ∧
      ∃ file ∈ project.files, file.path = "/work/out/lib/A.sol" ∧
        (Analyzer.commandFor "slither" file.path project
          (RemapTable.resolve project ["--json=/tmp/x"])).args.filter startsDashed =
            ["--solc-remaps", "--solc-args=--allow-paths " ++ project.allowedPaths] := by
  obtain ⟨final, ended⟩ := mixedSources_build
  let file : StagedFile := ⟨"lib/A.sol", "/work/out/lib/A.sol", none⟩
  have member : file ∈ mixedProject.files := by decide
  obtain ⟨-, -, options⟩ := build_options ended ["--json=/tmp/x"] "slither" file member
  refine ⟨mixedProject, final, ended, file, member, rfl, ?_⟩
  have filled : (RemapTable.resolve mixedProject ["--json=/tmp/x"]).isEmpty = false := by decide
  -- There is a package, so its rule comes first.
  have own : RemapTable.opensDashed mixedProject ["--json=/tmp/x"] = false := by decide
  rw [options, filled, own]
  rfl

/-- Published text whose settings declare what the analyzer takes for an option. -/
def dashedPayload : String :=
  "\x7b\"sources\":\x7b\"A.sol\":\x7b\"content\":\"contract A \x7b\x7d\"\x7d\x7d," ++
    "\"settings\":\x7b\"remappings\":[\"--json=/tmp/x\"]\x7d\x7d"

/-- A declared rule that starts with a dash becomes an argument that starts with one, and it is none of
the options that the command has. -/
theorem not_options_dashedPayload :
    ¬ ∀ (payload contractName : String) (sources : SourceMap) (layout : Layout) (world final : World)
        (project : Project), Payload.parse payload contractName = .ok sources →
      build layout sources world = .ok project final → ∀ analyzer, ∀ file ∈ project.files,
        ∀ argument ∈ (Analyzer.commandFor analyzer file.path project
          (RemapTable.resolve project sources.remappings)).args, startsDashed argument = true →
          argument = "--solc-remaps" ∨ "--solc-args=".toList <+: argument.toList := by
  intro options
  -- The text is parsed and staged, and the declared rule becomes an argument.
  have staged : (match Payload.parse dashedPayload "A" with
    | .ok sources =>
      match build (.nested "/work/out") sources emptyWorld with
      | .ok project _ => project.files.any fun file =>
          decide ("--json=/tmp/x" ∈ (Analyzer.commandFor "slither" file.path project
            (RemapTable.resolve project sources.remappings)).args)
      | .error _ _ => false
    | .error _ => false) = true := by decide +kernel
  split at staged
  · rename_i sources parsed
    split at staged
    · rename_i project final ended
      obtain ⟨file, member, passed⟩ := List.any_eq_true.1 staged
      -- The rule is passed on as it was written, since nothing stands before it.
      rcases options dashedPayload "A" sources _ _ final project parsed ended "slither" file member
        "--json=/tmp/x" (of_decide_eq_true passed) (by decide) with rules | compiler
      · exact absurd rules (by decide)
      · exact absurd compiler (by decide)
    · cases staged
  · cases staged

end Staging

end AuditStage
