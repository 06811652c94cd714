import AuditStage.Staging.Project
import AuditStage.Text.Quoted
import AuditStage.World

/-! Import remappings: their written form, and the table that leads imports to staged files. -/

namespace AuditStage

/-- A rule that an import path starting with a name is read from a target instead. -/
structure Remapping where
  /-- The files that the rule is limited to, if it is limited. -/
  context : Option String
  name : String
  target : String
deriving Repr, DecidableEq

namespace Remapping

/-- The rule that a text describes: there is an equals sign, and a name before it. -/
def parse (raw : String) : Option Remapping := do
  let (left, target) ← Text.splitFirst '=' (Text.trim raw.toList)
  let (context, name) :=
    match Text.splitFirst ':' left with
    | some (context, name) => (some (String.ofList context), name)
    | none => (none, left)
  if name.isEmpty then none else some ⟨context, String.ofList name, String.ofList target⟩

/-- The text that describes a rule. -/
def text (remapping : Remapping) : String :=
  (remapping.context.map (· ++ ":")).getD "" ++ remapping.name ++ "=" ++ remapping.target

/-- A name by which rules are told apart: slashes at its end do not count. -/
def plainName (name : String) : String :=
  String.ofList (Text.dropTrailing '/' name.toList)

end Remapping

/-- Rules in order, no two of them for the same plain name. -/
structure RemapTable where
  entries : List Remapping
deriving Repr, DecidableEq

namespace RemapTable

/-- No rules. -/
def empty : RemapTable :=
  ⟨[]⟩

/-- The rule for a name. -/
def get? (table : RemapTable) (name : String) : Option Remapping :=
  table.entries.find? fun entry => Remapping.plainName entry.name == Remapping.plainName name

/-- How many rules there are. -/
def size (table : RemapTable) : Nat :=
  table.entries.length

/-- Whether there are no rules. -/
def isEmpty (table : RemapTable) : Bool :=
  table.entries.isEmpty

/-- The table with a rule added, unless there is one for its name. -/
def add (table : RemapTable) (remapping : Remapping) : RemapTable :=
  if (table.get? remapping.name).isSome then table else ⟨table.entries ++ [remapping]⟩

/-- What stands between two rules in an argument. -/
def separator : String :=
  " "

/-- All rules as one argument. -/
def argument (table : RemapTable) : String :=
  separator.intercalate (table.entries.map Remapping.text)

/-- A path without the steps at its front that stay in place. -/
def dropHere : List Char → List Char
  | '.' :: '/' :: rest => dropHere rest
  | cs => cs

/-- A declared target, where a relative one is meant from the staging root. -/
def rebase (stagingRoot target : String) : String :=
  if Path.isAbsolute target then target
  else
    String.ofList (Text.dropTrailing '/' stagingRoot.toList ++ '/' :: dropHere target.toList)

/-- The rule that leads imports of a package to its staged directory. -/
def packageRule (project : Project) (package : String) : Remapping :=
  ⟨none, package, Path.join project.dependencyRoot package⟩

/-- The rule that a declared text describes, with its target moved to the staged tree. -/
def declaredRule? (project : Project) (raw : String) : Option Remapping :=
  (Remapping.parse raw).map fun remapping =>
    { remapping with target := rebase project.stagingRoot remapping.target }

/-- The table for a project: its packages first, then the declared rules. -/
def resolve (project : Project) (declared : List String) : RemapTable :=
  let packages := project.libraries.map (packageRule project)
  (packages ++ declared.filterMap (declaredRule? project)).foldl add empty

/-- The declared texts that describe no rule. -/
def malformed (declared : List String) : List String :=
  declared.filter fun raw => (Remapping.parse raw).isNone

end RemapTable

/-- Resolves the table for a project, and warns of every declared text that describes no rule. -/
def Run.remaps (project : Project) (declared : List String) : Run RemapTable := do
  for raw in RemapTable.malformed declared do
    Run.note .warn ("Ignoring malformed remapping " ++ Text.quoted raw)
  return RemapTable.resolve project declared

end AuditStage
