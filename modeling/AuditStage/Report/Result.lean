import AuditStage.Json.Printer
import AuditStage.Json.Record

/-! The result of an analysis, and its JSON text. -/

namespace AuditStage

/-- What an analysis found, and the source text that it was run on. -/
structure AnalysisResult where
  /-- The diagnostics for all files, each ended by a line feed. -/
  slitherResults : String
  /-- The content of all files, parted by line feeds. -/
  combinedSourceCode : String
deriving Repr, DecidableEq

namespace AnalysisResult

/-- The value that describes a result. -/
def toValue (result : AnalysisResult) : Json.Value :=
  .object
    [("slitherResults", .string result.slitherResults),
     ("combinedSourceCode", .string result.combinedSourceCode)]

/-- A result while it is being read. -/
structure Draft where
  slitherResults : Option String := none
  combinedSourceCode : Option String := none

/-- The fields of a result. -/
def schema : Json.Schema Draft where
  name := "AnalysisResult"
  fields :=
    [{ name := "slitherResults", required := true, given := (·.slitherResults.isSome)
       read := fun draft cs => do
         let (text, rest) ← Json.readText cs
         .ok ({ draft with slitherResults := some text }, rest) },
     { name := "combinedSourceCode", required := true, given := (·.combinedSourceCode.isSome)
       read := fun draft cs => do
         let (text, rest) ← Json.readText cs
         .ok ({ draft with combinedSourceCode := some text }, rest) }]

/-- The result that a JSON text describes. -/
def parse (text : List Char) : Except Json.Fault AnalysisResult := do
  let draft ← schema.parse {} text
  .ok ⟨draft.slitherResults.getD "", draft.combinedSourceCode.getD ""⟩

/-- The compact JSON text of a result. -/
def text (result : AnalysisResult) : String :=
  result.toValue.text

/-- The indented JSON text of a result. -/
def prettyText (result : AnalysisResult) : String :=
  result.toValue.prettyText

end AnalysisResult

end AuditStage
