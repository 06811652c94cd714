import AuditStage.Proofs.Json.Printed
import AuditStage.Proofs.Json.Record
import AuditStage.Report.Result

/-! The JSON text of a result: it is an object of two members, and is read back as the result. -/

namespace AuditStage.AnalysisResult

open Json (Value Writes nestingLimit)

/-- The members that describe a result. -/
def members (result : AnalysisResult) : List (String × Value) :=
  [("slitherResults", .string result.slitherResults),
    ("combinedSourceCode", .string result.combinedSourceCode)]

/-- What is printed for a result writes an object of its members. -/
theorem writes_prettyText (result : AnalysisResult) :
    Writes nestingLimit (.object result.members) result.prettyText.toList := by
  have writable : Json.Writable nestingLimit (.object result.members) :=
    .object (by simp [members])
  rw [prettyText, Json.Value.prettyText, String.toList_ofList]
  exact Json.writes_pretty writable 0

/-- The members of a result fill in both of its fields. -/
theorem fills_members (result : AnalysisResult) :
    schema.Fills {} result.members ⟨some result.slitherResults, some result.combinedSourceCode⟩ := by
  -- Each member has the name of the next field, which no member before it has filled in.
  refine .cons rfl rfl
    (Json.Field.takes_text (fun text => Draft.mk (some text) none) _ fun cs => rfl) ?_
  refine .cons rfl rfl
    (Json.Field.takes_text (fun text => Draft.mk (some result.slitherResults) (some text)) _
      fun cs => rfl) ?_
  exact .nil

/-- The indented text of a result is an object of exactly two members, the findings and the source text,
and it is read as that result, whatever characters the two texts hold. -/
theorem prettyText_roundTrip (result : AnalysisResult) :
    parse result.prettyText.toList = .ok result ∧
      Json.parse result.prettyText.toList = .ok (.object
        [("slitherResults", .string result.slitherResults),
          ("combinedSourceCode", .string result.combinedSourceCode)]) := by
  have writes := writes_prettyText result
  constructor
  · -- Both fields are given, so that none is missing and no default is taken.
    have drafted := Json.Schema.parse_of_writes (fills_members result) rfl Json.isGap_nil
      Json.isGap_nil writes
    rw [List.nil_append, List.append_nil] at drafted
    simp only [parse, drafted, bind, Except.bind, Option.getD_some]
  · have valued := Json.parse_of_writes Json.isGap_nil Json.isGap_nil writes
    rwa [List.nil_append, List.append_nil] at valued

/-- Quotes, line feeds and control characters are read back. -/
example : parse (AnalysisResult.mk "a \"b\"\n" "\x07\\").prettyText.toList =
    .ok ⟨"a \"b\"\n", "\x07\\"⟩ := by
  cbv

end AuditStage.AnalysisResult
