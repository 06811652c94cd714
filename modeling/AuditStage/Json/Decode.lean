import AuditStage.Json.Fault

/-! Taking a JSON value apart into what a record needs. -/

namespace AuditStage.Json

/-- A value that has to be a string. -/
def Value.toText : Value → Except Cause String
  | .string text => .ok text
  | value => .error (.wrongType value "a string")

/-- Values that all have to be strings. -/
def textsOf : List Value → Except Cause (List String)
  | [] => .ok []
  | item :: items =>
    match item.toText with
    | .error cause => .error cause
    | .ok text => (textsOf items).map (text :: ·)

/-- A value that has to be a list of strings. -/
def Value.toTexts : Value → Except Cause (List String)
  | .array items => textsOf items
  | value => .error (.wrongType value "a sequence")

/-- A record with one field, written as an object or as a list with one item. -/
def Value.toSingle {α : Type} (struct field : String) (read : Value → Except Cause α)
    (absent : Bool → Except Cause α) : Value → Except Cause α
  | .object members =>
    match member? (collapse members) field with
    | some value => read value
    | none => absent false
  | .array [] => absent true
  | .array (item :: more) =>
    match read item with
    | .error cause => .error cause
    -- Items that no field takes are refused once the fields have been read.
    | .ok content =>
      if more.isEmpty then .ok content
      else .error (.wrongLength (more.length + 1) "fewer elements in array")
  | value => .error (.wrongType value (structName struct))

end AuditStage.Json
