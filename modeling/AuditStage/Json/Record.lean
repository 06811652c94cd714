import AuditStage.Json.Reader
import AuditStage.Json.Skip

/-! Reading a record of known fields, written as an object or as a list of its fields in order. -/

namespace AuditStage.Json

/-- A field of a record that is being filled in. -/
structure Field (σ : Type) where
  name : String
  /-- Whether a record without the field is refused. -/
  required : Bool
  /-- Whether the field has been read. -/
  given : σ → Bool
  /-- Reads the field's value and fills it in. -/
  read : σ → List Char → Except Fault (σ × List Char)

/-- A record: its name and its fields, in the order in which a list gives them. -/
structure Schema (σ : Type) where
  name : String
  fields : List (Field σ)

/-- The refusal of a value of the wrong kind, after a scalar or before a bracket. -/
def mistyped (wanted : String) (c : Char) (cs : List Char) : Fault :=
  if c = '[' then .here (.wrongType (.array []) wanted) (c :: cs)
  else if c = '\x7b' then .here (.wrongType (.object []) wanted) (c :: cs)
  else
    match readScalar c cs with
    | .error fault => fault
    | .ok (found, rest) => .here (.wrongType found wanted) rest

/-- Reads a value that has to be a string. -/
def readText (cs : List Char) : Except Fault (String × List Char) :=
  match skipGap cs with
  | [] => .error (.here .endInValue [])
  | c :: rest => if c = '"' then readString rest else .error (mistyped "a string" c rest)

/-- The text after an object's closing bracket, if only blanks stand before it. -/
def closeObject (cs : List Char) : List Char :=
  match skipGap cs with
  | '\x7d' :: rest => rest
  | rest => rest

/-- The text after a list's closing bracket or next comma, if only blanks stand before it. -/
def closeList (cs : List Char) : List Char :=
  match skipGap cs with
  | ']' :: rest => rest
  | ',' :: rest => skipGap rest
  | rest => rest

/-- A refusal of the record itself is reported after the bracket that ends it. -/
def Fault.settle (close : List Char → List Char) (fault : Fault) : Fault :=
  if fault.whole then .here fault.cause (close fault.rest) else fault

variable {σ : Type}

/-- The first field that was required and not read, if there is one. -/
def Schema.missing? (schema : Schema σ) (filled : σ) : Option (Field σ) :=
  schema.fields.find? fun field => field.required && !field.given filled

/-- Reads the members of a record up to the closing bracket, which is not read. -/
def Schema.readMembersFrom (schema : Schema σ) :
    Nat → Bool → σ → List Char → Except Fault (σ × List Char)
  | 0, _, _, _ => .error (.here .endInObject [])
  | fuel + 1, first, filled, cs => do
    match ← enterMember first cs with
    | (false, rest) => .ok (filled, rest)
    | (true, rest) =>
      let (name, rest) ← readString rest
      match schema.fields.find? (·.name == name) with
      | none =>
        -- Members of other names are passed over.
        let rest ← readColon rest
        let rest ← passValue rest
        readMembersFrom schema fuel false filled rest
      | some field =>
        if field.given filled then .error (.ofRecord (.repeatedField name) rest)
        else
          let rest ← readColon rest
          let (filled, rest) ← field.read filled rest
          readMembersFrom schema fuel false filled rest

/-- Reads a record written as an object, after its opening bracket. -/
def Schema.readObject (schema : Schema σ) (empty : σ) (cs : List Char) :
    Except Fault (σ × List Char) := do
  let (filled, rest) ← schema.readMembersFrom (cs.length + 1) true empty cs
  match schema.missing? filled with
  | some field => .error (.ofRecord (.missingField field.name) rest)
  | none => .ok (filled, rest.tail)

/-- Reads the items of a record written as a list, after its opening bracket. -/
def Schema.readItems (schema : Schema σ) :
    Nat → List (Field σ) → σ → List Char → Except Fault (σ × List Char)
  | _, [], filled, cs => .ok (filled, cs)
  | index, field :: fields, filled, cs => do
    match ← enterItem (index == 0) cs with
    | (true, rest) =>
      let (filled, rest) ← field.read filled rest
      readItems schema (index + 1) fields filled rest
    | (false, rest) =>
      if field.required then
        let wanted := structOf schema.name schema.fields.length
        .error (.ofRecord (.wrongLength index wanted) rest)
      else readItems schema (index + 1) fields filled rest

/-- Reads the end of a record written as a list. -/
def readListEnd (cs : List Char) : Except Fault (List Char) :=
  match skipGap cs with
  | [] => .error (.here .endInList [])
  | ']' :: rest => .ok rest
  | ',' :: rest =>
    match skipGap rest with
    | ']' :: rest => .error (.next .trailingComma (']' :: rest))
    | rest => .error (.next .trailingText rest)
  | rest => .error (.next .trailingText rest)

/-- Reads a record in either form. -/
def Schema.read (schema : Schema σ) (empty : σ) (cs : List Char) : Except Fault (σ × List Char) :=
  match skipGap cs with
  | [] => .error (.here .endInValue [])
  | c :: rest =>
    if c = '\x7b' then (schema.readObject empty rest).mapError (Fault.settle closeObject)
    else if c = '[' then
      (do
        let (filled, rest) ← schema.readItems 0 schema.fields empty rest
        let rest ← readListEnd rest
        .ok (filled, rest)).mapError (Fault.settle closeList)
    else .error (mistyped (structName schema.name) c rest)

/-- Reads a text that holds one record and nothing else. -/
def Schema.parse (schema : Schema σ) (empty : σ) (text : List Char) : Except Fault σ := do
  let (filled, rest) ← schema.read empty text
  readEnd rest
  .ok filled

end AuditStage.Json
