import AuditStage.Decimal.Format
import AuditStage.Text.Quoted

/-! JSON values, with members in the order they are written and repeated names kept. -/

namespace AuditStage.Json

/-- A number: an integer of at most sixty-four bits, or a floating point number. -/
inductive Number where
  | integer (value : Int)
  | float (value : Float)
deriving Repr, BEq

/-- A JSON value as it is written. -/
inductive Value where
  | null
  | bool (value : Bool)
  | number (value : Number)
  | string (value : String)
  | array (items : List Value)
  | object (members : List (String × Value))
deriving Repr, BEq, Inhabited

/-- The text of a number. -/
def Number.text : Number → String
  | .integer value => toString value
  | .float value => Decimal.Style.plain.text value

/-- What a value is called where another kind of value was wanted. -/
def Value.described : Value → String
  | .null => "null"
  | .bool value => "boolean `" ++ (if value then "true" else "false") ++ "`"
  | .number (.integer value) => "integer `" ++ (Number.integer value).text ++ "`"
  | .number (.float value) => "floating point `" ++ (Number.float value).text ++ "`"
  | .string value => "string " ++ Text.quoted value
  | .array _ => "sequence"
  | .object _ => "map"

/-- Members with each name once: it stays where it came first and takes the value it got last. -/
def collapse {α : Type} (members : List (String × α)) : List (String × α) :=
  members.foldl (fun kept member =>
    if kept.any (·.1 == member.1) then
      kept.map fun old => if old.1 == member.1 then member else old
    else kept ++ [member]) []

/-- The value of the first member with a name. -/
def member? {α : Type} (members : List (String × α)) (name : String) : Option α :=
  (members.find? (·.1 == name)).map (·.2)

end AuditStage.Json
