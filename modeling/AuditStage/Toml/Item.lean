import AuditStage.Toml.Number

/-! What a TOML text describes: values, and the tables that keys and headers build up. -/

namespace AuditStage.Toml

/-- How a table came to be. -/
inductive Origin where
  /-- By a header of its own. -/
  | header
  /-- By a header of a table inside it. -/
  | implied
  /-- By a key with dots. -/
  | dotted
deriving Repr, DecidableEq

/-- A value or a table. -/
inductive Item where
  | string (text : String)
  | boolean (value : Bool)
  | scalar (scalar : Scalar)
  | array (items : List Item)
  /-- A table written between braces, to which nothing can be added. -/
  | inline (members : List (String × Item))
  | table (origin : Origin) (members : List (String × Item))
  /-- The tables of a repeated header, the last one first. -/
  | repeated (earlier : List Item) (last : List (String × Item))
deriving Repr

/-- Named items, in the order in which they are written. -/
abbrev Members := List (String × Item)

/-- The item of a name. -/
def Members.get? (members : Members) (name : String) : Option Item :=
  (members.find? (·.1 == name)).map (·.2)

/-- The members with an item of a name put in place of the one that is there. -/
def Members.set (members : Members) (name : String) (item : Item) : Members :=
  if members.any (·.1 == name) then
    members.map fun member => if member.1 == name then (name, item) else member
  else members ++ [(name, item)]

/-- Changes the table that a path of names leads to, making those on the way that are missing. -/
def descend (byKey : Bool) (change : Origin → Members → Option Members) (origin : Origin) :
    List String → Members → Option Members
  | [], members => change origin members
  | name :: path, members =>
    let made := if byKey then Origin.dotted else Origin.implied
    match members.get? name with
    | none => do
      let inner ← descend byKey change made path []
      some (members.set name (.table made inner))
    | some (.table origin inner) =>
      -- A key with dots does not reach into a table that has a header of its own.
      if byKey && origin = .header then none
      else do
        let inner ← descend byKey change origin path inner
        some (members.set name (.table origin inner))
    | some (.repeated earlier last) => do
      let last ← descend byKey change .header path last
      some (members.set name (.repeated earlier last))
    | some _ => none

/-- Adds a value under a key; a key cannot be given twice. -/
def insert (members : Members) (key : List String) (value : Item) : Option Members :=
  match key.getLast? with
  | none => none
  | some name =>
    let path := key.dropLast
    descend true (fun origin inner =>
      -- A key with dots adds only to tables that such keys have made.
      if !path.isEmpty && origin ≠ .dotted then none
      else if (Members.get? inner name).isSome then none
      else some (inner ++ [(name, value)])) .header path members

end AuditStage.Toml
