import AuditStage.Toml.Item

/-! Reading a TOML text: one line after another, each a key with its value or a table's header. -/

namespace AuditStage.Toml

/-- Reads a value that holds no other value. -/
def readLeaf (cs : List Char) : Option (Item × List Char) :=
  match cs with
  | '"' :: _ | '\x27' :: _ => (readString cs).map fun (text, rest) => (.string text, rest)
  | 't' :: 'r' :: 'u' :: 'e' :: rest => some (.boolean true, rest)
  | 'f' :: 'a' :: 'l' :: 's' :: 'e' :: rest => some (.boolean false, rest)
  | _ => (readScalar cs).map fun (scalar, rest) => (.scalar scalar, rest)

mutual

/-- Reads a value; the fuel bounds the calls and the depth the brackets still allowed. -/
def readValueFrom : Nat → Nat → List Char → Option (Item × List Char)
  | 0, _, _ => none
  | fuel + 1, depth, cs =>
    match cs with
    | '[' :: rest =>
      match depth with
      | 0 => none
      | depth + 1 =>
        (readItemsFrom fuel depth rest).map fun (items, rest) => (.array items, rest)
    | '\x7b' :: rest =>
      match depth with
      | 0 => none
      | depth + 1 =>
        match skipGap rest with
        | '\x7d' :: rest => some (.inline [], rest)
        | rest =>
          (readMembersFrom fuel depth [] rest).map fun (members, rest) => (.inline members, rest)
    | cs => readLeaf cs

/-- Reads the items of a list up to its closing bracket, over as many lines as it takes. -/
def readItemsFrom : Nat → Nat → List Char → Option (List Item × List Char)
  | 0, _, _ => none
  | fuel + 1, depth, cs =>
    match skipLines cs with
    | ']' :: rest => some ([], rest)
    | cs =>
      match readValueFrom fuel depth cs with
      | none => none
      | some (item, rest) =>
        match skipLines rest with
        | ']' :: rest => some ([item], rest)
        | ',' :: rest =>
          (readItemsFrom fuel depth rest).map fun (items, rest) => (item :: items, rest)
        | _ => none

/-- Reads the members of a table between braces, of which at least one follows on the same line. -/
def readMembersFrom : Nat → Nat → Members → List Char → Option (Members × List Char)
  | 0, _, _, _ => none
  | fuel + 1, depth, members, cs =>
    match readKey cs with
    | some (key, '=' :: rest) =>
      match readValueFrom fuel depth (skipGap rest) with
      | none => none
      | some (value, rest) =>
        match insert members key value with
        | none => none
        | some members =>
          match skipGap rest with
          | '\x7d' :: rest => some (members, rest)
          | ',' :: rest => readMembersFrom fuel depth members rest
          | _ => none
    | _ => none

end

/-- Reads a value. -/
def readValue (cs : List Char) : Option (Item × List Char) :=
  -- Every call reads a character or leads to one that does.
  readValueFrom (2 * cs.length + 2) (nestingBound - 1) cs

/-- The document after the header of a table, which may not have one yet. -/
def openTable (root : Members) (key : List String) : Option Members := do
  let name ← key.getLast?
  descend false (fun _ parent =>
    match Members.get? parent name with
    | none => some (parent ++ [(name, .table .header [])])
    | some (.table .implied inner) => some (Members.set parent name (.table .header inner))
    | some _ => none) .header key.dropLast root

/-- The document after a header that adds one more table of the same name. -/
def openRepeated (root : Members) (key : List String) : Option Members := do
  let name ← key.getLast?
  descend false (fun _ parent =>
    match Members.get? parent name with
    | none => some (parent ++ [(name, .repeated [] [])])
    | some (.repeated earlier last) =>
      some (Members.set parent name (.repeated (earlier ++ [.table .header last]) []))
    | some _ => none) .header key.dropLast root

/-- A document while it is being read: its root, and the table that keys are added to. -/
structure Draft where
  root : Members
  current : List String

/-- Reads a header behind its first bracket. -/
def readHeader (draft : Draft) (cs : List Char) : Option (Draft × List Char) := do
  match cs with
  | '[' :: rest =>
    match ← readKey rest with
    | (key, ']' :: ']' :: rest) =>
      let root ← openRepeated draft.root key
      let rest ← readLineRest rest
      some (⟨root, key⟩, rest)
    | _ => none
  | rest =>
    match ← readKey rest with
    | (key, ']' :: rest) =>
      let root ← openTable draft.root key
      let rest ← readLineRest rest
      some (⟨root, key⟩, rest)
    | _ => none

/-- Reads a key with its value. -/
def readEntry (draft : Draft) (cs : List Char) : Option (Draft × List Char) := do
  match ← readKey cs with
  | (key, '=' :: rest) =>
    let (value, rest) ← readValue (skipGap rest)
    let rest ← readLineRest rest
    let root ←
      descend false (fun _ table => insert table key value) .header draft.current draft.root
    some ({ draft with root }, rest)
  | _ => none

/-- Reads line after line; the fuel bounds their count. -/
def readDocumentFrom : Nat → Draft → List Char → Option Members
  | 0, _, _ => none
  | fuel + 1, draft, cs =>
    match skipLines cs with
    | [] => some draft.root
    | '[' :: rest => do
      let (draft, rest) ← readHeader draft rest
      readDocumentFrom fuel draft rest
    | cs => do
      let (draft, rest) ← readEntry draft cs
      readDocumentFrom fuel draft rest

/-- The members that a TOML text describes. -/
def parse (text : String) : Option Members :=
  let cs := text.toList
  -- A byte order mark may stand at the front.
  let cs := if cs.head? = some '\uFEFF' then cs.tail else cs
  readDocumentFrom (cs.length + 1) ⟨[], []⟩ cs

end AuditStage.Toml
