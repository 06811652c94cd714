import AuditStage.Json.Printer
import AuditStage.Json.Record

/-! What a block explorer answers to a request for published source text. -/

namespace AuditStage

/-- One published contract as an explorer lists it. -/
structure SourceEntry where
  sourceCode : String
  compilerVersion : String
  contractName : String
deriving Repr, DecidableEq

/-- What an explorer has to say: the contracts it found, or a note for the reader. -/
inductive Listing where
  | entries (entries : List SourceEntry)
  | note (text : String)
deriving Repr, DecidableEq

/-- An explorer's answer. -/
structure Envelope where
  /-- The digit one marks success. -/
  status : String
  message : String
  result : Listing
deriving Repr, DecidableEq

namespace SourceEntry

/-- An entry of which nothing is known. -/
def blank : SourceEntry :=
  ⟨"", "", ""⟩

/-- A field's text from the members of an object: absent is empty, and it may stand only once. -/
def field? (members : List (String × Json.Value)) (name : String) : Option String :=
  match members.filter (·.1 == name) with
  | [] => some ""
  | [(_, .string text)] => some text
  | _ => none

/-- An entry from a list of texts, of which the last ones may be left out. -/
def ofTexts? : List Json.Value → Option SourceEntry
  | [] => some blank
  | [.string code] => some ⟨code, "", ""⟩
  | [.string code, .string version] => some ⟨code, version, ""⟩
  | [.string code, .string version, .string name] => some ⟨code, version, name⟩
  | _ => none

/-- The entry that a value describes, if it describes one. -/
def ofValue? : Json.Value → Option SourceEntry
  | .object members => do
    let code ← field? members "SourceCode"
    let version ← field? members "CompilerVersion"
    let name ← field? members "ContractName"
    some ⟨code, version, name⟩
  | .array items => ofTexts? items
  | _ => none

/-- The value that describes an entry. -/
def toValue (entry : SourceEntry) : Json.Value :=
  .object
    [("SourceCode", .string entry.sourceCode), ("CompilerVersion", .string entry.compilerVersion),
     ("ContractName", .string entry.contractName)]

end SourceEntry

namespace Listing

/-- The listing that a value describes: a list of entries, or a note. -/
def ofValue? : Json.Value → Option Listing
  | .array items => (items.mapM SourceEntry.ofValue?).map entries
  | .string text => some (.note text)
  | _ => none

/-- The value that describes a listing. -/
def toValue : Listing → Json.Value
  | .entries items => .array (items.map SourceEntry.toValue)
  | .note text => .string text

end Listing

namespace Envelope

/-- An answer that reports success with one contract. -/
def success (entry : SourceEntry) : Envelope :=
  ⟨"1", "OK", .entries [entry]⟩

/-- Whether an answer reports success. -/
def isSuccess (envelope : Envelope) : Bool :=
  envelope.status == "1"

/-- The value that describes an answer. -/
def toValue (envelope : Envelope) : Json.Value :=
  .object
    [("status", .string envelope.status), ("message", .string envelope.message),
     ("result", envelope.result.toValue)]

/-- An answer while it is being read. -/
structure Draft where
  status : Option String := none
  message : Option String := none
  result : Option Listing := none

/-- Reads a listing, which is first read as a value of any kind. -/
def readListing (cs : List Char) : Except Json.Fault (Listing × List Char) := do
  -- The bracket of the answer around it is open already.
  let (value, rest) ← Json.readValue (Json.nestingLimit - 1) cs
  match Listing.ofValue? value with
  | some listing => .ok (listing, rest)
  | none => .error (.ofRecord (.noAlternative "ExplorerResult") rest)

/-- The fields of an answer. -/
def schema : Json.Schema Draft where
  name := "ExplorerResponse"
  fields :=
    [{ name := "status", required := true, given := (·.status.isSome)
       read := fun draft cs => do
         let (text, rest) ← Json.readText cs
         .ok ({ draft with status := some text }, rest) },
     { name := "message", required := false, given := (·.message.isSome)
       read := fun draft cs => do
         let (text, rest) ← Json.readText cs
         .ok ({ draft with message := some text }, rest) },
     { name := "result", required := true, given := (·.result.isSome)
       read := fun draft cs => do
         let (listing, rest) ← readListing cs
         .ok ({ draft with result := some listing }, rest) }]

/-- The answer that a JSON text describes. -/
def parse (text : List Char) : Except Json.Fault Envelope := do
  let draft ← schema.parse {} text
  -- Reading has made sure of the required fields, so their defaults are never taken.
  .ok ⟨draft.status.getD "", draft.message.getD "", draft.result.getD (.note "")⟩

end Envelope

end AuditStage
