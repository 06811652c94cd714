import AuditStage.Json.Decode
import AuditStage.Session.Basic

/-! A scene: everything that a session is going to find, written down as JSON beforehand. -/

namespace AuditStage

/-- What a session starts from. -/
structure Scene where
  setting : Setting
  world : World

namespace Scene

/-- The members of an object; other values have none. -/
def membersOf : Json.Value → List (String × Json.Value)
  | .object members => Json.collapse members
  | _ => []

/-- The items of a list; other values have none. -/
def itemsOf : Json.Value → List Json.Value
  | .array items => items
  | _ => []

/-- The value of a member; a missing one is null. -/
def member (value : Json.Value) (name : String) : Json.Value :=
  (Json.member? (membersOf value) name).getD .null

/-- The text of a member, if it has one. -/
def text? (value : Json.Value) (name : String) : Option String :=
  (member value name).toText.toOption

/-- The text of a member; a missing one is empty. -/
def text (value : Json.Value) (name : String) : String :=
  (text? value name).getD ""

/-- The whole number that a member holds, if it holds one. -/
def integer? (value : Json.Value) (name : String) : Option Int :=
  match member value name with
  | .number (.integer n) => some n
  | _ => none

/-- The number that a member holds; a missing one is zero. -/
def natural (value : Json.Value) (name : String) : Nat :=
  ((integer? value name).getD 0).toNat

/-- The reply of a command: why it could not be run, or its exit code and its texts. -/
def toolReply (value : Json.Value) : ToolReply :=
  match integer? value "os_error" with
  | some number => .error (.numbered number)
  | none =>
    let code := (integer? value "code").getD 0
    .ok ⟨code == 0, some code, text value "stdout", text value "stderr"⟩

/-- The commands' replies and the programs that there are. -/
def toolsOf (value : Json.Value) : Tools :=
  ⟨(itemsOf (member value "tools")).map toolReply,
    (member value "programs").toTexts.toOption⟩

/-- The explorer's replies; the settings tell where it is. Secure connections can be made unless the
scene says otherwise. -/
def explorerOf (value : Json.Value) : Explorer :=
  let replies := (itemsOf (member value "replies")).map fun reply =>
    ⟨natural reply "status", text reply "body", (text? reply "location").bind Url.parse⟩
  .http ⟨"", ""⟩ ⟨member value "secure" != .bool false, replies⟩

/-- The directory that a session runs in. -/
def home : Location :=
  ["work"]

/-- A disk with the given files, as far as they can be written. -/
def diskOf (value : Json.Value) : Disk :=
  (membersOf (member value "files")).foldl (fun disk (path, content) =>
    match content.toText with
    | .error _ => disk
    | .ok content =>
      match Disk.writeFile path content disk with
      | .ok _ disk | .error _ disk => disk) (.atHome home)

/-- The scene that a JSON value describes. -/
def ofValue (value : Json.Value) : Scene :=
  let setting : Setting :=
    ⟨member value "color" == .bool true, text? value "key", natural value "now"⟩
  ⟨setting, .fresh (diskOf value) (explorerOf value) (toolsOf value)⟩

/-- The scene that a text describes, or what is wrong with the text; no text is an empty scene. -/
def parse (text : String) : Except String Scene :=
  let cs := text.toList
  if Text.isAllBlank text then .ok (ofValue .null)
  else
    match Json.parse cs with
    | .ok value => .ok (ofValue value)
    | .error fault => .error (fault.message cs)

/-- How a session ends that starts from the scene. -/
def play (scene : Scene) (args : List String) : Ending :=
  Session.ofArgs scene.setting scene.world args

end Scene

end AuditStage
