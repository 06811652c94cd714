import AuditStage.Settings

/-! The words of a command line, and the request that they spell. -/

namespace AuditStage

/-- Why the words of a command line are no request. -/
inductive UsageFault where
  | helpAsked
  | versionAsked
  | nothingGiven
  | unknownCommand
  | unknownArgument
  | valueRefused
  | valueNotTaken
  | givenTwice
  | addressMissing
deriving Repr, DecidableEq

/-- The exit code for words that are no request: help and the version are answers, not errors. -/
def UsageFault.exitCode : UsageFault → Nat
  | .helpAsked | .versionAsked => 0
  | _ => 2

/-- An option that takes a value. -/
inductive Flag where
  | config
  | apiKey
  | stagingDir
  | dependencyDir
  | analyzer
  | manager
  | format
  | output
deriving Repr, DecidableEq

namespace Flag

/-- The long name of an option. -/
def longName : Flag → String
  | .config => "config"
  | .apiKey => "api-key"
  | .stagingDir => "staging-dir"
  | .dependencyDir => "dependency-dir"
  | .analyzer => "analyzer"
  | .manager => "toolchain-manager"
  | .format => "format"
  | .output => "output"

/-- The letter of an option, if it has one. -/
def letter? : Flag → Option Char
  | .config => some 'c'
  | .format => some 'f'
  | .output => some 'o'
  | _ => none

/-- Whether an option's value is a path, which is never empty. -/
def isPath : Flag → Bool
  | .config | .stagingDir | .dependencyDir | .output => true
  | _ => false

/-- The options of every command that asks the explorer. -/
def shared : List Flag :=
  [.config, .apiKey, .stagingDir, .dependencyDir, .analyzer, .manager]

end Flag

/-- The settings that a command line gives. -/
structure SharedArgs where
  config : Option String
  overrides : Overrides
deriving Repr, DecidableEq

/-- What a command line asks for. -/
inductive Invocation where
  | analyze (address format : String) (output : Option String) (shared : SharedArgs)
  | stage (address : String) (shared : SharedArgs)
  | version
deriving Repr, DecidableEq

/-- The words of a command as far as they have been read. -/
structure Words where
  address : Option String
  values : List (Flag × String)
  /-- The option that was named last, and its value once that has been read. -/
  pending : Option (Flag × Option String)

namespace Words

/-- No words. -/
def empty : Words :=
  ⟨none, [], none⟩

/-- The value of an option. -/
def value? (words : Words) (flag : Flag) : Option String :=
  (words.values.find? (·.1 == flag)).map (·.2)

/-- The words with the last option's value checked and taken. -/
def settle (words : Words) : Except UsageFault Words :=
  match words.pending with
  | none => .ok words
  | some (_, none) => .error .valueRefused
  | some (flag, some value) =>
    if (words.value? flag).isSome then .error .givenTwice
    else if flag.isPath && value.toList.isEmpty then .error .valueRefused
    else .ok { words with values := words.values ++ [(flag, value)], pending := none }

/-- The words with one more option, whose value may stand in the same word. -/
def name (words : Words) (flag : Flag) (attached : Option String) : Except UsageFault Words := do
  let words ← words.settle
  let words := { words with pending := some (flag, attached) }
  -- A value of its own word is checked only when the next option or address is read.
  if attached.isSome then words.settle else .ok words

/-- The end of reading at a request for help or for the version. -/
def stop (words : Words) (fault : UsageFault) : Except UsageFault Words := do
  let _ ← words.settle
  .error fault

/-- The words with an address, of which a command takes one or none. -/
def addAddress (takesAddress : Bool) (words : Words) (word : String) : Except UsageFault Words :=
  if !takesAddress || words.address.isSome then .error .unknownArgument
  else do
    let words ← words.settle
    .ok { words with address := some word }

/-- Reads an option by its long name, behind the two dashes. -/
def readLong (flags : List Flag) (words : Words) (body : List Char) : Except UsageFault Words :=
  let (name, attached) :=
    match Text.splitFirst '=' body with
    | some (name, value) => (String.ofList name, some (String.ofList value))
    | none => (String.ofList body, none)
  if name = "help" then if attached.isSome then .error .valueNotTaken else words.stop .helpAsked
  else if name = "version" then
    if attached.isSome then .error .valueNotTaken else words.stop .versionAsked
  else
    match flags.find? (·.longName == name) with
    | some flag => words.name flag attached
    | none => .error .unknownArgument

/-- Reads an option by its letter; what stands behind the letter is the value. -/
def readShort (flags : List Flag) (words : Words) (letter : Char) (body : List Char) :
    Except UsageFault Words :=
  if letter = 'h' then words.stop .helpAsked
  else if letter = 'V' then words.stop .versionAsked
  else
    match flags.find? (·.letter? == some letter) with
    | none => .error .unknownArgument
    | some flag =>
      match body with
      | [] => words.name flag none
      | '=' :: value => words.name flag (some (String.ofList value))
      | value => words.name flag (some (String.ofList value))

/-- Reads a word that is no option: a value if one is awaited, else an address. -/
def readPlain (takesAddress : Bool) (words : Words) (word : String) : Except UsageFault Words :=
  match words.pending with
  | some (flag, none) => .ok { words with pending := some (flag, some word) }
  | _ => words.addAddress takesAddress word

/-- Reads the words of a command; two dashes alone make all words behind them plain. -/
def read (flags : List Flag) (takesAddress : Bool) : Words → List String → Except UsageFault Words
  | words, [] => words.settle
  | words, word :: rest =>
    match word.toList with
    | ['-', '-'] => do
      let words ← rest.foldlM (addAddress takesAddress) words
      words.settle
    | '-' :: '-' :: body => do
      let words ← words.readLong flags body
      read flags takesAddress words rest
    | '-' :: letter :: body => do
      let words ← words.readShort flags letter body
      read flags takesAddress words rest
    | _ => do
      let words ← words.readPlain takesAddress word
      read flags takesAddress words rest

/-- The settings among the words; the key may also come from the environment. -/
def sharedArgs (words : Words) (environmentKey : Option String) : SharedArgs :=
  ⟨words.value? .config,
    ⟨(words.value? .apiKey).or environmentKey, words.value? .stagingDir,
      words.value? .dependencyDir, words.value? .analyzer, words.value? .manager⟩⟩

/-- The address among the words. -/
def requireAddress (words : Words) : Except UsageFault String :=
  match words.address with
  | some address => .ok address
  | none => .error .addressMissing

end Words

namespace Invocation

/-- The commands that can be asked for. -/
def commandNames : List String :=
  ["analyze", "stage", "version", "help"]

/-- How a report is written when no form is asked for. -/
def defaultFormat : String :=
  "terminal"

/-- Reads the words of the named command. -/
def ofCommand (environmentKey : Option String) (command : String) (rest : List String) :
    Except UsageFault Invocation := do
  match command with
  | "analyze" =>
    let words ← Words.read (Flag.shared ++ [.format, .output]) true .empty rest
    let address ← words.requireAddress
    .ok (.analyze address ((words.value? .format).getD defaultFormat) (words.value? .output)
      (words.sharedArgs environmentKey))
  | "stage" =>
    let words ← Words.read Flag.shared true .empty rest
    let address ← words.requireAddress
    .ok (.stage address (words.sharedArgs environmentKey))
  | "version" =>
    let _ ← Words.read [] false .empty rest
    .ok .version
  | _ =>
    -- Help can be asked for one command at most.
    match rest with
    | [] => .error .helpAsked
    | [topic] => .error (if commandNames.contains topic then .helpAsked else .unknownCommand)
    | _ => .error .unknownCommand

/-- What the words of a command line ask for. -/
def parse (environmentKey : Option String) (args : List String) : Except UsageFault Invocation :=
  match args with
  | [] => .error .nothingGiven
  | word :: rest =>
    if commandNames.contains word then ofCommand environmentKey word rest
    else
      match word.toList with
      | ['-', '-'] =>
        match rest with
        | [] => .error .nothingGiven
        -- No command is looked for behind two dashes.
        | word :: _ =>
          .error (if commandNames.contains word then .unknownArgument else .unknownCommand)
      | '-' :: '-' :: body => (Words.empty.readLong [] body).bind fun _ => .error .nothingGiven
      | '-' :: letter :: body =>
        (Words.empty.readShort [] letter body).bind fun _ => .error .nothingGiven
      | _ => .error .unknownCommand

end Invocation

end AuditStage
