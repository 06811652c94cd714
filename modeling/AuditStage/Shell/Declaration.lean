import AuditStage.Shell.Parse
import AuditStage.Shell.State

/-! The commands that set the variables, arguments and options of a shell, or read lines. -/

namespace AuditStage.Shell

/-- The rest of a text behind a single quote, or behind a double one that holds single quotes. -/
def quotedFrom : Bool → List Char → String
  | true, [] => "\x27"
  | false, [] => "\""
  | true, c :: cs =>
    if c = '\x27' then "\x27\"\x27" ++ quotedFrom false cs
    else String.singleton c ++ quotedFrom true cs
  | false, c :: cs =>
    if c = '\x27' then "\x27" ++ quotedFrom false cs
    else "\"\x27" ++ String.singleton c ++ quotedFrom true cs

/-- A text between quotes, from which a shell would read it back. -/
def quotedWord (text : String) : String :=
  "\x27" ++ quotedFrom true text.toList

/-- Reads the options of a command, each with the text that belongs to it, and the words behind
them; the fuel bounds the words. -/
def optionsFrom (taking plain : List Char) : Nat → List String →
    Except String (List (Char × String) × List String)
  | 0, words => .ok ([], words)
  | _ + 1, [] => .ok ([], [])
  | fuel + 1, word :: words =>
    match word.toList with
    | ['-', '-'] => .ok ([], words)
    | '-' :: letter :: letters =>
      if taking.contains letter then
        match letters, words with
        | [], [] => .error ("No arg for -" ++ String.singleton letter ++ " option")
        | [], text :: words => do
          let (options, rest) ← optionsFrom taking plain fuel words
          return ((letter, text) :: options, rest)
        | letters, words => do
          let (options, rest) ← optionsFrom taking plain fuel words
          return ((letter, String.ofList letters) :: options, rest)
      else if plain.contains letter then do
        let words := if letters = [] then words else String.ofList ('-' :: letters) :: words
        let (options, rest) ← optionsFrom taking plain fuel words
        return ((letter, "") :: options, rest)
      else .error ("Illegal option -" ++ String.singleton letter)
    | _ => .ok ([], word :: words)

namespace Act

/-- The options of a command and the words behind them. -/
def options (taking plain : String) (words : List String) :
    Act (List (Char × String) × List String) := do
  let fuel := words.foldl (fun n word => n + word.length + 1) 1
  match optionsFrom taking.toList plain.toList fuel words with
  | .ok found => return found
  | .error fault => abort fault

/-- The number without a sign that a word spells. -/
def count (word : String) : Act Nat := do
  match count? word with
  | some n => return n
  | none => abort ("Illegal number: " ++ word)

/-- Refuses a text that is no name. -/
def checkName (name : String) : Act Unit :=
  unless isName name do abort (name ++ ": bad variable name")

end Act

/-- A word's name and value, if it sets a variable. -/
def splitSetting (word : String) : String × Option String :=
  match Text.splitFirst '=' word.toList with
  | some (name, value) => (String.ofList name, some (String.ofList value))
  | none => (word, none)

/-- The variables in order. -/
def State.sortedSettings (state : State) : List (String × Variable) :=
  state.settings.mergeSort fun a b => decide (a.1 ≤ b.1)

/-- A variable as a setting that a shell would read back. -/
def settingText (name : String) (variable_ : Variable) : String :=
  name ++ (variable_.value.map fun value => "=" ++ quotedWord value).getD ""

/-- Runs a command that gives variables a mark, and maybe values. -/
def runMark (command : String) (marked : Variable → Bool) (mark : Variable → Variable)
    (words : List String) : Act Unit := do
  let (options, words) ← Act.options "" "p" words
  if options ≠ [] || words = [] then
    let lines := ((← get).sortedSettings.filter fun (_, variable_) => marked variable_).map
      fun (name, variable_) => command ++ " " ++ settingText name variable_ ++ "\n"
    Act.print (String.join lines)
  else
    for word in words do
      let (name, value) := splitSetting word
      Act.checkName name
      if let some value := value then Act.assign name value
      let old := ((← get).settings.lookup name).getD ⟨none, false, false⟩
      modify (·.withVariable name (some (mark old)))
    Act.finish 0

/-- Runs the command that forgets variables or functions. -/
def runUnset (words : List String) : Act Unit := do
  let (options, words) ← Act.options "" "vf" words
  let ofFunctions := (options.getLast?.map Prod.fst) = some 'f'
  for word in words do
    if ofFunctions then
      modify fun state => { state with functions := state.functions.filter (·.1 != word) }
    else
      Act.checkName word
      if ((← get).settings.lookup word).any Variable.readOnly then
        Act.abort (word ++ ": is read only")
      modify (·.withVariable word none)
  Act.finish 0

/-- Runs the command that makes variables belong to the function that runs. -/
def runLocal (words : List String) : Act Unit := do
  for word in words do
    let (name, value) := splitSetting word
    match (← get).hidden with
    | [] => Act.abort "not in a function"
    | frame :: frames =>
      unless name = "-" do
        Act.checkName name
        let old := (← get).settings.lookup name
        -- What the variable was is remembered once.
        unless frame.any (·.1 == name) do
          modify ({ · with hidden := ((name, old) :: frame) :: frames })
        if let some value := value then Act.assign name value
  if (← get).hidden.isEmpty then Act.abort "not in a function"
  Act.finish 0

/-- Gives a shell new arguments. -/
def setArguments (arguments : List String) : Act Unit :=
  modify ({ · with arguments, place := 1, letter := 0 })

/-- Runs the command that drops arguments. -/
def runShift (words : List String) : Act Unit := do
  let count ←
    match words with
    | [] => pure 1
    | word :: _ => Act.count word
  let arguments := (← get).arguments
  if arguments.length < count then Act.abort "can\x27t shift that many"
  else
    setArguments (arguments.drop count)
    Act.finish 0

/-- The options of a shell, by letter and name; those without a letter do nothing. -/
def shellOptions : List (Char × String) :=
  [('e', "errexit"), ('f', "noglob"), ('I', "ignoreeof"), ('i', "interactive"), ('m', "monitor"),
   ('n', "noexec"), ('s', "stdin"), ('x', "xtrace"), ('v', "verbose"), ('V', "vi"), ('E', "emacs"),
   ('C', "noclobber"), ('a', "allexport"), ('b', "notify"), ('u', "nounset"), ('p', "privileged"),
   ('\x01', "nolog"), ('\x02', "debug")]

/-- The letters of the options that are on. -/
def State.optionLetters (state : State) : String :=
  let letters := (shellOptions.map Prod.fst).reverse
  String.ofList (letters.filter fun letter => ' ' < letter && state.isOn letter)

/-- Turns an option on or off. -/
def setOption (on : Bool) (letter : Char) : Act Unit :=
  modify fun state =>
    let others := state.options.filter (· != letter)
    { state with options := if on then letter :: others else others }

/-- Turns the option of a letter on or off. -/
def setLetter (on : Bool) (letter : Char) : Act Unit :=
  if ' ' < letter && shellOptions.any (·.1 == letter) then setOption on letter
  else Act.abort ("Illegal option -" ++ String.singleton letter)

/-- Turns the option of a name on or off. -/
def setNamed (on : Bool) (name : String) : Act Unit :=
  match shellOptions.find? (·.2 == name) with
  | some (letter, _) => setOption on letter
  | none => Act.abort ("Illegal option -o " ++ name)

/-- Shows which options are on, in one of two forms. -/
def showOptions (readable : Bool) : Act Unit := do
  let state ← get
  let line := fun ((letter, name) : Char × String) =>
    let on := state.isOn letter
    if readable then
      name ++ Text.repeated (16 - name.length) " " ++ (if on then "on" else "off") ++ "\n"
    else "set " ++ (if on then "-o " else "+o ") ++ name ++ "\n"
  let head := if readable then "Current option settings\n" else ""
  Act.print (head ++ String.join (shellOptions.map line))

/-- Turns on or off the options of a group of letters; the words behind it may name some. -/
def setGroup (on : Bool) : List Char → List String → Act (List String)
  | [], words => return words
  | 'o' :: letters, words => do
    match words with
    | [] => showOptions on
    | name :: _ => setNamed on name
    setGroup on letters (words.drop 1)
  | letter :: letters, words => do
    setLetter on letter
    setGroup on letters words

/-- Runs the command that sets options and arguments; the fuel bounds the words. -/
def setFrom : Nat → List String → Act Unit
  | 0, _ => return
  | _ + 1, [] => return
  | fuel + 1, word :: words => do
    match word.toList with
    | ['-'] =>
      setOption false 'x'
      setOption false 'v'
      unless words.isEmpty do setArguments words
    | ['-', '-'] => setArguments words
    | '-' :: letters => setFrom fuel (← setGroup true letters words)
    | '+' :: letters => setFrom fuel (← setGroup false letters words)
    | _ => setArguments (word :: words)

/-- Runs the command that sets options and arguments, or shows all variables. -/
def runSet (words : List String) : Act Unit := do
  if words = [] then
    let lines := ((← get).sortedSettings.filter fun (_, variable_) => variable_.value.isSome).map
      fun (name, variable_) => settingText name variable_ ++ "\n"
    Act.print (String.join lines)
  else
    Act.finish 0
    setFrom (words.length + 1) words

/-- A line of the input in pieces that backslashes part, each with the character behind its
backslash unless that is a line end, and what is left of the input unless it ends there; the fuel
bounds the length. -/
def inputLine (plain : Bool) :
    Nat → List Char → List (List Char × Option Char) × Option (List Char)
  | 0, cs => ([], some cs)
  | fuel + 1, cs =>
    let isPlain := fun (c : Char) => c != '\n' && (plain || c != '\\')
    let piece := cs.takeWhile isPlain
    let follow := fun (kept : Option Char) (rest : List Char) =>
      let (pieces, rest) := inputLine plain fuel rest
      ((piece, kept) :: pieces, rest)
    match cs.dropWhile isPlain with
    | [] => ([(piece, none)], none)
    | '\n' :: rest => ([(piece, none)], some rest)
    | _ :: [] => ([(piece, none)], none)
    | _ :: '\n' :: rest => follow none rest
    | _ :: c :: rest => follow (some c) rest

/-- Runs the command that reads a line of the input into variables. -/
def runRead (words : List String) : Act Unit := do
  let (options, names) ← Act.options "p" "r" words
  if names = [] then Act.abort "arg count"
  let plain := options.any (·.1 == 'r')
  let input := ((← Act.readAll 0).getD []).filter (· != '\x00')
  let (line, rest) := inputLine plain (input.length + 1) input
  Act.unread 0 (rest.getD [])
  let values := shares (← get).dividers names.length line
  for (name, value) in names.zip values do
    Act.checkName name
    Act.assign name value
  Act.finishWith rest.isSome

/-- What the letter of an option means to a list of letters: nothing, or whether a text follows. -/
def optionKind (letter : Char) : List Char → Option Bool
  | [] => none
  | c :: rest =>
    let takes := rest.head? == some ':'
    if c = letter then some takes
    else
      match rest with
      | ':' :: rest => optionKind letter rest
      | rest => optionKind letter rest

/-- What the reading of one option has come to. -/
structure OptionStep where
  /-- The letter, or a sign that something is wrong. -/
  shown : Char
  text : Option String
  complaint : Option String
  place : Nat
  letter : Nat
  finished : Bool

/-- Reads one option from arguments at a place among them. -/
def readOption (letters : String) (arguments : List String) (place offset : Nat) : OptionStep :=
  let place := if arguments.length + 1 < place then 1 else place
  let silent := letters.startsWith ":"
  let current := if place ≤ 1 then [] else (arguments[place - 2]?.getD "").toList
  -- The argument may be another than the one that the letters before were in.
  let inside := if offset = 0 then [] else current.drop offset
  -- The letters to read, the place behind them, and how many came before them.
  let start : Option (List Char × Nat × Nat) :=
    if inside ≠ [] then some (inside, place, offset)
    else
      match (arguments[place - 1]?.getD "").toList with
      | '-' :: c :: rest => some (c :: rest, place + 1, 1)
      | _ => none
  match start with
  | none => ⟨'?', none, none, place, 0, true⟩
  | some ([], _, _) => ⟨'?', none, none, place, 0, true⟩
  | some (letter :: rest, place, before) =>
    if inside = [] && letter = '-' && rest = [] then ⟨'?', none, none, place, 0, true⟩
    else
      let offset := before + 1
      match optionKind letter letters.toList with
      | none =>
        if silent then ⟨'?', some (String.singleton letter), none, place, offset, false⟩
        else
          ⟨'?', none, some ("Illegal option -" ++ String.singleton letter), place, offset, false⟩
      | some false => ⟨letter, some "", none, place, offset, false⟩
      | some true =>
        if rest ≠ [] then ⟨letter, some (String.ofList rest), none, place, 0, false⟩
        else
          match arguments[place - 1]? with
          | some text => ⟨letter, some text, none, place + 1, 0, false⟩
          | none =>
            if silent then ⟨':', some (String.singleton letter), none, place, 0, false⟩
            else
              ⟨'?', none, some ("No arg for -" ++ String.singleton letter ++ " option"), place, 0,
                false⟩

/-- Runs the command that reads the options of a script. -/
def runGetopts (words : List String) : Act Unit := do
  let (_, words) ← Act.options "" "" words
  match words with
  | letters :: name :: own =>
    let state ← get
    let arguments := if own.isEmpty then state.arguments else own
    let step := readOption letters arguments state.place state.letter
    if let some complaint := step.complaint then
      let _ ← Act.write 2 (complaint ++ "\n")
    unless step.finished do
      match step.text with
      | some text => Act.assign "OPTARG" text
      | none => modify (·.withVariable "OPTARG" none)
    Act.assign "OPTIND" (toString step.place)
    Act.checkName name
    Act.assign name (String.singleton step.shown)
    modify ({ · with place := step.place, letter := step.letter })
    Act.finishWith !step.finished
  | _ => Act.abort "Usage: getopts optstring var [arg...]"

end AuditStage.Shell
