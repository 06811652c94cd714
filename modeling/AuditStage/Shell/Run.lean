import AuditStage.Shell.Arithmetic
import AuditStage.Shell.Builtin
import AuditStage.Shell.Parse

/-! Running the commands of a shell script. -/

namespace AuditStage.Shell

/-- The glyphs of a value, which may be divided unless it stands between quotes. -/
def valueGlyphs (value : String) (quoted : Bool) : List Glyph :=
  if quoted then glyphsOf value true false else .expansion false :: glyphsOf value false true

/-- The glyphs of all arguments, each of which stays or may be divided further. -/
def argumentGlyphs (arguments : List String) (whole : Bool) : List Glyph :=
  match arguments with
  | [] => []
  | arguments =>
    .expansion whole :: [Glyph.cut].intercalate (arguments.map (glyphsOf · whole (!whole)))

/-- The value of a parameter with a plain name, unless it is not set. -/
def State.parameter? (state : State) (name : String) : Option String :=
  match name with
  | "?" => some (toString state.status)
  | "#" => some (toString state.arguments.length)
  | "$" => some (toString state.process)
  | "!" => state.ended.head?.map fun (process, _) => toString process
  | "-" => some state.optionLetters
  | "0" => some state.name
  | "@" | "*" =>
    -- The arguments stand together with the first dividing character between them.
    let divider := (state.dividers.head?.map String.singleton).getD ""
    some (divider.intercalate state.arguments)
  | name =>
    if (name.toList.head?.map Char.isDigit).getD false then
      state.arguments[ofDigits 10 name.toList - 1]?
    else state.value? name

/-- A word whose first part, or a part behind a colon, may stand for the home directory. -/
def withHome (home : String) (colons : Bool) : List Piece → List Piece
  | .text text false :: pieces =>
    let last := pieces.isEmpty
    let expanded := fun (isLast : Bool) (cs : List Char) =>
      let user := cs.takeWhile (· != '/')
      let ends := user.length < cs.length || isLast
      if user = ['~'] && ends then [.text home true, .text (String.ofList (cs.drop 1)) false]
      else if user = "~root".toList && ends then
        [.text "/root" true, .text (String.ofList (cs.drop 5)) false]
      else [Piece.text (String.ofList cs) false]
    let parts := if colons then text.toList.splitOn ':' else [text.toList]
    let count := parts.length
    let changed := parts.zipIdx.map fun (part, index) =>
      expanded (last || index + 1 < count) part
    [Piece.text ":" false].intercalate changed ++ pieces
  | pieces => pieces

/-- What a shell that is left keeps of a shell that it started: the files, and all that was read and
written. -/
def State.afterInner (state after : State) : State :=
  { state with
    channels := after.channels, disk := { after.disk with home := state.disk.home },
    inlined := after.inlined, nextProcess := after.nextProcess, sent := after.sent }

/-- The shell that a shell starts for a part of a script. -/
def State.inner (state : State) : State :=
  { state with
    traps := state.traps.filter fun (_, action) => action == "", pending := [], ended := [],
    leaving := none, level := state.level + 1, reading := 1 }

namespace Act

/-- Runs a part of a script to its end, and tells how it ended. -/
def outcome (act : Act Unit) : Act Nat := fun state =>
  match act state with
  | .ok _ after => .ok after.status after
  | .error (.exited code) after => .ok code after
  -- Nothing is done at the end of a shell that has become another program.
  | .error (.replaced code) after => .ok code { after with traps := [] }
  | .error .failed after => .ok 2 after
  | .error (.returned code) after => .ok code after
  | .error (.left _ _) after => .ok 0 after
  | .error stop after => .error stop after

/-- Runs what is to be done at the end of a shell that ends with a code, and tells how it ended. -/
def closing (code : Nat) (act : Act Unit) : Act Nat := fun state =>
  let traps := state.traps.filter (·.1 != "EXIT")
  match act { state with traps, status := code, leaving := some code, command := none } with
  | .error (.exited code) after => .ok code after
  | .error (.killed process signal) after => .error (.killed process signal) after
  | .error .endless after => .error .endless after
  | .ok _ after | .error _ after => .ok code after

/-- Runs a shell to its end, does what is to be done then, and tells how the shell ended. -/
def toEnd (perform : String → Act Unit) (act : Act Unit) : Act Nat := do
  let code ← outcome act
  match (← get).traps.lookup "EXIT" with
  | none | some "" => return code
  | some action => closing code (perform action)

/-- Runs a part of a script in a shell of its own. -/
def apart (perform : String → Act Unit) (act : Act Unit) : Act Unit := fun state =>
  match toEnd perform act state.inner with
  | .ok code after => takeSignals { state.afterInner after with status := code }
  | .error stop after => .error stop after

/-- Runs a part of a script with a channel for its output, and returns what it wrote there. -/
def captured (channel : Channel) (act : Act Unit) : Act String := do
  let streams := (← get).streams
  let channel ← addChannel channel
  modify (·.withStream 1 (some channel))
  act
  let state ← get
  set { state with streams, channels := state.channels.setIfInBounds channel .nothing }
  match state.channels[channel]? with
  | some (.collector text) | some (.pipe text _) => return text
  | _ => return ""

/-- Runs the body of a loop, and tells whether the loop goes on. -/
def inLoop (act : Act Unit) : Act Bool := fun state =>
  let back := fun (after : State) => { after with loops := state.loops }
  match act { state with loops := state.loops + 1 } with
  | .ok _ after => .ok true (back after)
  | .error (.left again 0) after => .ok again { back after with status := 0 }
  | .error (.left again (loops + 1)) after => .error (.left again loops) (back after)
  | .error stop after => .error stop (back after)

/-- Runs a command of the shell itself under its name. -/
def named (name : String) (act : Act Unit) : Act Unit := fun state =>
  let back := fun (after : State) => { after with command := state.command }
  match act { state with command := some name } with
  | .ok _ after => .ok () (back after)
  | .error stop after => .error stop (back after)

/-- Runs a command whose complaints do not end the script. -/
def forgiving (act : Act Unit) : Act Unit := fun state =>
  match act state with
  | .error .failed after => .ok () { after with status := 2 }
  | result => result

/-- How many functions may be running at a time. -/
def mostCalls : Nat :=
  1000

/-- Runs a function, and then lets its variables and arguments be what they were before. -/
def inFunction (arguments : List String) (act : Act Unit) : Act Unit := fun state =>
  let inner :=
    { state with arguments, place := 1, letter := 0, loops := 0, hidden := [] :: state.hidden }
  let back := fun (after : State) =>
    let after := (after.hidden.headD []).foldl (fun after (name, old) =>
      after.withVariable name old) after
    { after with
      arguments := state.arguments, place := state.place, letter := state.letter,
      loops := state.loops, hidden := state.hidden }
  match act inner with
  | .ok _ after => .ok () (back after)
  | .error (.returned code) after => .ok () { back after with status := code }
  | .error stop after => .error stop (back after)

/-- Runs a script that another one reads, which may be left like a function. -/
def inScript (act : Act Unit) : Act Unit := fun state =>
  match act state with
  | .error (.returned code) after => .ok () { after with status := code }
  | result => result

/-- Sets variables for a command, marked to be seen by programs or not. -/
def withSettings (settings : List (String × String)) (exported : Bool) (act : Act Unit) :
    Act Unit := do
  let before := (← get).settings
  settings.forM fun (name, value) => do
    assign name value
    let variable_ := (← get).settings.lookup name
    modify (·.withVariable name (variable_.map fun variable_ =>
      { variable_ with exported := exported || variable_.exported }))
  let back := fun (after : State) =>
    settings.foldl (fun after (name, _) => after.withVariable name (before.lookup name)) after
  fun state =>
    match act state with
    | .ok _ after => .ok () (back after)
    | .error stop after => .error stop (back after)

/-- Ends the script if a command has failed that had to succeed. -/
def check (tested : Bool) : Act Unit := do
  let state ← get
  if !tested && state.isOn 'e' && state.status != 0 then throw (.exited state.status)

/-- Writes which command runs, to where complaints went before its redirections. -/
def trace (streams : List (Nat × Nat)) (settings : List (String × String)) (fields : List String) :
    Act Unit := do
  let state ← get
  if state.isOn 'x' then
    let words := settings.map (fun (name, value) => name ++ "=" ++ value) ++ fields
    set { state with streams }
    let _ ← write 2 ((state.value? "PS4").getD "" ++ " ".intercalate words ++ "\n")
    modify ({ · with streams := state.streams })

/-- Sets the line of the command that runs. -/
def atLine (line : Nat) : Act Unit :=
  modify ({ · with line })

/-- Stops a script because of what should name a stream; the complaint names the line that was read
last. -/
def refuseStream {α : Type} : Act α := do
  atLine (← get).reading
  abort "Syntax error: Bad fd number"

/-- Does not take the end of the input for a wish to leave, if the option for that is on, until it
has come too often. -/
def linger : Act Unit := do
  if (← get).isOn 'I' then
    let _ ← write 2 (Text.repeated 50 "\nUse \"exit\" to leave shell.\n")

/-- What a part of a script comes to, unless it has stopped with a complaint. -/
def attempt {α : Type} (act : Act α) : Act (Option α) := fun state =>
  match act state with
  | .ok value after => .ok (some value) after
  | .error .failed after => .ok none after
  | .error stop after => .error stop after

end Act

/-- The commands whose words may set variables. -/
def declaringCommands : List String :=
  ["export", "local", "readonly"]

/-- Where programs are looked for unless something else is said. -/
def usualPath : String :=
  "/usr/local/sbin:/usr/local/bin:/usr/sbin:/usr/bin:/sbin:/bin"

/-- A shell of its own name in a process of its own, with the variables that programs see. -/
def State.started (state : State) (name : String) (process : Nat) : State :=
  let own := [("IFS", " \t\n"), ("OPTIND", "1"), ("PATH", usualPath),
    ("PPID", toString state.process), ("PS1", "# "), ("PS2", "> "), ("PS4", "+ "),
    ("PWD", state.directory)]
  let exported := state.settings.filter fun (name, variable_) =>
    variable_.exported && variable_.value.isSome && name != "IFS"
  let missing := own.filter fun (name, _) => !exported.any (·.1 == name)
  { state with
    name, command := none, line := 0, reading := 1, arguments := [], functions := [],
    options := [], status := 0, substituted := none, process,
    shells := process :: state.shells,
    level := 0, loops := 0, hidden := [], place := 1, letter := 0,
    settings := exported ++ missing.map fun (name, value) => (name, ⟨some value, false, false⟩) }

/-- Whether a name or path leads to a program. -/
def State.isRunnable (state : State) (name : String) : Bool :=
  if name.toList.contains '/' then state.isProgram name else (state.findProgram? name).isSome

/-- What a name means as a command, as one would call it. -/
def State.callOf? (state : State) (name : String) : Option String :=
  let isOwn := keywords.contains name || (state.functions.lookup name).isSome || isBuiltin name
  if isOwn then some name
  else if name.toList.contains '/' then if state.isProgram name then some name else none
  else state.findProgram? name

/-- The last step of a path. -/
def lastStep (path : String) : String :=
  (Path.steps path).getLast?.getD ""

/-- A shell that has been asked to start: its options, its script, and what stands behind that. -/
structure Invocation where
  options : List (Bool × String)
  isScript : Bool
  words : List String

/-- Reads the options that a shell is started with; the fuel bounds the words. -/
def invocation : Nat → List String → List (Bool × String) → Bool → Invocation
  | 0, words, options, isScript => ⟨options.reverse, isScript, words⟩
  | fuel + 1, words, options, isScript =>
    let ended : Invocation := ⟨options.reverse, isScript, words⟩
    match words with
    | [] => ended
    | word :: rest =>
      match word.toList with
      | ['-'] | ['-', '-'] => { ended with words := rest }
      | sign :: letters =>
        if sign ≠ '-' && sign ≠ '+' then ended
        else
          let on := sign == '-'
          let isScript := isScript || letters.contains 'c'
          let plain := letters.filter fun c => c ≠ 'c' && c ≠ 'l' && c ≠ 'o'
          let options := plain.foldl (fun options c => (on, String.singleton c) :: options) options
          let named := letters.count 'o'
          let names := (rest.take named).map ("o " ++ ·) ++ List.replicate (named - rest.length) "o"
          invocation fuel (rest.drop named)
            (names.foldl (fun options name => (on, name) :: options) options) isScript
      | [] => ended

/-- Turns on or off the options that a shell is started with; one without its name shows them all,
of which those not spoken of yet count as on. -/
def startOptions (off : List Char) : List (Bool × String) → Act Unit
  | [] => return
  | (on, option) :: options => do
    match option.toList with
    | ['o'] =>
      let before := (← get).options
      modify ({ · with options := (shellOptions.map Prod.fst).filter (!off.contains ·) })
      showOptions on
      modify ({ · with options := before })
    | 'o' :: ' ' :: name => setNamed on (String.ofList name)
    | [letter] => setLetter on letter
    | _ => pure ()
    let now := (← get).options
    let spoken := (shellOptions.map Prod.fst).filter fun letter =>
      option = String.singleton letter && !now.contains letter
    startOptions (off.filter (!now.contains ·) ++ spoken) options

mutual

/-- The glyphs that the parts of a word come to, where they are to be divided into fields or not,
and where their plain text may be divided too; the fuel bounds the calls. -/
def expand : Nat → Bool → Bool → List Piece → Act (List Glyph)
  | 0, _, _, _ => throw .endless
  | _ + 1, _, _, [] => return []
  | fuel + 1, full, soft, piece :: pieces => do
    let glyphs ←
      match piece with
      | .text text true => pure (.quote :: glyphsOf text true false)
      | .text text false =>
        pure (if soft then .expansion false :: glyphsOf text false true
          else glyphsOf text false false)
      | .sum expression quoted => pure (valueGlyphs (← sumText fuel expression) quoted)
      | .output script quoted => pure (valueGlyphs (← outputText fuel script) quoted)
      | .parameter name request other quoted => expandParameter fuel full name request other quoted
    match piece with
    | .parameter _ .valueBefore other _ => return glyphs ++ (← expand fuel full soft other)
    | _ => return glyphs ++ (← expand fuel full soft pieces)

/-- The glyphs that a parameter comes to. -/
def expandParameter : Nat → Bool → String → Request → List Piece → Bool → Act (List Glyph)
  | 0, _, _, _, _, _ => throw .endless
  | fuel + 1, full, name, request, other, quoted => do
    let state ← get
    let value := state.parameter? name
    let isList := name = "@" || name = "*"
    let missing := fun (emptyIsMissing : Bool) =>
      value.isNone || (emptyIsMissing && value = some "")
    let whole := do
      if isList && full && (name = "@" || !quoted) then
        return argumentGlyphs state.arguments quoted
      else return (value.map (valueGlyphs · quoted)).getD []
    let instead := do
      let home := (state.value? "HOME").getD "~"
      expand fuel full (!quoted) (if quoted then other else withHome home false other)
    let checked := do
      if state.isOn 'u' && value.isNone then Act.abort (name ++ ": parameter not set")
    match request with
    | .unknown => Act.abort "Bad substitution"
    | .value | .valueBefore =>
      checked
      whole
    | .length =>
      checked
      return valueGlyphs (toString (value.getD "").length) quoted
    | .orElse emptyIsMissing => if missing emptyIsMissing then instead else whole
    | .ifSet emptyIsMissing => if missing emptyIsMissing then return [] else instead
    | .orAssign emptyIsMissing =>
      if missing emptyIsMissing then
        let text ← plainTextOf fuel other
        Act.checkName name
        Act.assign name text
        return valueGlyphs text quoted
      else whole
    | .orFail emptyIsMissing =>
      if missing emptyIsMissing then
        let text ← plainTextOf fuel other
        let tail := if emptyIsMissing then " or null" else ""
        Act.abort (name ++ ": " ++ (if other.isEmpty then "parameter not set" ++ tail else text))
      else whole
    | .trim fromEnd longest =>
      checked
      if value.isNone then return []
      let pattern := patternChars (← expand fuel false false other)
      let keepsArguments := if quoted then name = "@" else (state.value? "IFS").isSome
      if isList && full && keepsArguments then
        return argumentGlyphs
          ((Pattern.parse pattern).trimArguments fromEnd longest state.arguments) quoted
      else
        let cs := (value.getD "").toList
        return valueGlyphs (String.ofList ((Pattern.parse pattern).trim fromEnd longest cs)) quoted

/-- The text of a word that stays one. -/
def plainTextOf : Nat → List Piece → Act String
  | 0, _ => throw .endless
  | fuel + 1, pieces => do
    let home := ((← get).value? "HOME").getD "~"
    return textOf (← expand fuel false false (withHome home false pieces))

/-- The value of an integer expression as text. -/
def sumText : Nat → List Piece → Act String
  | 0, _ => throw .endless
  | fuel + 1, expression => do
    let text := textOf (← expand fuel false false expression)
    let state ← get
    let (value, written) := evaluate state.value? text
    written.forM fun (name, value) => Act.assign name (toString value)
    match value with
    | .ok value => return toString value
    | .error fault => Act.abort (fault.message text)

/-- What a script writes to its output, without the line ends behind it. -/
def outputText : Nat → Script → Act String
  | 0, _ => throw .endless
  | fuel + 1, script => do
    let status := (← get).status
    let text ← Act.captured (.collector "") (Act.apart (fun action => runText fuel false 1 action)
      (run fuel false script))
    modify fun state =>
      { state with
        substituted := if script.isNothing then state.substituted else some state.status
        status }
    return String.ofList (Text.dropTrailing '\n' (text.toList.filter (· != '\x00')))

/-- The fields of words. -/
def fieldsOf : Nat → List (List Piece) → Act (List String)
  | 0, _ => throw .endless
  | _ + 1, [] => return []
  | fuel + 1, pieces :: words => do
    let home := ((← get).value? "HOME").getD "~"
    let glyphs ← expand fuel true false (withHome home false pieces)
    let state ← get
    let fields := (divided state.dividers none glyphs).flatMap state.pathsOf
    return fields ++ (← fieldsOf fuel words)

/-- The fields of the words of a command, in which those that set variables stay whole if the
command declares variables. -/
def commandFields : Nat → List (List Piece) → Act (List String)
  | 0, _ => throw .endless
  | fuel + 1, words => do
    let isPrefix := fun (pieces : List Piece) => plainText? pieces = some "command"
    let name := ((words.dropWhile isPrefix).head?.bind plainText?).getD ""
    if declaringCommands.contains name then declaredFields fuel words else fieldsOf fuel words

/-- The fields of words in which those that set variables stay whole. -/
def declaredFields : Nat → List (List Piece) → Act (List String)
  | 0, _ => throw .endless
  | _ + 1, [] => return []
  | fuel + 1, pieces :: words => do
    let fields ←
      match setting? pieces with
      | some (name, value) =>
        match ← settingsOf fuel [(name, value)] with
        | [(name, value)] => pure [name ++ "=" ++ value]
        | _ => pure []
      | none => fieldsOf fuel [pieces]
    return fields ++ (← declaredFields fuel words)

/-- The variables that words set, with their values. -/
def settingsOf : Nat → List (String × List Piece) → Act (List (String × String))
  | 0, _ => throw .endless
  | _ + 1, [] => return []
  | fuel + 1, (name, pieces) :: settings => do
    let home := ((← get).value? "HOME").getD "~"
    let value := textOf (← expand fuel false false (withHome home true pieces))
    return (name, value) :: (← settingsOf fuel settings)

/-- Sets variables one after the other, so that each can use those before it. -/
def assignAll : Nat → List (String × List Piece) → Act (List (String × String))
  | 0, _ => throw .endless
  | _ + 1, [] => return []
  | fuel + 1, (name, pieces) :: settings => do
    let home := ((← get).value? "HOME").getD "~"
    let value := textOf (← expand fuel false false (withHome home true pieces))
    Act.assign name value
    return (name, value) :: (← assignAll fuel settings)

/-- Where streams are to go. -/
def directionsOf : Nat → List Redirect → Act (List Direction)
  | 0, _ => throw .endless
  | _ + 1, [] => return []
  | fuel + 1, redirect :: redirects => do
    let direction ←
      match redirect with
      | .file stream opening target =>
        pure (Direction.file stream opening (← plainTextOf fuel target))
      | .inline stream number =>
        let pieces := (← get).inlined[number]?.getD []
        match ← Act.attempt (expand fuel false false pieces) with
        | some glyphs => pure (Direction.text stream (textOf glyphs))
        | none => pure .broken
      | .copy stream target =>
        match (← plainTextOf fuel target).toList with
        | ['-'] => pure (.close stream)
        | [c] =>
          if c.isDigit then pure (.copy stream (digitValue c))
          else Act.refuseStream
        | _ => Act.refuseStream
    return direction :: (← directionsOf fuel redirects)

/-- Runs a program, known by the name that it was called by, in a process of its own. -/
def runProgram : Nat → String → List String → Act Unit
  | 0, _, _ => throw .endless
  | fuel + 1, called, words => do
    let perform := fun (action : String) => runText fuel false 1 action
    match lastStep called with
    | "sh" | "dash" => runShell fuel called words
    | name =>
      match program? name with
      | some act => Act.apart perform (act words)
      | none =>
        match builtin? name with
        | some act => Act.apart perform (Act.named name (Act.forgiving (act words)))
        | none => Act.finish 0

/-- Runs a shell of its own name and words. -/
def runShell : Nat → String → List String → Act Unit
  | 0, _, _ => throw .endless
  | fuel + 1, name, words => fun state =>
    let process := state.nextProcess
    let inner := { state.inner.started name process with nextProcess := process + 1 }
    let perform := fun (action : String) => runText fuel false 1 action
    match Act.toEnd perform (startShell fuel name words) inner with
    | .ok code after => takeSignals { state.afterInner after with status := code }
    | .error (.killed _ signal) after =>
      let notice := deathNotice signal
      (do
        unless notice = "" do
          let _ ← Act.write 2 (notice ++ "\n")
        Act.finish (128 + signal)
        takeSignals : Act Unit) (state.afterInner after)
    | .error stop after => .error stop after

/-- Runs what a shell is started for. -/
def startShell : Nat → String → List String → Act Unit
  | 0, _, _ => throw .endless
  | fuel + 1, name, words => do
    let asked := invocation (words.length + 1) words [] false
    startOptions [] asked.options
    if asked.isScript then
      match asked.words with
      | [] => Act.abort "-c requires an argument"
      | script :: rest =>
        modify ({ · with name := rest.headD name, arguments := rest.drop 1 })
        runText fuel false 1 script
        if (← get).isOn 's' then runInput fuel
    else if (← get).isOn 's' || asked.words = [] then
      modify ({ · with arguments := asked.words })
      runInput fuel
    else
      let path := asked.words.headD ""
      let state ← get
      match state.entryAt? path with
      | some (.file content) =>
        set { state with name := path, arguments := asked.words.drop 1 }
        runText fuel false 1 content
        Act.linger
      | some _ => Act.linger
      | none => Act.abort ("cannot open " ++ path ++ ": No such file")

/-- Runs the script that the input holds. -/
def runInput : Nat → Act Unit
  | 0 => throw .endless
  | fuel + 1 => do
    let input := (← Act.readAll 0).getD []
    -- An input with nothing in it changes nothing, not even how the last command ended.
    runLines fuel false false (.ofText (String.ofList input) 1)
    Act.linger

/-- Runs a program of a shell, or complains that there is none. -/
def runExternal : Nat → String → List String → Act Unit
  | 0, _, _ => throw .endless
  | fuel + 1, name, words => do
    let state ← get
    if name = "" then Act.refuse 127 ": Permission denied"
    else if name.toList.contains '/' then
      if state.isProgram name then runProgram fuel name words
      else if (state.entryAt? name).isSome then Act.refuse 126 (name ++ ": Permission denied")
      else Act.refuse 127 (name ++ ": not found")
    else
      if state.isRunnable name then runProgram fuel name words
      else if (state.programPaths name).any fun path => (state.entryAt? path).isSome then
        Act.refuse 127 (name ++ ": Permission denied")
      else Act.refuse 127 (name ++ ": not found")

/-- Runs one of the commands of the shell that run other commands. -/
def runRunning : Nat → Bool → String → List String → Act Unit
  | 0, _, _, _ => throw .endless
  | fuel + 1, tested, name, words => do
    match name with
    | "eval" => runText fuel tested 1 (" ".intercalate words)
    | "exec" =>
      match words with
      | [] => Act.finish 0
      | name :: words =>
        if (← get).isRunnable name then
          runProgram fuel name words
          throw (.replaced (← get).status)
        else
          runExternal fuel name words
          throw (.exited (← get).status)
    | "." =>
      match words with
      | [] => Act.finish 0
      | path :: _ =>
        let state ← get
        let found :=
          if path.toList.contains '/' then some path
          else
            (((state.value? "PATH").getD "").toList.splitOn ':').findSome? fun directory =>
              let path := (if directory = [] then "" else String.ofList directory ++ "/") ++ path
              if (state.entryAt? path).isSome then some path else none
        match found.map fun path => (path, state.entryAt? path) with
        | some (path, some (.file content)) =>
          modify ({ · with command := some path })
          Act.inScript (runText fuel tested 1 content)
        | some (_, some _) => Act.finish 0
        | some (path, none) => Act.abort ("cannot open " ++ path ++ ": No such file")
        | none => Act.abort (path ++ ": not found")
    | _ =>
      let (options, words) ← fun state =>
        match Act.options "" "pv" words { state with command := some name } with
        | .ok found after => .ok found { after with command := state.command }
        | .error stop after => .error stop { after with command := state.command }
      match (options.filter (·.1 != 'p')).getLast?, words with
      | _, [] => Act.finish 0
      | some ('v', _), word :: _ =>
        match (← get).callOf? word with
        | some text => Act.print (text ++ "\n")
        | none => Act.finish 127
      | _, name :: words =>
        if isBuiltin name then Act.forgiving (runBuiltin fuel tested name words)
        else runExternal fuel name words

/-- Runs a command of the shell itself. -/
def runBuiltin : Nat → Bool → String → List String → Act Unit
  | 0, _, _, _ => throw .endless
  | fuel + 1, tested, name, words => do
    match builtin? name with
    | some act => Act.named name (act words)
    | none =>
      -- A command that only runs another one does not complain under its own name.
      if name = "command" then runRunning fuel tested name words
      else Act.named name (runRunning fuel tested name words)

/-- Runs a command with its words, and with variables set for it. -/
def runWords : Nat → Bool → List (String × String) → List String → Act Unit
  | 0, _, _, _ => throw .endless
  | _ + 1, _, _, [] => return
  | fuel + 1, tested, settings, name :: words => do
    if specialCommands.contains name then
      settings.forM fun (name, value) => Act.assign name value
      runBuiltin fuel tested name words
    else
      match (← get).functions.lookup name with
      | some body =>
        if (← get).hidden.length = Act.mostCalls then
          Act.abort ("Maximum function recursion depth (" ++ toString Act.mostCalls ++ ") reached")
        Act.withSettings settings false (Act.inFunction words (run fuel tested body))
      | none =>
        if isBuiltin name then
          Act.withSettings settings false (Act.forgiving (runBuiltin fuel tested name words))
        else Act.withSettings settings true (runExternal fuel name words)

/-- Runs a simple command. -/
def runSimple : Nat → Bool → List (String × List Piece) → List (List Piece) → List Redirect →
    Act Unit
  | 0, _, _, _, _ => throw .endless
  | fuel + 1, tested, settings, words, redirects => do
    modify ({ · with substituted := none })
    let fields ← commandFields fuel words
    let directions ← directionsOf fuel redirects
    let streams := (← get).streams
    let act : Act Unit := do
      if ← Act.redirectAll directions then
        if fields = [] then
          let settings ← assignAll fuel settings
          Act.trace streams settings []
          Act.finish ((← get).substituted.getD 0)
        else
          let settings ← settingsOf fuel settings
          Act.trace streams settings fields
          runWords fuel tested settings fields
      else if (fields.head?.map specialCommands.contains).getD false then throw .failed
      else Act.finish 2
    -- A redirection without a command behind it lasts.
    if fields = ["exec"] then act else Act.keepingStreams act

/-- Runs a loop that goes on as long as its condition ends as wanted. -/
def runLoop : Nat → Bool → Bool → Script → Script → Nat → Act Unit
  | 0, _, _, _, _, _ => throw .endless
  | fuel + 1, tested, whileTrue, condition, body, last => do
    let goesOn ← Act.inLoop (run fuel true condition)
    if goesOn && ((← get).status == 0) == whileTrue then
      if ← Act.inLoop (run fuel tested body) then
        runLoop fuel tested whileTrue condition body (← get).status
    else if goesOn then Act.finish last

/-- Runs a loop over words. -/
def runEach : Nat → Bool → String → List String → Script → Act Unit
  | 0, _, _, _, _ => throw .endless
  | _ + 1, _, _, [], _ => return
  | fuel + 1, tested, name, word :: words, body => do
    Act.assign name word
    if ← Act.inLoop (run fuel tested body) then runEach fuel tested name words body

/-- Runs the first arm that has a pattern for a text. -/
def runArms : Nat → Bool → List Char → List (List (List Piece) × Script) → Act Unit
  | 0, _, _, _ => throw .endless
  | _ + 1, _, _, [] => Act.finish 0
  | fuel + 1, tested, text, (patterns, body) :: arms => do
    if ← fitsAny fuel text patterns then runOrSucceed fuel tested body
    else runArms fuel tested text arms

/-- Runs a script, which succeeds if there is nothing to run. -/
def runOrSucceed : Nat → Bool → Script → Act Unit
  | 0, _, _ => throw .endless
  | fuel + 1, tested, script =>
    if script.isNothing then Act.finish 0 else run fuel tested script

/-- Whether one of the patterns fits a text. -/
def fitsAny : Nat → List Char → List (List Piece) → Act Bool
  | 0, _, _ => throw .endless
  | _ + 1, _, [] => return false
  | fuel + 1, text, pieces :: patterns => do
    let home := ((← get).value? "HOME").getD "~"
    let glyphs ← expand fuel false false (withHome home false pieces)
    if (Pattern.parse (patternChars glyphs)).fits text then return true
    else fitsAny fuel text patterns

/-- Runs commands that pass their output on, each in a shell of its own. -/
def runStages : Nat → Bool → List Script → Act Unit
  | 0, _, _ => throw .endless
  | _ + 1, _, [] => return
  | fuel + 1, tested, stage :: stages => do
    let act := Act.apart (fun action => runText fuel false 1 action) (run fuel tested stage)
    if stages.isEmpty then act
    else
      let status := (← get).status
      let text ← Act.captured (.pipe "" pipeLimit) act
      Act.finish status
      Act.keepingStreams do
        Act.openStream 0 (.source text.toList)
        runStages fuel tested stages

/-- Does what is to be done because signals have come. -/
def runPending : Nat → Act Unit
  | 0 => throw .endless
  | fuel + 1 => do
    match (← get).pending with
    | [] => return
    | action :: actions =>
      let status := (← get).status
      modify ({ · with pending := actions })
      runText fuel false 1 action
      Act.finish status
      runPending fuel

/-- Runs a script; where it is tested, its failure does not end the shell. -/
def run : Nat → Bool → Script → Act Unit
  | 0, _, _ => throw .endless
  | fuel + 1, tested, script => do
    unless (← get).isOn 'n' do
      match script with
      | .nothing => return
      | .simple line settings words redirects =>
        Act.atLine line
        runSimple fuel tested settings words redirects
        runPending fuel
        Act.check tested
      | .inOrder first second =>
        run fuel tested first
        run fuel tested second
      | .guarded onSuccess first second =>
        run fuel true first
        if ((← get).status == 0) == onSuccess then run fuel tested second
      | .negated script =>
        run fuel true script
        Act.finishWith ((← get).status != 0)
      | .piped stages =>
        runStages fuel tested stages
        runPending fuel
        Act.check tested
      | .behind script =>
        let state ← get
        let process := state.nextProcess
        set { state with nextProcess := process + 1 }
        Act.keepingStreams do
          Act.openStream 0 .nothing
          Act.apart (fun action => runText fuel false 1 action) (run fuel false script)
        modify fun state =>
          { state with ended := (process, state.status) :: state.ended, status := 0 }
      | .branch condition yes no =>
        run fuel true condition
        if (← get).status = 0 then run fuel tested yes
        else
          runOrSucceed fuel tested no
      | .loop whileTrue condition body => runLoop fuel tested whileTrue condition body 0
      | .each line name words body =>
        Act.atLine line
        match ← fieldsOf fuel words with
        | [] => Act.finish 0
        | fields => runEach fuel tested name fields body
      | .choice line word arms =>
        Act.atLine line
        let text ← plainTextOf fuel word
        runArms fuel tested text.toList arms
      | .define name body =>
        modify fun state =>
          { state with
            functions := (name, body) :: state.functions.filter (·.1 != name), status := 0 }
      | .redirected line body redirects =>
        Act.atLine line
        let directions ← directionsOf fuel redirects
        Act.keepingStreams do
          if ← Act.redirectAll directions then run fuel tested body else Act.finish 2
      | .apart line body redirects =>
        Act.atLine line
        let directions ← directionsOf fuel redirects
        Act.keepingStreams do
          Act.apart (fun action => runText fuel false 1 action) do
            if ← Act.redirectAll directions then run fuel tested body else Act.finish 2
        runPending fuel
        Act.check tested

/-- Runs the script that a text spells, whose first line has the given number. -/
def runText : Nat → Bool → Nat → String → Act Unit
  | 0, _, _, _ => throw .endless
  | fuel + 1, tested, line, text => do
    let reading := (← get).reading
    runLines fuel tested true (.ofText text line)
    modify ({ · with reading })

/-- Runs the lines that are left of a script, which succeeds if there is nothing to run. -/
def runLines : Nat → Bool → Bool → Reader → Act Unit
  | 0, _, _, _ => throw .endless
  | fuel + 1, tested, isFirst, reader => do
    let state ← get
    match Read.commands { reader with inlined := state.inlined } with
    | .ok none after =>
      set { state with inlined := after.inlined }
      if isFirst then Act.finish 0
    | .ok (some script) after =>
      set { state with inlined := after.inlined, reading := after.line }
      run fuel tested script
      runLines fuel tested (isFirst && script.isNothing) after
    | .error fault after =>
      set { state with line := after.line }
      Act.abort ("Syntax error: " ++ fault.message)

end

end AuditStage.Shell
