import AuditStage.Shell.Declaration
import AuditStage.Shell.Files
import AuditStage.Shell.Format

/-! The two small programs that scripts use besides what the shell does itself: one prints files, and one
exchanges characters. -/

namespace AuditStage.Shell

/-- The characters of a class in order. -/
def classMembers (name : String) : List Char :=
  ((List.range 128).map Char.ofNat).filter (isInClass · name)

/-- All octets in order. -/
def allOctets : List Char :=
  (List.range 256).map Char.ofNat

/-- The characters that a set names one by one; the fuel bounds its length. -/
def setMembers : Nat → List Char → List Char
  | 0, _ => []
  | fuel + 1, cs =>
    match cs with
    | [] => []
    | '[' :: ':' :: rest =>
      let name := rest.takeWhile Char.isAlpha
      match rest.drop name.length with
      | ':' :: ']' :: rest => classMembers (String.ofList name) ++ setMembers fuel rest
      | _ => '[' :: setMembers fuel (':' :: rest)
    | c :: rest =>
      let (low, rest) := if c = '\\' then readEscape rest else (c, rest)
      match rest with
      | '-' :: c :: more =>
        let (high, more) := if c = '\\' then readEscape more else (c, more)
        let range := (List.range (high.toNat + 1 - low.toNat)).map fun n =>
          Char.ofNat (low.toNat + n)
        range ++ setMembers fuel more
      | rest => low :: setMembers fuel rest

/-- The characters that a set names. -/
def setOf (text : String) : List Char :=
  setMembers (text.length + 1) text.toList

/-- Characters exchanged for those at the same places of another set, whose last one may stand for
many. -/
def exchange (set other : List Char) (cs : List Char) : List Char :=
  cs.map fun c =>
    -- The last of several places counts.
    match (set.zipIdx.filter (·.1 == c)).getLast? with
    | none => c
    | some (_, place) => (other[place]?.or other.getLast?).getD c

/-- Runs of one and the same character of a set made one. -/
def squeeze (set : List Char) : List Char → List Char
  | c :: d :: rest =>
    if c = d && set.contains c then squeeze set (d :: rest) else c :: squeeze set (d :: rest)
  | cs => cs

namespace Act

/-- Writes what a program complains about. -/
def report (program text : String) : Act Unit := do
  let _ ← write 2 (program ++ ": " ++ text ++ "\n")

/-- Ends a program that cannot be used in that way. -/
def misuse (program text : String) : Act Unit := do
  report program (text ++ "\nTry \x27" ++ program ++ " --help\x27 for more information.")
  finish 1

/-- What a program says of an input that is closed. -/
def unreadInput (program : String) : List String :=
  if program = "cat" then ["-: Bad file descriptor", "closing standard input: Bad file descriptor"]
  else ["read error: Bad file descriptor"]

/-- The octets of the input, unless it is closed. -/
def inputOf (program : String) : Act (Option (List Char)) := do
  let input ← readAll 0
  if input.isNone then (unreadInput program).forM (report program)
  return input

/-- The octets of a file or of the input, unless they cannot be read. -/
def contentOf (program path : String) : Act (Option (List Char)) := do
  if path = "-" then inputOf program
  else
    let state ← get
    match state.locate path with
    | .error error =>
      report program ((if path = "" then "\x27\x27" else path) ++ ": " ++ error.reason)
      return none
    | .ok location =>
      match state.disk.entryAt? location with
      | some (.file content) => return some content.toList
      | _ =>
        report program (path ++ ": Is a directory")
        return none

/-- Reads the options of a program, or ends it. -/
def withOptions (program taking plain : String) (words : List String)
    (act : List (Char × String) → List String → Act Unit) : Act Unit := do
  let fuel := words.foldl (fun n word => n + word.length + 1) 1
  match optionsFrom taking.toList plain.toList fuel words with
  | .ok (options, words) => act options words
  | .error fault =>
    let letter := String.singleton ((fault.toList.dropWhile (· != '-')).getD 1 '-')
    misuse program
      (if fault.startsWith "No" then "option requires an argument -- \x27" ++ letter ++ "\x27"
      else "invalid option -- \x27" ++ letter ++ "\x27")

end Act

/-- Whether an option is among those given. -/
def hasOption (options : List (Char × String)) (letter : Char) : Bool :=
  options.any (·.1 == letter)

/-- Prints files one after the other, or the input if there are none. -/
def runCat (words : List String) : Act Unit :=
  Act.withOptions "cat" "" "u" words fun _ paths => do
    let found ← (if paths = [] then ["-"] else paths).mapM (Act.contentOf "cat")
    Act.print (String.ofList (found.flatMap (·.getD [])))
    unless found.all Option.isSome do Act.finish 1

/-- Prints the input with characters exchanged, deleted or squeezed. -/
def runTr (words : List String) : Act Unit :=
  Act.withOptions "tr" "" "cCdst" words fun options sets => do
    let deletes := hasOption options 'd'
    let squeezes := hasOption options 's'
    let complement := fun (set : List Char) =>
      if hasOption options 'c' || hasOption options 'C' then allOctets.filter (!set.contains ·)
      else set
    let run := fun (change : List Char → List Char) => do
      match ← Act.inputOf "tr" with
      | some input => Act.print (String.ofList (change input))
      | none => Act.finish 1
    match sets.map setOf with
    | [] => Act.misuse "tr" "missing operand"
    | [set] =>
      let set := complement set
      if deletes then run fun cs => cs.filter (!set.contains ·)
      else if squeezes then run (squeeze set)
      else
        Act.misuse "tr" ("missing operand after \x27" ++ sets.headD "" ++
          "\x27\nTwo strings must be given when translating.")
    | [set, other] =>
      let set := complement set
      if deletes then run fun cs => squeeze other (cs.filter (!set.contains ·))
      else
        run fun cs =>
          let exchanged := exchange set other cs
          if squeezes then squeeze other exchanged else exchanged
    | _ :: _ :: _ =>
      Act.misuse "tr" ("extra operand \x27" ++ sets.getD 2 "" ++ "\x27")

/-- What a system's own programs do, by their names. -/
def program? (name : String) : Option (List String → Act Unit) :=
  match name with
  | "cat" => some runCat
  | "tr" => some runTr
  | "sleep" => some fun _ => Act.finish 0
  | _ => none

end AuditStage.Shell
