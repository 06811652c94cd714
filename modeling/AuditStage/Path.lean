import AuditStage.Text.Basic

/-! Paths as texts, and the components that a text names. -/

namespace AuditStage.Path

/-- One component of a path. -/
inductive Component where
  | root
  | here
  | up
  | name (text : String)
deriving Repr, DecidableEq

/-- The parts between the slashes of a path, without the empty ones. -/
def steps (path : String) : List String :=
  ((path.toList.splitOn '/').filter (· != [])).map String.ofList

/-- Whether a text is a step that leads down to an entry of a directory. -/
def isPlain (step : String) : Bool :=
  step ≠ "" && step ≠ "." && step ≠ ".." && !step.toList.contains '/'

/-- The component that one part between slashes names, if it names any. -/
def component? (part : List Char) : Option Component :=
  if part = [] || part = ['.'] then none
  else if part = ['.', '.'] then some .up
  else some (.name (String.ofList part))

/-- The components of a path: empty parts and inner dots name nothing. -/
def components (path : String) : List Component :=
  match path.toList.splitOn '/' with
  | [] => []
  | first :: parts =>
    -- Only the part before the first slash can make the path absolute or start it with a dot.
    let lead :=
      if first = [] then (if parts = [] then [] else [.root])
      else if first = ['.'] then [.here]
      else (component? first).toList
    lead ++ parts.filterMap component?

/-- Whether a path starts at the root. -/
def isAbsolute (path : String) : Bool :=
  path.toList.head? == some '/'

/-- The path that a second path means when it is read from the first. -/
def join (base path : String) : String :=
  if isAbsolute path then path
  else if base.toList = [] || base.toList.getLast? = some '/' then base ++ path
  else base ++ "/" ++ path

/-- Whether a path lies at or below another, component by component. -/
def isBelow (path base : String) : Bool :=
  (components base).isPrefixOf (components path)

/-- The text of one component. -/
def Component.text : Component → String
  | .root => "/"
  | .here => "."
  | .up => ".."
  | .name text => text

/-- The plainest path with the given components. -/
def ofComponents (parts : List Component) : String :=
  parts.foldl (fun path part => join path part.text) ""

/-- The plainest path from the root through the given names. -/
def ofNames (names : List String) : String :=
  "/" ++ "/".intercalate names

/-- Whether a part between slashes takes no step. -/
def isVoid (part : List Char) : Bool :=
  part = [] || part = ['.']

/-- The path of a first part and others, of which the last one comes first; an empty part alone is the
root. -/
def spelled (first : List Char) (others : List (List Char)) : String :=
  if first = [] && others = [] then "/"
  else String.ofList (['/'].intercalate (first :: others.reverse))

/-- The paths above the path of a first part and others, of which the last one comes first. -/
def aboveParts (first : List Char) : List (List Char) → List String
  | [] => if first = [] then [] else [""]
  | part :: others =>
    if isVoid part then aboveParts first others
    else
      -- What takes no step does not stand at the end of a path above.
      spelled first (others.dropWhile isVoid) :: aboveParts first others

/-- The paths above a path, nearest first and as that is spelled; the one above the first step of a
relative path is empty. -/
def pathsAbove (path : String) : List String :=
  match path.toList.splitOn '/' with
  | [] => []
  | first :: others => aboveParts first others.reverse

/-- The part of a relative path left to go once its first steps agree with those of the base. -/
def stepsFrom : List Component → List Component → Option (List Component)
  | path, [] => some path
  | [], _ :: base => (stepsFrom [] base).map (.up :: ·)
  | step :: path, other :: base =>
    if other = .here then (stepsFrom path base).map (step :: ·)
    -- How to leave a directory that was itself reached by going up cannot be told.
    else if other = .up then none
    else some (.up :: base.map (fun _ => .up) ++ step :: path)

/-- The components both paths start with taken away, and what then leads from one to the other. -/
def relativeComponents : List Component → List Component → Option (List Component)
  | step :: path, other :: base =>
    if step = other then relativeComponents path base else stepsFrom (step :: path) (other :: base)
  | path, base => stepsFrom path base

/-- The path that leads from a base directory to a path, if it can be told from the texts. -/
def relative? (path base : String) : Option String :=
  if isAbsolute path ≠ isAbsolute base then if isAbsolute path then some path else none
  else (relativeComponents (components path) (components base)).map ofComponents

/-- The order of components of different kinds. -/
def Component.rank : Component → Nat
  | .root => 0
  | .here => 1
  | .up => 2
  | .name _ => 3

/-- Whether a component comes before another. -/
def Component.before : Component → Component → Bool
  | .name a, .name b => a < b
  | a, b => a.rank < b.rank

/-- Whether a list of components comes before another or equals it, compared from the front. -/
def componentsLe : List Component → List Component → Bool
  | [], _ => true
  | _ :: _, [] => false
  | a :: as, b :: bs => a.before b || (a = b && componentsLe as bs)

/-- Whether a path comes before another or has the same components. -/
def le (a b : String) : Bool :=
  componentsLe (components a) (components b)

end AuditStage.Path
