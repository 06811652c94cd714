import AuditStage.Path

/-! Source keys: which package a key belongs to, and whether a file can be staged for it. -/

namespace AuditStage.Key

/-- The mark at the front of a key that belongs to a library package. -/
def packageMark : Char :=
  '@'

/-- The part of a key before its first slash. -/
def firstPart (key : String) : String :=
  String.ofList (key.toList.takeWhile (· != '/'))

/-- The library package of a key; a key without the mark belongs to the project itself. -/
def package? (key : String) : Option String :=
  if key.toList.head? = some packageMark then some (firstPart key) else none

/-- The packages of the keys, each once, in the order in which they appear. -/
def packagesOf (keys : List String) : List String :=
  (keys.filterMap package?).foldl (fun packages package =>
    if packages.contains package then packages else packages ++ [package]) []

/-- Whether a component is a name. -/
def isName : Path.Component → Bool
  | .name _ => true
  | _ => false

/-- Whether a component leads nowhere but down. -/
def isDownward : Path.Component → Bool
  | .name _ | .here => true
  | _ => false

/-- How many names a key needs to name a file: a library's file lies below its package. -/
def namesNeeded (key : String) : Nat :=
  if (package? key).isSome then 2 else 1

/-- Whether a key leads down to a file, never up or back to the root. -/
def isStageable (key : String) : Bool :=
  let parts := Path.components key
  parts.all isDownward && namesNeeded key ≤ (parts.filter isName).length

/-- A library key without its package and the slashes behind it. -/
def withinPackage (key package : String) : String :=
  String.ofList ((key.toList.drop package.toList.length).dropWhile (· == '/'))

end AuditStage.Key
