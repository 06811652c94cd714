import AuditStage.Disk.Basic
import AuditStage.Path
import AuditStage.Text.Utf8

/-! Following a path over a disk, link by link, to the entry that it leads to. -/

namespace AuditStage

/-- A path as a walk takes it: where it starts, its steps, and whether it ends with a slash. -/
structure Route where
  absolute : Bool
  steps : List String
  trailing : Bool
deriving Repr, DecidableEq

namespace Route

/-- The route that a path describes; empty steps count for nothing. -/
def ofPath (path : String) : Route :=
  let steps := Path.steps path
  ⟨Path.isAbsolute path, steps, !steps.isEmpty && path.toList.getLast? == some '/'⟩

/-- The steps of a route that has to end in a directory if a slash says so. -/
def allSteps (route : Route) : List String :=
  if route.trailing then route.steps ++ ["."] else route.steps

end Route

namespace Disk

/-- How many links one walk may follow. -/
def linkLimit : Nat :=
  40

/-- Takes the steps one by one from a location down to the first link on the way; what follows a link
is left to be said. -/
def descend (disk : Disk) (links : Nat)
    (onward : Location → List String → Except SystemError (Location × Nat)) (location : Location)
    (steps : List String) : Except SystemError (Location × Nat) :=
  match steps with
  | [] => .ok (location, links)
  | step :: steps =>
    if disk.entryAt? location ≠ some .directory then .error .notDirectory
    else if step = "." then disk.descend links onward location steps
    else if step = ".." then disk.descend links onward location.dropLast steps
    else if isLongName step then .error .nameTooLong
    else
      match disk.entryAt? (location ++ [step]) with
      | none => .error .notFound
      | some (.link target) =>
        let route := Route.ofPath target
        onward (if route.absolute then [] else location) (route.allSteps ++ steps)
      | some _ => disk.descend links onward (location ++ [step]) steps

/-- Takes the steps one by one from a location, following every link on the way: where they lead, and
how many more links might have been followed. -/
def follow (disk : Disk) (links : Nat) : Location → List String →
    Except SystemError (Location × Nat) :=
  disk.descend links <|
    match links with
    | 0 => fun _ _ => .error .tooManyLinks
    | links + 1 => disk.follow links

/-- A walk that takes no step stays where it is. -/
@[simp] theorem follow_nil {disk : Disk} {links : Nat} {location : Location} :
    disk.follow links location [] = .ok (location, links) := by
  cases links <;> rfl

/-- What the first step of a walk does, and how the walk goes on from there. -/
theorem follow_cons {disk : Disk} {links : Nat} {location : Location} {step : String}
    {steps : List String} :
    disk.follow links location (step :: steps) =
      if disk.entryAt? location ≠ some .directory then .error .notDirectory
      else if step = "." then disk.follow links location steps
      else if step = ".." then disk.follow links location.dropLast steps
      else if isLongName step then .error .nameTooLong
      else
        match disk.entryAt? (location ++ [step]) with
        | none => .error .notFound
        | some (.link target) =>
          match links with
          | 0 => .error .tooManyLinks
          | links + 1 =>
            disk.follow links (if (Route.ofPath target).absolute then [] else location)
              ((Route.ofPath target).allSteps ++ steps)
        | some _ => disk.follow links (location ++ [step]) steps := by
  cases links <;> rfl

/-- A walk gets shorter by a step, or by a link that stands for steps of its own. -/
theorem follow_induction {motive : Nat → Location → List String → Prop}
    (stay : ∀ links location, motive links location [])
    (next : ∀ links location step steps, (∀ location, motive links location steps) →
      (∀ fewer, fewer < links → ∀ location steps, motive fewer location steps) →
      motive links location (step :: steps))
    (links : Nat) (location : Location) (steps : List String) : motive links location steps := by
  induction links using Nat.strongRecOn generalizing location steps with
  | ind links fewer =>
    induction steps generalizing location with
    | nil => exact stay links location
    | cons step steps ih => exact next links location step steps ih fewer

/-- The location that steps lead to. -/
def walk (disk : Disk) (links : Nat) (location : Location) (steps : List String) :
    Except SystemError Location :=
  (disk.follow links location steps).map Prod.fst

/-- Following steps never leaves more links to be followed than there were. -/
theorem spare_le_of_follow {disk : Disk} {links spare : Nat} {location found : Location}
    {steps : List String} (followed : disk.follow links location steps = .ok (found, spare)) :
    spare ≤ links := by
  induction links, location, steps using follow_induction with
  | stay links location => simp_all
  | next links location step steps ih fewer => grind [follow_cons]

/-- Where a walk along a route starts. -/
def start (disk : Disk) (route : Route) : Location :=
  if route.absolute then [] else disk.home

/-- The route of a path that the system accepts as a path. -/
def route? (path : String) : Except SystemError Route :=
  if path.toList.contains '\x00' then .error .nulInPath
  else if path = "" then .error .notFound
  else if pathLimit < Text.octetCount path.toList then .error .nameTooLong
  else .ok (Route.ofPath path)

/-- The location that a path leads to, all links followed. -/
def resolve (disk : Disk) (path : String) : Except SystemError Location := do
  let route ← route? path
  disk.walk linkLimit (disk.start route) route.allSteps

/-- The disk as it is seen from another directory, if that can be entered. -/
def enter (disk : Disk) (path : String) : Except SystemError Disk := do
  let location ← disk.resolve path
  if disk.entryAt? location = some .directory then .ok { disk with home := location }
  else .error .notDirectory

/-- Why a name stands for no program, where no file on the disk is one. -/
def programFault? (disk : Disk) (programs : List String) (name : String) : Option SystemError :=
  if name.toList.contains '/' then
    match disk.resolve name with
    | .ok _ => some .denied
    | .error error => some error
  else if name = "." || name = ".." then
    -- The directories that programs are looked for in have these two names for themselves.
    some .denied
  else if isLongName name then some .nameTooLong
  else if programs.contains name then none
  else some .notFound

/-- The last step of a route: a name inside a directory, or no name at all. -/
inductive Goal where
  /-- A name that may be free, inside an existing directory. -/
  | named (parent : Location) (name : String)
  /-- A directory named by a dot, two dots, or the root. -/
  | unnamed (location : Location) (step : Option String)
deriving Repr, DecidableEq

/-- The location that the last step of a route stands for. -/
def Goal.location : Goal → Location
  | .named parent name => parent ++ [name]
  | .unnamed location _ => location

/-- Takes all steps of a route but the last: what the last one means there, and how many more links
might have been followed. -/
def approach (disk : Disk) (links : Nat) (start : Location) (steps : List String) :
    Except SystemError (Goal × Nat) :=
  match steps.getLast? with
  | none => .ok (.unnamed start none, links)
  | some step => do
    let (parent, spare) ← disk.follow links start steps.dropLast
    if disk.entryAt? parent ≠ some .directory then .error .notDirectory
    else if step = "." then .ok (.unnamed parent (some step), spare)
    else if step = ".." then .ok (.unnamed parent.dropLast (some step), spare)
    else if isLongName step then .error .nameTooLong
    else .ok (.named parent step, spare)

/-- Taking all steps but the last never leaves more links to be followed than there were. -/
theorem spare_le_of_approach {disk : Disk} {links spare : Nat} {start : Location}
    {steps : List String} {goal : Goal}
    (reached : disk.approach links start steps = .ok (goal, spare)) : spare ≤ links := by
  unfold approach at reached
  split at reached
  · cases reached; exact Nat.le_refl _
  · cases followed : disk.follow links start steps.dropLast with
    | error error => simp [followed, Bind.bind, Except.bind] at reached
    | ok result =>
      have bound := spare_le_of_follow followed
      simp only [followed, Bind.bind, Except.bind] at reached
      grind

/-- What the last step of a route means. -/
def goal (disk : Disk) (links : Nat) (start : Location) (steps : List String) :
    Except SystemError Goal :=
  (disk.approach links start steps).map Prod.fst

/-- The entry that a path names itself, without following a link at its end. -/
def ownEntry? (disk : Disk) (path : String) : Option Entry :=
  match (do
    let route ← route? path
    disk.goal linkLimit (disk.start route) route.steps : Except SystemError Goal) with
  | .ok goal => disk.entryAt? goal.location
  | .error _ => none

end Disk

end AuditStage
