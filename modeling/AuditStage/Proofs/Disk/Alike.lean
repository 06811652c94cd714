import AuditStage.Proofs.Disk.Walk
import AuditStage.Proofs.TwoRuns
import Mathlib.Data.List.Nodup
import Mathlib.Data.List.Perm.Basic

/-! Two disks with the same entries at the same locations, in whatever order they are kept: nothing that
is done to them tells them apart. -/

namespace AuditStage.Disk

open Effect (Blind Ends)

variable {disk one two : Disk} {location : Location} {path : String}

/-- Two disks have the same home and the same entries. -/
structure Alike (one two : Disk) : Prop where
  home : one.home = two.home
  entries : ∀ location, one.entryAt? location = two.entryAt? location

/-- Following steps looks at nothing but entries. -/
theorem follow_congr (same : ∀ location, one.entryAt? location = two.entryAt? location) (links : Nat)
    (location : Location) (steps : List String) :
    one.follow links location steps = two.follow links location steps := by
  -- The induction follows the walk: step by step, and link by link.
  induction links, location, steps using follow_induction with
  | stay links location => rw [follow_nil, follow_nil]
  | next links location step steps ih fewer =>
    simp only [follow_cons, same, ih]
    -- Behind a link, one link less may be followed.
    cases links with
    | zero => rfl
    | succ links => simp only [fewer links (Nat.lt_succ_self links)]

/-- Taking all steps but the last looks at nothing but entries. -/
theorem approach_congr (same : ∀ location, one.entryAt? location = two.entryAt? location)
    (links : Nat) (location : Location) (steps : List String) :
    one.approach links location steps = two.approach links location steps := by
  simp only [approach, follow_congr same, same]

/-- Where writing ends up, told by one walk after the other. -/
theorem writeGoal_eq (disk : Disk) (links : Nat) (start : Location) (route : Route) :
    disk.writeGoal links start route =
      if route.trailing then do
        let parent ← disk.walk links start route.steps.dropLast
        .error (if disk.entryAt? parent = some .directory then .isDirectory else .notDirectory)
      else
        match disk.approach links start route.steps with
        | .error error => .error error
        | .ok (.unnamed _ _, _) => .error .isDirectory
        | .ok (.named parent name, spare) =>
          match disk.entryAt? (parent ++ [name]) with
          | none | some (.file _) => .ok (parent ++ [name])
          | some .directory => .error .isDirectory
          | some (.link target) =>
            match spare with
            | 0 => .error .tooManyLinks
            | spare + 1 =>
              disk.writeGoal spare (if (Route.ofPath target).absolute then [] else parent)
                (Route.ofPath target) := by
  rw [writeGoal]
  split
  · rfl
  · -- The bound on the links that are left plays no part in what comes out.
    split <;> rename_i reached <;> simp only [reached]
    rename_i parent name spare
    cases disk.entryAt? (parent ++ [name]) with
    | none => rfl
    | some entry =>
      cases entry with
      | link target => cases spare <;> rfl
      | _ => rfl

/-- Where writing ends up depends on nothing but entries. -/
theorem writeGoal_congr (same : ∀ location, one.entryAt? location = two.entryAt? location)
    (links : Nat) (start : Location) (route : Route) :
    one.writeGoal links start route = two.writeGoal links start route := by
  induction links using Nat.strongRecOn generalizing start route with
  | ind links fewer =>
    rw [writeGoal_eq, writeGoal_eq, approach_congr same]
    simp only [walk, follow_congr same, same]
    cases reached : two.approach links start route.steps with
    | error error => rfl
    | ok result =>
      obtain ⟨goal, spare⟩ := result
      have bound := spare_le_of_approach reached
      cases goal with
      | unnamed => rfl
      | named parent name =>
        -- A link at the end is followed with less links left.
        cases spare with
        | zero => rfl
        | succ spare => simp only [fewer spare (by omega)]

/-- Every entry that a disk keeps is the one at its location. -/
theorem entryAt?_of_mem {entry : Entry}
    (member : (location, entry) ∈ disk.entries) : disk.entryAt? location = some entry := by
  obtain ⟨parent, name, rooted, -⟩ := disk.tree _ member
  have inside : location ≠ [] := by rintro rfl; simp at rooted
  -- What is found first at the location is the same pair, as there is no other.
  obtain ⟨other, found⟩ := Option.ne_none_iff_exists'.1 (entryAt?_ne_none member)
  have same := List.inj_on_of_nodup_map disk.single member (mem_of_entryAt? inside found) rfl
  cases same
  exact found

/-- What lies directly inside a location lies at the location of its name. -/
theorem mem_children_iff {name : String} {entry : Entry} :
    (name, entry) ∈ disk.children location ↔ disk.entryAt? (location ++ [name]) = some entry := by
  simp only [children, List.mem_filterMap]
  -- A child is listed by the last name of its location.
  constructor
  · rintro ⟨⟨other, held⟩, member, listed⟩
    obtain ⟨parent, label, rooted, -⟩ := disk.tree _ member
    simp only at rooted
    subst rooted
    simp only [List.getLast?_concat, List.dropLast_concat] at listed
    split at listed
    · rename_i here
      cases listed
      exact here ▸ entryAt?_of_mem member
    · cases listed
  · intro found
    exact ⟨_, mem_of_entryAt? (by simp) found, by simp⟩

/-- What comes from different items is different, so nothing comes up twice. -/
theorem nodup_filterMap_of_origin {α β : Type} {find : α → Option β} {items : List α} (origin : β → α)
    (known : ∀ item found, find item = some found → item = origin found) (nodup : items.Nodup) :
    (items.filterMap find).Nodup :=
  nodup.filterMap fun _ _ found first second =>
    (known _ found first).trans (known _ found second).symm

/-- No name is listed twice. -/
theorem nodup_children (disk : Disk) (location : Location) :
    (disk.children location).Nodup := by
  -- The name and the entry tell where the child was found.
  refine nodup_filterMap_of_origin (fun child => (location ++ [child.1], child.2))
    (fun item child listed => ?_) (List.Nodup.of_map _ disk.single)
  split at listed
  · rename_i name last
    obtain ⟨parent, rooted⟩ := List.getLast?_eq_some_iff.1 last
    split at listed
    · rename_i here
      cases listed
      rw [rooted, List.dropLast_concat] at here
      exact Prod.ext (here ▸ rooted) rfl
    · cases listed
  · cases listed

namespace Alike

/-- Walks start at one location. -/
theorem start (alike : Alike one two) (route : Route) : one.start route = two.start route := by
  rw [Disk.start, Disk.start, alike.home]

/-- A path leads to one location. -/
theorem resolve (alike : Alike one two) (path : String) : one.resolve path = two.resolve path := by
  simp only [Disk.resolve, walk, alike.start, follow_congr alike.entries]

/-- The last step of a path means the same. -/
theorem goal (alike : Alike one two) (links : Nat) (start : Location) (steps : List String) :
    one.goal links start steps = two.goal links start steps := by
  rw [Disk.goal, Disk.goal, approach_congr alike.entries]

/-- A path names one location. -/
theorem ownLocation (alike : Alike one two) (path : String) :
    one.ownLocation path = two.ownLocation path := by
  simp only [Disk.ownLocation, walk, alike.start, follow_congr alike.entries, alike.goal]

/-- A path leads to a directory on both disks, or on none. -/
theorem isDirectory (alike : Alike one two) (path : String) :
    one.isDirectory path = two.isDirectory path := by
  simp only [Disk.isDirectory, alike.resolve, alike.entries]

/-- A path is written in one way. -/
theorem canonical (alike : Alike one two) (path : String) :
    one.canonical path = two.canonical path := by
  simp only [Disk.canonical, alike.resolve]

/-- What lies directly inside a location is listed on both disks, in some order. -/
theorem children (alike : Alike one two) (location : Location) :
    (one.children location).Perm (two.children location) := by
  -- Both lists have each of their names once, and the same ones.
  refine (List.perm_ext_iff_of_nodup (nodup_children one location)
    (nodup_children two location)).2 ?_
  rintro ⟨name, entry⟩
  rw [mem_children_iff, mem_children_iff, alike.entries]

/-- Nothing lies inside a location on both disks, or on none. -/
theorem isEmptyAt (alike : Alike one two) (location : Location) :
    one.isEmptyAt location = two.isEmptyAt location := by
  -- An order does not matter where there is nothing to be put in order.
  rw [Disk.isEmptyAt, Disk.isEmptyAt, Bool.eq_iff_iff, List.isEmpty_iff, List.isEmpty_iff]
  exact ⟨fun none => List.nil_perm.1 (none ▸ alike.children location),
    fun none => List.perm_nil.1 (none ▸ alike.children location)⟩

/-- An entry is put on both disks, or on none. -/
theorem put (alike : Alike one two) (location : Location) (entry : Entry) :
    Alike (one.put location entry) (two.put location entry) := by
  -- Whether a disk takes an entry depends on what lies there and above.
  have fits : one.accepts location entry = two.accepts location entry := by
    simp only [accepts, alike.entries]
  refine ⟨by simp [alike.home], fun other => ?_⟩
  cases accepted : two.accepts location entry with
  | true => rw [entryAt?_put (fits.trans accepted), entryAt?_put accepted, alike.entries]
  | false =>
    rw [accepted] at fits
    simpa [Disk.put, fits, accepted] using alike.entries other

/-- An entry is erased from both disks, or from none. -/
theorem erase (alike : Alike one two) (location : Location) :
    Alike (one.erase location) (two.erase location) := by
  refine ⟨by simp [alike.home], fun other => ?_⟩
  -- Only what has nothing inside is erased.
  have empty := alike.isEmptyAt location
  cases bare : two.isEmptyAt location with
  | false =>
    rw [bare] at empty
    simpa [Disk.erase, empty, bare] using alike.entries other
  | true =>
    rw [bare] at empty
    by_cases inside : location = []
    · -- No entry is kept for the root, so that none is erased.
      subst inside
      have stays {disk : Disk} (empty : disk.isEmptyAt [] = true) (name : String)
          (names : List String) :
          (disk.erase []).entryAt? (name :: names) = disk.entryAt? (name :: names) := by
        simp only [Disk.erase, dif_pos empty, entryAt?]
        exact lookUp_filter fun item _ here => by simp [here]
      cases other with
      | nil => rw [entryAt?_nil, entryAt?_nil]
      | cons name names => rw [stays empty, stays bare, alike.entries]
    · rw [entryAt?_erase inside (isEmptyAt_iff.1 empty), entryAt?_erase inside (isEmptyAt_iff.1 bare),
        alike.entries]

/-- What lies below a location is erased from both disks. -/
theorem eraseBelow (alike : Alike one two) (location : Location) :
    Alike (one.eraseBelow location) (two.eraseBelow location) := by
  refine ⟨alike.home, fun other => ?_⟩
  rw [entryAt?_eraseBelow, entryAt?_eraseBelow, alike.entries]

end Alike

/-- Two ways to change a disk succeed with disks that are alike, or fail in one way. -/
inductive AlikeResult : Except SystemError Disk → Except SystemError Disk → Prop where
  | ok {one two : Disk} (alike : Alike one two) : AlikeResult (.ok one) (.ok two)
  | error {error : SystemError} : AlikeResult (.error error) (.error error)

/-- What has been read in one way is gone on with in two ways whose results are alike. -/
theorem AlikeResult.bind {α : Type} {read : Except SystemError α}
    {next next' : α → Except SystemError Disk}
    (tail : ∀ value, AlikeResult (next value) (next' value)) :
    AlikeResult (read >>= next) (read >>= next') := by
  cases read with
  | error error => exact .error
  | ok value => exact tail value

namespace Alike

/-- A directory is made on both disks, or on none. -/
theorem withDirectory (alike : Alike one two) (path : String) :
    AlikeResult (one.withDirectory path) (two.withDirectory path) := by
  simp only [Disk.withDirectory, alike.start, alike.goal, alike.entries]
  refine .bind fun route => .bind fun goal => ?_
  -- Only a name that is free is made a directory.
  cases goal with
  | unnamed => exact .error
  | named parent name =>
    dsimp only
    cases two.entryAt? (parent ++ [name]) with
    | some entry => exact .error
    | none => exact .ok (alike.put _ _)

/-- A file is written on both disks, or on none. -/
theorem withFile (alike : Alike one two) (path content : String) :
    AlikeResult (one.withFile path content) (two.withFile path content) := by
  simp only [Disk.withFile, alike.start, writeGoal_congr alike.entries]
  exact .bind fun route => .bind fun location => .ok (alike.put _ _)

/-- A directory is removed from both disks, or from none. -/
theorem withoutDirectory (alike : Alike one two) (path : String) :
    AlikeResult (one.withoutDirectory path) (two.withoutDirectory path) := by
  have empty := alike.isEmptyAt
  simp only [Disk.isEmptyAt] at empty
  simp only [Disk.withoutDirectory, alike.start, alike.goal, alike.entries, empty]
  refine .bind fun route => .bind fun goal => ?_
  cases goal with
  | unnamed location step => cases step <;> exact .error
  | named parent name =>
    dsimp only
    cases two.entryAt? (parent ++ [name]) with
    | none => exact .error
    | some entry =>
      cases entry with
      | directory =>
        -- Only an empty one is taken away.
        dsimp only
        split
        · exact .ok (alike.erase _)
        · exact .error
      | _ => exact .error

end Alike

/-- A change that succeeds or leaves the disk as it is sees nothing if its results are alike. -/
theorem attempt_blind {change : Disk → Except SystemError Disk}
    (changes : ∀ one two, Alike one two → AlikeResult (change one) (change two)) :
    Blind Alike (attempt change) := by
  intro one two alike
  -- A change that fails leaves both disks as they were, and so alike.
  have results := changes one two alike
  simp only [attempt]
  generalize change one = left at results
  generalize change two = right at results
  cases results with
  | ok made => exact .ok made
  | error => exact .error alike

/-- Whether something is missing on the way to a path is the same on both disks. -/
theorem Alike.lacksAbove (alike : Alike one two) (path : String) :
    one.lacksAbove path = two.lacksAbove path := by
  have results := alike.withDirectory path
  simp only [Disk.lacksAbove]
  generalize one.withDirectory path = left at results
  generalize two.withDirectory path = right at results
  cases results <;> rfl

/-- Making a path a directory does not tell disks apart that are alike. -/
theorem makeDirectory_blind (path : String) : Blind Alike (makeDirectory path) := by
  intro one two alike
  have results := alike.withDirectory path
  simp only [makeDirectory, alike.isDirectory]
  generalize one.withDirectory path = left at results
  generalize two.withDirectory path = right at results
  cases results with
  | ok made => exact .ok made
  | error =>
    -- What cannot be made may be there already.
    dsimp only
    split
    · exact .ok alike
    · exact .error alike

/-- Making the paths above a path directories does not tell disks apart that are alike. -/
theorem makeAll_blind (paths : List String) : Blind Alike (makeAll paths) := by
  induction paths with
  | nil => exact .throw _
  | cons path above ih =>
    unfold makeAll
    split
    · exact .pure _
    -- All that is looked at is whether something is missing above the path.
    · refine .get_bind (Disk.lacksAbove · path)
        (fun lacks => do
          if lacks then makeAll above
          makeDirectory path)
        (fun one two (alike : Alike one two) => alike.lacksAbove path) fun lacks => ?_
      cases lacks with
      | true => exact ih.bind fun _ => makeDirectory_blind path
      | false => exact makeDirectory_blind path

/-- Making a path a directory with all that is above it does not tell disks apart that are alike. -/
theorem makeDirectories_blind (path : String) : Blind Alike (makeDirectories path) :=
  makeAll_blind _

/-- Making the path above a path a directory does not tell disks apart that are alike. -/
theorem makeAbove_blind (path : String) : Blind Alike (makeAbove path) := by
  unfold makeAbove
  split
  · exact .pure _
  · exact makeDirectories_blind _

/-- Writing a file does not tell disks apart that are alike. -/
theorem writeFile_blind (path content : String) : Blind Alike (writeFile path content) :=
  (makeAbove_blind path).bind fun _ =>
    attempt_blind fun _ _ alike => alike.withFile path content

/-- Removes a directory that has been emptied, if its path still leads there. -/
def removeEmptied (path : String) : Action Unit := fun disk =>
  match disk.withoutDirectory path with
  | .ok left => .ok () left
  | .error error => if error = .notFound then .ok () disk else .error error disk

/-- Removing the directory that a path names empties it and then takes it away. -/
theorem removeTree_of_directory (own : disk.ownLocation path = .ok location)
    (directory : disk.entryAt? location = some .directory) :
    removeTree path disk = removeEmptied path (disk.eraseBelow location) := by
  simp only [removeTree, own, directory]
  rfl

/-- Removing an emptied directory does not tell disks apart that are alike. -/
theorem removeEmptied_blind (path : String) : Blind Alike (removeEmptied path) := by
  intro one two alike
  -- The directory that is missing already counts as removed on both.
  have results := alike.withoutDirectory path
  simp only [removeEmptied]
  generalize one.withoutDirectory path = left at results
  generalize two.withoutDirectory path = right at results
  cases results with
  | ok removed => exact .ok removed
  | error =>
    dsimp only
    split
    · exact .ok alike
    · exact .error alike

/-- Removing a directory does not tell disks apart that are alike. -/
theorem removeTree_blind (path : String) : Blind Alike (removeTree path) := by
  intro one two alike
  -- The path names one location on both disks, and one kind of entry lies there.
  have own := alike.ownLocation path
  cases named : two.ownLocation path with
  | error error =>
    rw [named] at own
    simpa only [removeTree, own, named] using .error alike
  | ok location =>
    rw [named] at own
    have same := alike.entries location
    cases found : two.entryAt? location with
    | none =>
      rw [found] at same
      simpa only [removeTree, own, named, same, found] using .error alike
    | some entry =>
      rw [found] at same
      cases entry with
      | file content => simpa only [removeTree, own, named, same, found] using .error alike
      | link target =>
        simpa only [removeTree, own, named, same, found] using .ok (alike.erase location)
      | directory =>
        -- What lies in the directory is gone from both disks, whether or not the directory can go.
        rw [removeTree_of_directory own same, removeTree_of_directory named found]
        exact removeEmptied_blind path _ _ (alike.eraseBelow location)

/-- Clearing a path comes to the same end as removing it does. -/
theorem clear_ends (ends : Ends Alike (removeTree path one) (removeTree path two)) :
    Ends Alike (clear path one) (clear path two) := by
  -- That nothing was found there is the one failure that is put up with.
  simp only [clear]
  generalize removeTree path one = left at ends
  generalize removeTree path two = right at ends
  cases ends with
  | ok removed => exact .ok removed
  | error removed =>
    dsimp only
    split
    · exact .ok removed
    · exact .error removed

/-- Clearing a directory does not tell disks apart that are alike. -/
theorem clear_blind (path : String) : Blind Alike (clear path) :=
  fun one two alike => clear_ends (removeTree_blind path one two alike)

end AuditStage.Disk
