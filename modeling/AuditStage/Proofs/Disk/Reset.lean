import AuditStage.Proofs.Disk.Alike
import AuditStage.Proofs.Disk.Clearing

/-! Two disks that differ in one directory alone: once the directory has been cleared they differ in
nothing. -/

namespace AuditStage.Disk

open Effect (Blind Ends)

variable {disk one two : Disk} {base location : Location} {path : String}

/-- Two disks are alike but for what lies at a location and below it. -/
structure AlikeOutside (base : Location) (one two : Disk) : Prop where
  home : one.home = two.home
  outside : ∀ location, ¬base <+: location → one.entryAt? location = two.entryAt? location

/-- There is a directory at a location, or nothing. -/
def Plain (disk : Disk) (location : Location) : Prop :=
  disk.entryAt? location = none ∨ disk.entryAt? location = some .directory

/-- The last step of a path stands for a location, whatever lies there. -/
def Names (disk : Disk) (path : String) (location : Location) : Prop :=
  ∃ route goal, route? path = .ok route ∧
    disk.goal linkLimit (disk.start route) route.steps = .ok goal ∧ goal.location = location

/-- Where the last step of a path is no name, it stands for a directory. -/
theorem directory_of_unnamed {route : Route} {step : Option String} (taken : route? path = .ok route)
    (reached : disk.goal linkLimit (disk.start route) route.steps = .ok (.unnamed location step)) :
    disk.entryAt? location = some .directory := by
  obtain ⟨fits, rfl⟩ := route?_ok_iff.1 taken
  obtain ⟨spare, approached⟩ := goal_ok_iff.1 reached
  rcases approach_unnamed approached with ⟨still, rfl, -⟩ | ⟨front, parent, -, above, last⟩
  · -- A path without steps is one of slashes, and leads to the root.
    have filled : path ≠ "" := by rintro rfl; simp [isPath] at fits
    have absolute : (Route.ofPath path).absolute = true := Path.isAbsolute_of_steps_nil filled still
    rw [Disk.start, if_pos absolute]
    rfl
  · rcases last with ⟨-, rfl⟩ | ⟨-, rfl⟩
    · exact above
    · exact directory_dropLast above

/-- A path names the directory that its last step stands for. -/
theorem Names.ownLocation (named : Names disk path location)
    (directory : disk.entryAt? location = some .directory) : disk.ownLocation path = .ok location := by
  obtain ⟨route, goal, taken, reached, rfl⟩ := named
  exact ownLocation_of_directory taken reached directory

/-- A path leads to the directory that its last step stands for. -/
theorem Names.resolve (named : Names disk path location)
    (directory : disk.entryAt? location = some .directory) : disk.resolve path = .ok location := by
  obtain ⟨route, goal, taken, reached, rfl⟩ := named
  obtain ⟨fits, rfl⟩ := route?_ok_iff.1 taken
  obtain ⟨spare, approached⟩ := goal_ok_iff.1 reached
  exact resolve_ok_iff.2
    ⟨fits, spare, follow_allSteps (follow_of_approach approached directory) directory⟩

/-- What is alike but for one location where nothing lies on either disk is alike. -/
theorem AlikeOutside.alike (outside : AlikeOutside base one two) (free : one.entryAt? base = none)
    (free' : two.entryAt? base = none) : Alike one two := by
  refine ⟨outside.home, fun location => ?_⟩
  by_cases below : base <+: location
  · -- Nothing lies below a location where nothing is.
    obtain ⟨names, rfl⟩ := below
    by_cases here : names = []
    · simp [here, free, free']
    · rw [bare_of_entryAt?_ne (by simp [free]) names here,
        bare_of_entryAt?_ne (by simp [free']) names here]
  · exact outside.outside location below

/-- What is alike but for one directory is alike once the directory has been emptied. -/
theorem AlikeOutside.emptied (outside : AlikeOutside base one two)
    (directory : one.entryAt? base = some .directory)
    (directory' : two.entryAt? base = some .directory) :
    Alike (one.eraseBelow base) (two.eraseBelow base) := by
  -- At the location a directory lies on both, and below it nothing is left.
  refine ⟨outside.home, fun location => ?_⟩
  rw [entryAt?_eraseBelow, entryAt?_eraseBelow]
  by_cases below : base <+: location
  · by_cases here : location = base
    · simp [here, directory, directory']
    · simp [below, here]
  · simp [below, outside.outside location below]

/-- A disk with an emptied directory has all that a disk has that is alike but for the directory. -/
theorem AlikeOutside.grows (outside : AlikeOutside base one two) (free : two.entryAt? base = none) :
    Grows two (one.eraseBelow base) := by
  refine .of_found outside.home fun location entry found => ?_
  -- Whatever lies on the other disk does not lie below the location.
  have apart : ¬base <+: location := by
    rintro ⟨names, rfl⟩
    by_cases here : names = []
    · simp [here, free] at found
    · have bare : two.Bare base := bare_of_entryAt?_ne (by simp [free])
      simp [bare names here] at found
  rw [entryAt?_eraseBelow, if_neg fun below => apart below.1, outside.outside _ apart]
  exact found

/-- An empty directory that a path names is removed. -/
theorem withoutDirectory_of_named {route : Route} {parent : Location} {name : String}
    (taken : route? path = .ok route)
    (reached : disk.goal linkLimit (disk.start route) route.steps = .ok (.named parent name))
    (directory : disk.entryAt? (parent ++ [name]) = some .directory)
    (bare : disk.Bare (parent ++ [name])) :
    disk.withoutDirectory path = .ok (disk.erase (parent ++ [name])) := by
  -- That nothing lies below is what the removal asks for.
  have empty := isEmptyAt_iff.2 bare
  simp only [isEmptyAt] at empty
  simp only [withoutDirectory, taken, bind, Except.bind, reached, directory, if_pos empty]

/-- Nothing lies below what has been emptied. -/
theorem bare_eraseBelow : (disk.eraseBelow location).Bare location := by
  intro names further
  rw [entryAt?_eraseBelow, if_pos ⟨List.prefix_append _ _, by simpa using further⟩]

/-- What is alike but for one location is alike once all of it is gone, where it is missing. -/
theorem AlikeOutside.erased (outside : AlikeOutside base one two) (inside : base ≠ [])
    (free : two.entryAt? base = none) : Alike ((one.eraseBelow base).erase base) two := by
  refine ⟨?_, fun location => ?_⟩
  · rw [home_erase]
    exact outside.home
  · rw [entryAt?_erase inside bare_eraseBelow, entryAt?_eraseBelow]
    by_cases below : base <+: location
    · obtain ⟨names, rfl⟩ := below
      by_cases here : names = []
      · simp [here, free]
      · have bare : two.Bare base := bare_of_entryAt?_ne (by simp [free])
        simp [here, bare names here]
    · -- What does not lie below is not the location itself either.
      have other : location ≠ base := by rintro rfl; exact below List.prefix_rfl
      simp [below, other, outside.outside location below]

/-- Clearing a directory takes it away where the path names it also while it is missing. -/
theorem AlikeOutside.cleared (outside : AlikeOutside base one two)
    (directory : one.entryAt? base = some .directory) (free : two.entryAt? base = none)
    (named : Names one path base) (named' : Names two path base) :
    ∃ left, clear path one = .ok () left ∧ Alike left two := by
  obtain ⟨route, goal, taken, reached, same⟩ := named'
  cases goal with
  | unnamed location step =>
    -- What is missing can only be named.
    have present := directory_of_unnamed taken reached
    rw [show location = base from same, free] at present
    cases present
  | named parent name =>
    obtain rfl : parent ++ [name] = base := same
    -- The way to the directory does not lead through it, so it is still found to be removed.
    have grows := outside.grows free
    have found := grows.goal reached
    rw [← grows.start route] at found
    have stays : (one.eraseBelow (parent ++ [name])).entryAt? (parent ++ [name]) =
        some .directory := by
      rw [entryAt?_eraseBelow, if_neg (by simp), directory]
    have removed := withoutDirectory_of_named taken found stays bare_eraseBelow
    refine ⟨_, ?_, outside.erased (by simp) free⟩
    simp only [clear, removeTree_of_directory (named.ownLocation directory) directory,
      removeEmptied, removed]

/-- There is nothing to be cleared at a location where nothing lies. -/
theorem Names.clear_free (named : Names disk path base) (free : disk.entryAt? base = none) :
    clear path disk = .ok () disk := by
  obtain ⟨route, goal, taken, reached, same⟩ := named
  cases goal with
  | unnamed location step =>
    have present := directory_of_unnamed taken reached
    rw [show location = base from same, free] at present
    cases present
  | named parent name =>
    obtain rfl : parent ++ [name] = base := same
    by_cases trailing : route.trailing = true
    · -- The walk that a slash at the end asks for comes to its end at the missing name.
      have missing : disk.ownLocation path = .error .notFound := by
        obtain ⟨spare, approached⟩ := goal_ok_iff.1 reached
        obtain ⟨front, split, walked, directory, here, up, short⟩ := approach_named_iff.1 approached
        have ended : disk.follow spare parent [name] = .error .notFound := by
          rw [follow_name here up, if_neg (not_not.2 directory), short, free]
          rfl
        simp only [Disk.ownLocation, taken, bind, Except.bind, if_pos trailing, walk,
          Route.allSteps, split, List.append_assoc, follow_append, walked, ended]
        rfl
      simp [clear, removeTree, missing]
    · have own : disk.ownLocation path = .ok (parent ++ [name]) := by
        simp [Disk.ownLocation, taken, bind, Except.bind, trailing, reached, Except.map, Goal.location]
      simp [clear, removeTree, own, free]

/-- A disk is like itself. -/
theorem Alike.refl (disk : Disk) : Alike disk disk :=
  ⟨rfl, fun _ => rfl⟩

/-- Order plays no part in whether two disks are alike. -/
theorem Alike.symm (alike : Alike one two) : Alike two one :=
  ⟨alike.home.symm, fun location => (alike.entries location).symm⟩

/-- Order plays no part in whether two disks are alike outside a location. -/
theorem AlikeOutside.symm (outside : AlikeOutside base one two) : AlikeOutside base two one :=
  ⟨outside.home.symm, fun location apart => (outside.outside location apart).symm⟩

/-- How a path and a location belong together on two disks: the path names the location on both, or
nothing lies there on either. -/
def NamesOrMissing (path : String) (base : Location) (one two : Disk) : Prop :=
  (Names one path base ∧ Names two path base) ∨
    (one.entryAt? base = none ∧ two.entryAt? base = none)

/-- Disks that are alike but for one directory, or its absence, are alike once it has been cleared, and
clearing it comes to the same end on both. -/
theorem AlikeOutside.clear_alike (outside : AlikeOutside base one two) (plain : Plain one base)
    (plain' : Plain two base) (named : NamesOrMissing path base one two) :
    Ends Alike (clear path one) (clear path two) := by
  -- The four cases are whether there is a directory on the one disk and on the other.
  rcases plain with free | directory <;> rcases plain' with free' | directory'
  · exact clear_blind path one two (outside.alike free free')
  all_goals
    -- Where there is a directory on one of the disks, the path names it on both.
    obtain ⟨named, named'⟩ := named.resolve_right fun missing => by simp_all
  · obtain ⟨left, cleared, alike⟩ := outside.symm.cleared directory' free named' named
    rw [named.clear_free free, cleared]
    exact .ok alike.symm
  · obtain ⟨left, cleared, alike⟩ := outside.cleared directory free' named named'
    rw [named'.clear_free free', cleared]
    exact .ok alike
  · refine clear_ends ?_
    rw [removeTree_of_directory (named.ownLocation directory) directory,
      removeTree_of_directory (named'.ownLocation directory') directory']
    exact removeEmptied_blind path _ _ (outside.emptied directory directory')

/-- A disk is like itself outside any location. -/
theorem AlikeOutside.refl (disk : Disk) : AlikeOutside base disk disk :=
  ⟨rfl, fun _ _ => rfl⟩

/-- What is put at a location or below it makes no difference outside. -/
theorem AlikeOutside.put (outside : AlikeOutside base one two) (below : base <+: location)
    (entry : Entry) : AlikeOutside base (one.put location entry) two := by
  -- A location outside is none that lies at or below the one that is changed.
  refine ⟨by simp [outside.home], fun other apart => ?_⟩
  rw [← outside.outside other apart]
  by_cases fits : one.accepts location entry = true
  · rw [entryAt?_put fits, if_neg]
    rintro rfl
    exact apart below
  · simp [Disk.put, fits]

end AuditStage.Disk
