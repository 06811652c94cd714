import AuditStage.Proofs.Disk.Above
import AuditStage.Proofs.Disk.Clearing
import AuditStage.Proofs.Disk.Making

/-! Directories that are made where nothing was: as long as a path never leads up, nothing lies below
the directory that it is made. -/

namespace AuditStage.Disk

variable {disk before between after : Disk} {path shorter : String} {above : List String}

/-- A path leads to a directory below which nothing lies. -/
def Fresh (disk : Disk) (path : String) : Prop :=
  ∃ location, disk.resolve path = .ok location ∧ disk.entryAt? location = some .directory ∧
    disk.Bare location

/-- Nothing is missing above a path whose last step stands for something. -/
theorem lacksAbove_of_goal {route : Route} {goal : Goal} (taken : route? path = .ok route)
    (reached : disk.goal linkLimit (disk.start route) route.steps = .ok goal) :
    disk.lacksAbove path = false := by
  have other : SystemError.exists_ ≠ SystemError.notFound := by decide
  simp only [lacksAbove, withDirectory, taken, bind, Except.bind, reached]
  -- The only failure left is that something is there already.
  cases goal with
  | unnamed location step => simp [other]
  | named parent name =>
    cases free : disk.entryAt? (parent ++ [name]) with
    | none => simp [free]
    | some entry => simp [free, other]

/-- No directory can be put where the last step of a path stands for something already. -/
theorem withDirectory_of_present {route : Route} {goal : Goal} {entry : Entry}
    (taken : route? path = .ok route)
    (reached : disk.goal linkLimit (disk.start route) route.steps = .ok goal)
    (present : disk.entryAt? goal.location = some entry) :
    disk.withDirectory path = .error .exists_ := by
  simp only [withDirectory, taken, bind, Except.bind, reached]
  -- Whether the goal has a name or not, there is something already.
  cases goal with
  | unnamed location step => rfl
  | named parent name =>
    simp only [Goal.location] at present
    simp only [present]

/-- Nothing is made for a path that leads somewhere already. -/
theorem makeAll_of_resolve {location : Location} (resolved : before.resolve path = .ok location)
    (made : makeAll (path :: above) before = .ok () after) : after = before := by
  obtain ⟨goal, entry, taken, reached, present, -⟩ := goal_of_resolve resolved
  rw [makeAll_of_known (ne_empty_of_resolve resolved) (lacksAbove_of_goal taken reached)] at made
  -- The one directory that is left to make is refused, as it is there.
  have refused := withDirectory_of_present taken reached present
  simp only [makeDirectory, refused] at made
  split at made
  · cases made
    rfl
  · cases made

/-- A directory that is made for a path that led nowhere has been put on the disk. -/
theorem withDirectory_of_makeDirectory (missing : ∀ location, before.resolve path ≠ .ok location)
    (made : makeDirectory path before = .ok () after) : before.withDirectory path = .ok after := by
  rcases makeDirectory_ok made with new | ⟨-, directory⟩
  · exact new
  · obtain ⟨location, resolved, -⟩ := isDirectory_iff.1 directory
    exact absurd resolved (missing location)

/-- A directory that is made for a path that led nowhere has nothing below it. -/
theorem fresh_of_makeDirectory (missing : ∀ location, before.resolve path ≠ .ok location)
    (made : makeDirectory path before = .ok () after) : Fresh after path := by
  obtain ⟨parent, name, -, -, -, free, accepted, rfl, resolved⟩ :=
    withDirectory_ok (withDirectory_of_makeDirectory missing made)
  refine ⟨parent ++ [name], resolved, by rw [entryAt?_put accepted, if_pos rfl], fun names further => ?_⟩
  -- Nothing can lie below a location where nothing was.
  rw [entryAt?_put accepted, if_neg (by simpa using further)]
  exact bare_of_entryAt?_ne (by simp [free]) names further

/-- A path that goes on by a name from a directory below which nothing lies leads nowhere. -/
theorem Fresh.resolve_ne {last : String} (fresh : Fresh disk shorter)
    (lead : Path.isAbsolute path = Path.isAbsolute shorter)
    (split : dropDots (Path.steps path) = dropDots (Path.steps shorter) ++ [last])
    (plain : Path.isPlain last = true) (location : Location) : disk.resolve path ≠ .ok location := by
  intro resolved
  obtain ⟨held, reaches, -, bare⟩ := fresh
  obtain ⟨links, spare, further⟩ := follow_of_resolve_further reaches lead split resolved
  -- The name is missing in the directory of the shorter path.
  have nothing := bare [last] (by simp)
  obtain ⟨-, here, up, -⟩ := Path.isPlain_iff.1 plain
  cases follow_iff_leads.1 further with
  | here => exact here rfl
  | up => exact up rfl
  | down _ _ _ _ found => simp [nothing] at found
  | link _ _ _ _ found => simp [nothing] at found

/-- A path that led nowhere is made a directory last of all, if it still leads nowhere once the paths
above it have been made; up to then nothing is lost. -/
theorem makeDirectory_of_makeAll (filled : path ≠ "")
    (missing : ∀ location, before.resolve path ≠ .ok location)
    (climb : ∀ between, makeAll above before = .ok () between →
      ∀ location, between.resolve path ≠ .ok location)
    (made : makeAll (path :: above) before = .ok () after) :
    ∃ between, Grows before between ∧ (∀ location, between.resolve path ≠ .ok location) ∧
      makeDirectory path between = .ok () after := by
  -- Whether or not something above is made first, the path itself is made last.
  cases lacks : before.lacksAbove path with
  | false =>
    exact ⟨before, refl_of Grows before, missing, makeAll_of_known filled lacks ▸ made⟩
  | true =>
    rw [makeAll_of_missing filled lacks] at made
    obtain ⟨_, between, first, last⟩ := Effect.bind_ok made
    exact ⟨between, ((makeAll_adds above).of_ok first).toGrows, climb between first, last⟩

/-- A path of which no component leads up has no step that does, the dots apart. -/
theorem up_notMem_dropDots (down : .up ∉ Path.components path) :
    ".." ∉ dropDots (Path.steps path) := fun up =>
  Path.up_notMem_steps down (List.mem_filter.1 up).1

/-- A path that led nowhere and never leads up does not lead anywhere once the paths above it have been
made. -/
theorem resolve_ne_of_climb (down : ".." ∉ dropDots (Path.steps path))
    (missing : ∀ location, before.resolve path ≠ .ok location)
    (climbed : makeAll (Path.pathsAbove path) before = .ok () between) :
    ∀ location, between.resolve path ≠ .ok location := by
  -- The induction goes up from path to path: the last step is missing in the directory above.
  induction path using Path.pathsAbove_induct generalizing between with
  | top path none =>
    rw [none] at climbed
    cases climbed
  | loose path last =>
    rw [last] at climbed
    cases climbed
    exact missing
  | below path parent last more filled lead split ih =>
    rw [more] at climbed
    rw [split] at down
    by_cases there : ∃ location, before.resolve parent = .ok location
    · obtain ⟨location, resolved⟩ := there
      exact makeAll_of_resolve resolved climbed ▸ missing
    · have nowhere := not_exists.1 there
      have shorter : ".." ∉ dropDots (Path.steps parent) := fun inside =>
        down (List.mem_append_left _ inside)
      obtain ⟨early, -, absent, made⟩ := makeDirectory_of_makeAll filled nowhere
        (fun _ climbed => ih shorter nowhere climbed) climbed
      refine (fresh_of_makeDirectory absent made).resolve_ne lead.symm split ?_
      -- The last step is one of the path, and neither a dot nor a way up.
      have member : last ∈ dropDots (Path.steps path) := by simp [split]
      obtain ⟨inside, undotted⟩ := List.mem_filter.1 member
      refine Path.isPlain_of_mem_steps inside (of_decide_eq_true undotted) ?_
      rintro rfl
      simp at down

/-- A path that led nowhere and never leads up is made a directory last of all, where it still leads
nowhere; up to then nothing is lost. -/
theorem makeDirectory_of_makeDirectories (filled : path ≠ "") (down : .up ∉ Path.components path)
    (missing : ∀ location, before.resolve path ≠ .ok location)
    (made : makeDirectories path before = .ok () after) :
    ∃ between, Grows before between ∧ (∀ location, between.resolve path ≠ .ok location) ∧
      makeDirectory path between = .ok () after :=
  makeDirectory_of_makeAll filled missing
    (fun _ climbed => resolve_ne_of_climb (up_notMem_dropDots down) missing climbed) made

/-- A path that led nowhere and never leads up is made a directory with nothing below it. -/
theorem fresh_of_makeDirectories (filled : path ≠ "") (down : .up ∉ Path.components path)
    (missing : ∀ location, before.resolve path ≠ .ok location)
    (made : makeDirectories path before = .ok () after) : Fresh after path := by
  obtain ⟨between, -, absent, last⟩ := makeDirectory_of_makeDirectories filled down missing made
  exact fresh_of_makeDirectory absent last

/-- A path that led nowhere and never leads up is made a directory where nothing was. -/
theorem free_of_makeDirectories (down : .up ∉ Path.components path)
    (missing : ∀ location, before.resolve path ≠ .ok location)
    (made : makeDirectories path before = .ok () after) (resolved : after.resolve path = .ok location) :
    before.entryAt? location = none := by
  obtain ⟨between, grows, absent, last⟩ :=
    makeDirectory_of_makeDirectories (ne_empty_of_resolve resolved) down missing made
  obtain ⟨parent, name, -, -, -, free, -, -, leads⟩ :=
    withDirectory_ok (withDirectory_of_makeDirectory absent last)
  obtain rfl : location = parent ++ [name] := Except.ok.inj (resolved.symm.trans leads)
  -- What is free once the paths above have been made was free before.
  exact grows.free free

/-- A path that never leads up, cleared and made a directory anew, has one where nothing was left, and
nothing lies below it. -/
theorem bare_of_anew {disk : Disk} (down : .up ∉ Path.components path)
    (clearing : clear path disk = .ok () before) (making : makeDirectories path before = .ok () after)
    (resolved : after.resolve path = .ok location) :
    before.entryAt? location = none ∧ after.Bare location := by
  -- Once it is cleared the path leads nowhere, so all of it is new when it is made.
  have missing : ∀ found, before.resolve path ≠ .ok found := fun _ => resolve_ne_of_clear clearing
  obtain ⟨found, leads, -, bare⟩ :=
    fresh_of_makeDirectories (ne_empty_of_resolve resolved) down missing making
  obtain rfl : location = found := Except.ok.inj (resolved.symm.trans leads)
  exact ⟨free_of_makeDirectories down missing making resolved, bare⟩

/-- A path that never leads up was a directory before it was made one exactly if there was a directory
where it leads. -/
theorem isDirectory_iff_of_makeDirectories (down : .up ∉ Path.components path)
    (made : makeDirectories path before = .ok () after) (resolved : after.resolve path = .ok location) :
    before.isDirectory path = true ↔ before.entryAt? location = some .directory := by
  have grows : Grows before after := ((makeDirectories_adds path).of_ok made).toGrows
  have same {found : Location} (leads : before.resolve path = .ok found) : found = location :=
    Except.ok.inj ((grows.resolve leads).symm.trans resolved)
  constructor
  · intro known
    obtain ⟨found, leads, directory⟩ := isDirectory_iff.1 known
    exact same leads ▸ directory
  · intro directory
    -- If the path had led nowhere, a new directory would have been made for it.
    by_cases there : ∃ found, before.resolve path = .ok found
    · obtain ⟨found, leads⟩ := there
      exact isDirectory_iff.2 ⟨found, leads, same leads ▸ directory⟩
    · have free := free_of_makeDirectories down (not_exists.1 there) made resolved
      rw [free] at directory
      cases directory

/-- What is made for a path that never leads up lies on the way to where the path leads. -/
theorem prefix_of_makeDirectories {root : Location} (down : .up ∉ Path.components path)
    (made : makeDirectories path before = .ok () after) (resolved : after.resolve path = .ok root)
    (changed : after.entryAt? location ≠ before.entryAt? location) : location <+: root := by
  have adds := (makeDirectories_adds path).of_ok made
  obtain ⟨other, reaches, ⟨member, free, -⟩ | ⟨never, -⟩⟩ := adds.reached location changed
  swap
  · exact never.elim
  rcases List.mem_cons.1 member with rfl | above
  · obtain rfl : location = root := Except.ok.inj (reaches.symm.trans resolved)
    exact List.prefix_rfl
  -- A path above leads to a new directory, and the path goes on from there.
  obtain ⟨lead, rest, -, split⟩ := Path.of_mem_pathsAbove above (ne_empty_of_resolve reaches)
  obtain ⟨links, spare, walked⟩ := follow_of_resolve_further reaches lead.symm split resolved
  have level : ".." ∉ rest := fun up =>
    up_notMem_dropDots down (split ▸ List.mem_append_right _ up)
  have empty : before.Bare location := bare_of_entryAt?_ne (by simp [free])
  have straight := follow_downward level (fun names further _ target linked => ?_) walked
  · exact straight.1 ▸ List.prefix_append _ _
  · -- A link below the new directory would have been there before.
    have found := adds.linked linked
    rw [empty names further] at found
    cases found

end AuditStage.Disk
