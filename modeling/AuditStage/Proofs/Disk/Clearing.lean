import AuditStage.Proofs.Disk.Growth
import AuditStage.Proofs.Effect

/-! What clearing a directory takes away, and that its path leads nowhere afterwards. -/

namespace AuditStage.Disk

variable {disk before after : Disk} {path : String} {location found : Location} {links spare : Nat}

/-- A walk that comes to its end finds something where its last step stands for, and if that is a
directory, the walk ends there. -/
theorem approach_of_follow {steps : List String} (going : steps ≠ [])
    (walked : disk.follow links location steps = .ok (found, spare)) :
    ∃ goal left entry, disk.approach links location steps = .ok (goal, left) ∧
      disk.entryAt? goal.location = some entry ∧
      ((∀ target, entry ≠ .link target) → found = goal.location) := by
  obtain ⟨front, step, rfl⟩ := (List.eq_nil_or_concat' steps).resolve_left going
  obtain ⟨⟨parent, left⟩, approached, last⟩ := follow_of_append walked
  have directory := directory_of_follow last
  -- The steps before the last lead to a directory, so the last one is looked at there.
  have opened : disk.approach links location (front ++ [step]) =
      if step = "." then .ok (.unnamed parent (some step), left)
      else if step = ".." then .ok (.unnamed parent.dropLast (some step), left)
      else if isLongName step then .error .nameTooLong
      else .ok (.named parent step, left) := by
    simp [approach, approached, directory, bind, Except.bind]
  -- The cases are those of the last step.
  cases follow_iff_leads.1 last with
  | here directory further =>
    cases further
    exact ⟨_, left, .directory, opened, directory, fun _ => rfl⟩
  | up directory further =>
    cases further
    exact ⟨_, left, .directory, opened, directory_dropLast directory, fun _ => rfl⟩
  | down directory here up short present real further =>
    cases further
    rw [if_neg here, if_neg up, short] at opened
    exact ⟨_, left, _, opened, present, fun _ => rfl⟩
  | link directory here up short present further =>
    rw [if_neg here, if_neg up, short] at opened
    exact ⟨_, _, _, opened, present, fun real => absurd rfl (real _)⟩

/-- The last step of a path that leads somewhere stands for something, and if that is no link, the path
leads there. -/
theorem goal_of_resolve (resolved : disk.resolve path = .ok found) :
    ∃ goal entry, route? path = .ok (Route.ofPath path) ∧
      disk.goal linkLimit (disk.start (Route.ofPath path)) (Route.ofPath path).steps = .ok goal ∧
      disk.entryAt? goal.location = some entry ∧
      ((∀ target, entry ≠ .link target) → found = goal.location) := by
  obtain ⟨fits, spare, walked⟩ := resolve_ok_iff.1 resolved
  have taken := route?_ok_iff.2 ⟨fits, rfl⟩
  -- A slash at the end leads on from the same place.
  have plain : ∃ spare, disk.follow linkLimit (disk.start (Route.ofPath path))
      (Route.ofPath path).steps = .ok (found, spare) := by
    unfold Route.allSteps at walked
    split at walked
    · obtain ⟨⟨middle, left⟩, first, last⟩ := follow_of_append walked
      obtain ⟨same, -⟩ := follow_here_ok last
      cases same
      exact ⟨_, first⟩
    · exact ⟨spare, walked⟩
  obtain ⟨spare, walked⟩ := plain
  by_cases going : (Route.ofPath path).steps = []
  · -- Only the root has a path without a step.
    have absolute := Path.isAbsolute_of_steps_nil (ne_empty_of_resolve resolved) going
    have root : disk.start (Route.ofPath path) = [] := by simp [start, Route.ofPath, absolute]
    rw [going, follow_nil, root] at walked
    cases walked
    refine ⟨.unnamed [] none, .directory, taken, ?_, rfl, fun _ => rfl⟩
    simp [goal, going, approach, root, Except.map]
  · obtain ⟨goal, left, entry, approached, present, same⟩ := approach_of_follow going walked
    exact ⟨goal, entry, taken, goal_ok_iff.2 ⟨left, approached⟩, present, same⟩

/-- A path that leads somewhere names something itself, and if that is no link, the path leads
there. -/
theorem ownLocation_of_resolve (resolved : disk.resolve path = .ok found) :
    ∃ location entry, disk.ownLocation path = .ok location ∧ disk.entryAt? location = some entry ∧
      ((∀ target, entry ≠ .link target) → found = location) := by
  obtain ⟨goal, entry, taken, reached, present, same⟩ := goal_of_resolve resolved
  simp only [ownLocation, taken, bind, Except.bind]
  -- With a slash at its end a path names what it leads to.
  split
  · rename_i trailing
    obtain ⟨fits, spare, walked⟩ := resolve_ok_iff.1 resolved
    have going : (Route.ofPath path).allSteps ≠ [] := by simp [Route.allSteps, trailing]
    obtain ⟨entry, present, real⟩ := isReal_of_follow going walked
    exact ⟨found, entry, by simp [walk, walked, Except.map], present, fun _ => rfl⟩
  · exact ⟨goal.location, entry, by simp [reached, Except.map], present, same⟩

/-- A path names the directory that its last step stands for, with a slash at its end or without. -/
theorem ownLocation_of_directory {route : Route} {goal : Goal} (taken : route? path = .ok route)
    (reached : disk.goal linkLimit (disk.start route) route.steps = .ok goal)
    (directory : disk.entryAt? goal.location = some .directory) :
    disk.ownLocation path = .ok goal.location := by
  simp only [ownLocation, taken, bind, Except.bind, reached]
  split
  · -- With a slash at its end the path is walked to the end, through the directory.
    obtain ⟨spare, approached⟩ := goal_ok_iff.1 reached
    rw [walk, follow_allSteps (follow_of_approach approached directory) directory]
    rfl
  · rfl

/-- A directory is removed at the location that its path names, where it has to be bare. -/
theorem withoutDirectory_ok (removed : before.withoutDirectory path = .ok after) :
    ∃ location, before.ownLocation path = .ok location ∧ location ≠ [] ∧
      before.entryAt? location = some .directory ∧ before.Bare location ∧
      after = before.erase location := by
  unfold withoutDirectory at removed
  -- Only a name in a directory, with an empty directory behind it, is removed.
  cases taken : route? path with
  | error error => simp [taken, bind, Except.bind] at removed
  | ok route =>
    simp only [taken, bind, Except.bind] at removed
    cases reached : before.goal linkLimit (before.start route) route.steps with
    | error error => simp [reached] at removed
    | ok goal =>
      simp only [reached] at removed
      cases goal with
      | unnamed location step => cases step <;> simp at removed
      | named parent name =>
        simp only at removed
        split at removed
        · cases removed
        · rename_i directory
          split at removed
          · rename_i empty
            cases removed
            refine ⟨parent ++ [name], ?_, by simp, directory, isEmptyAt_iff.1 empty, rfl⟩
            exact ownLocation_of_directory taken reached directory
          · cases removed
        · cases removed

/-- A path at which nothing is found to be removed leads nowhere. -/
theorem resolve_ne_of_withoutDirectory (missing : disk.withoutDirectory path = .error .notFound) :
    disk.resolve path ≠ .ok location := by
  intro resolved
  obtain ⟨goal, entry, taken, reached, present, -⟩ := goal_of_resolve resolved
  -- Whatever its last step stands for, the error is another one than that nothing is found.
  simp only [withoutDirectory, taken, bind, Except.bind, reached] at missing
  cases goal with
  | unnamed location step =>
    cases step with
    | none => exact absurd (Except.error.inj missing) (by decide)
    | some step =>
      dsimp only at missing
      split at missing <;> exact absurd (Except.error.inj missing) (by decide)
  | named parent name =>
    simp only [Goal.location] at present
    simp only [present] at missing
    cases entry with
    | directory =>
      dsimp only at missing
      split at missing
      · cases missing
      · exact absurd (Except.error.inj missing) (by decide)
    | file content => exact absurd (Except.error.inj missing) (by decide)
    | link target => exact absurd (Except.error.inj missing) (by decide)

/-- What is erased by itself is gone, and all else is as it was. -/
theorem grows_of_erase (inside : location ≠ []) (bare : disk.Bare location) :
    Grows (disk.erase location) disk := by
  -- What still lies somewhere is not what was erased.
  refine .of_found (home_erase location).symm fun other entry found => ?_
  rw [entryAt?_erase inside bare] at found
  split at found
  · cases found
  · exact found

/-- What is left when everything below a location is erased was there before. -/
theorem grows_of_eraseBelow : Grows (disk.eraseBelow location) disk := by
  -- What is still found has passed the filter.
  refine .of_found rfl fun other entry found => ?_
  rw [entryAt?_eraseBelow] at found
  split at found
  · cases found
  · exact found

/-- Removing a directory takes away nothing but what lies at the location that its path names, and
below. -/
structure Clears (path : String) (before after : Disk) : Prop where
  grows : Grows after before
  below : ∀ location, after.entryAt? location ≠ before.entryAt? location →
    ∃ root, before.ownLocation path = .ok root ∧ root <+: location

/-- Nothing is cleared where nothing changes. -/
theorem Clears.none (path : String) (disk : Disk) : Clears path disk disk :=
  ⟨refl_of Grows disk, fun _ changed => absurd rfl changed⟩

/-- Removing a directory clears its path, also when it fails. -/
theorem removeTree_clears (path : String) : Effect.Keeps (Clears path) (removeTree path) := by
  intro before
  have nothing := Clears.none path before
  cases own : before.ownLocation path with
  | error error => simpa only [Effect.after, removeTree, own] using nothing
  | ok root =>
    cases found : before.entryAt? root with
    | none => simpa only [Effect.after, removeTree, own, found] using nothing
    | some entry =>
      cases entry with
      | file content => simpa only [Effect.after, removeTree, own, found] using nothing
      | link target =>
        -- A link is taken away by itself.
        have inside : root ≠ [] := by rintro rfl; simp at found
        have bare : before.Bare root := bare_of_entryAt?_ne (by simp [found])
        simp only [Effect.after, removeTree, own, found]
        refine ⟨grows_of_erase inside bare, fun location changed => ⟨root, own, ?_⟩⟩
        rw [entryAt?_erase inside bare] at changed
        split at changed
        · rename_i same
          exact same ▸ List.prefix_rfl
        · exact absurd rfl changed
      | directory =>
        -- Whatever comes of the directory itself, what lay below it is gone.
        have emptied : Clears path before (before.eraseBelow root) := by
          refine ⟨grows_of_eraseBelow, fun location changed => ⟨root, own, ?_⟩⟩
          rw [entryAt?_eraseBelow] at changed
          split at changed
          · rename_i below
            exact below.1
          · exact absurd rfl changed
        simp only [Effect.after, removeTree, own, found]
        cases removed : (before.eraseBelow root).withoutDirectory path with
        | error error =>
          dsimp only
          by_cases missing : error = .notFound
          · simpa only [missing, if_pos] using emptied
          · simpa only [if_neg missing] using emptied
        | ok after =>
          obtain ⟨location, named, inside, directory, bare, rfl⟩ := withoutDirectory_ok removed
          -- The path names the same directory as before it was emptied.
          obtain rfl : location = root := by
            rw [emptied.grows.ownLocation named] at own
            exact Except.ok.inj own
          refine ⟨trans_of Grows (grows_of_erase inside bare) emptied.grows, fun other changed => ?_⟩
          -- The directory has been taken away, or what changed lay below it.
          rw [entryAt?_erase inside bare] at changed
          split at changed
          · rename_i same
            exact ⟨location, own, same ▸ List.prefix_rfl⟩
          · exact emptied.below other changed

/-- Clearing a path takes away no more than removing it does. -/
theorem clear_clears (path : String) : Effect.Keeps (Clears path) (clear path) := by
  intro before
  have removed := removeTree_clears path before
  -- Clearing differs from removing only in what counts as a failure.
  cases ended : removeTree path before with
  | ok _ after =>
    rw [Effect.after_ok ended] at removed
    simpa only [Effect.after, clear, ended] using removed
  | error error after =>
    rw [Effect.after_error ended] at removed
    simp only [Effect.after, clear, ended]
    by_cases missing : error = .notFound
    · simpa only [missing, if_pos] using removed
    · simpa only [if_neg missing] using removed

/-- A path that was cleared leads nowhere. -/
theorem resolve_ne_of_clear (cleared : clear path before = .ok () after) :
    after.resolve path ≠ .ok found := by
  intro resolved
  -- What the path leads to was there before, at the location that was to be removed.
  have clears : Clears path before after := (clear_clears path).of_ok cleared
  obtain ⟨location, entry, own, present, real⟩ := ownLocation_of_resolve resolved
  have named := clears.grows.ownLocation own
  simp only [clear, removeTree, named] at cleared
  cases found : before.entryAt? location with
  | none => simp [clears.grows.free found] at present
  | some before =>
    simp only [found] at cleared
    cases before with
    | file content =>
      have other : SystemError.notDirectory ≠ SystemError.notFound := by decide
      simp only [if_neg other] at cleared
      cases cleared
    | link target =>
      cases cleared
      have inside : location ≠ [] := by rintro rfl; simp at found
      rw [entryAt?_erase inside (bare_of_entryAt?_ne (by simp [found])), if_pos rfl] at present
      cases present
    | directory =>
      cases removed : (before.eraseBelow location).withoutDirectory path with
      | ok left =>
        simp only [removed] at cleared
        cases cleared
        obtain ⟨gone, goneOwn, inside, -, bare, rfl⟩ := withoutDirectory_ok removed
        -- The directory that was removed is the one that the path named.
        have same : location = gone := by
          rw [grows_of_eraseBelow.ownLocation goneOwn] at named
          exact (Except.ok.inj named).symm
        rw [entryAt?_erase inside bare, if_pos same] at present
        cases present
      | error error =>
        by_cases missing : error = .notFound
        · -- The path is gone with what lay in the directory.
          subst missing
          simp only [removed, if_pos] at cleared
          cases cleared
          exact resolve_ne_of_withoutDirectory removed resolved
        · simp only [removed, if_neg missing] at cleared
          cases cleared

end AuditStage.Disk
