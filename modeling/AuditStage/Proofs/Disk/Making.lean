import AuditStage.Proofs.Disk.Growth
import AuditStage.Proofs.Effect
import AuditStage.Proofs.Path.Above

/-! What making directories and writing files adds to a disk, also when it fails on the way. -/

namespace AuditStage.Disk

open Effect (Keeps)

variable {before after : Disk} {path : String} {location : Location}

/-- A step of a path that the system accepts is a proper name, unless it is dots or too long. -/
theorem isName_of_mem_steps {name : String} (fits : isPath path = true)
    (member : name ∈ Path.steps path) (here : name ≠ ".") (up : name ≠ "..")
    (short : isLongName name = false) : isName name = true := by
  -- A path with a null character is refused as a whole.
  have clean : '\x00' ∉ name.toList := by
    intro nul
    simp only [isPath, Bool.and_eq_true, Bool.not_eq_true', List.contains_eq_mem,
      decide_eq_false_iff_not] at fits
    exact fits.1.2 ((Path.of_mem_steps member).2 _ nul).1
  simp [isName, Path.isPlain_of_mem_steps member here up, short, clean]

/-- A directory is made at a free location, and the path leads there from then on. -/
theorem withDirectory_ok (made : before.withDirectory path = .ok after) :
    ∃ parent name spare, (Route.ofPath path).steps.getLast? = some name ∧
      before.follow linkLimit (before.start (Route.ofPath path)) (Route.ofPath path).steps.dropLast =
        .ok (parent, spare) ∧
      before.entryAt? (parent ++ [name]) = none ∧
      before.accepts (parent ++ [name]) .directory = true ∧
      after = before.put (parent ++ [name]) .directory ∧
      after.resolve path = .ok (parent ++ [name]) := by
  unfold withDirectory at made
  cases taken : route? path with
  | error error => simp [taken, bind, Except.bind] at made
  | ok route =>
    obtain ⟨fits, rfl⟩ := route?_ok_iff.1 taken
    simp only [taken, bind, Except.bind, goal] at made
    cases reached : before.approach linkLimit (before.start (Route.ofPath path))
        (Route.ofPath path).steps with
    | error error => simp [reached, Except.map] at made
    | ok result =>
      obtain ⟨goal, spare⟩ := result
      simp only [reached, Except.map] at made
      cases goal with
      | unnamed location step => simp at made
      | named parent name =>
        obtain ⟨front, split, walked, directory, here, up, short⟩ := approach_named_iff.1 reached
        simp only at made
        cases free : before.entryAt? (parent ++ [name]) with
        | some entry => simp [free] at made
        | none =>
          simp only [free, Except.ok.injEq] at made
          have last : name ∈ Path.steps path := by
            rw [show Path.steps path = front ++ [name] from split]
            simp
          have named := isName_of_mem_steps fits last here up short
          have accepted : before.accepts (parent ++ [name]) .directory = true :=
            accepts_iff.2 ⟨named, rfl, directory, by simp [free]⟩
          have grows : Grows before after := made ▸ .put accepted (by simp [free])
          have found : after.entryAt? (parent ++ [name]) = some .directory := by
            rw [← made, entryAt?_put accepted, if_pos rfl]
          -- The walk goes where it went before, takes the new name, and may end with a slash.
          have down : after.follow linkLimit (after.start (Route.ofPath path))
              (Route.ofPath path).steps = .ok (parent ++ [name], spare) := by
            rw [grows.start, split, follow_append, grows.follow walked]
            exact follow_iff_leads.2 (.down (grows.directory _ directory) here up short found
              (by simp) .stay)
          exact ⟨parent, name, spare, by rw [split, List.getLast?_concat],
            by rw [split, List.dropLast_concat, walked], free, accepted, made.symm,
            resolve_ok_iff.2 ⟨fits, spare, follow_allSteps down found⟩⟩

/-- Making a directory adds what the path leads to. -/
theorem withDirectory_adds (made : before.withDirectory path = .ok after) :
    Adds (· = path) (fun _ => False) before after := by
  obtain ⟨parent, name, spare, -, -, free, accepted, rfl, resolved⟩ := withDirectory_ok made
  refine ⟨.put accepted (by simp [free]), fun location changed => ?_⟩
  rw [entryAt?_put accepted] at changed ⊢
  -- The one location that has changed is the one where the directory was put.
  split at changed
  · rename_i same
    -- It was free, and the path leads to it from now on.
    subst same
    exact ⟨path, resolved, .inl ⟨rfl, free, if_pos rfl⟩⟩
  · exact absurd rfl changed

/-- Making a path a directory adds no more than that. -/
theorem makeDirectory_adds (path : String) :
    Keeps (Adds (· = path) fun _ => False) (makeDirectory path) := by
  intro before
  -- What cannot be made leaves the disk as it is, whether or not that counts as a failure.
  cases made : before.withDirectory path with
  | ok after => simpa only [Effect.after, makeDirectory, made] using withDirectory_adds made
  | error error =>
    have same : Effect.after (makeDirectory path) before = before := by
      simp only [Effect.after, makeDirectory, made]
      split <;> rename_i outcome <;> split at outcome <;> cases outcome <;> rfl
    exact same.symm ▸ refl_of (Adds _ _) before

/-- A path that was made a directory has been put on the disk, or was a directory before. -/
theorem makeDirectory_ok (made : makeDirectory path before = .ok () after) :
    before.withDirectory path = .ok after ∨ after = before ∧ before.isDirectory path = true := by
  unfold makeDirectory at made
  cases new : before.withDirectory path with
  | ok disk =>
    simp only [new] at made
    cases made
    exact .inl rfl
  | error error =>
    simp only [new] at made
    split at made
    · -- That something is there already is no failure if it is a directory.
      rename_i directory
      cases made
      exact .inr ⟨rfl, directory⟩
    · cases made

/-- A path that was made a directory is one. -/
theorem isDirectory_of_makeDirectory (made : makeDirectory path before = .ok () after) :
    after.isDirectory path = true := by
  rcases makeDirectory_ok made with new | ⟨rfl, directory⟩
  · obtain ⟨parent, name, -, -, -, -, accepted, rfl, resolved⟩ := withDirectory_ok new
    exact isDirectory_iff.2 ⟨_, resolved, by rw [entryAt?_put accepted, if_pos rfl]⟩
  · exact directory

/-- Making paths directories, as far as that is possible, adds what they lead to. -/
theorem makeAll_adds (paths : List String) :
    Keeps (Adds (· ∈ paths) fun _ => False) (makeAll paths) := by
  -- The paths above are made first, so that is where the induction goes.
  induction paths with
  | nil => exact .throw _
  | cons path above ih =>
    have own : Keeps (Adds (· ∈ path :: above) fun _ => False) (makeDirectory path) :=
      (makeDirectory_adds path).mono fun _ _ adds => adds.mono (by simp) fun _ never => never
    have others : Keeps (Adds (· ∈ path :: above) fun _ => False) (makeAll above) :=
      ih.mono fun _ _ adds => adds.mono (by simp +contextual) fun _ never => never
    unfold makeAll
    split
    · exact .pure _
    · refine .bind .get fun disk => ?_
      split
      · exact others.bind fun _ => own
      · exact own

/-- Nothing above a path is made where nothing is missing there. -/
theorem makeAll_of_known {above : List String} (filled : path ≠ "")
    (known : before.lacksAbove path = false) :
    makeAll (path :: above) before = makeDirectory path before := by
  simp only [makeAll, if_neg filled]
  -- The disk is looked at before anything is made.
  exact (Effect.bind_of_ok rfl).trans (by simp only [known, Bool.false_eq_true, if_false])

/-- What is missing above a path is made before the path is. -/
theorem makeAll_of_missing {above : List String} (filled : path ≠ "")
    (missing : before.lacksAbove path = true) :
    makeAll (path :: above) before = (makeAll above >>= fun _ => makeDirectory path) before := by
  simp only [makeAll, if_neg filled]
  -- The look at the disk finds that something is missing.
  exact (Effect.bind_of_ok rfl).trans (by simp only [missing, if_true])

/-- The first of some paths is a directory once it has been made one. -/
theorem isDirectory_of_makeAll {above : List String} (filled : path ≠ "")
    (made : makeAll (path :: above) before = .ok () after) : after.isDirectory path = true := by
  -- Whatever is made above it, the path itself is made last.
  cases lacks : before.lacksAbove path with
  | false => exact isDirectory_of_makeDirectory (makeAll_of_known filled lacks ▸ made)
  | true =>
    rw [makeAll_of_missing filled lacks] at made
    obtain ⟨_, between, -, last⟩ := Effect.bind_ok made
    exact isDirectory_of_makeDirectory last

/-- What a path leads to once it has been made a directory is one. -/
theorem directory_of_makeDirectories (made : makeDirectories path before = .ok () after)
    (resolved : after.resolve path = .ok location) : after.entryAt? location = some .directory := by
  obtain ⟨found, same, directory⟩ :=
    isDirectory_iff.1 (isDirectory_of_makeAll (ne_empty_of_resolve resolved) made)
  obtain rfl : location = found := Except.ok.inj (resolved.symm.trans same)
  exact directory

/-- Making a path a directory with all that is missing above it adds what these paths lead to. -/
theorem makeDirectories_adds (path : String) :
    Keeps (Adds (· ∈ path :: Path.pathsAbove path) fun _ => False) (makeDirectories path) :=
  makeAll_adds _

/-- Writing through a route ends where a file can be put, and the route leads there once it is. -/
theorem writeGoal_ok {links : Nat} {start : Location} {route : Route}
    (proper : ∀ step ∈ route.steps, step ≠ "." → step ≠ ".." → isLongName step = false →
      isName step = true)
    (reached : before.writeGoal links start route = .ok location) :
    (∀ content, before.accepts location (.file content) = true) ∧
      (∀ old, before.entryAt? location = some old → ∃ text, old = .file text) ∧
      ∀ {after content}, Grows before after → after.entryAt? location = some (.file content) →
        ∃ spare, after.follow links start route.allSteps = .ok (location, spare) := by
  -- Every link at the end of a route leaves fewer links to be followed.
  induction links using Nat.strongRecOn generalizing start route with
  | ind links ih =>
    rw [writeGoal] at reached
    split at reached
    · simp only [bind, Except.bind] at reached
      split at reached <;> cases reached
    -- Nothing is written through a path that ends with a slash, so no step comes after its own.
    rename_i closed
    have plain : route.allSteps = route.steps := by simp [Route.allSteps, closed]
    rw [plain]
    split at reached
    · cases reached
    · cases reached
    rename_i parent name spare approached
    obtain ⟨front, split, walked, directory, here, up, short⟩ := approach_named_iff.1 approached
    have named := proper name (by simp [split]) here up short
    -- A name that is free, or that a file has, is where the writing ends.
    have landing (kind : ∀ old, before.entryAt? (parent ++ [name]) = some old →
        ∃ text, old = .file text) :
        (∀ content, before.accepts (parent ++ [name]) (.file content) = true) ∧
          (∀ old, before.entryAt? (parent ++ [name]) = some old → ∃ text, old = .file text) ∧
          ∀ {after content}, Grows before after →
            after.entryAt? (parent ++ [name]) = some (.file content) →
            ∃ spare, after.follow links start route.steps = .ok (parent ++ [name], spare) := by
      refine ⟨fun content => accepts_iff.2 ⟨named, rfl, directory, fun found => ?_⟩, kind,
        fun {after content} grows found => ⟨spare, ?_⟩⟩
      · obtain ⟨text, other⟩ := kind _ found
        cases other
      · rw [split, follow_append, grows.follow walked]
        exact follow_iff_leads.2 (.down (grows.directory _ directory) here up short found (by simp)
          .stay)
    split at reached
    · rename_i free
      cases reached
      exact landing (by simp [free])
    · -- A file that is there already is written over.
      rename_i text found
      cases reached
      exact landing (by simp [found])
    · cases reached
    · rename_i target linked
      cases spare with
      | zero => cases reached
      | succ spare =>
        -- The target of a link on a disk is a path, so its steps are proper ones as well.
        have fits : isPath target = true := (entryAt?_rooted linked).2.2
        have bound := spare_le_of_follow walked
        obtain ⟨accepted, kind, leads⟩ := ih spare (by omega)
          (fun step member here up short => isName_of_mem_steps fits member here up short) reached
        refine ⟨accepted, kind, fun {after content} grows found => ?_⟩
        obtain ⟨left, onward⟩ := leads grows found
        refine ⟨left, ?_⟩
        rw [split, follow_append, grows.follow walked]
        refine follow_iff_leads.2 (.link (grows.directory _ directory) here up short
          (grows.link _ _ linked) ?_)
        rw [List.append_nil]
        exact follow_iff_leads.1 onward

/-- A file is put where the path leads from then on. -/
theorem withFile_ok {content : String} (written : before.withFile path content = .ok after) :
    ∃ location, before.accepts location (.file content) = true ∧
      (∀ old, before.entryAt? location = some old → ∃ text, old = .file text) ∧
      after = before.put location (.file content) ∧ after.resolve path = .ok location := by
  unfold withFile at written
  cases taken : route? path with
  | error error => simp [taken, bind, Except.bind] at written
  | ok route =>
    obtain ⟨fits, rfl⟩ := route?_ok_iff.1 taken
    simp only [taken, bind, Except.bind] at written
    cases reached : before.writeGoal linkLimit (before.start (Route.ofPath path))
        (Route.ofPath path) with
    | error error => simp [reached] at written
    | ok location =>
      simp only [reached, Except.ok.injEq] at written
      obtain ⟨accepted, kind, leads⟩ := writeGoal_ok
        (fun step member here up short => isName_of_mem_steps fits member here up short) reached
      -- The path is walked on the new disk, and what it led over there is there still.
      have grows : Grows before after := written ▸ .put (accepted content) fun old found => by
        obtain ⟨text, same⟩ := kind old found
        exact ⟨text, content, same, rfl⟩
      have found : after.entryAt? location = some (.file content) := by
        rw [← written, entryAt?_put (accepted content), if_pos rfl]
      -- So the path leads to the file that was put there.
      obtain ⟨spare, walked⟩ := leads grows found
      refine ⟨location, accepted content, kind, written.symm, resolve_ok_iff.2 ⟨fits, spare, ?_⟩⟩
      rw [grows.start]
      exact walked

/-- Writing a file adds what the path leads to. -/
theorem withFile_adds {content : String} (written : before.withFile path content = .ok after) :
    Adds (fun _ => False) (· = path) before after := by
  obtain ⟨location, accepted, kind, rfl, resolved⟩ := withFile_ok written
  -- A file is written in a free place, or in the place of another file.
  refine ⟨.put accepted fun old found => ?_, fun other changed => ?_⟩
  · obtain ⟨text, same⟩ := kind old found
    exact ⟨text, content, same, rfl⟩
  · rw [entryAt?_put accepted] at changed ⊢
    split at changed
    · rename_i same
      -- The one location that has changed is the one where the file was put.
      subst same
      exact ⟨path, resolved, .inr ⟨rfl, content, if_pos rfl⟩⟩
    · exact absurd rfl changed

/-- Making the path above a path a directory adds what the paths above it lead to. -/
theorem makeAbove_adds (path : String) :
    Keeps (Adds (· ∈ Path.pathsAbove path) fun _ => False) (makeAbove path) := by
  unfold makeAbove
  rcases Path.pathsAbove_cases path with none | ⟨last, -⟩ | ⟨parent, step, more, -⟩
  · rw [none]
    exact .pure _
  · -- The empty path stands for the directory that is there already, so nothing is made for it.
    rw [last]
    exact (makeDirectories_adds "").mono fun _ _ adds => adds.mono (by simp [Path.pathsAbove_empty])
      fun _ never => never
  · rw [more]
    exact makeDirectories_adds parent

/-- Writing a file with all that is missing above it adds what the paths above and the path lead to. -/
theorem writeFile_adds (path content : String) :
    Keeps (Adds (· ∈ Path.pathsAbove path) (· = path)) (writeFile path content) := by
  -- What is missing above it is made first.
  refine .bind ((makeAbove_adds path).mono fun _ _ adds =>
    adds.mono (fun _ member => member) fun _ never => never.elim) fun _ before => ?_
  -- The writing itself adds what the path leads to, and a failure adds nothing.
  cases written : before.withFile path content with
  | ok after =>
    simp only [Effect.after, attempt, written]
    exact (withFile_adds written).mono (fun _ never => never.elim) fun _ same => same
  | error error =>
    simp only [Effect.after, attempt, written]
    exact refl_of (Adds _ _) before

/-- A file is read back from its path as it was put there. -/
theorem content_of_withFile {content : String} (written : before.withFile path content = .ok after) :
    ∃ location, after.resolve path = .ok location ∧
      after.entryAt? location = some (.file content) := by
  obtain ⟨location, accepted, -, rfl, resolved⟩ := withFile_ok written
  exact ⟨location, resolved, by rw [entryAt?_put accepted, if_pos rfl]⟩

/-- A change of the disk that ends well gives the disk that it leaves. -/
theorem attempt_ok {change : Disk → Except SystemError Disk}
    (ended : attempt change before = .ok () after) : change before = .ok after := by
  unfold attempt at ended
  -- A change that fails would have ended otherwise.
  cases done : change before with
  | error error => simp [done] at ended
  | ok disk =>
    simp only [done] at ended
    cases ended
    rfl

/-- A file that was written lies where its path leads, with the content that was written. -/
theorem content_of_writeFile {content : String} (written : writeFile path content before = .ok () after) :
    ∃ location, after.resolve path = .ok location ∧
      after.entryAt? location = some (.file content) := by
  -- Whatever is made above it, the file is written last.
  obtain ⟨_, between, -, last⟩ := Effect.bind_ok written
  exact content_of_withFile (attempt_ok last)

end AuditStage.Disk
