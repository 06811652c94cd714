import AuditStage.Proofs.Disk.Renewal

/-! Making directories and writing files where nothing of another kind is in the way: it comes to its
end, and changes no more than it has to. -/

namespace AuditStage.Disk

open AuditStage.Path (ofNames)

variable {disk : Disk} {path name content : String} {names : List String}
  {parent location : Location} {links : Nat}

/-- There is a file at a location, or nothing. -/
def Writable (disk : Disk) (location : Location) : Prop :=
  disk.entryAt? location = none ∨ ∃ text, disk.entryAt? location = some (.file text)

/-- Names that meet nothing but directories lead nowhere if nothing lies where they say. -/
theorem follow_missing (directory : disk.entryAt? location = some .directory)
    (named : ∀ name ∈ names, isName name = true)
    (plain : ∀ way, way <+: names → Plain disk (location ++ way))
    (missing : disk.entryAt? (location ++ names) = none) :
    disk.follow links location names = .error .notFound := by
  induction names generalizing location with
  | nil => simp [directory] at missing
  | cons name names ih =>
    have proper := named name List.mem_cons_self
    obtain ⟨-, here, up, -⟩ := Path.isPlain_iff.1 (isPlain_of_isName proper)
    rw [follow_cons, if_neg (not_not_intro directory), if_neg here, if_neg up, not_isLongName proper]
    -- The first name may be missing already, or else it leads to a directory.
    rcases plain [name] (by simp) with free | found
    · rw [free]
      rfl
    · simp only [found]
      refine ih found (fun other member => named other (List.mem_cons_of_mem _ member))
        (fun way shorter => ?_) (by simpa using missing)
      simpa using plain (name :: way) (by simpa using shorter)

/-- A path that the system accepts is one also without its last names. -/
theorem isPath_shorter {above : List String} (shorter : above <+: names)
    (fits : isPath (ofNames names) = true) : isPath (ofNames above) = true := by
  obtain ⟨below, rfl⟩ := shorter
  induction below using List.reverseRecOn with
  | nil => simpa using fits
  | append_singleton below last ih =>
    refine ih ?_
    rw [← List.append_assoc] at fits
    -- Taking a name away takes characters away, unless it leaves the root.
    by_cases root : above ++ below = []
    · rw [root]
      decide
    simp only [isPath, Path.toList_ofNames_concat, if_neg root, Bool.and_eq_true, decide_eq_true_eq,
      Bool.not_eq_true', List.contains_eq_mem, decide_eq_false_iff_not, List.mem_append, not_or]
      at fits ⊢
    obtain ⟨⟨-, clean, -⟩, short⟩ := fits
    refine ⟨⟨by simpa using Path.ofNames_ne_empty _, clean⟩, ?_⟩
    simp only [Text.octetCount, Text.encodeUtf8, List.flatMap_append, List.length_append] at short ⊢
    omega

/-- A name that is joined to the path of a directory is the last step there. -/
theorem goal_join (resolved : disk.resolve path = .ok parent)
    (directory : disk.entryAt? parent = some .directory) (named : isName name = true)
    (fits : isPath (Path.join path name) = true) :
    route? (Path.join path name) = .ok (Route.ofPath (Path.join path name)) ∧
      ∃ spare, disk.approach linkLimit (disk.start (Route.ofPath (Path.join path name)))
        (Route.ofPath (Path.join path name)).steps = .ok (.named parent name, spare) := by
  have plain := isPlain_of_isName named
  -- A plain name is one step more.
  obtain ⟨relative, own⟩ := Path.steps_plain plain
  obtain ⟨-, here, up, -⟩ := Path.isPlain_iff.1 plain
  have filled := ne_empty_of_resolve resolved
  obtain ⟨-, spare, walked⟩ := resolve_ok_iff.1 resolved
  -- The walk to the directory may have ended with a dot for the slash behind its path.
  have down : disk.follow linkLimit (disk.start (Route.ofPath path)) (Path.steps path) =
      .ok (parent, spare) := by
    have undotted := follow_dropDots walked
    rw [dropDots_allSteps] at undotted
    exact follow_of_dropDots undotted directory
  refine ⟨route?_ok_iff.2 ⟨fits, rfl⟩, spare, approach_named_iff.2 ⟨Path.steps path, ?_, ?_, directory,
    here, up, not_isLongName named⟩⟩
  · show Path.steps (Path.join path name) = _
    rw [Path.steps_join relative, own]
  · rw [start_eq_of_isAbsolute (Path.isAbsolute_join relative filled)]
    exact down

/-- A name that is joined to the path of a directory stands for its own location there. -/
theorem names_join (resolved : disk.resolve path = .ok parent)
    (directory : disk.entryAt? parent = some .directory) (named : isName name = true)
    (fits : isPath (Path.join path name) = true) :
    Names disk (Path.join path name) (parent ++ [name]) := by
  obtain ⟨taken, spare, approached⟩ := goal_join resolved directory named fits
  exact ⟨_, _, taken, goal_ok_iff.2 ⟨spare, approached⟩, rfl⟩

/-- A path that names a location is made a directory there, unless something else lies there. -/
theorem makeDirectory_of_plain (named : Names disk path location) (plain : Plain disk location) :
    ∃ after, makeDirectory path disk = .ok () after ∧ ∀ other, after.entryAt? other =
      if other = location then some .directory else disk.entryAt? other := by
  rcases plain with free | found
  · exact makeDirectory_of_named named free
  -- The directory is refused, as it is there.
  have there : disk.isDirectory path = true := isDirectory_iff.2 ⟨_, named.resolve found, found⟩
  obtain ⟨route, goal, taken, reached, rfl⟩ := named
  have refused := withDirectory_of_present taken reached found
  refine ⟨disk, by simp only [makeDirectory, refused, there, if_true], fun other => ?_⟩
  split
  · rename_i same
    rw [same, found]
  · rfl

/-- The path of a directory that is made of its names leads to it. -/
theorem resolve_ofNames (fits : isPath (ofNames names) = true)
    (directory : disk.entryAt? names = some .directory) : disk.resolve (ofNames names) = .ok names := by
  have plain : ∀ name ∈ names, Path.isPlain name = true := fun name member =>
    isPlain_of_isName (isName_of_entryAt? directory name member)
  refine resolve_ok_iff.2 ⟨fits, linkLimit, ?_⟩
  rw [Path.ofPath_ofNames plain]
  exact follow_names rfl (.of_directory directory)

/-- A name behind those of a directory stands for its own location there. -/
theorem names_ofNames (directory : disk.entryAt? names = some .directory) (named : isName name = true)
    (fits : isPath (ofNames (names ++ [name])) = true) :
    Names disk (ofNames (names ++ [name])) (names ++ [name]) := by
  have plain : ∀ other ∈ names, Path.isPlain other = true := fun other member =>
    isPlain_of_isName (isName_of_entryAt? directory other member)
  have shorter := resolve_ofNames (isPath_shorter (List.prefix_append names [name]) fits) directory
  rw [← Path.join_ofNames plain (isPlain_of_isName named)] at fits ⊢
  exact names_join shorter directory named fits

/-- A name is missing above where the names before it meet nothing but directories, and then nothing. -/
theorem lacksAbove_ofNames (named : ∀ other ∈ names ++ [name], isName other = true)
    (fits : isPath (ofNames (names ++ [name])) = true)
    (plain : ∀ above, above <+: names → Plain disk above)
    (missing : disk.entryAt? names = none) : disk.lacksAbove (ofNames (names ++ [name])) = true := by
  have route := Path.ofPath_ofNames fun other member => isPlain_of_isName (named other member)
  have taken : route? (ofNames (names ++ [name])) = .ok ⟨true, names ++ [name], false⟩ :=
    route?_ok_iff.2 ⟨fits, route.symm⟩
  -- The walk is lost before it comes to the last name.
  have nowhere : disk.follow linkLimit [] names = .error .notFound :=
    follow_missing rfl (fun other member => named other (by simp [member])) plain missing
  have lost : disk.goal linkLimit (disk.start ⟨true, names ++ [name], false⟩) (names ++ [name]) =
      .error .notFound := by
    simp [goal, approach, start, nowhere, bind, Except.bind, Except.map]
  simp only [lacksAbove, withDirectory, taken, bind, Except.bind, lost, decide_true]

/-- Names before the last at which nothing lies are made a directory first. -/
theorem makeDirectories_concat (named : ∀ other ∈ names ++ [name], isName other = true)
    (fits : isPath (ofNames (names ++ [name])) = true)
    (plain : ∀ above, above <+: names → Plain disk above) (missing : disk.entryAt? names = none) :
    makeDirectories (ofNames (names ++ [name])) disk =
      (makeDirectories (ofNames names) >>= fun _ => makeDirectory (ofNames (names ++ [name]))) disk := by
  -- The first of the paths above is that of the names before the last.
  rw [makeDirectories, makeAll_of_missing (Path.ofNames_ne_empty _)
    (lacksAbove_ofNames named fits plain missing),
    Path.pathsAbove_ofNames fun other member => isPlain_of_isName (named other member)]
  rfl

/-- Names that meet nothing but directories are made a directory, with all that is missing above it. -/
theorem makeDirectories_ofNames (named : ∀ name ∈ names, isName name = true)
    (fits : isPath (ofNames names) = true) (plain : ∀ above, above <+: names → Plain disk above) :
    ∃ after, makeDirectories (ofNames names) disk = .ok () after ∧
      ∀ location, after.entryAt? location =
        if location <+: names then some .directory else disk.entryAt? location := by
  -- The paths above are made first, so the induction takes the last name away.
  induction names using List.reverseRecOn with
  | nil =>
    refine ⟨disk, rfl, fun location => ?_⟩
    split
    · rename_i root
      rw [List.prefix_nil.1 root, entryAt?_nil]
    · rfl
  | append_singleton names name ih =>
    have proper := named name (by simp)
    have way : ∀ above, above <+: names → Plain disk above := fun above shorter =>
      plain above (shorter.trans (List.prefix_append _ _))
    -- What is made for all the names is what is made for those before the last, and the last of them.
    have spelled {between after : Disk}
        (first : ∀ location, between.entryAt? location =
          if location <+: names then some .directory else disk.entryAt? location)
        (second : ∀ location, after.entryAt? location =
          if location = names ++ [name] then some .directory else between.entryAt? location)
        (location : Location) : after.entryAt? location =
          if location <+: names ++ [name] then some .directory else disk.entryAt? location := by
      rw [second, first]
      by_cases whole : location = names ++ [name] <;> simp [List.prefix_concat_iff, whole]
    rcases way names List.prefix_rfl with missing | found
    · -- With nothing there, the path above is made first, and is a directory from then on.
      obtain ⟨between, climbed, first⟩ := ih (fun other member => named other (by simp [member]))
        (isPath_shorter (List.prefix_append names [name]) fits) way
      have directory : between.entryAt? names = some .directory := by
        rw [first, if_pos List.prefix_rfl]
      have free : Plain between (names ++ [name]) := by
        rw [Plain, first, if_neg fun longer => by simpa using longer.length_le]
        exact plain _ List.prefix_rfl
      obtain ⟨after, made, second⟩ := makeDirectory_of_plain (names_ofNames directory proper fits) free
      refine ⟨after, ?_, spelled first second⟩
      rw [makeDirectories_concat named fits way missing]
      exact (Effect.bind_of_ok climbed).trans made
    · -- The path above is a directory already, and so is all that is above it.
      have whole := names_ofNames found proper fits
      obtain ⟨after, made, entries⟩ := makeDirectory_of_plain whole (plain _ List.prefix_rfl)
      refine ⟨after, (makeDirectories_of_names whole).trans made, spelled (fun location => ?_) entries⟩
      split
      · rename_i shorter
        obtain ⟨below, rfl⟩ := shorter
        by_cases none : below = []
        · simpa [none] using found
        · exact entryAt?_above found none
      · rfl

/-- A name in a directory is written as a file, unless something else has the name. -/
theorem withFile_ofNames (directory : disk.entryAt? names = some .directory)
    (named : isName name = true) (fits : isPath (ofNames (names ++ [name])) = true)
    (writable : Writable disk (names ++ [name])) (content : String) :
    ∃ after, disk.withFile (ofNames (names ++ [name])) content = .ok after ∧
      ∀ location, after.entryAt? location =
        if location = names ++ [name] then some (.file content) else disk.entryAt? location := by
  have plain : ∀ other ∈ names, Path.isPlain other = true := fun other member =>
    isPlain_of_isName (isName_of_entryAt? directory other member)
  have joined := Path.join_ofNames plain (isPlain_of_isName named)
  obtain ⟨taken, spare, approached⟩ := goal_join
    (resolve_ofNames (isPath_shorter (List.prefix_append names [name]) fits) directory) directory named
    (joined ▸ fits)
  rw [joined] at taken approached
  have bare : (Route.ofPath (ofNames (names ++ [name]))).trailing = false := by
    rw [Path.ofPath_ofNames]
    exact List.forall_mem_append.2 ⟨plain, List.forall_mem_singleton.2 (isPlain_of_isName named)⟩
  -- The name is free, or a file has it.
  have reached : disk.writeGoal linkLimit (disk.start (Route.ofPath (ofNames (names ++ [name]))))
      (Route.ofPath (ofNames (names ++ [name]))) = .ok (names ++ [name]) := by
    rw [writeGoal_eq, bare, if_neg (by decide), approached]
    rcases writable with free | ⟨text, found⟩
    · simp only [free]
    · simp only [found]
  -- A file may be put where a file is, but not where a directory is.
  have accepted : disk.accepts (names ++ [name]) (.file content) = true := by
    refine accepts_iff.2 ⟨named, rfl, directory, fun found => ?_⟩
    rcases writable with free | ⟨text, other⟩
    · simp [free] at found
    · simp [other] at found
  refine ⟨_, ?_, fun location => entryAt?_put accepted⟩
  simp only [withFile, taken, bind, Except.bind, reached]

/-- Names that meet nothing but directories before the last, and nothing but a file there, are written as
a file, with all that is missing above it. -/
theorem writeFile_ofNames (named : ∀ other ∈ names ++ [name], isName other = true)
    (fits : isPath (ofNames (names ++ [name])) = true)
    (plain : ∀ above, above <+: names → Plain disk above)
    (writable : Writable disk (names ++ [name])) (content : String) :
    ∃ after, writeFile (ofNames (names ++ [name])) content disk = .ok () after ∧
      ∀ location, after.entryAt? location =
        if location = names ++ [name] then some (.file content)
        else if location <+: names then some .directory else disk.entryAt? location := by
  obtain ⟨between, climbed, first⟩ :=
    makeDirectories_ofNames (fun other member => named other (by simp [member]))
      (isPath_shorter (List.prefix_append names [name]) fits) plain
  have directory : between.entryAt? names = some .directory := by rw [first, if_pos List.prefix_rfl]
  -- The directories above have been made, and the file is not one of them.
  have last : Writable between (names ++ [name]) := by
    rw [Writable, first, if_neg fun longer => by simpa using longer.length_le]
    exact writable
  obtain ⟨after, written, second⟩ :=
    withFile_ofNames directory (named name (by simp)) fits last content
  refine ⟨after, ?_, fun location => by rw [second, first]⟩
  -- The directory that the file needs is the one that the names before the last spell.
  have above : makeAbove (ofNames (names ++ [name])) disk = .ok () between := by
    rw [makeAbove, Path.pathsAbove_ofNames fun other member => isPlain_of_isName (named other member)]
    exact climbed
  refine (Effect.bind_of_ok above).trans ?_
  simp only [attempt, written]

end AuditStage.Disk
