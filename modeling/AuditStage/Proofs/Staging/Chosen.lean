import AuditStage.Proofs.Staging.Course

/-! Staging the files of some keys in one tree, and how far it gets: which files have been staged when it
comes to its end, and which ones had been when it failed. -/

namespace AuditStage.Staging

open AuditStage.Path (ofNames)

variable {base deep : Location} {chosen : String → Bool} {files : List (String × String)}
  {sources : SourceMap} {staged next : List StagedFile} {world final : World} {failure : Failure}

/-- The staged file of a key in a tree. -/
def fileIn (base : Location) (key : String) : StagedFile :=
  ⟨key, pathIn (ofNames base) key, Key.package? key⟩

/-- Stages the files of the chosen keys in the tree at a location. -/
def stageChosen (base : Location) (chosen : String → Bool) (files : List (String × String))
    (staged : List StagedFile) : Run (List StagedFile) :=
  files.foldlM (fun staged file =>
    if chosen file.1 then stageFile staged (fileIn base file.1) file.2 else pure staged) staged

/-- The files of the chosen ones among some keys. -/
def chosenIn (base : Location) (chosen : String → Bool) (keys : List String) : List StagedFile :=
  (keys.filter chosen).map (fileIn base)

/-- What the files of chosen keys are. -/
theorem mem_chosenIn {keys : List String} {file : StagedFile} :
    file ∈ chosenIn base chosen keys ↔ ∃ key ∈ keys, chosen key = true ∧ file = fileIn base key := by
  simp only [chosenIn, List.mem_map, List.mem_filter, and_assoc]
  exact exists_congr fun key => and_congr_right fun _ => and_congr_right fun _ => eq_comm

/-- Whether a key belongs to no package. -/
def isOwn (key : String) : Bool :=
  (Key.package? key).isNone

/-- Whether a key belongs to a package. -/
def isOf (package key : String) : Bool :=
  Key.package? key == some package

/-- The project's own files are staged in the staging root. -/
theorem stageOwn_eq (root : Location) (sources : SourceMap) :
    stageOwn (ofNames root) sources = stageChosen root isOwn sources.files [] := by
  unfold stageOwn stageChosen
  congr 1
  -- File by file, the own ones are staged at one path by both, and the others passed over.
  funext staged ⟨key, content⟩
  cases belongs : Key.package? key <;> simp [isOwn, fileIn, pathIn, belongs]

/-- The files of a package are staged in the dependency root, once its directory has been made. -/
theorem stagePackage_eq (deep : Location) (sources : SourceMap) (staged : List StagedFile)
    (package : String) :
    stagePackage (ofNames deep) sources staged package =
      Run.onDisk (Disk.makeDirectories (Path.join (ofNames deep) package)) >>= fun _ =>
        stageChosen deep (isOf package) sources.files staged := by
  -- Both make the directory first, and then go through the same files.
  refine bind_congr fun _ => ?_
  unfold stageChosen
  congr 1
  funext staged ⟨key, content⟩
  by_cases belongs : Key.package? key = some package <;> simp [isOf, fileIn, pathIn, belongs]

/-- A file that has been staged joins those that were. -/
theorem eq_of_stageFile {file : StagedFile} {content : String}
    (ended : stageFile staged file content world = .ok next final) : next = staged ++ [file] := by
  unfold stageFile at ended
  -- A path that is taken would have ended the staging.
  cases owner : ownerOf? staged file.path with
  | some other =>
    simp only [owner] at ended
    cases ended
  | none =>
    simp only [owner] at ended
    obtain ⟨_, between, -, last⟩ := Effect.bind_ok ended
    cases last
    rfl

/-- A file fails to be staged for the reason that the disk gives, or because one stands at its path. -/
theorem stageFile_error {file : StagedFile} {content : String}
    (ended : stageFile staged file content world = .error failure final) :
    (∃ error, failure = .io error) ∨
      ∃ owner ∈ staged, failure = .malformedSourceMap (.sharedPath owner.key file.key file.path) ∧
        Path.components owner.path = Path.components file.path ∧ final = world := by
  unfold stageFile at ended
  cases found : ownerOf? staged file.path with
  | some owner =>
    simp only [found] at ended
    cases ended
    have same := List.find?_some found
    exact .inr ⟨owner, List.mem_of_find?_eq_some found, rfl, by simpa using same, rfl⟩
  | none =>
    simp only [found] at ended
    -- Only the writing itself can fail where the path is free.
    rcases Effect.bind_error ended with wrote | ⟨_, between, -, last⟩
    · exact .inl (Run.onDisk_error wrote)
    · cases last

/-- Staging that comes to its end has added the files of all chosen keys, in order. -/
theorem eq_of_stageChosen (ended : stageChosen base chosen files staged world = .ok next final) :
    next = staged ++ chosenIn base chosen (pathsOf files) := by
  -- The induction is on the files that are left.
  induction files generalizing staged world with
  | nil =>
    cases ended
    simp [chosenIn, pathsOf]
  | cons file files ih =>
    simp only [stageChosen, List.foldlM_cons] at ended
    obtain ⟨one, between, first, others⟩ := Effect.bind_ok ended
    rw [ih others]
    -- A key that is not chosen leaves the staged files as they were.
    by_cases taken : chosen file.1 = true
    · rw [if_pos taken] at first
      rw [eq_of_stageFile first]
      simp [chosenIn, pathsOf, taken]
    · rw [if_neg taken] at first
      cases first
      simp [chosenIn, pathsOf, taken]

/-- Staging that fails has failed at the file of one chosen key, when those before it had been staged. -/
theorem stageChosen_error
    (ended : stageChosen base chosen files staged world = .error failure final) :
    ∃ front key content back between, files = front ++ (key, content) :: back ∧ chosen key = true ∧
      stageFile (staged ++ chosenIn base chosen (pathsOf front)) (fileIn base key) content between =
        .error failure final := by
  induction files generalizing staged world with
  | nil => cases ended
  | cons file files ih =>
    simp only [stageChosen, List.foldlM_cons] at ended
    by_cases taken : chosen file.1 = true
    swap
    · -- A key that is not chosen is passed over.
      rw [if_neg taken, pure_bind] at ended
      obtain ⟨front, key, content, back, between, rfl, chose, failed⟩ := ih ended
      exact ⟨file :: front, key, content, back, between, rfl, chose,
        by simpa [chosenIn, pathsOf, taken] using failed⟩
    rw [if_pos taken] at ended
    -- The first chosen key is the one that fails, or it has been staged before the one that does.
    rcases Effect.bind_error ended with first | ⟨one, between, first, others⟩
    · exact ⟨[], file.1, file.2, files, world, rfl, taken, by simpa [chosenIn, pathsOf] using first⟩
    · obtain ⟨front, key, content, back, between, rfl, chose, failed⟩ := ih others
      rw [eq_of_stageFile first] at failed
      exact ⟨file :: front, key, content, back, between, rfl, chose,
        by simpa [chosenIn, pathsOf, taken] using failed⟩

end AuditStage.Staging
