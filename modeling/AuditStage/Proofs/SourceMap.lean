import AuditStage.Proofs.Json.Members

/-! The files of a contract through any changes. Main statement: sources list each path that was put in
once, where it came first, with the content that it got last; and a file that is put in disturbs neither
the other files nor the remappings. -/

namespace AuditStage

/-- A file behind all others is put in at the end if its path is new. -/
theorem placeFile_of_notMem {path content : String} {files : List (String × String)}
    (new : path ∉ pathsOf files) : placeFile path content files = files ++ [(path, content)] := by
  induction files with
  | nil => rfl
  | cons file files ih =>
    -- The path is neither the one at the front nor one further on.
    simp only [pathsOf, List.map_cons, List.mem_cons, not_or] at new
    simp [placeFile, Ne.symm new.1, ih new.2]

/-- A file whose path is there takes the place of the file at that path. -/
theorem placeFile_of_mem {path content : String} {files : List (String × String)}
    (distinct : (pathsOf files).Nodup) (known : path ∈ pathsOf files) :
    placeFile path content files =
      files.map fun old => if old.1 == path then (path, content) else old := by
  induction files with
  | nil => cases known
  | cons file files ih =>
    simp only [pathsOf, List.map_cons, List.nodup_cons, List.mem_cons] at distinct known
    by_cases here : file.1 = path
    · -- No file further on has the path, so all of them stay.
      have others : files.map (fun old => if old.1 == path then (path, content) else old) = files := by
        refine (List.map_congr_left fun old member => ?_).trans (List.map_id files)
        have other : old.1 ≠ path := fun same =>
          distinct.1 (here ▸ same ▸ List.mem_map_of_mem member)
        simp [other]
      rw [List.map_cons, others]
      simp [placeFile, here]
    · -- The path stands further on, and the file at the front is passed by.
      have further : path ∈ pathsOf files := known.resolve_left (Ne.symm here)
      simp [placeFile, here, ih distinct.2 further]

namespace SourceMap

open Json (collapse last? member?)

/-- One more file goes with those that have been collected as it does with all that were put in. -/
theorem files_insert {sources : SourceMap} {placed : List (String × String)}
    (collected : sources.files = collapse placed) (path content : String) :
    (sources.insert path content).files = collapse (placed ++ [(path, content)]) := by
  rw [Json.collapse_concat, ← collected]
  -- A known path is written over, and a new one is added at the end.
  by_cases known : path ∈ pathsOf sources.files
  · exact (placeFile_of_mem sources.distinct known).trans (if_pos known).symm
  · exact (placeFile_of_notMem known).trans (if_neg known).symm

/-- The files of sources are collected already. -/
theorem files_collapse (sources : SourceMap) : sources.files = collapse sources.files :=
  (Json.collapse_of_nodup sources.distinct).symm

/-- The content at a path is the one that was put in, or for any other path the one that was there. -/
theorem get?_insert (sources : SourceMap) (path content other : String) :
    (sources.insert path content).get? other =
      if path = other then some content else sources.get? other := by
  have before : sources.get? other = last? sources.files other := by
    rw [← Json.member?_collapse, ← files_collapse]
    rfl
  -- What a path got last is the file at the end, unless that has another path.
  calc (sources.insert path content).get? other
      = member? (collapse (sources.files ++ [(path, content)])) other := by
        rw [← files_insert (files_collapse sources)]
        rfl
    _ = if path = other then some content else sources.get? other := by
        rw [Json.member?_collapse, Json.last?_concat, before]

/-- The paths after a file was put in: its path stands at the end if it is new. -/
theorem keys_insert (sources : SourceMap) (path content : String) :
    (sources.insert path content).keys =
      if path ∈ sources.keys then sources.keys else sources.keys ++ [path] := by
  -- The paths that were there are kept, since none of them comes twice.
  have before : sources.keys.eraseDups = sources.keys :=
    (Json.map_fst_collapse sources.files).symm.trans (congrArg pathsOf (files_collapse sources).symm)
  calc (sources.insert path content).keys
      = (pathsOf (sources.files ++ [(path, content)])).eraseDups := by
        rw [keys, files_insert (files_collapse sources)]
        exact Json.map_fst_collapse _
    _ = (sources.keys ++ [path]).eraseDups := congrArg List.eraseDups List.map_append
    _ = if path ∈ sources.keys then sources.keys else sources.keys ++ [path] := by
        rw [eraseDups_concat, before]

/-- Putting in a file leaves every other path where it is. -/
theorem getElem?_keys_insert {sources : SourceMap} {path other : String} (content : String)
    (apart : other ≠ path) (index : Nat) :
    (sources.insert path content).keys[index]? = some other ↔ sources.keys[index]? = some other := by
  rw [keys_insert]
  split
  · rfl
  · rw [List.getElem?_append]
    split
    · rfl
    · -- Behind the paths that were there stands the new one only.
      rename_i behind
      have none : sources.keys[index]? = Option.none := List.getElem?_eq_none (Nat.le_of_not_lt behind)
      rw [none, List.getElem?_singleton]
      split <;> simp [Ne.symm apart]

/-- A file stands at some place exactly if its path does, and its content is found there. -/
theorem getElem?_files_iff {sources : SourceMap} {index : Nat} {path content : String} :
    sources.files[index]? = some (path, content) ↔
      sources.keys[index]? = some path ∧ sources.get? path = some content := by
  -- The paths are those of the files, place by place.
  have names : sources.keys[index]? = sources.files[index]?.map Prod.fst := List.getElem?_map
  constructor
  · intro file
    exact ⟨by rw [names, file]; rfl, get?_of_mem (List.mem_of_getElem? file)⟩
  · rintro ⟨named, found⟩
    rw [names] at named
    obtain ⟨⟨_, other⟩, file, rfl⟩ := Option.map_eq_some_iff.1 named
    -- The file at that place has the path, so what is found is its content.
    have own := get?_of_mem (List.mem_of_getElem? file)
    obtain rfl : other = content := Option.some.inj (own.symm.trans found)
    exact file

/-- A change of the sources of a contract. -/
inductive Change where
  | file (path content : String)
  | remappings (texts : List String)
deriving Repr, DecidableEq

/-- The file that a change puts in, if it puts one in. -/
def Change.file? : Change → Option (String × String)
  | .file path content => some (path, content)
  | .remappings _ => none

/-- The sources with a change made to them. -/
def changed (sources : SourceMap) : Change → SourceMap
  | .file path content => sources.insert path content
  | .remappings texts => sources.withRemappings texts

/-- The sources that some changes make of none, one after the other. -/
def ofChanges (changes : List Change) : SourceMap :=
  changes.foldl changed empty

/-- A change puts in a file exactly if it is that of the file. -/
theorem Change.file?_eq_some_iff {change : Change} {path content : String} :
    change.file? = some (path, content) ↔ change = .file path content := by
  cases change <;> simp [Change.file?]

/-- The files of sources are those that were put in, each path once. -/
theorem files_ofChanges (changes : List Change) :
    (ofChanges changes).files = collapse (changes.filterMap Change.file?) := by
  -- The induction follows the changes in the order in which they are made.
  induction changes using List.reverseRecOn with
  | nil => rfl
  | append_singleton changes change ih =>
    rw [ofChanges, List.foldl_append, List.filterMap_append]
    cases change with
    | file path content => exact files_insert ih path content
    | remappings texts =>
      rw [show [Change.remappings texts].filterMap Change.file? = [] from rfl, List.append_nil]
      exact ih

/-- Files with distinct paths are all taken, in their order. -/
theorem files_ofList {files : List (String × String)} (distinct : (pathsOf files).Nodup) :
    (ofList files).files = files := by
  let changes := files.map fun file => Change.file file.1 file.2
  -- Taking files from a list is a row of changes, each putting in one of them.
  have same : ofList files = ofChanges changes := by
    rw [ofChanges, List.foldl_map]
    rfl
  have placed : changes.filterMap Change.file? = files := by
    simp [changes, List.filterMap_map, Function.comp_def, Change.file?]
  rw [same, files_ofChanges, placed, Json.collapse_of_nodup distinct]

/-- Sources are made of their files and their remappings. -/
theorem withRemappings_ofList (sources : SourceMap) :
    (ofList sources.files).withRemappings sources.remappings = sources := by
  obtain ⟨files, remappings, distinct⟩ := sources
  simp [withRemappings, files_ofList distinct]

/-- A path is among those that were put in exactly if some change put in a file there. -/
theorem mem_placed_iff {changes : List Change} {path : String} :
    path ∈ (changes.filterMap Change.file?).map Prod.fst ↔
      ∃ content, Change.file path content ∈ changes := by
  simp only [List.mem_map, List.mem_filterMap, Prod.exists, Change.file?_eq_some_iff]
  -- A path is placed by the changes that are files, whatever their content.
  constructor
  · rintro ⟨_, content, ⟨_, member, rfl⟩, rfl⟩
    exact ⟨content, member⟩
  · rintro ⟨content, member⟩
    exact ⟨path, content, ⟨_, member, rfl⟩, rfl⟩

/-- What is found at a path is what was put in there last. -/
theorem get?_ofChanges (changes : List Change) (path : String) :
    (ofChanges changes).get? path = last? (changes.filterMap Change.file?) path := by
  rw [← Json.member?_collapse, ← files_ofChanges]
  rfl

/-- The content at a path is that of the last change that put in a file there. -/
theorem get?_ofChanges_eq_some_iff {changes : List Change} {path content : String} :
    (ofChanges changes).get? path = some content ↔
      ∃ earlier later, changes = earlier ++ .file path content :: later ∧
        ∀ other, Change.file path other ∉ later := by
  rw [get?_ofChanges, Json.last?_eq_some_iff]
  -- The files that were put in are split where the changes are.
  constructor
  · rintro ⟨before, after, placed, new⟩
    obtain ⟨front, rest, rfl, -, behind⟩ := List.filterMap_eq_append_iff.1 placed
    obtain ⟨between, change, later, rfl, -, put, rfl⟩ := List.filterMap_eq_cons_iff.1 behind
    obtain rfl := Change.file?_eq_some_iff.1 put
    exact ⟨front ++ between, later, (List.append_assoc ..).symm,
      fun other member => new (mem_placed_iff.2 ⟨other, member⟩)⟩
  · rintro ⟨earlier, later, rfl, new⟩
    -- The other way round, no change behind this one has put in a file of the path.
    refine ⟨_, _, List.filterMap_append, fun member => ?_⟩
    obtain ⟨other, inside⟩ := mem_placed_iff.1 member
    exact new other inside

/-- Through any changes, sources list each path that a file was put in at once, where it came first, and
hold for it the content that was put in last; the files in their order agree with the paths and with what
is found there. One more file leaves the remappings, and every other path with its content and its place,
as they are. -/
theorem ofChanges_faithful (changes : List Change) :
    (ofChanges changes).keys.Nodup ∧
    (ofChanges changes).keys = (pathsOf (changes.filterMap Change.file?)).eraseDups ∧
    (∀ path content, (ofChanges changes).get? path = some content ↔
      ∃ earlier later, changes = earlier ++ .file path content :: later ∧
        ∀ other, Change.file path other ∉ later) ∧
    (∀ path, (ofChanges changes).get? path = none ↔
      ∀ content, Change.file path content ∉ changes) ∧
    (∀ (index : Nat) path content, (ofChanges changes).files[index]? = some (path, content) ↔
      (ofChanges changes).keys[index]? = some path ∧
        (ofChanges changes).get? path = some content) ∧
    ∀ path content,
      ((ofChanges changes).insert path content).remappings = (ofChanges changes).remappings ∧
      ∀ other, other ≠ path →
        ((ofChanges changes).insert path content).get? other = (ofChanges changes).get? other ∧
        ∀ index : Nat, ((ofChanges changes).insert path content).keys[index]? = some other ↔
          (ofChanges changes).keys[index]? = some other := by
  -- All that is said of the paths is said of the files that were collected.
  have listed : (ofChanges changes).keys = (collapse (changes.filterMap Change.file?)).map Prod.fst :=
    congrArg pathsOf (files_ofChanges changes)
  refine ⟨?_, ?_, fun path content => get?_ofChanges_eq_some_iff, fun path => ?_,
    fun index path content => getElem?_files_iff, fun path content => ⟨rfl, fun other apart => ?_⟩⟩
  · rw [listed]
    exact Json.nodup_collapse _
  · rw [listed]
    exact Json.map_fst_collapse _
  · rw [get?_ofChanges, Json.last?_eq_none_iff, mem_placed_iff, not_exists]
  · refine ⟨?_, getElem?_keys_insert content apart⟩
    rw [get?_insert, if_neg (Ne.symm apart)]

/-- Changes of which one puts in a file anew, behind another file and new remappings. -/
def renewingChanges : List Change :=
  [.file "z/Last.sol" "c", .file "A.sol" "a", .remappings ["x/=lib/"], .file "z/Last.sol" "d"]

/-- A file that is put in anew once more leaves the other one as it is. -/
theorem renewingChanges_faithful :
    "A.sol" ≠ "z/Last.sol" ∧ (ofChanges renewingChanges).keys = ["z/Last.sol", "A.sol"] ∧
      ((ofChanges renewingChanges).insert "z/Last.sol" "e").get? "A.sol" = some "a" ∧
      ((ofChanges renewingChanges).insert "z/Last.sol" "e").keys[1]? = some "A.sol" := by
  have apart : "A.sol" ≠ "z/Last.sol" := by decide
  obtain ⟨-, order, found, -, -, frame⟩ := ofChanges_faithful renewingChanges
  obtain ⟨-, others⟩ := frame "z/Last.sol" "e"
  obtain ⟨content, place⟩ := others "A.sol" apart
  have keys : (ofChanges renewingChanges).keys = ["z/Last.sol", "A.sol"] := order.trans (by decide)
  refine ⟨apart, keys, ?_, ?_⟩
  · -- No change behind the one that put in the file has its path.
    exact content.trans ((found "A.sol" "a").2
      ⟨[.file "z/Last.sol" "c"], [.remappings ["x/=lib/"], .file "z/Last.sol" "d"], rfl, by simp⟩)
  · exact (place 1).2 (by rw [keys]; rfl)

end SourceMap

end AuditStage
