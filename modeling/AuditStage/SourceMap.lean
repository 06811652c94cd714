/-! The published files of a contract, in the order of publication, each path once. -/

namespace AuditStage

/-- The paths that a list of files names. -/
def pathsOf (files : List (String × String)) : List String :=
  files.map Prod.fst

/-- Files with one more: a path that is there keeps its place and takes the new content. -/
def placeFile (path content : String) : List (String × String) → List (String × String)
  | [] => [(path, content)]
  | (key, old) :: files =>
    if key = path then (path, content) :: files else (key, old) :: placeFile path content files

/-- Placing a file adds its path and no other. -/
theorem mem_pathsOf_placeFile {path content key : String} {files : List (String × String)} :
    key ∈ pathsOf (placeFile path content files) ↔ key = path ∨ key ∈ pathsOf files := by
  induction files with
  | nil => simp [placeFile, pathsOf]
  | cons file files ih =>
    -- The path is either the one at the front, or it is placed further on.
    by_cases same : file.1 = path
    · simp [placeFile, pathsOf, same]
    · simp only [placeFile, same, pathsOf, if_false, List.map_cons, List.mem_cons] at ih ⊢
      rw [ih]
      exact or_left_comm

/-- Placing a file keeps the paths distinct. -/
theorem nodup_placeFile {path content : String} {files : List (String × String)}
    (distinct : (pathsOf files).Nodup) : (pathsOf (placeFile path content files)).Nodup := by
  induction files with
  | nil => simp [placeFile, pathsOf]
  | cons file files ih =>
    simp only [pathsOf, List.map_cons, List.nodup_cons] at distinct
    by_cases same : file.1 = path
    · simp only [placeFile, same, if_true, pathsOf, List.map_cons, List.nodup_cons]
      exact same ▸ distinct
    · simp only [placeFile, same, if_false, pathsOf, List.map_cons, List.nodup_cons]
      refine ⟨fun member => ?_, ih distinct.2⟩
      -- A path further on is either the new one or was there before.
      rcases mem_pathsOf_placeFile.1 member with fresh | old
      · exact same fresh
      · exact distinct.1 old

/-- An item is found by its key when the keys of all items are distinct. -/
theorem find?_of_mem {α : Type} (keyOf : α → String) {items : List α}
    (distinct : (items.map keyOf).Nodup) {item : α} (member : item ∈ items) :
    items.find? (keyOf · == keyOf item) = some item := by
  induction items with
  | nil => simp at member
  | cons first items ih =>
    simp only [List.map_cons, List.nodup_cons] at distinct
    rcases List.mem_cons.1 member with rfl | later
    · simp
    · -- The item at the front has another key than the one further on.
      have other : keyOf first ≠ keyOf item := fun same =>
        distinct.1 (same ▸ List.mem_map_of_mem later)
      simpa [other] using ih distinct.2 later

/-- The files of a contract, and the remappings that its compiler settings declare. -/
structure SourceMap where
  files : List (String × String)
  remappings : List String
  distinct : (pathsOf files).Nodup := by simp [pathsOf]

namespace SourceMap

/-- No files and no remappings. -/
def empty : SourceMap where
  files := []
  remappings := []

/-- The sources with a file put in; a path that is there keeps its place. -/
def insert (sources : SourceMap) (path content : String) : SourceMap where
  files := placeFile path content sources.files
  remappings := sources.remappings
  distinct := nodup_placeFile sources.distinct

/-- The sources with other remappings. -/
def withRemappings (sources : SourceMap) (remappings : List String) : SourceMap :=
  { sources with remappings }

/-- The sources of a list of files, put in one after the other. -/
def ofList (files : List (String × String)) : SourceMap :=
  files.foldl (fun sources file => sources.insert file.1 file.2) empty

/-- The paths in order. -/
def keys (sources : SourceMap) : List String :=
  pathsOf sources.files

/-- The content of the file at a path. -/
def get? (sources : SourceMap) (path : String) : Option String :=
  (sources.files.find? (·.1 == path)).map Prod.snd

/-- What is found at the path of a file is its content, for no other file has that path. -/
theorem get?_of_mem {sources : SourceMap} {path content : String}
    (member : (path, content) ∈ sources.files) : sources.get? path = some content := by
  rw [get?, find?_of_mem (Prod.fst) sources.distinct member]
  rfl

/-- How many files there are. -/
def size (sources : SourceMap) : Nat :=
  sources.files.length

/-- Whether there are no files. -/
def isEmpty (sources : SourceMap) : Bool :=
  sources.files.isEmpty

/-- All contents in order, parted by line feeds. -/
def combined (sources : SourceMap) : String :=
  "\n".intercalate (sources.files.map Prod.snd)

/-- Sources are the same when files, order and remappings are. -/
instance : BEq SourceMap :=
  ⟨fun a b => a.files == b.files && a.remappings == b.remappings⟩

end SourceMap

end AuditStage
