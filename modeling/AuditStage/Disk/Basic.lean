import AuditStage.Path
import AuditStage.SystemError
import AuditStage.Text.Utf8

/-! A disk: directories, files and links, each at the location where it really lies. -/

namespace AuditStage

/-- What can lie on a disk. -/
inductive Entry where
  | directory
  | file (content : String)
  | link (target : String)
deriving Repr, DecidableEq

/-- Where an entry really lies: the names that lead to it from the root, none of them a link. -/
abbrev Location := List String

namespace Disk

/-- How many octets a name may have. -/
def nameLimit : Nat :=
  255

/-- How many octets a path may have. -/
def pathLimit : Nat :=
  4095

/-- Whether a name has more octets than a name may have. -/
def isLongName (name : String) : Bool :=
  nameLimit < Text.octetCount name.toList

/-- Whether a text can name an entry of a directory. -/
def isName (name : String) : Bool :=
  Path.isPlain name && !isLongName name && !name.toList.contains '\x00'

/-- Whether a text is one that the system takes for a path. -/
def isPath (path : String) : Bool :=
  path ≠ "" && !path.toList.contains '\x00' && Text.octetCount path.toList ≤ pathLimit

/-- The entry that a list of entries has at a location; the root is always a directory. -/
def lookUp (entries : List (Location × Entry)) (location : Location) : Option Entry :=
  if location = [] then some .directory
  else (entries.find? (·.1 == location)).map (·.2)

end Disk

/-- Whether an entry can be made at all: a link has to have a path for its target. -/
def Entry.isProper : Entry → Bool
  | .directory | .file _ => true
  | .link target => Disk.isPath target

/-- Every entry of a list is a proper one, has a proper name, and stands in a directory. -/
def FormTree (entries : List (Location × Entry)) : Prop :=
  ∀ item ∈ entries, ∃ parent name, item.1 = parent ++ [name] ∧ Disk.isName name = true ∧
    item.2.isProper = true ∧ Disk.lookUp entries parent = some .directory

/-- The entries of a disk, and the directory from which relative paths start. -/
structure Disk where
  entries : List (Location × Entry)
  home : Location
  tree : FormTree entries := by simp [FormTree]
  /-- No location has two entries. -/
  single : (entries.map Prod.fst).Nodup := by simp
deriving Repr

namespace Disk

/-- The entry at a location; the root is always a directory. -/
def entryAt? (disk : Disk) (location : Location) : Option Entry :=
  lookUp disk.entries location

/-- Dropping entries changes nothing at a location whose entries are all kept. -/
theorem lookUp_filter {entries : List (Location × Entry)} {keep : Location × Entry → Bool}
    {location : Location} (kept : ∀ item ∈ entries, item.1 = location → keep item = true) :
    lookUp (entries.filter keep) location = lookUp entries location := by
  unfold lookUp
  split
  · rfl
  · -- The search goes on behind an entry that is dropped, as it does behind any other.
    congr 1
    induction entries with
    | nil => rfl
    | cons item entries ih =>
      have rest := ih fun other member => kept other (List.mem_cons_of_mem _ member)
      by_cases here : item.1 = location
      · simp [kept item (by simp) here, here]
      · by_cases keeps : keep item = true <;> simp [keeps, here, rest]

/-- Nothing is found at a location all of whose entries are dropped. -/
theorem lookUp_filter_none {entries : List (Location × Entry)} {keep : Location × Entry → Bool}
    {location : Location} (inside : location ≠ [])
    (dropped : ∀ item ∈ entries, item.1 = location → keep item = false) :
    lookUp (entries.filter keep) location = none := by
  simp only [lookUp, if_neg inside, Option.map_eq_none_iff, List.find?_eq_none, List.mem_filter,
    beq_iff_eq]
  intro item ⟨member, keeps⟩ here
  simp [dropped item member here] at keeps

/-- An entry at the end of a list is found at its own location unless there is one before it. -/
theorem lookUp_append {entries : List (Location × Entry)} {location other : Location}
    {entry : Entry} (free : lookUp entries location = none) :
    lookUp (entries ++ [(location, entry)]) other =
      if other = location then some entry else lookUp entries other := by
  unfold lookUp at free ⊢
  split at free
  · simp at free
  · rename_i inside
    simp only [Option.map_eq_none_iff] at free
    by_cases same : other = location
    · subst same
      simp [inside, List.find?_append, free]
    · simp [same, Ne.symm same, List.find?_append]

/-- Whether an entry can be put at a location: in a directory, by a proper name, and not in place of
a directory. -/
def accepts (disk : Disk) (location : Location) (entry : Entry) : Bool :=
  match location.getLast? with
  | none => false
  | some name =>
    isName name && entry.isProper && disk.entryAt? location.dropLast == some .directory &&
      disk.entryAt? location != some .directory

/-- The entries of a disk that accepts one more still form a tree with it. -/
theorem formTree_put {disk : Disk} {location : Location} {entry : Entry}
    (fits : disk.accepts location entry = true) :
    FormTree (disk.entries.filter (·.1 != location) ++ [(location, entry)]) := by
  obtain ⟨name, last⟩ : ∃ name, location.getLast? = some name := by
    cases last : location.getLast? with
    | none => simp [accepts, last] at fits
    | some name => exact ⟨name, rfl⟩
  obtain ⟨parent, rfl⟩ := List.getLast?_eq_some_iff.1 last
  simp only [accepts, last, List.dropLast_concat, Bool.and_eq_true, beq_iff_eq, bne_iff_ne,
    entryAt?] at fits
  obtain ⟨⟨⟨named, proper⟩, above⟩, vacant⟩ := fits
  have free : lookUp (disk.entries.filter (·.1 != parent ++ [name])) (parent ++ [name]) = none :=
    lookUp_filter_none (by simp) (by simp)
  -- A directory that held an entry before is another one than the place of the new entry.
  have stays : ∀ {holder : Location}, lookUp disk.entries holder = some .directory →
      lookUp (disk.entries.filter (·.1 != parent ++ [name]) ++ [(parent ++ [name], entry)]) holder =
        some .directory := by
    intro holder found
    have other : holder ≠ parent ++ [name] := by rintro rfl; exact vacant found
    rw [lookUp_append free, if_neg other, lookUp_filter fun item _ here => by simpa [here] using other]
    exact found
  intro item member
  simp only [List.mem_append, List.mem_filter, List.mem_singleton] at member
  rcases member with ⟨old, -⟩ | rfl
  · obtain ⟨holder, label, rooted, labelled, made, found⟩ := disk.tree item old
    exact ⟨holder, label, rooted, labelled, made, stays found⟩
  · exact ⟨parent, name, rfl, named, proper, stays above⟩

/-- What was at a location makes room for the entry that is put there, so that it is the only one. -/
theorem single_put (disk : Disk) (location : Location) (entry : Entry) :
    ((disk.entries.filter (·.1 != location) ++ [(location, entry)]).map Prod.fst).Nodup := by
  simp only [List.map_append, List.map_cons, List.map_nil]
  refine List.nodup_append.2 ⟨disk.single.sublist (List.filter_sublist.map _), by simp, ?_⟩
  simp

/-- The disk with an entry put at a location, in place of a file or link that was there; where the
entry cannot be put, the disk stays as it is. -/
def put (disk : Disk) (location : Location) (entry : Entry) : Disk :=
  if fits : disk.accepts location entry = true then
    { disk with
      entries := disk.entries.filter (·.1 != location) ++ [(location, entry)]
      tree := formTree_put fits
      single := disk.single_put location entry }
  else disk

/-- The names and entries directly inside a location. -/
def children (disk : Disk) (location : Location) : List (String × Entry) :=
  disk.entries.filterMap fun item =>
    match item.1.getLast? with
    | some name => if item.1.dropLast = location then some (name, item.2) else none
    | none => none

/-- Entries still form a tree when none of those left out holds one that is kept. -/
theorem formTree_filter {disk : Disk} {keep : Location × Entry → Bool}
    (closed : ∀ item ∈ disk.entries, keep item = true →
      ∀ other, other.1 = item.1.dropLast → keep other = true) :
    FormTree (disk.entries.filter keep) := by
  intro item member
  obtain ⟨old, kept⟩ := List.mem_filter.1 member
  obtain ⟨parent, name, rooted, named, proper, found⟩ := disk.tree item old
  refine ⟨parent, name, rooted, named, proper, ?_⟩
  rw [lookUp_filter fun other _ same => closed item old kept other (by simp [same, rooted])]
  exact found

/-- Whether anything lies directly inside a location. -/
def isEmptyAt (disk : Disk) (location : Location) : Bool :=
  (disk.children location).isEmpty

/-- The disk without the entry at a location, unless other entries lie inside of it. -/
def erase (disk : Disk) (location : Location) : Disk :=
  if bare : disk.isEmptyAt location = true then
    { disk with
      entries := disk.entries.filter (·.1 != location)
      tree := by
        refine formTree_filter fun item member _ other held => bne_iff_ne.2 fun here => ?_
        obtain ⟨parent, name, rooted, -⟩ := disk.tree item member
        simp only [isEmptyAt, children, List.isEmpty_iff, List.filterMap_eq_nil_iff] at bare
        have inside := bare item member
        simp only [rooted, List.getLast?_concat, List.dropLast_concat] at inside held
        simp [← held, here] at inside
      single := disk.single.sublist (List.filter_sublist.map _) }
  else disk

/-- The disk without anything that lies below a location. -/
def eraseBelow (disk : Disk) (location : Location) : Disk :=
  { disk with
    entries := disk.entries.filter fun item =>
      !(location.isPrefixOf item.1) || item.1 == location
    tree := by
      refine formTree_filter fun item member kept other held => ?_
      obtain ⟨parent, name, rooted, -⟩ := disk.tree item member
      simp only [Bool.or_eq_true, Bool.not_eq_true', beq_iff_eq, ← Bool.not_eq_true,
        List.isPrefixOf_iff_prefix, rooted, List.dropLast_concat] at kept held ⊢
      refine Or.inl fun lower => ?_
      rw [held] at lower
      -- What is kept lies outside, or is the location itself, and so does what holds it.
      rcases kept with outside | same
      · exact outside (lower.trans (List.prefix_append _ _))
      · have shorter := lower.length_le
        simp only [← same, List.length_append, List.length_singleton] at shorter
        omega
    single := disk.single.sublist (List.filter_sublist.map _) }

/-- Everything below a location, by the names that lead to it from there. -/
def below (disk : Disk) (location : Location) : List (Location × Entry) :=
  disk.entries.filterMap fun item =>
    if location.isPrefixOf item.1 && item.1 != location then
      some (item.1.drop location.length, item.2)
    else none

/-- A disk with nothing on it, where relative paths start from a location. -/
def blank (home : Location) : Disk :=
  { entries := [], home }

/-- A disk with nothing but a home directory and the directories above it. -/
def atHome (home : Location) : Disk :=
  (List.range home.length).foldl (fun disk depth => disk.put (home.take (depth + 1)) .directory)
    (.blank home)

end Disk

end AuditStage
