import AuditStage.Disk.Basic
import Mathlib.Data.List.Induction

/-! What lies where on a disk after an entry has been put there or taken away. -/

namespace AuditStage.Disk

variable {disk : Disk}

/-- The root is always a directory. -/
@[simp] theorem entryAt?_nil (disk : Disk) : disk.entryAt? [] = some .directory :=
  rfl

/-- An entry of the list is what lies at its location, or another entry before it is. -/
theorem mem_of_entryAt? {location : Location} {entry : Entry} (inside : location ≠ [])
    (found : disk.entryAt? location = some entry) : (location, entry) ∈ disk.entries := by
  simp only [entryAt?, lookUp, if_neg inside, Option.map_eq_some_iff] at found
  obtain ⟨item, located, rfl⟩ := found
  have here := List.find?_some located
  simp only [beq_iff_eq] at here
  exact here ▸ List.mem_of_find?_eq_some located

/-- Something lies at a location that the list has an entry for. -/
theorem entryAt?_ne_none {item : Location × Entry} (member : item ∈ disk.entries) :
    disk.entryAt? item.1 ≠ none := by
  simp only [entryAt?, lookUp]
  -- The root is never missing, and elsewhere the list is searched.
  split
  · simp
  · simp only [ne_eq, Option.map_eq_none_iff, List.find?_eq_none, not_forall]
    exact ⟨item, member, by simp⟩

/-- What lies on a disk has a proper name and stands in a directory. -/
theorem entryAt?_rooted {parent : Location} {name : String} {entry : Entry}
    (found : disk.entryAt? (parent ++ [name]) = some entry) :
    disk.entryAt? parent = some .directory ∧ isName name = true ∧ entry.isProper = true := by
  -- That entries stand in directories is kept with the disk.
  obtain ⟨holder, label, rooted, named, proper, above⟩ :=
    disk.tree _ (mem_of_entryAt? (by simp) found)
  obtain ⟨rfl, same⟩ := List.append_inj' rooted rfl
  obtain rfl : name = label := by simpa using same
  exact ⟨above, named, proper⟩

/-- Everything above what lies on a disk is a directory. -/
theorem entryAt?_above {above below : Location} {entry : Entry}
    (found : disk.entryAt? (above ++ below) = some entry) (further : below ≠ []) :
    disk.entryAt? above = some .directory := by
  -- One name after the other is taken off the end.
  induction below using List.reverseRecOn generalizing entry with
  | nil => exact absurd rfl further
  | append_singleton below name ih =>
    rw [← List.append_assoc] at found
    have held := (entryAt?_rooted found).1
    by_cases last : below = []
    · simpa [last] using held
    · exact ih held last

/-- The names that lead to what lies on a disk are proper ones. -/
theorem isName_of_entryAt? {location : Location} {entry : Entry}
    (found : disk.entryAt? location = some entry) : ∀ name ∈ location, isName name = true := by
  induction location using List.reverseRecOn generalizing entry with
  | nil => simp
  | append_singleton parent name ih =>
    -- What lies above is a directory, and its names are proper ones as well.
    obtain ⟨held, named, -⟩ := entryAt?_rooted found
    intro other member
    rcases List.mem_append.1 member with earlier | last
    · exact ih held other earlier
    · rwa [List.mem_singleton.1 last]

/-- A proper name is a plain step. -/
theorem isPlain_of_isName {name : String} (named : isName name = true) :
    Path.isPlain name = true := by
  simp only [isName, Bool.and_eq_true] at named
  exact named.1.1

/-- A proper name is not too long. -/
theorem not_isLongName {name : String} (named : isName name = true) :
    isLongName name = false := by
  simp only [isName, Bool.and_eq_true, Bool.not_eq_true'] at named
  exact named.1.2

/-- When an entry can be put at a location. -/
theorem accepts_iff {parent : Location} {name : String} {entry : Entry} :
    disk.accepts (parent ++ [name]) entry = true ↔
      isName name = true ∧ entry.isProper = true ∧ disk.entryAt? parent = some .directory ∧
        disk.entryAt? (parent ++ [name]) ≠ some .directory := by
  simp [accepts, and_assoc]

/-- An entry that was put is found at its location, and all else lies where it lay. -/
theorem entryAt?_put {location other : Location} {entry : Entry}
    (fits : disk.accepts location entry = true) :
    (disk.put location entry).entryAt? other =
      if other = location then some entry else disk.entryAt? other := by
  have inside : location ≠ [] := by rintro rfl; simp [accepts] at fits
  -- What was there has been dropped, so the new entry is the one that is found.
  have free : lookUp (disk.entries.filter (·.1 != location)) location = none :=
    lookUp_filter_none inside (by simp)
  simp only [put, dif_pos fits, entryAt?]
  rw [lookUp_append free]
  split
  · rfl
  · rename_i different
    exact lookUp_filter fun item _ here => by simpa [here] using different

/-- Putting an entry leaves the home where it is. -/
@[simp] theorem home_put (location : Location) (entry : Entry) :
    (disk.put location entry).home = disk.home := by
  unfold put
  split <;> rfl

/-- Erasing an entry leaves the home where it is. -/
@[simp] theorem home_erase (location : Location) : (disk.erase location).home = disk.home := by
  unfold erase
  split <;> rfl

/-- A directory is bare when nothing lies below it. -/
def Bare (disk : Disk) (location : Location) : Prop :=
  ∀ names, names ≠ [] → disk.entryAt? (location ++ names) = none

/-- A location is empty exactly when nothing lies below it. -/
theorem isEmptyAt_iff {location : Location} :
    disk.isEmptyAt location = true ↔ disk.Bare location := by
  simp only [isEmptyAt, children, List.isEmpty_iff, List.filterMap_eq_nil_iff, Bare]
  constructor
  · intro childless names further
    obtain ⟨name, names, rfl⟩ := List.exists_cons_of_ne_nil further
    cases found : disk.entryAt? (location ++ name :: names) with
    | none => rfl
    | some entry =>
      -- The first step down from the location leads to an entry of its own.
      have first : ∃ entry, disk.entryAt? (location ++ [name]) = some entry := by
        by_cases last : names = []
        · exact ⟨entry, by simpa [last] using found⟩
        · exact ⟨.directory, entryAt?_above (by simpa using found) last⟩
      obtain ⟨entry, found⟩ := first
      simpa using childless _ (mem_of_entryAt? (by simp) found)
  · intro bare item member
    -- An entry that counts as a child would lie below, where nothing is.
    obtain ⟨parent, name, rooted, -⟩ := disk.tree item member
    simp only [rooted, List.getLast?_concat, List.dropLast_concat, ite_eq_right_iff, reduceCtorEq,
      imp_false]
    rintro rfl
    exact entryAt?_ne_none member (rooted ▸ bare [name] (by simp))

/-- Erasing an entry takes it away and nothing else. -/
theorem entryAt?_erase {location other : Location} (inside : location ≠ [])
    (bare : disk.Bare location) :
    (disk.erase location).entryAt? other = if other = location then none else disk.entryAt? other := by
  simp only [erase, dif_pos (isEmptyAt_iff.2 bare), entryAt?]
  -- Since nothing lies below it, the entry can be taken away.
  split
  · rename_i same
    subst same
    exact lookUp_filter_none inside (by simp)
  · rename_i different
    exact lookUp_filter fun item _ here => by simpa [here] using different

/-- Erasing what lies below a location takes all of it away and nothing else. -/
theorem entryAt?_eraseBelow {location other : Location} :
    (disk.eraseBelow location).entryAt? other =
      if location <+: other ∧ other ≠ location then none else disk.entryAt? other := by
  simp only [eraseBelow, entryAt?]
  split
  · -- What lies below is filtered out, and what lies elsewhere passes the filter.
    rename_i lower
    obtain ⟨below, further⟩ := lower
    refine lookUp_filter_none ?_ fun item _ here => ?_
    · rintro rfl
      exact further (List.prefix_nil.1 below).symm
    · simp [here, List.isPrefixOf_iff_prefix.2 below, further]
  · rename_i kept
    refine lookUp_filter fun item _ here => ?_
    rw [here, Bool.or_eq_true, Bool.not_eq_true', ← Bool.not_eq_true, List.isPrefixOf_iff_prefix,
      beq_iff_eq]
    -- It is the location itself, or it does not lie below.
    by_cases same : other = location
    · exact .inr same
    · exact .inl fun below => kept ⟨below, same⟩

/-- Nothing is below a location where nothing is. -/
theorem bare_of_entryAt?_ne {location : Location}
    (other : disk.entryAt? location ≠ some .directory) : disk.Bare location := by
  intro names further
  -- Whatever lay below would have a directory above it.
  cases found : disk.entryAt? (location ++ names) with
  | none => rfl
  | some entry => exact absurd (entryAt?_above found further) other

end AuditStage.Disk
