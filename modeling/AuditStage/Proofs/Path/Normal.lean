import AuditStage.Proofs.Disk.Walk

/-! Paths without detours: each way up takes back the name before it, so that only names are left. -/

namespace AuditStage.Path

variable {base path text : String} {names : List String} {parts : List Component}

/-- The names by which a path leads down from the root, with one component more. -/
def settle (names : List String) : Component → List String
  | .root => []
  | .here => names
  -- Above the root there is nothing, so two dots stay there.
  | .up => names.dropLast
  | .name text => names ++ [text]

/-- The names by which an absolute path leads down once each way up has taken back the name before it. -/
def normalNames (path : String) : List String :=
  (components path).foldl settle []

/-- An absolute path without its detours. -/
def normal (path : String) : String :=
  ofNames (normalNames path)

/-- Where a relative path leads from a directory: so many directories up, and down by names from there. -/
structure Way where
  up : Nat
  down : List String
deriving Repr, DecidableEq

/-- A way with one component more: two dots take back the last name, and lead up where there is none. -/
def Way.onward (way : Way) : Component → Way
  | .root | .here => way
  | .up =>
    if way.down = [] then { way with up := way.up + 1 }
    else { way with down := way.down.dropLast }
  | .name text => { way with down := way.down ++ [text] }

/-- Where a relative path leads. -/
def wayOf (path : String) : Way :=
  (components path).foldl Way.onward ⟨0, []⟩

/-- The way along some components first takes back names that were there, and then adds its own. -/
theorem foldl_settle (relative : .root ∉ parts) (names : List String) :
    parts.foldl settle names =
      names.take (names.length - (parts.foldl Way.onward ⟨0, []⟩).up) ++
        (parts.foldl Way.onward ⟨0, []⟩).down := by
  -- The induction is on the components from the front, so that the last one comes on top of a way.
  induction parts using List.reverseRecOn with
  | nil => simp
  | append_singleton front last ih =>
    simp only [List.mem_append, List.mem_singleton, not_or] at relative
    have before := ih relative.1
    rw [List.foldl_append, List.foldl_append, before]
    generalize front.foldl Way.onward ⟨0, []⟩ = way
    simp only [List.foldl_cons, List.foldl_nil]
    cases last with
    | root => exact absurd rfl relative.2
    | here => rfl
    | name text => simp [settle, Way.onward]
    | up =>
      by_cases still : way.down = []
      · -- There is no name of the way's own to take back, so one that was there goes.
        simp only [settle, Way.onward, still, if_true, List.append_nil, List.dropLast_eq_take,
          List.length_take, List.take_take]
        congr 1
        omega
      · simp only [settle, Way.onward, still, if_false]
        exact List.dropLast_append_of_ne_nil still

/-- A relative path does not come back to the root. -/
theorem root_notMem_components (relative : isAbsolute path = false) :
    .root ∉ components path := by
  intro member
  rw [components_eq, List.mem_append] at member
  rcases member with lead | step
  · -- In front of a relative path there is a dot at most.
    simp only [Path.lead, relative, Bool.false_eq_true, if_false] at lead
    split at lead
    · cases List.mem_singleton.1 lead
    · cases lead
  · obtain ⟨step, -, named⟩ := List.mem_filterMap.1 step
    simp only [stepComponent?, component?] at named
    split at named
    · cases named
    · split at named <;> cases named

/-- Joined to an absolute path, a relative one first takes back names of it, and then adds its own. -/
theorem normalNames_join (absolute : isAbsolute base = true) (relative : isAbsolute path = false) :
    normalNames (join base path) =
      (normalNames base).take ((normalNames base).length - (wayOf path).up) ++
        (wayOf path).down := by
  -- The dot that may stand in front of the relative path leads nowhere.
  have onward : (components path).foldl settle (normalNames base) =
      ((steps path).filterMap stepComponent?).foldl settle (normalNames base) := by
    rw [components_eq, List.foldl_append]
    congr 1
    simp only [Path.lead, relative, Bool.false_eq_true, if_false]
    split <;> rfl
  -- The components of the joined path are those of the base, and then those of the relative one.
  have further : normalNames (join base path) = (components path).foldl settle (normalNames base) := by
    rw [onward, normalNames, components_join absolute relative, filter_components relative,
      List.foldl_append]
    rfl
  rw [further]
  exact foldl_settle (root_notMem_components relative) (normalNames base)

/-- The name that a component of a path stands for is a plain one. -/
theorem isPlain_of_mem_components (member : .name text ∈ components path) :
    isPlain text = true := by
  rw [components_eq, List.mem_append] at member
  rcases member with lead | step
  · unfold Path.lead at lead
    split at lead
    · cases List.mem_singleton.1 lead
    · split at lead
      · cases List.mem_singleton.1 lead
      · cases lead
  · obtain ⟨step, inside, named⟩ := List.mem_filterMap.1 step
    -- A step that is a dot or two would have been another component.
    have here : step ≠ "." := by
      rintro rfl
      cases named
    have up : step ≠ ".." := by
      rintro rfl
      cases named
    have plain := isPlain_of_mem_steps inside here up
    rw [stepComponent?_plain plain] at named
    cases named
    exact plain

/-- Without its detours a path is made of plain names. -/
theorem plain_normalNames (path : String) : ∀ name ∈ normalNames path, isPlain name = true := by
  have known : ∀ text, .name text ∈ components path → isPlain text = true :=
    fun text member => isPlain_of_mem_components member
  unfold normalNames
  generalize components path = parts at known ⊢
  -- A name that is there was added by one of the components.
  induction parts using List.reverseRecOn with
  | nil => simp
  | append_singleton front last ih =>
    have before := ih fun text member => known text (List.mem_append_left _ member)
    rw [List.foldl_append]
    simp only [List.foldl_cons, List.foldl_nil]
    intro name member
    -- Only a name adds to those that the components before it have left.
    cases last with
    | root => cases member
    | here => exact before name member
    | up => exact before name (List.dropLast_subset _ member)
    | name text =>
      rcases List.mem_append.1 member with old | new
      · exact before name old
      · obtain rfl := List.mem_singleton.1 new
        exact known name (by simp)

/-- The names that are added one by one stand behind those that were there. -/
theorem foldl_settle_names (names more : List String) :
    (more.map .name).foldl settle names = names ++ more := by
  induction more generalizing names with
  | nil => simp
  | cons name more ih =>
    rw [List.map_cons, List.foldl_cons, ih]
    simp [settle]

/-- An absolute path that never leads up has no detours but its dots. -/
theorem components_of_level (absolute : isAbsolute path = true) (level : .up ∉ components path) :
    components path = .root :: (normalNames path).map .name := by
  have spelled := components_absolute absolute
  have proper : ∀ step ∈ steps path, step ≠ "" ∧ step ≠ ".." := by
    intro step member
    refine ⟨(of_mem_steps member).1, ?_⟩
    rintro rfl
    exact up_notMem_steps level member
  -- Steps that do not lead up name themselves, and the dots among them name nothing.
  rw [Disk.filterMap_downward proper] at spelled
  have names : normalNames path = Disk.dropDots (steps path) := by
    rw [normalNames, spelled, List.foldl_cons, foldl_settle_names]
    rfl
  rw [names, spelled]

/-- Without its detours a path lies at or below one that never leads up exactly if its names start with
the names of that one. -/
theorem isBelow_normal_iff (absolute : isAbsolute base = true) (level : .up ∉ components base) :
    isBelow (normal path) base = true ↔ normalNames base <+: normalNames path :=
  isBelow_iff_prefix (components_ofNames (plain_normalNames path)) (components_of_level absolute level)

/-- A relative path stays at or below the directory that it is read from exactly if the names that it
takes back are the first that it adds. -/
theorem isBelow_join_iff (absolute : isAbsolute base = true) (level : .up ∉ components base)
    (relative : isAbsolute path = false) : isBelow (normal (join base path)) base = true ↔
      (normalNames base).drop ((normalNames base).length - (wayOf path).up) <+:
        (wayOf path).down := by
  rw [isBelow_normal_iff absolute level, normalNames_join absolute relative]
  generalize normalNames base = names
  generalize names.length - (wayOf path).up = kept
  -- What is left of the names stands in front on both sides.
  have split : names = names.take kept ++ names.drop kept := (List.take_append_drop kept names).symm
  calc names <+: names.take kept ++ (wayOf path).down
      ↔ names.take kept ++ names.drop kept <+: names.take kept ++ (wayOf path).down := by rw [← split]
    _ ↔ names.drop kept <+: (wayOf path).down := List.prefix_append_right_inj _

end AuditStage.Path
