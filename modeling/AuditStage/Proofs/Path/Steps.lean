import AuditStage.Disk.Walk
import AuditStage.Proofs.Text.Split

/-! The steps of a path: what joining does to them, and which components they name. -/

namespace AuditStage.Path

/-- The parts of a text between its slashes, without the empty ones. -/
def stepsOf (cs : List Char) : List String :=
  ((cs.splitOn '/').filter (· != [])).map String.ofList

/-- The steps of a path are those of its characters. -/
theorem steps_eq (path : String) : steps path = stepsOf path.toList :=
  rfl

/-- An empty text has no steps. -/
@[simp] theorem stepsOf_nil : stepsOf [] = [] :=
  rfl

/-- A slash between two texts parts their steps. -/
theorem stepsOf_append (before after : List Char) :
    stepsOf (before ++ '/' :: after) = stepsOf before ++ stepsOf after := by
  simp [stepsOf, List.splitOn_append_cons_self]

/-- A slash at the front adds no step. -/
@[simp] theorem stepsOf_slash (cs : List Char) : stepsOf ('/' :: cs) = stepsOf cs :=
  stepsOf_append [] cs

/-- A text without a slash is a step of its own. -/
theorem stepsOf_name {name : String} (filled : name ≠ "") (plain : '/' ∉ name.toList) :
    stepsOf name.toList = [name] := by
  have visible : name.toList ≠ [] := fun empty => filled (String.toList_eq_nil_iff.1 empty)
  simp [stepsOf, List.splitOn_eq_singleton plain, visible]

/-- A step is not empty, and holds characters of the path other than the slash. -/
theorem of_mem_steps {path step : String} (member : step ∈ steps path) :
    step ≠ "" ∧ ∀ c ∈ step.toList, c ∈ path.toList ∧ c ≠ '/' := by
  simp only [steps, List.mem_map, List.mem_filter, bne_iff_ne] at member
  -- A step is a part of the path between slashes.
  obtain ⟨part, ⟨inside, filled⟩, rfl⟩ := member
  refine ⟨fun empty => filled ?_, fun c within => ?_⟩
  · simpa using congrArg String.toList empty
  · exact Text.mem_of_mem_splitOn inside c (by simpa using within)

/-- A path starts at the root exactly when a slash stands at its front. -/
theorem isAbsolute_iff {path : String} :
    isAbsolute path = true ↔ ∃ rest, path.toList = '/' :: rest := by
  unfold isAbsolute
  cases path.toList with
  | nil => simp
  | cons c rest => simp

/-- A path without a step starts at the root, unless it is empty. -/
theorem isAbsolute_of_steps_nil {path : String} (filled : path ≠ "") (still : steps path = []) :
    isAbsolute path = true := by
  have visible : path.toList ≠ [] := fun empty => filled (String.toList_eq_nil_iff.1 empty)
  obtain ⟨c, rest, spelled⟩ := List.exists_cons_of_ne_nil visible
  -- The first part of the path is a step unless it is empty.
  have first := Text.head?_splitOn '/' path.toList
  have blank : path.toList.takeWhile (· != '/') = [] := by
    simp only [steps, List.map_eq_nil_iff, List.filter_eq_nil_iff, bne_iff_ne, Decidable.not_not]
      at still
    exact still _ (List.mem_of_mem_head? (first ▸ rfl))
  rw [spelled] at blank
  by_cases slash : c = '/'
  · exact isAbsolute_iff.2 ⟨rest, slash ▸ spelled⟩
  · simp [slash] at blank

/-- Joining a relative path takes the steps of the base and then its own. -/
theorem steps_join {base path : String} (relative : isAbsolute path = false) :
    steps (join base path) = steps base ++ steps path := by
  simp only [join, relative, Bool.false_eq_true, if_false, steps_eq]
  -- Joined to nothing, the path stays as it is.
  by_cases empty : base.toList = []
  · simp [String.toList_append, empty]
  by_cases slash : base.toList.getLast? = some '/'
  · -- The base ends with a slash already, so none is put between.
    obtain ⟨front, spelled⟩ := List.getLast?_eq_some_iff.1 slash
    rw [if_pos (by simp [slash]), String.toList_append, spelled, List.append_assoc,
      List.singleton_append, stepsOf_append, stepsOf_append, stepsOf_nil, List.append_nil]
  · have between : ("/" : String).toList = ['/'] := rfl
    rw [if_neg (by simp [empty, slash]), String.toList_append, String.toList_append, between,
      List.append_assoc, List.singleton_append, stepsOf_append]

/-- Joining a relative path keeps where the base starts. -/
theorem isAbsolute_join {base path : String} (relative : isAbsolute path = false)
    (filled : base ≠ "") : isAbsolute (join base path) = isAbsolute base := by
  have visible : base.toList ≠ [] := fun empty => filled (String.toList_eq_nil_iff.1 empty)
  obtain ⟨c, rest, spelled⟩ := List.exists_cons_of_ne_nil visible
  -- Whether a path is absolute is told by its first character.
  have front : (join base path).toList.head? = base.toList.head? := by
    simp only [join, relative, Bool.false_eq_true, if_false]
    split <;> simp [String.toList_append, spelled]
  simp [isAbsolute, front]

/-- What is joined to an absolute path is one. -/
theorem isAbsolute_join_of_isAbsolute {base : String} (absolute : isAbsolute base = true)
    (path : String) : isAbsolute (join base path) = true := by
  -- An absolute path replaces the base, and any other keeps its start.
  cases start : isAbsolute path with
  | true => rw [join, if_pos start, start]
  | false =>
    have filled : base ≠ "" := by
      rintro rfl
      cases absolute
    rw [isAbsolute_join start filled, absolute]

/-- Joining to a base that is not empty gives no empty path. -/
theorem join_ne_empty {base path : String} (filled : base ≠ "" ∨ path ≠ "") :
    join base path ≠ "" := by
  intro empty
  have empty := congrArg String.toList empty
  simp only [join] at empty
  -- One of the two is not empty, and what is joined holds both unless it is the second.
  split at empty
  · simp_all [isAbsolute]
  · split at empty <;> simp_all [String.toList_append]

/-- Text behind a path does not change where the path starts. -/
theorem isAbsolute_append {path : String} (absolute : isAbsolute path = true) (rest : String) :
    isAbsolute (path ++ rest) = true := by
  obtain ⟨after, spelled⟩ := isAbsolute_iff.1 absolute
  exact isAbsolute_iff.2 ⟨after ++ rest.toList, by simp [String.toList_append, spelled]⟩

/-- What is written behind a joined path belongs to the path that was joined. -/
theorem join_append {base path rest : String} (relative : isAbsolute (path ++ rest) = false) :
    join base path ++ rest = join base (path ++ rest) := by
  -- If the text behind it is dropped, a relative path is still relative.
  have front : isAbsolute path = false := by
    refine Bool.eq_false_iff.2 fun absolute => ?_
    rw [isAbsolute_append absolute] at relative
    cases relative
  simp only [join, relative, front, Bool.false_eq_true, if_false]
  split <;> simp [String.append_assoc]

/-- The component that a step names, if it names any. -/
def stepComponent? (step : String) : Option Component :=
  component? step.toList

/-- A step that is neither a dot nor two dots names itself. -/
theorem stepComponent?_name {step : String} (filled : step ≠ "") (here : step ≠ ".")
    (up : step ≠ "..") : stepComponent? step = some (.name step) := by
  have visible : step.toList ≠ [] := fun empty => filled (String.toList_eq_nil_iff.1 empty)
  have here : step.toList ≠ ['.'] := fun same => here (String.toList_inj.1 same)
  have up : step.toList ≠ ['.', '.'] := fun same => up (String.toList_inj.1 same)
  simp [stepComponent?, component?, visible, here, up]

/-- A dot names no component. -/
@[simp] theorem stepComponent?_here : stepComponent? "." = none :=
  rfl

/-- Two dots name the way up. -/
@[simp] theorem stepComponent?_up : stepComponent? ".." = some .up :=
  rfl

/-- The component in front of those that the steps name: the root, or a dot at the very front. -/
def lead (path : String) : List Component :=
  if isAbsolute path then [.root] else if (steps path).head? = some "." then [.here] else []

/-- The components of a path are its lead and those that its steps name. -/
theorem components_eq (path : String) :
    components path = lead path ++ (steps path).filterMap stepComponent? := by
  have emptyPart : component? [] = none := rfl
  -- An empty part names nothing, so it makes no difference that the steps leave it out.
  have named : ∀ parts : List (List Char),
      parts.filterMap component? =
        ((parts.filter (· != [])).map String.ofList).filterMap stepComponent? := by
    intro parts
    induction parts with
    | nil => rfl
    | cons part parts ih =>
      by_cases empty : part = []
      · simp [empty, emptyPart, ih]
      · simp [empty, stepComponent?, List.filterMap_cons, ih]
  obtain ⟨cs, rfl⟩ : ∃ cs, path = String.ofList cs := ⟨path.toList, String.ofList_toList.symm⟩
  simp only [components, lead, steps, isAbsolute, String.toList_ofList]
  cases cs with
  | nil => simp
  | cons c rest =>
    by_cases slash : c = '/'
    · -- A slash at the front leaves an empty part before it.
      have parts : ('/' :: rest).splitOn '/' = [] :: rest.splitOn '/' := by
        simp [List.splitOn_cons_eq_if_modifyHead]
      simp [slash, parts, List.splitOn_ne_nil _, named]
    · cases parts : (c :: rest).splitOn '/' with
      | nil => exact absurd parts (List.splitOn_ne_nil _ _)
      | cons part parts =>
        -- Without a slash in front, the first part is not empty.
        have filled : part ≠ [] := by
          have first := Text.head?_splitOn '/' (c :: rest)
          rintro rfl
          simp [parts, slash] at first
        -- A first part that is a dot is kept at the front, though no step names it.
        by_cases dot : part = ['.']
        · simp [slash, dot, named, stepComponent?, component?]
        · have other : String.ofList part ≠ "." := fun same => dot (by
            simpa using congrArg String.toList same)
          cases meant : component? part <;>
            simp [slash, filled, dot, other, named, stepComponent?, meant]

/-- The components of a path from the root. -/
theorem components_absolute {path : String} (absolute : isAbsolute path = true) :
    components path = .root :: (steps path).filterMap stepComponent? := by
  simp [components_eq, lead, absolute]

/-- No step names the place where it is. -/
theorem stepComponent?_ne_here (step : String) : stepComponent? step ≠ some .here := by
  unfold stepComponent? component?
  -- A dot names nothing, and whatever else a step is, it names the way up or itself.
  split
  · nofun
  · split <;> nofun

/-- Only at the very front of a relative path a dot stands among its components. -/
theorem filter_components {path : String} (relative : isAbsolute path = false) :
    (components path).filter (· ≠ .here) = (steps path).filterMap stepComponent? := by
  have leads : (lead path).filter (· ≠ .here) = [] := by
    simp only [lead, relative, Bool.false_eq_true, if_false]
    split <;> rfl
  -- None of the others is such a dot.
  have named : ∀ part ∈ (steps path).filterMap stepComponent?, decide (part ≠ .here) = true := by
    intro part member
    obtain ⟨step, -, names⟩ := List.mem_filterMap.1 member
    exact decide_eq_true fun here => stepComponent?_ne_here step (here ▸ names)
  rw [components_eq, List.filter_append, leads, List.nil_append, List.filter_eq_self.2 named]

/-- A relative path that is joined to an absolute one adds its components to those that are there, but
for a dot at its front. -/
theorem components_join {base path : String} (absolute : isAbsolute base = true)
    (relative : isAbsolute path = false) :
    components (join base path) = components base ++ (components path).filter (· ≠ .here) := by
  rw [components_absolute (isAbsolute_join_of_isAbsolute absolute path), components_absolute absolute,
    steps_join relative, List.filterMap_append, filter_components relative]
  rfl

/-- A path of which no component leads up has no step that does. -/
theorem up_notMem_steps {path : String} (level : .up ∉ components path) : ".." ∉ steps path := by
  intro up
  apply level
  rw [components_eq]
  exact List.mem_append_right _ (List.mem_filterMap.2 ⟨"..", up, stepComponent?_up⟩)

end AuditStage.Path
