import AuditStage.Disk.Action
import AuditStage.Proofs.Path.Steps
import Mathlib.Data.List.Basic
import Mathlib.Data.List.Induction

/-! Paths made of names alone: their steps and their components. -/

namespace AuditStage.Path

/-- What makes a step plain. -/
theorem isPlain_iff {step : String} :
    isPlain step = true ↔ step ≠ "" ∧ step ≠ "." ∧ step ≠ ".." ∧ '/' ∉ step.toList := by
  simp [isPlain, and_assoc]

/-- A step of a path that is no dots is plain. -/
theorem isPlain_of_mem_steps {path step : String} (member : step ∈ steps path) (here : step ≠ ".")
    (up : step ≠ "..") : isPlain step = true := by
  obtain ⟨filled, bare⟩ := of_mem_steps member
  exact isPlain_iff.2 ⟨filled, here, up, fun slash => (bare _ slash).2 rfl⟩

/-- A plain step names itself. -/
theorem stepComponent?_plain {step : String} (plain : isPlain step = true) :
    stepComponent? step = some (.name step) := by
  obtain ⟨filled, here, up, -⟩ := isPlain_iff.1 plain
  exact stepComponent?_name filled here up

/-- Plain steps name themselves. -/
theorem filterMap_plain {names : List String} (plain : ∀ name ∈ names, isPlain name = true) :
    names.filterMap stepComponent? = names.map .name := by
  -- Name by name, each step gives the component of that name.
  induction names with
  | nil => rfl
  | cons name names ih =>
    simp [stepComponent?_plain (plain name (by simp)),
      ih fun other member => plain other (by simp [member])]

/-- A plain step is a relative path of that one step. -/
theorem steps_plain {step : String} (plain : isPlain step = true) :
    isAbsolute step = false ∧ steps step = [step] := by
  obtain ⟨filled, -, -, bare⟩ := isPlain_iff.1 plain
  refine ⟨?_, stepsOf_name filled bare⟩
  rw [← Bool.not_eq_true, isAbsolute_iff]
  -- A path from the root has a slash, and a plain step has none.
  rintro ⟨rest, spelled⟩
  exact bare (by simp [spelled])

/-- Joining a plain step to a path from the root adds it to the components. -/
theorem components_join_plain {base step : String} (absolute : isAbsolute base = true)
    (plain : isPlain step = true) : components (join base step) = components base ++ [.name step] := by
  obtain ⟨relative, own⟩ := steps_plain plain
  rw [components_join absolute relative, filter_components relative, own]
  simp [stepComponent?_plain plain]

/-- Joining paths of one step one by one adds them to the steps. -/
theorem steps_foldl_join {names : List String} (base : String)
    (single : ∀ name ∈ names, isAbsolute name = false ∧ steps name = [name]) :
    steps (names.foldl join base) = steps base ++ names := by
  -- Each name adds a step behind those of the path it is joined to.
  induction names generalizing base with
  | nil => simp
  | cons name names ih =>
    obtain ⟨relative, own⟩ := single name (by simp)
    rw [List.foldl_cons, ih _ fun other member => single other (by simp [member]),
      steps_join relative, own]
    simp

/-- Joining paths of one step one by one keeps where the path starts. -/
theorem isAbsolute_foldl_join {names : List String} {base : String} (filled : base ≠ "")
    (single : ∀ name ∈ names, isAbsolute name = false ∧ steps name = [name]) :
    isAbsolute (names.foldl join base) = isAbsolute base := by
  induction names generalizing base with
  | nil => rfl
  | cons name names ih =>
    -- No name replaces the path so far, and that is never empty.
    obtain ⟨relative, -⟩ := single name (by simp)
    rw [List.foldl_cons, ih (join_ne_empty (.inl filled)) fun other member =>
      single other (by simp [member]), isAbsolute_join relative filled]

/-- A path made of names starts at the root. -/
@[simp] theorem isAbsolute_ofNames (names : List String) : isAbsolute (ofNames names) = true := by
  simp [isAbsolute_iff, ofNames, String.toList_append]

/-- A path made of names is not empty. -/
theorem ofNames_ne_empty (names : List String) : ofNames names ≠ "" := by
  intro empty
  have absolute := isAbsolute_ofNames names
  simp [empty, isAbsolute] at absolute

/-- The characters of a path made of names, the last name apart. -/
theorem toList_ofNames_concat (names : List String) (name : String) :
    (ofNames (names ++ [name])).toList =
      (if names = [] then [] else (ofNames names).toList) ++ '/' :: name.toList := by
  have slash : ("/" : String).toList = ['/'] := rfl
  simp only [ofNames, String.toList_append, String.toList_intercalate, slash]
  -- The slash in front of the first name is that of the root.
  induction names with
  | nil => simp
  | cons first names ih =>
    -- Between two names there is one slash, whatever stands behind them.
    cases names with
    | nil => simp
    | cons second names => simp_all

/-- A path made of names ends with its last name, and not with a slash. -/
theorem getLast?_ofNames_ne (front : List String) {last : String} (named : isPlain last = true) :
    (ofNames (front ++ [last])).toList.getLast? ≠ some '/' := by
  obtain ⟨filled, -, -, bare⟩ := isPlain_iff.1 named
  have visible : last.toList ≠ [] := fun empty => filled (String.toList_eq_nil_iff.1 empty)
  rw [toList_ofNames_concat, List.getLast?_append, List.getLast?_cons,
    List.getLast?_eq_some_getLast visible]
  -- The last character would be one of a name, which has no slash.
  rintro same
  simp only [Option.getD_some, Option.some_or, Option.some.injEq] at same
  exact bare (same ▸ List.getLast_mem visible)

/-- Names with slashes between them are a relative path. -/
theorem isAbsolute_intercalate {names : List String} (plain : ∀ name ∈ names, isPlain name = true) :
    isAbsolute ("/".intercalate names) = false := by
  cases names with
  | nil => rfl
  | cons name rest =>
    obtain ⟨filled, -, -, bare⟩ := isPlain_iff.1 (plain name (by simp))
    -- The first character is that of the first name.
    obtain ⟨c, more, spelled⟩ := List.exists_cons_of_ne_nil fun empty =>
      filled (String.toList_eq_nil_iff.1 empty)
    have front : c ≠ '/' := by
      rintro rfl
      exact bare (by simp [spelled])
    cases rest with
    | nil => simpa [isAbsolute, spelled] using front
    | cons next rest => simpa [isAbsolute, String.intercalate_cons_cons, spelled] using front

/-- Joining names with slashes between them to a path made of names adds them all. -/
theorem join_intercalate {names others : List String} (plain : ∀ name ∈ names, isPlain name = true)
    (plain' : ∀ name ∈ others, isPlain name = true) (some : others ≠ []) :
    join (ofNames names) ("/".intercalate others) = ofNames (names ++ others) := by
  have relative := isAbsolute_intercalate plain'
  rcases List.eq_nil_or_concat' names with rfl | ⟨front, last, rfl⟩
  · simp [join, relative, ofNames]
  · -- Without a slash at the end of the path so far, one is put between.
    have ends := getLast?_ofNames_ne front (plain last (by simp))
    have filled : (ofNames (front ++ [last])).toList ≠ [] := fun empty =>
      ofNames_ne_empty _ (String.toList_eq_nil_iff.1 empty)
    have split : ofNames (front ++ [last] ++ others) =
        ofNames (front ++ [last]) ++ "/" ++ "/".intercalate others := by
      rw [ofNames, ofNames, String.intercalate_append_of_ne_nil (by simp) some]
      simp only [String.append_assoc]
    rw [split]
    simp [join, relative, ends, filled]

/-- Joining a name to a path made of names adds it to them. -/
theorem join_ofNames {names : List String} {name : String}
    (plain : ∀ other ∈ names, isPlain other = true) (named : isPlain name = true) :
    join (ofNames names) name = ofNames (names ++ [name]) := by
  simpa using join_intercalate plain (by simpa using named) (List.cons_ne_nil name [])

/-- The steps of a path made of names are the names. -/
theorem steps_ofNames {names : List String} (plain : ∀ name ∈ names, isPlain name = true) :
    steps (ofNames names) = names := by
  -- The path is that of all names but the last, with the last one joined to it.
  induction names using List.reverseRecOn with
  | nil => rfl
  | append_singleton names name ih =>
    have front : ∀ other ∈ names, isPlain other = true := fun other member =>
      plain other (by simp [member])
    have named := plain name (by simp)
    rw [← join_ofNames front named, steps_join (steps_plain named).1, ih front,
      (steps_plain named).2]

/-- Plain names are told by the path that is made of them. -/
theorem ofNames_inj {names others : List String} (plain : ∀ name ∈ names, isPlain name = true)
    (plain' : ∀ name ∈ others, isPlain name = true) (same : ofNames names = ofNames others) :
    names = others := by
  rw [← steps_ofNames plain, same, steps_ofNames plain']

/-- A path made of names does not end with a slash that asks for a directory. -/
theorem ofPath_ofNames {names : List String} (plain : ∀ name ∈ names, isPlain name = true) :
    Route.ofPath (ofNames names) = ⟨true, names, false⟩ := by
  rcases List.eq_nil_or_concat' names with rfl | ⟨front, last, rfl⟩
  · rfl
  · have ends := getLast?_ofNames_ne front (plain last (by simp))
    simp [Route.ofPath, steps_ofNames plain, ends]

/-- The components of a path made of names. -/
theorem components_ofNames {names : List String} (plain : ∀ name ∈ names, isPlain name = true) :
    components (ofNames names) = .root :: names.map .name := by
  rw [components_absolute (isAbsolute_ofNames names), steps_ofNames plain, filterMap_plain plain]

/-- Of two paths that lead down by names alone, one lies at or below the other exactly if its names start
with the names of that one. -/
theorem isBelow_iff_prefix {path base : String} {names others : List String}
    (spelled : components path = .root :: names.map .name)
    (spelled' : components base = .root :: others.map .name) :
    isBelow path base = true ↔ others <+: names := by
  have injective : Function.Injective Component.name := fun _ _ => Component.name.inj
  -- Both start at the root, and names are told apart as components.
  rw [isBelow, spelled, spelled', List.isPrefixOf_iff_prefix, List.cons_prefix_cons]
  simp [List.prefix_map_iff_of_injective injective]

end AuditStage.Path
