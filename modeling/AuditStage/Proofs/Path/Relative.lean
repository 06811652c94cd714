import AuditStage.Proofs.Path.Normal

/-! The path that leads from a directory to another path: it goes up to where the two part and down by
names from there, and joined to the directory it leads back to the path. -/

namespace AuditStage.Path

variable {path base : String} {way : Way}

/-- The components by which a way goes: first up, and then down by its names. -/
def Way.parts (way : Way) : List Component :=
  List.replicate way.up .up ++ way.down.map .name

/-- Components that go up first and then down by names lead along the way that they were made from. -/
theorem Way.foldl_parts (way : Way) : way.parts.foldl Way.onward ⟨0, []⟩ = way := by
  obtain ⟨count, down⟩ := way
  -- As long as there is no name to take back, each way up is one more.
  have upward : ∀ start, (List.replicate count Component.up).foldl Way.onward ⟨start, []⟩ =
      ⟨start + count, []⟩ := by
    induction count with
    | zero => exact fun start => rfl
    | succ count ih =>
      intro start
      have next : Way.onward ⟨start, []⟩ .up = ⟨start + 1, []⟩ := rfl
      rw [List.replicate_succ, List.foldl_cons, next, ih, Nat.add_right_comm, Nat.add_assoc]
  -- From there on each name is one more to go down by.
  have downward : ∀ before, (down.map Component.name).foldl Way.onward ⟨count, before⟩ =
      ⟨count, before ++ down⟩ := by
    induction down with
    | nil => simp
    | cons name down ih =>
      intro before
      have next : Way.onward ⟨count, before⟩ (.name name) = ⟨count, before ++ [name]⟩ := rfl
      rw [List.map_cons, List.foldl_cons, next, ih, List.append_assoc]
      rfl
  rw [Way.parts, List.foldl_append, upward, Nat.zero_add, downward, List.nil_append]

/-- A way goes up by a component if it goes up at all. -/
theorem Way.up_mem_parts (way : Way) : .up ∈ way.parts ↔ way.up ≠ 0 := by
  simp [Way.parts]

/-- From names to other names one goes up by all of the former, and down by the latter. -/
theorem stepsFrom_names (down up : List String) :
    stepsFrom (down.map .name) (up.map .name) = some (Way.mk up.length down).parts := by
  cases down with
  | nil =>
    -- With nothing to go down by, each name that is left is one more way up.
    induction up with
    | nil => rfl
    | cons name up ih => simpa [stepsFrom, Way.parts, List.replicate_succ] using ih
  | cons first down =>
    cases up with
    | nil => rfl
    | cons name up =>
      have others : up.map (fun _ => Component.up) = List.replicate up.length .up := List.map_const'
      simp [stepsFrom, Way.parts, Function.comp_def, others, List.replicate_succ]

/-- What leads from names to other names: the names that both start with make no difference, all others of
the former are gone up by, and there are none if the latter start with the former. -/
theorem relativeComponents_names (names others : List String) :
    ∃ common up down, others = common ++ up ∧ names = common ++ down ∧
      relativeComponents (names.map .name) (others.map .name) = some (Way.mk up.length down).parts ∧
      (up = [] ↔ others <+: names) := by
  -- The induction takes away the names that both start with, one by one.
  induction names generalizing others with
  | nil =>
    refine ⟨[], others, [], rfl, rfl, ?_, List.prefix_nil.symm⟩
    cases others with
    | nil => rfl
    | cons other others => exact stepsFrom_names [] (other :: others)
  | cons name names ih =>
    cases others with
    | nil => exact ⟨[], [], name :: names, rfl, rfl, rfl, by simp⟩
    | cons other others =>
      by_cases same : name = other
      · -- A name that both start with is left out on both sides.
        subst same
        obtain ⟨common, up, down, rfl, rfl, leads, level⟩ := ih others
        refine ⟨name :: common, up, down, rfl, rfl, ?_, ?_⟩
        · simpa [relativeComponents] using leads
        · rw [level, List.prefix_cons_inj]
      · -- From here on the names part, whatever comes behind.
        refine ⟨[], other :: others, name :: names, rfl, rfl, ?_, ?_⟩
        · have leads := stepsFrom_names (name :: names) (other :: others)
          simpa [relativeComponents, same] using leads
        · constructor
          · intro empty
            cases empty
          · intro start
            exact absurd (List.cons_prefix_cons.1 start).1.symm same

/-- Paths of one step that are joined one by one to nothing are a relative path. -/
theorem isAbsolute_foldl_join_empty {texts : List String}
    (single : ∀ text ∈ texts, isAbsolute text = false ∧ steps text = [text]) :
    isAbsolute (texts.foldl join "") = false := by
  cases texts with
  | nil => rfl
  | cons text texts =>
    obtain ⟨relative, own⟩ := single text (by simp)
    have start : join "" text = text := by simp [join, relative]
    have filled : text ≠ "" := by
      rintro rfl
      cases own
    -- The path starts as its first step does.
    rw [List.foldl_cons, start, isAbsolute_foldl_join filled fun other member =>
      single other (List.mem_cons_of_mem _ member)]
    exact relative

/-- The plainest path along a way is a relative one, and has the components by which the way goes. -/
theorem components_parts (plain : ∀ name ∈ way.down, isPlain name = true) :
    isAbsolute (ofComponents way.parts) = false ∧ components (ofComponents way.parts) = way.parts := by
  let texts := List.replicate way.up ".." ++ way.down
  have single : ∀ text ∈ texts, isAbsolute text = false ∧ steps text = [text] := by
    intro text member
    rcases List.mem_append.1 member with upward | named
    · rw [List.eq_of_mem_replicate upward]
      exact ⟨rfl, rfl⟩
    · exact steps_plain (plain text named)
  -- The texts of the components are joined, and they are the steps of the path.
  have written : way.parts.map Component.text = texts := by
    have own : Component.text ∘ Component.name = id := rfl
    rw [Way.parts, List.map_append, List.map_replicate, List.map_map, own, List.map_id]
    rfl
  have joined : ofComponents way.parts = texts.foldl join "" := by
    rw [← written, List.foldl_map]
    rfl
  have relative := isAbsolute_foldl_join_empty single
  have spelled : steps (texts.foldl join "") = texts := steps_foldl_join "" single
  -- A dot at the front would be a component, but no step is one.
  have dotless : texts.head? ≠ some "." := by
    intro dot
    rcases List.mem_append.1 (List.mem_of_mem_head? dot) with upward | named
    · exact absurd (List.eq_of_mem_replicate upward) (by decide)
    · exact absurd rfl (isPlain_iff.1 (plain "." named)).2.1
  have named : texts.filterMap stepComponent? = way.parts := by
    rw [List.filterMap_append, filterMap_plain plain,
      List.filterMap_replicate_of_some stepComponent?_up, Way.parts]
  rw [joined, components_eq, lead, relative, spelled, named]
  exact ⟨rfl, by simp [dotless]⟩

/-- From an absolute path that never leads up there is a relative path to any other such path. Joined to
the former and without its detours it is the latter, and it leads up exactly if that does not lie at or
below the former. -/
theorem relative?_leads (absolute : isAbsolute path = true) (level : .up ∉ components path)
    (rooted : isAbsolute base = true) (flat : .up ∉ components base) :
    ∃ relative, relative? path base = some relative ∧
      components (normal (join base relative)) = components path ∧
      (.up ∉ components relative ↔ isBelow path base = true) := by
  have spelled := components_of_level absolute level
  have spelled' := components_of_level rooted flat
  have plain := plain_normalNames path
  obtain ⟨common, up, down, back, forth, leads, below⟩ :=
    relativeComponents_names (normalNames path) (normalNames base)
  let way : Way := ⟨up.length, down⟩
  have named : ∀ name ∈ way.down, isPlain name = true := fun name member =>
    plain name (forth ▸ List.mem_append_right _ member)
  obtain ⟨relative, parted⟩ := components_parts named
  refine ⟨ofComponents way.parts, ?_, ?_, ?_⟩
  · -- Both paths start with the root, and what is left of them are names.
    have started : relativeComponents (components path) (components base) = some way.parts := by
      rw [spelled, spelled', relativeComponents, if_pos rfl, leads]
    simp [relative?, absolute, rooted, started]
  · -- The ways up take back the names of the base behind those that both have.
    have names : normalNames (join base (ofComponents way.parts)) = normalNames path := by
      rw [normalNames_join rooted relative, wayOf, parted, way.foldl_parts, back, forth]
      simp [way]
    rw [normal, names, components_ofNames plain, spelled]
  · -- There is nothing to go up by exactly if the names of the path start with those of the base.
    have starts := isBelow_iff_prefix spelled spelled'
    rw [starts, ← below, parted, way.up_mem_parts]
    simp [way]

end AuditStage.Path
