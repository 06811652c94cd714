import AuditStage.Proofs.Disk.Walk
import AuditStage.Proofs.Path.Names

/-! The paths above a path as it is spelled: each takes the first of its steps, and behind the nearest
one come the paths above that. -/

namespace AuditStage.Path

open AuditStage.Disk (dropDots)

variable {path other : String} {first part : List Char} {others : List (List Char)}

/-- The steps of a path, the dots apart, are the parts between its slashes that are not void. -/
theorem dropDots_steps (path : String) : dropDots (steps path) =
    ((path.toList.splitOn '/').filter (!isVoid ·)).map String.ofList := by
  have dot (part : List Char) : String.ofList part = "." ↔ part = ['.'] := by
    rw [← String.toList_inj, String.toList_ofList]
    rfl
  rw [dropDots, steps, List.filter_map, List.filter_filter]
  congr 1
  -- Of the parts that are left out, the empty ones are no steps, and the dots are dropped.
  refine List.filter_congr fun part _ => ?_
  by_cases empty : part = [] <;> by_cases here : part = ['.'] <;> simp [isVoid, dot, empty, here]

/-- Void parts at the front are not missed where void parts are left out. -/
theorem filter_dropWhile_isVoid (parts : List (List Char)) :
    (parts.dropWhile isVoid).filter (!isVoid ·) = parts.filter (!isVoid ·) := by
  -- The induction is on the parts: only void ones at the front are dropped.
  induction parts with
  | nil => rfl
  | cons part parts ih =>
    by_cases void : isVoid part = true
    · rw [List.dropWhile_cons_of_pos void, ih, List.filter_cons_of_neg (by simp [void])]
    · rw [List.dropWhile_cons_of_neg void]

/-- A path starts at the root if its first part is empty and not its only one. -/
theorem isAbsolute_of_splitOn (split : path.toList.splitOn '/' = first :: others)
    (some : others ≠ []) : isAbsolute path = decide (first = []) := by
  unfold isAbsolute
  -- Where a path starts is told by its first character, which only the first part can hold.
  generalize path.toList = cs at split
  cases cs with
  | nil =>
    cases split
    exact absurd rfl some
  | cons c rest =>
    rw [List.splitOn_cons_eq_if_modifyHead] at split
    by_cases slash : c = '/'
    · rw [if_pos (by simpa using slash)] at split
      cases split
      simp [slash]
    · -- The first part starts with the first character, unless that is a slash.
      rw [if_neg (by simpa using slash)] at split
      obtain ⟨next, more, parts⟩ := List.exists_cons_of_ne_nil (List.splitOn_ne_nil '/' rest)
      rw [parts, List.modifyHead_cons] at split
      cases split
      simp [slash]

section Spelled

variable (bare : '/' ∉ first) (bares : ∀ part ∈ others, '/' ∉ part)

include bare bares

/-- The parts between the slashes of a path are those that it is spelled with; the root has an empty one
more. -/
theorem splitOn_spelled : (spelled first others).toList.splitOn '/' =
    if first = [] ∧ others = [] then [[], []] else first :: others.reverse := by
  unfold spelled
  by_cases root : first = [] ∧ others = []
  · rw [if_pos root, if_pos (by simpa using root)]
    rfl
  · rw [if_neg root, if_neg (by simpa using root), String.toList_ofList]
    -- No part holds a slash, so the text is parted where it was put together.
    refine List.splitOn_intercalate '/' (fun part member => ?_) (List.cons_ne_nil _ _)
    rcases List.mem_cons.1 member with rfl | inside
    · exact bare
    · exact bares part (List.mem_reverse.1 inside)

/-- A spelled path is not empty, and starts at the root if its first part is empty. -/
theorem spelled_visible : spelled first others ≠ "" ∧
    isAbsolute (spelled first others) = decide (first = []) := by
  have split := splitOn_spelled bare bares
  split at split
  · rename_i root
    obtain ⟨rfl, rfl⟩ := root
    exact ⟨by decide, rfl⟩
  · rename_i other
    -- An empty text would have one part, and that an empty one.
    have parted : spelled first others ≠ "" := by
      intro empty
      rw [empty] at split
      simp only [String.toList_empty, List.splitOn_nil, List.cons.injEq, List.nil_eq,
        List.reverse_eq_nil_iff] at split
      exact other ⟨split.1, split.2⟩
    refine ⟨parted, ?_⟩
    by_cases alone : others = []
    · -- A single part is the path itself, and has no slash at its front.
      subst alone
      have named : first ≠ [] := fun empty => other ⟨empty, rfl⟩
      have same : (spelled first []).toList = first := by
        simp [spelled, named]
      obtain ⟨c, rest, rfl⟩ := List.exists_cons_of_ne_nil named
      have front : c ≠ '/' := by
        rintro rfl
        exact bare List.mem_cons_self
      simp [isAbsolute, same, front]
    · exact isAbsolute_of_splitOn split (by simpa using alone)

/-- The steps of a spelled path, the dots apart, are its parts that are not void. -/
theorem dropDots_steps_spelled : dropDots (steps (spelled first others)) =
    ((first :: others.reverse).filter (!isVoid ·)).map String.ofList := by
  rw [dropDots_steps, splitOn_spelled bare bares]
  -- The root has no step at all, and neither have its names.
  split
  · rename_i root
    obtain ⟨rfl, rfl⟩ := root
    rfl
  · rfl

end Spelled

/-- Void parts at the end make no difference to the paths above. -/
theorem aboveParts_dropWhile (first : List Char) (others : List (List Char)) :
    aboveParts first (others.dropWhile isVoid) = aboveParts first others := by
  -- A void part takes no step, so what is above it is what is above the parts before it.
  induction others with
  | nil => rfl
  | cons part others ih =>
    by_cases void : isVoid part = true
    · rw [List.dropWhile_cons_of_pos void, ih, aboveParts, if_pos void]
    · rw [List.dropWhile_cons_of_neg void]

/-- The paths above a spelled path are those above its parts. -/
theorem pathsAbove_spelled (bare : '/' ∉ first) (bares : ∀ part ∈ others, '/' ∉ part) :
    pathsAbove (spelled first others) = aboveParts first others := by
  -- The root is spelled with a slash that parts nothing.
  by_cases root : first = [] ∧ others = []
  · obtain ⟨rfl, rfl⟩ := root
    rfl
  · rw [pathsAbove, splitOn_spelled bare bares, if_neg root]
    simp only [List.reverse_reverse]

/-- Above a path there is nothing, or the empty path, or a path with one step less and the paths above
that one. -/
theorem pathsAbove_cases (path : String) :
    pathsAbove path = [] ∨ (pathsAbove path = [""] ∧ isAbsolute path = false) ∨
      ∃ parent last, pathsAbove path = parent :: pathsAbove parent ∧ parent ≠ "" ∧
        isAbsolute parent = isAbsolute path ∧
        dropDots (steps path) = dropDots (steps parent) ++ [last] := by
  obtain ⟨first, parts, split⟩ :=
    List.exists_cons_of_ne_nil (List.splitOn_ne_nil '/' path.toList)
  have bare : ∀ part ∈ first :: parts, '/' ∉ part := fun part member slash =>
    (Text.mem_of_mem_splitOn (split ▸ member) _ slash).2 rfl
  have whole : pathsAbove path = aboveParts first (parts.reverse.dropWhile isVoid) := by
    rw [aboveParts_dropWhile, pathsAbove, split]
  -- The last part that is not void is the step that the path above has not.
  cases kept : parts.reverse.dropWhile isVoid with
  | nil =>
    rw [kept, aboveParts] at whole
    split at whole
    · exact .inl whole
    · rename_i named
      refine .inr (.inl ⟨whole, ?_⟩)
      by_cases alone : parts = []
      · subst alone
        have same : path.toList = first := by
          simpa [split] using (List.intercalate_splitOn '/' : _ = path.toList).symm
        obtain ⟨c, rest, rfl⟩ := List.exists_cons_of_ne_nil named
        have front : c ≠ '/' := by
          rintro rfl
          exact bare _ List.mem_cons_self List.mem_cons_self
        simp [isAbsolute, same, front]
      · simpa [named] using isAbsolute_of_splitOn split alone
  | cons part front =>
    have some : parts ≠ [] := by
      rintro rfl
      cases kept
    have inside : ∀ other ∈ part :: front, other ∈ parts := fun other member =>
      List.mem_reverse.1 ((List.dropWhile_suffix _).subset (kept ▸ member))
    have visible : isVoid part = false := by
      have first := List.head?_dropWhile_not isVoid parts.reverse
      rw [kept] at first
      simpa using first
    have bareFront : ∀ other ∈ front.dropWhile isVoid, '/' ∉ other := fun other member =>
      bare _ (List.mem_cons_of_mem _
        (inside _ (List.mem_cons_of_mem _ ((List.dropWhile_suffix _).subset member))))
    have bareFirst : '/' ∉ first := bare _ List.mem_cons_self
    obtain ⟨filled, start⟩ := spelled_visible bareFirst bareFront
    -- The path above is spelled with the parts before that step, up to the last one that is not
    -- void.
    refine .inr (.inr ⟨spelled first (front.dropWhile isVoid), String.ofList part, ?_, filled, ?_, ?_⟩)
    · rw [whole, kept, aboveParts, visible, if_neg Bool.false_ne_true,
        pathsAbove_spelled bareFirst bareFront, aboveParts_dropWhile]
    · rw [start, isAbsolute_of_splitOn split some]
    · -- Among the steps that are taken, that part is the last one.
      have seen : parts.filter (!isVoid ·) = (front.filter (!isVoid ·)).reverse ++ [part] := by
        have back := filter_dropWhile_isVoid parts.reverse
        rw [kept, List.filter_cons_of_pos (by simp [visible]), List.filter_reverse] at back
        rw [← List.reverse_reverse (parts.filter _), ← back, List.reverse_cons]
      rw [dropDots_steps, split, dropDots_steps_spelled bareFirst bareFront, List.filter_cons,
        List.filter_cons, List.filter_reverse, filter_dropWhile_isVoid, seen]
      split <;> simp

/-- Nothing stands above the empty path. -/
theorem pathsAbove_empty : pathsAbove "" = [] :=
  rfl

/-- What holds of the paths with nothing or only the empty path above them, and of a path whenever it
holds of the one above it, holds of every path. -/
theorem pathsAbove_induct {motive : String → Prop}
    (top : ∀ path, pathsAbove path = [] → motive path)
    (loose : ∀ path, pathsAbove path = [""] → isAbsolute path = false → motive path)
    (below : ∀ path parent last, pathsAbove path = parent :: pathsAbove parent → parent ≠ "" →
      isAbsolute parent = isAbsolute path →
      dropDots (steps path) = dropDots (steps parent) ++ [last] → motive parent → motive path)
    (path : String) : motive path := by
  -- Each path has one more above it than the next one has.
  generalize chain : pathsAbove path = paths
  induction paths generalizing path with
  | nil => exact top path chain
  | cons parent paths ih =>
    rcases pathsAbove_cases path with none | ⟨last, relative⟩ | ⟨next, step, more, filled, lead, split⟩
    · exact top path none
    · exact loose path last relative
    · rw [chain] at more
      cases more
      exact below path parent step chain filled lead split (ih parent rfl)

/-- A path above a path takes the first of its steps. -/
theorem of_mem_pathsAbove (above : other ∈ pathsAbove path) (visible : other ≠ "") :
    isAbsolute other = isAbsolute path ∧
      ∃ rest, rest ≠ [] ∧ dropDots (steps path) = dropDots (steps other) ++ rest := by
  induction path using pathsAbove_induct with
  | top path none =>
    rw [none] at above
    cases above
  | loose path last =>
    rw [last] at above
    exact absurd (List.mem_singleton.1 above) visible
  | below path parent last more filled lead split ih =>
    rw [more] at above
    -- It is the nearest path above, or stands above that one.
    rcases List.mem_cons.1 above with rfl | further
    · exact ⟨lead, [last], List.cons_ne_nil _ _, split⟩
    · obtain ⟨same, rest, some, spelled⟩ := ih further
      exact ⟨same.trans lead, rest ++ [last], by simp, by rw [split, spelled, List.append_assoc]⟩

/-- The empty path stands above relative paths only. -/
theorem ne_empty_of_mem_pathsAbove (absolute : isAbsolute path = true)
    (above : other ∈ pathsAbove path) : other ≠ "" := by
  -- All paths above an absolute one are absolute, so the way up never comes to the empty path.
  induction path using pathsAbove_induct with
  | top path none =>
    rw [none] at above
    cases above
  | loose path last relative =>
    rw [relative] at absolute
    cases absolute
  | below path parent last more filled lead split ih =>
    rw [more] at above
    rcases List.mem_cons.1 above with rfl | further
    · exact filled
    · exact ih (lead.trans absolute) further

/-- An absolute path and the paths above it start at the root and take the first of its steps. -/
theorem prefix_of_mem_pathsAbove (absolute : isAbsolute path = true)
    (above : other ∈ path :: pathsAbove path) :
    isAbsolute other = true ∧ dropDots (steps other) <+: dropDots (steps path) := by
  rcases List.mem_cons.1 above with rfl | further
  · exact ⟨absolute, List.prefix_rfl⟩
  · obtain ⟨lead, rest, -, split⟩ :=
      of_mem_pathsAbove further (ne_empty_of_mem_pathsAbove absolute further)
    exact ⟨lead.trans absolute, split ▸ List.prefix_append _ rest⟩

/-- A path made of names is spelled with them. -/
theorem ofNames_eq_spelled (names : List String) :
    ofNames names = spelled [] (names.map String.toList).reverse := by
  unfold spelled ofNames
  cases names with
  | nil => rfl
  | cons name names =>
    -- The names are reversed to have the last in front, and reversing them again is undone.
    rw [if_neg (by simp), List.reverse_reverse, List.map_cons, List.intercalate_cons_cons,
      ← String.toList_inj, String.toList_append, String.toList_intercalate, String.toList_ofList]
    simp

/-- Above a path made of names stands the one without the last name, and the paths above that one. -/
theorem pathsAbove_ofNames {names : List String} {name : String}
    (plain : ∀ other ∈ names ++ [name], isPlain other = true) :
    pathsAbove (ofNames (names ++ [name])) = ofNames names :: pathsAbove (ofNames names) := by
  -- Every name is a step: none is void, and none holds a slash.
  have visible : ∀ part ∈ ((names ++ [name]).map String.toList).reverse,
      isVoid part = false ∧ '/' ∉ part := by
    intro part member
    obtain ⟨other, inside, rfl⟩ := List.mem_map.1 (List.mem_reverse.1 member)
    obtain ⟨filled, here, -, bare⟩ := isPlain_iff.1 (plain other inside)
    have text : other.toList ≠ [] := fun empty => filled (String.toList_eq_nil_iff.1 empty)
    have dot : other.toList ≠ ['.'] := fun same => here (String.toList_inj.1 same)
    exact ⟨by simp [isVoid, text, dot], bare⟩
  rw [List.map_append, List.reverse_append] at visible
  have front : ∀ part ∈ (names.map String.toList).reverse, isVoid part = false ∧ '/' ∉ part :=
    fun part member => visible part (List.mem_append_right _ member)
  -- So nothing is left out at the end of what stands before the last name.
  have kept : (names.map String.toList).reverse.dropWhile isVoid =
      (names.map String.toList).reverse := by
    cases parts : (names.map String.toList).reverse with
    | nil => rfl
    | cons part parted =>
      have solid := (front part (parts ▸ List.mem_cons_self)).1
      rw [List.dropWhile_cons_of_neg (by simp [solid])]
  rw [ofNames_eq_spelled, pathsAbove_spelled (by simp) fun part member => ?_, List.map_append,
    List.reverse_append, List.map_singleton, List.reverse_singleton, List.singleton_append, aboveParts,
    (visible name.toList (by simp)).1, if_neg Bool.false_ne_true, kept, ofNames_eq_spelled names,
    pathsAbove_spelled (by simp) fun part member => (front part member).2]
  rw [List.map_append, List.reverse_append] at member
  exact (visible part member).2

end AuditStage.Path
