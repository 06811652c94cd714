import AuditStage.Proofs.Path.Normal
import AuditStage.Proofs.Remap.Targets

/-! Declared targets as texts and as paths. Main statement: the text that a target is rebased to means the
path that the target means when it is read from the root, however root and target are written. -/

namespace AuditStage.RemapTable

open AuditStage.Path (components isAbsolute join)

variable {root target : String}

/-- An absolute target stays as it is. -/
theorem rebase_of_isAbsolute (root : String) (absolute : isAbsolute target = true) :
    rebase root target = target :=
  if_pos absolute

/-- Slashes at the end of the root make no difference. -/
theorem rebase_slashes (root target : String) (count : Nat) :
    rebase (root ++ String.ofList (List.replicate count '/')) target = rebase root target := by
  rw [rebase, rebase, String.toList_append, String.toList_ofList, Text.dropTrailing_replicate]

/-- Steps that stay in place make no difference at the front of a relative target. -/
theorem rebase_repeated (root : String) (relative : isAbsolute target = false) (count : Nat) :
    rebase root (Text.repeated count "./" ++ target) = rebase root target := by
  have stripped : isAbsolute (Text.repeated count "./" ++ target) = false ∧
      dropHere (Text.repeated count "./" ++ target).toList = dropHere target.toList := by
    -- Each step in place is dropped, and the target behind it stays relative.
    induction count with
    | zero => simp [Text.repeated, relative]
    | succ count ih =>
      have front : (Text.repeated (count + 1) "./" ++ target).toList =
          '.' :: '/' :: (Text.repeated count "./" ++ target).toList := by
        simp [Text.repeated, List.replicate_succ]
      rw [isAbsolute, front, dropHere]
      exact ⟨rfl, ih.2⟩
  simp only [rebase, stripped, relative, Bool.false_eq_true, if_false]

/-- A target that is rebased to an absolute root means what it means when it is joined to the root. -/
theorem components_rebase_target (absolute : isAbsolute root = true) (target : String) :
    components (rebase root target) = components (join root target) := by
  cases start : isAbsolute target with
  | true => rw [rebase_of_isAbsolute root start, join, if_pos start]
  | false =>
    -- Nothing is written behind the target here.
    have relative : isAbsolute (target ++ "") = false := by rwa [String.append_empty]
    have same := components_rebase absolute relative
    rwa [String.append_empty, String.append_empty] at same

/-- A target that is rebased to an absolute root is absolute. -/
theorem isAbsolute_rebase (absolute : isAbsolute root = true) (target : String) :
    isAbsolute (rebase root target) = true := by
  cases start : isAbsolute target with
  | true => rw [rebase_of_isAbsolute root start, start]
  | false =>
    by_contra relative
    -- A relative path would not have the root among its components.
    have absent := Path.root_notMem_components (Bool.not_eq_true _ ▸ relative)
    rw [components_rebase_target absolute, Path.components_join absolute start,
      Path.components_absolute absolute] at absent
    exact absent List.mem_cons_self

/-- Rebased to an absolute root, a target is an absolute path, of the components of the target joined to
the root. An absolute target is kept. A relative one adds its components to those of the root, none more
and none less but for a dot at its front; and neither steps in place before it nor slashes behind the root
make a difference. -/
theorem rebase_joined (absolute : isAbsolute root = true) (target : String) :
    isAbsolute (rebase root target) = true ∧
    components (rebase root target) = components (join root target) ∧
    (isAbsolute target = true → rebase root target = target) ∧
    (isAbsolute target = false →
      components (rebase root target) =
        components root ++ (components target).filter (· ≠ .here) ∧
      ∀ count, rebase root (Text.repeated count "./" ++ target) = rebase root target) ∧
    ∀ count, rebase (root ++ String.ofList (List.replicate count '/')) target = rebase root target := by
  refine ⟨isAbsolute_rebase absolute target, components_rebase_target absolute target,
    rebase_of_isAbsolute root, fun relative => ⟨?_, rebase_repeated root relative⟩,
    rebase_slashes root target⟩
  -- Of the parts only the components of a relative target are left.
  rw [components_rebase_target absolute, Path.components_join absolute relative]

/-- A target with a step in place and a doubled slash, rebased to the root of the disk. -/
theorem rootDirectory_rebase_joined :
    isAbsolute "//" = true ∧ isAbsolute ".//x/../..." = false ∧ rebase "//" ".//x/../..." = "//x/../..." ∧
      components (rebase "//" ".//x/../...") = [.root, .name "x", .up, .name "..."] ∧
      rebase "//" "./././/x/../..." = rebase "//" ".//x/../..." := by
  have rooted : isAbsolute "//" = true := by decide
  have relative : isAbsolute ".//x/../..." = false := by decide
  obtain ⟨-, -, -, added, -⟩ := rebase_joined rooted ".//x/../..."
  obtain ⟨parts, more⟩ := added relative
  exact ⟨rooted, relative, by decide, parts.trans (by decide), more 2⟩

end AuditStage.RemapTable
