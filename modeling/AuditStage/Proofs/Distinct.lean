import Mathlib.Data.List.Induction

/-! Lists in which each item is kept where it came first. -/

namespace AuditStage

variable {α : Type} [DecidableEq α]

/-- An item at the end is kept exactly if it has not come before. -/
theorem eraseDups_concat (items : List α) (item : α) :
    (items ++ [item]).eraseDups =
      if item ∈ items then items.eraseDups else items.eraseDups ++ [item] := by
  rw [List.eraseDups_append]
  by_cases known : item ∈ items <;> simp [known, List.removeAll, List.eraseDups_cons]

/-- No item is kept twice. -/
theorem nodup_eraseDups (items : List α) : items.eraseDups.Nodup := by
  induction items using List.reverseRecOn with
  | nil => exact List.nodup_nil
  | append_singleton items item ih =>
    rw [eraseDups_concat]
    split
    · exact ih
    · -- An item that has not come before is none of those that were kept.
      rename_i new
      have apart : ∀ other ∈ items, other ≠ item := fun _ member same => new (same ▸ member)
      simpa [List.nodup_append, ih] using apart

end AuditStage
