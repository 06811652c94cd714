import AuditStage.Proofs.Disk.Growth
import AuditStage.Proofs.Path.Above

/-! The paths above a path lead to directories on its way. -/

namespace AuditStage.Disk

variable {disk before after : Disk} {path other : String} {found : Location}

/-- The first steps of a path that leads somewhere lead to a directory. -/
theorem follow_of_longer {rest : List String} (resolved : disk.resolve path = .ok found)
    (directory : rest = [] → disk.entryAt? found = some .directory)
    (lead : Path.isAbsolute other = Path.isAbsolute path)
    (split : dropDots (Path.steps path) = dropDots (Path.steps other) ++ rest) :
    ∃ middle left, disk.follow linkLimit (disk.start (Route.ofPath other))
        (dropDots (Path.steps other)) = .ok (middle, left) ∧
      disk.entryAt? middle = some .directory := by
  obtain ⟨-, spare, walked⟩ := resolve_ok_iff.1 resolved
  have walked := follow_dropDots walked
  rw [dropDots_allSteps, split, ← start_eq_of_isAbsolute lead] at walked
  obtain ⟨⟨middle, left⟩, first, last⟩ := follow_of_append walked
  refine ⟨middle, left, first, ?_⟩
  -- The walk goes on from there, or that is where it ends.
  cases rest with
  | nil =>
    rw [follow_nil] at last
    cases last
    exact directory rfl
  | cons step steps => exact directory_of_follow last

/-- A path above one that leads somewhere leads to a directory. -/
theorem resolve_above (resolved : disk.resolve path = .ok found)
    (above : other ∈ Path.pathsAbove path) (fits : isPath other = true) :
    ∃ location, disk.resolve other = .ok location ∧ disk.entryAt? location = some .directory := by
  have visible : other ≠ "" := by
    rintro rfl
    cases fits
  obtain ⟨lead, rest, further, split⟩ := Path.of_mem_pathsAbove above visible
  -- The way to the path leads on from there, so what lies there is a directory.
  obtain ⟨middle, left, walked, directory⟩ :=
    follow_of_longer resolved (fun none => absurd none further) lead split
  -- A slash behind the path asks for no more than that.
  have onward : disk.follow linkLimit (disk.start (Route.ofPath other)) (Route.ofPath other).allSteps =
      .ok (middle, left) := follow_allSteps (follow_of_dropDots walked directory) directory
  exact ⟨middle, resolve_ok_iff.2 ⟨fits, left, onward⟩, directory⟩

/-- For a name in a directory, no path above has to be made. -/
theorem Adds.join {written : String → Prop} {root name : String} (resolved : before.resolve root = .ok found)
    (directory : before.entryAt? found = some .directory) (plain : Path.isPlain name = true)
    (adds : Adds (· ∈ Path.join root name :: Path.pathsAbove (Path.join root name)) written
      before after) : Adds (· = Path.join root name) written before after := by
  obtain ⟨relative, own⟩ := Path.steps_plain plain
  have undotted : dropDots [name] = [name] := dropDots_plain (by simpa using plain)
  refine ⟨adds.toGrows, fun location changed => ?_⟩
  obtain ⟨other, reaches, ⟨member, free, made⟩ | wrote⟩ := adds.reached location changed
  swap
  · exact ⟨other, reaches, .inr wrote⟩
  rcases List.mem_cons.1 member with rfl | above
  · exact ⟨_, reaches, .inl ⟨rfl, free, made⟩⟩
  · -- A path above takes some of the steps to the directory, and so leads to one that was there.
    obtain ⟨lead, rest, further, split⟩ := Path.of_mem_pathsAbove above (ne_empty_of_resolve reaches)
    rw [Path.isAbsolute_join relative (ne_empty_of_resolve resolved)] at lead
    obtain ⟨front, last, rfl⟩ := (List.eq_nil_or_concat' rest).resolve_left further
    rw [Path.steps_join relative, own, dropDots_append, undotted, ← List.append_assoc] at split
    obtain ⟨middle, left, walked, held⟩ := follow_of_longer resolved (fun _ => directory) lead
      (List.append_inj' split rfl).1
    obtain ⟨-, spare, leads⟩ := resolve_ok_iff.1 reaches
    have leads := follow_dropDots leads
    rw [dropDots_allSteps, adds.start, adds.toGrows.follow walked] at leads
    cases leads
    rw [held] at free
    cases free

end AuditStage.Disk
