import AuditStage.Proofs.Disk.Walk
import Mathlib.Order.Defs.Unbundled

/-! Disks that only gain: all that was there stays, and every walk leads where it led. -/

namespace AuditStage.Disk

variable {before after : Disk} {location : Location}

/-- One disk comes from another without a loss; only the content of a file may be another one. -/
structure Grows (before after : Disk) : Prop where
  home : after.home = before.home
  directory : ∀ location, before.entryAt? location = some .directory →
    after.entryAt? location = some .directory
  link : ∀ location target, before.entryAt? location = some (.link target) →
    after.entryAt? location = some (.link target)
  file : ∀ location content, before.entryAt? location = some (.file content) →
    ∃ content, after.entryAt? location = some (.file content)

instance : IsPreorder Disk Grows where
  refl _ := ⟨rfl, fun _ here => here, fun _ _ here => here, fun _ _ here => ⟨_, here⟩⟩
  trans first between last grows further := by
    refine ⟨further.home.trans grows.home,
      fun location here => further.directory location (grows.directory location here),
      fun location target here => further.link location target (grows.link location target here),
      fun location content here => ?_⟩
    obtain ⟨content, here⟩ := grows.file location content here
    exact further.file location content here

namespace Grows

/-- Nothing is lost where every entry is still there. -/
theorem of_found (home : after.home = before.home)
    (kept : ∀ location entry, before.entryAt? location = some entry →
      after.entryAt? location = some entry) : Grows before after :=
  ⟨home, fun _ found => kept _ _ found, fun _ _ found => kept _ _ found,
    fun _ content found => ⟨content, kept _ _ found⟩⟩

/-- What is free afterwards was free before. -/
theorem free (grows : Grows before after) (here : after.entryAt? location = none) :
    before.entryAt? location = none := by
  -- Whatever had been there would be there still, if perhaps with another content.
  cases found : before.entryAt? location with
  | none => rfl
  | some entry =>
    cases entry with
    | directory => simp [grows.directory _ found] at here
    | file content =>
      obtain ⟨content, found⟩ := grows.file _ _ found
      simp [found] at here
    | link target => simp [grows.link _ _ found] at here

/-- A walk that comes to its end still leads to the same place. -/
theorem follow {links : Nat} {steps : List String} {reached : Location × Nat}
    (grows : Grows before after) (walked : before.follow links location steps = .ok reached) :
    after.follow links location steps = .ok reached := by
  rw [follow_iff_leads] at walked ⊢
  -- What a name leads to is of the same kind on both disks.
  induction walked with
  | stay => exact .stay
  | here directory _ ih => exact .here (grows.directory _ directory) ih
  | up directory _ ih => exact .up (grows.directory _ directory) ih
  | @down links location step steps entry reached directory here up short found real _ ih =>
    have directory := grows.directory _ directory
    cases entry with
    | directory =>
      exact .down directory here up short (grows.directory _ found) (by simp) ih
    | file content =>
      obtain ⟨content, found⟩ := grows.file _ _ found
      exact .down directory here up short found (by simp) ih
    | link target => exact absurd rfl (real target)
  | link directory here up short found _ ih =>
    exact .link (grows.directory _ directory) here up short (grows.link _ _ found) ih

/-- A walk still starts where it started. -/
theorem start (grows : Grows before after) (route : Route) :
    after.start route = before.start route := by
  rw [Disk.start, Disk.start, grows.home]

/-- A path that leads to a location still leads there. -/
theorem resolve {path : String} (grows : Grows before after)
    (resolved : before.resolve path = .ok location) : after.resolve path = .ok location := by
  rw [resolve_ok_iff] at resolved ⊢
  obtain ⟨fits, spare, walked⟩ := resolved
  refine ⟨fits, spare, ?_⟩
  -- Both walks start at one place, and the walk that came to its end still does.
  rw [grows.start]
  exact grows.follow walked

/-- The last step of a walk still stands for the same. -/
theorem approach {links spare : Nat} {steps : List String} {goal : Goal} (grows : Grows before after)
    (reached : before.approach links location steps = .ok (goal, spare)) :
    after.approach links location steps = .ok (goal, spare) := by
  unfold Disk.approach at reached ⊢
  split
  · rename_i none
    simpa only [none] using reached
  · rename_i step last
    simp only [last, bind, Except.bind] at reached ⊢
    -- The steps before the last lead to the directory that they led to.
    cases walked : before.follow links location steps.dropLast with
    | error error => simp [walked] at reached
    | ok middle =>
      rw [grows.follow walked]
      rw [walked] at reached
      dsimp only at reached ⊢
      split at reached
      · cases reached
      · -- The directory is still one, so the last step is looked at in the same way.
        rename_i directory
        rw [if_neg (not_not_intro (grows.directory _ (Decidable.not_not.1 directory)))]
        exact reached

/-- The last step of a walk still means the same. -/
theorem goal {links : Nat} {steps : List String} {goal : Goal} (grows : Grows before after)
    (reached : before.goal links location steps = .ok goal) :
    after.goal links location steps = .ok goal := by
  obtain ⟨spare, approached⟩ := goal_ok_iff.1 reached
  exact goal_ok_iff.2 ⟨spare, grows.approach approached⟩

/-- A path that names a location still names it. -/
theorem ownLocation {path : String} (grows : Grows before after)
    (own : before.ownLocation path = .ok location) : after.ownLocation path = .ok location := by
  unfold Disk.ownLocation at own ⊢
  cases taken : route? path with
  | error error => simp [taken, bind, Except.bind] at own
  | ok route =>
    simp only [taken, bind, Except.bind, grows.start] at own ⊢
    split
    · -- With a slash at the end all steps are walked, and without it all but the last.
      rename_i trailing
      rw [if_pos trailing, walk] at own
      cases walked : before.follow linkLimit (before.start route) route.allSteps with
      | error error => simp [walked, Except.map] at own
      | ok reached =>
        rw [walk, grows.follow walked]
        rw [walked] at own
        exact own
    · rename_i plain
      rw [if_neg plain] at own
      cases reached : before.goal linkLimit (before.start route) route.steps with
      | error error => simp [reached, Except.map] at own
      | ok goal =>
        rw [grows.goal reached]
        rw [reached] at own
        exact own

/-- Nothing is lost when an entry is put where nothing is, or a file in place of another one. -/
theorem put {entry : Entry} (fits : before.accepts location entry = true)
    (gentle : ∀ old, before.entryAt? location = some old →
      ∃ text new, old = .file text ∧ entry = .file new) : Grows before (before.put location entry) := by
  -- Only files are written over, so that what is no file stays.
  have elsewhere {other : Location} {old : Entry} (found : before.entryAt? other = some old)
      (lasting : ∀ text, old ≠ .file text) : (before.put location entry).entryAt? other = some old := by
    rw [entryAt?_put fits, if_neg, found]
    rintro rfl
    -- What is written over is a file, so it would not last.
    obtain ⟨text, -, rfl, -⟩ := gentle _ found
    exact lasting text rfl
  refine ⟨home_put location entry, fun other found => elsewhere found (by simp),
    fun other target found => elsewhere found (by simp), fun other text found => ?_⟩
  rw [entryAt?_put fits]
  split
  · -- Where the entry was put there was nothing, or another file.
    rename_i same
    subst same
    obtain ⟨-, new, -, rfl⟩ := gentle _ found
    exact ⟨new, rfl⟩
  · exact ⟨text, found⟩

end Grows

/-- One disk comes from another by making some paths directories and writing some paths, and each of
them leads to what has changed for it. -/
structure Adds (made written : String → Prop) (before after : Disk) : Prop extends
    Grows before after where
  reached : ∀ location, after.entryAt? location ≠ before.entryAt? location →
    ∃ path, after.resolve path = .ok location ∧
      ((made path ∧ before.entryAt? location = none ∧ after.entryAt? location = some .directory) ∨
        (written path ∧ ∃ content, after.entryAt? location = some (.file content)))

instance (made written : String → Prop) : IsPreorder Disk (Adds made written) where
  refl disk := ⟨refl_of Grows disk, fun _ changed => absurd rfl changed⟩
  trans first between last adds further := by
    refine ⟨trans_of Grows adds.toGrows further.toGrows, fun location changed => ?_⟩
    -- The last change at a location is the one that tells what lies there.
    by_cases late : last.entryAt? location = between.entryAt? location
    · obtain ⟨path, resolved, reached⟩ := adds.reached location (late ▸ changed)
      exact ⟨path, further.resolve resolved, late ▸ reached⟩
    · obtain ⟨path, resolved, ⟨making, free, found⟩ | writing⟩ := further.reached location late
      · exact ⟨path, resolved, .inl ⟨making, adds.free free, found⟩⟩
      · exact ⟨path, resolved, .inr writing⟩

namespace Adds

variable {made written : String → Prop}

/-- What some paths allow, more paths allow as well. -/
theorem mono {made' written' : String → Prop} (adds : Adds made written before after)
    (making : ∀ path, made path → made' path) (writing : ∀ path, written path → written' path) :
    Adds made' written' before after where
  toGrows := adds.toGrows
  reached location changed := by
    obtain ⟨path, resolved, ⟨allowed, found⟩ | ⟨allowed, found⟩⟩ := adds.reached location changed
    · exact ⟨path, resolved, .inl ⟨making path allowed, found⟩⟩
    · exact ⟨path, resolved, .inr ⟨writing path allowed, found⟩⟩

/-- There is no link that was not there before. -/
theorem linked {target : String} (adds : Adds made written before after)
    (found : after.entryAt? location = some (.link target)) :
    before.entryAt? location = some (.link target) := by
  by_cases same : after.entryAt? location = before.entryAt? location
  · exact same ▸ found
  · obtain ⟨path, -, ⟨-, -, directory⟩ | ⟨-, content, file⟩⟩ := adds.reached location same
    · simp [directory] at found
    · simp [file] at found

end Adds

end AuditStage.Disk
