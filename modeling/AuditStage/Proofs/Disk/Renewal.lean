import AuditStage.Proofs.Disk.Fresh
import AuditStage.Proofs.Disk.Guided
import AuditStage.Proofs.Disk.Reset

/-! A directory that is cleared and made anew, and later cleared and made anew once more: what was put
into it in between is gone, and all else is there. -/

namespace AuditStage.Disk

variable {disk reset later : Disk} {base location : Location} {path : String}

/-- Once a path has been cleared and made a directory, nothing lies below that, and the path would still
name it if it were missing. -/
def Renews (path : String) (disk : Disk) : Prop :=
  ∀ cleared reset base, clear path disk = .ok () cleared → makeDirectories path cleared = .ok () reset →
    reset.resolve path = .ok base →
    base ≠ [] ∧ reset.Bare base ∧ Names (reset.erase base) path base

/-- A directory that is made where the path leads nowhere is named by the path while it is missing. -/
theorem renews_of_makeDirectory {between : Disk} (absent : ∀ location, between.resolve path ≠ .ok location)
    (made : makeDirectory path between = .ok () reset) (resolved : reset.resolve path = .ok base) :
    base ≠ [] ∧ reset.Bare base ∧ Names (reset.erase base) path base := by
  obtain ⟨location, found, -, bare⟩ := fresh_of_makeDirectory absent made
  obtain rfl : base = location := Except.ok.inj (resolved.symm.trans found)
  -- What was made is the one name that the walk of the path was stopped at.
  obtain ⟨parent, name, spare, last, walked, free, accepted, rfl, leads⟩ :=
    withDirectory_ok (withDirectory_of_makeDirectory absent made)
  obtain rfl : base = parent ++ [name] := Except.ok.inj (resolved.symm.trans leads)
  refine ⟨by simp, bare, ?_⟩
  -- Without the new directory the disk has all that it had before.
  have grows : Grows between ((between.put (parent ++ [name]) .directory).erase (parent ++ [name])) := by
    refine .of_found (by simp) fun location entry found => ?_
    have other : location ≠ parent ++ [name] := by
      rintro rfl
      rw [free] at found
      cases found
    rw [entryAt?_erase (by simp) bare, if_neg other, entryAt?_put accepted, if_neg other, found]
  obtain ⟨named, -, directory, -⟩ := accepts_iff.1 accepted
  obtain ⟨-, here, up, -⟩ := Path.isPlain_iff.1 (isPlain_of_isName named)
  obtain ⟨front, split⟩ := List.getLast?_eq_some_iff.1 last
  rw [split, List.dropLast_concat] at walked
  -- The walk up to that name never passes the new directory, so it is the same without it.
  have goal : between.goal linkLimit (between.start (Route.ofPath path)) (Route.ofPath path).steps =
      .ok (.named parent name) :=
    goal_ok_iff.2 ⟨spare, approach_named_iff.2
      ⟨front, split, walked, directory, here, up, not_isLongName named⟩⟩
  refine ⟨Route.ofPath path, .named parent name,
    route?_ok_iff.2 ⟨(resolve_ok_iff.1 resolved).1, rfl⟩, ?_, rfl⟩
  rw [grows.start]
  exact grows.goal goal

/-- A path that never leads up is made anew with nothing below it. -/
theorem renews_of_downward (down : .up ∉ Path.components path) : Renews path disk := by
  intro cleared reset base clearing making resolved
  -- Once it is cleared the path leads nowhere, so it is made a directory last of all.
  obtain ⟨between, -, absent, last⟩ := makeDirectory_of_makeDirectories (ne_empty_of_resolve resolved) down
    (fun _ => resolve_ne_of_clear clearing) making
  exact renews_of_makeDirectory absent last resolved

/-- What lies on a disk without a directory and all that is below it. -/
theorem entryAt?_cleared (inside : base ≠ []) (disk : Disk) (location : Location) :
    ((disk.eraseBelow base).erase base).entryAt? location =
      if base <+: location then none else disk.entryAt? location := by
  rw [entryAt?_erase inside bare_eraseBelow, entryAt?_eraseBelow]
  by_cases here : location = base
  · simp [here]
  · simp [here]

/-- A disk that has grown has all that was there when a directory is emptied in which nothing was. -/
theorem Grows.emptied (grows : Grows reset later) (bare : reset.Bare base) :
    Grows reset (later.eraseBelow base) := by
  -- Nothing that was there lies below the directory, so emptying it takes nothing of that away.
  have kept {location : Location} {entry : Entry} (found : reset.entryAt? location = some entry) :
      (later.eraseBelow base).entryAt? location = later.entryAt? location := by
    rw [entryAt?_eraseBelow, if_neg]
    rintro ⟨⟨names, rfl⟩, further⟩
    rw [bare names (by simpa using further)] at found
    cases found
  refine ⟨grows.home, fun location found => ?_, fun location target found => ?_,
    fun location content found => ?_⟩
  all_goals rw [kept found]
  · exact grows.directory _ found
  · exact grows.link _ _ found
  · exact grows.file _ _ found

/-- What has grown has grown as well once an empty directory is taken away. -/
theorem Grows.erased (grows : Grows reset later) (inside : base ≠ []) (bare : reset.Bare base)
    (bare' : later.Bare base) : Grows (reset.erase base) (later.erase base) := by
  -- What is left without the directory was there, and what was there has been kept.
  have kept {location : Location} {entry : Entry}
      (found : (reset.erase base).entryAt? location = some entry) :
      reset.entryAt? location = some entry ∧
        (later.erase base).entryAt? location = later.entryAt? location := by
    rw [entryAt?_erase inside bare] at found
    split at found
    · cases found
    · rename_i other
      exact ⟨found, by rw [entryAt?_erase inside bare', if_neg other]⟩
  refine ⟨by simpa using grows.home, fun location found => ?_, fun location target found => ?_,
    fun location content found => ?_⟩
  all_goals
    obtain ⟨held, same⟩ := kept found
    rw [same]
  · exact grows.directory _ held
  · exact grows.link _ _ held
  · exact grows.file _ _ held

/-- What a path names on a disk it names on one that has grown. -/
theorem Grows.names (grows : Grows disk later) (named : Names disk path base) : Names later path base := by
  obtain ⟨route, goal, taken, reached, same⟩ := named
  -- A walk that came to its end before takes the same way on the disk that has grown.
  exact ⟨route, goal, taken, grows.start route ▸ grows.goal reached, same⟩

/-- A path that names a free location is made a directory there. -/
theorem makeDirectory_of_named (named : Names disk path base) (free : disk.entryAt? base = none) :
    ∃ made, makeDirectory path disk = .ok () made ∧ ∀ location,
      made.entryAt? location = if location = base then some .directory else disk.entryAt? location := by
  obtain ⟨route, goal, taken, reached, same⟩ := named
  cases goal with
  | unnamed location step =>
    -- What is missing can only be named.
    have present := directory_of_unnamed taken reached
    rw [show location = base from same, free] at present
    cases present
  | named parent name =>
    obtain rfl : parent ++ [name] = base := same
    have put : disk.withDirectory path = .ok (disk.put (parent ++ [name]) .directory) := by
      simp only [withDirectory, taken, bind, Except.bind, reached, free]
    obtain ⟨fits, rfl⟩ := route?_ok_iff.1 taken
    -- The path leads to a directory in which the last name is free.
    obtain ⟨spare, approached⟩ := goal_ok_iff.1 reached
    obtain ⟨front, split, -, directory, here, up, short⟩ := approach_named_iff.1 approached
    have member : name ∈ Path.steps path := by
      rw [show Path.steps path = front ++ [name] from split]
      simp
    have accepted : disk.accepts (parent ++ [name]) .directory = true :=
      accepts_iff.2 ⟨isName_of_mem_steps fits member here up short, rfl, directory, by simp [free]⟩
    exact ⟨_, by simp only [makeDirectory, put], fun location => entryAt?_put accepted⟩

/-- Nothing is missing above a path that names a location, so it is all that has to be made. -/
theorem makeDirectories_of_names (named : Names disk path base) :
    makeDirectories path disk = makeDirectory path disk := by
  obtain ⟨route, goal, taken, reached, -⟩ := named
  have filled : path ≠ "" := by
    rintro rfl
    cases taken
  -- Since the walk gets as far as the last name, all directories above it exist.
  exact makeAll_of_known filled (lacksAbove_of_goal taken reached)

/-- A path that names a free location is made a directory there, and nothing above it. -/
theorem makeDirectories_of_named (named : Names disk path base) (free : disk.entryAt? base = none) :
    ∃ made, makeDirectories path disk = .ok () made ∧ ∀ location,
      made.entryAt? location = if location = base then some .directory else disk.entryAt? location := by
  rw [makeDirectories_of_names named]
  exact makeDirectory_of_named named free

/-- What has been put into a directory since it was made anew is gone when it is cleared and made anew
once more, and all else stays. -/
theorem clear_again (grows : Grows reset later)
    (directory : reset.entryAt? base = some .directory) (inside : base ≠ []) (bare : reset.Bare base)
    (named : Names (reset.erase base) path base) :
    ∃ cleared again, clear path later = .ok () cleared ∧
      makeDirectories path cleared = .ok () again ∧ Alike again (later.eraseBelow base) := by
  let gone := (later.eraseBelow base).erase base
  have kept : gone.home = later.home := home_erase base
  have free : gone.entryAt? base = none := by
    rw [entryAt?_cleared inside, if_pos List.prefix_rfl]
  -- The path names the directory while it is there and once it is gone, so it is found to be cleared.
  have names : Names gone path base := ((grows.emptied bare).erased inside bare bare_eraseBelow).names named
  have namesLater : Names later path base := grows.names ((grows_of_erase inside bare).names named)
  -- Outside of the directory the disk stays as it is.
  have outside : AlikeOutside base later gone :=
    ⟨kept.symm, fun location apart => by rw [entryAt?_cleared inside, if_neg apart]⟩
  obtain ⟨cleared, clearing, alike⟩ :=
    outside.cleared (grows.directory _ directory) free namesLater names
  -- And what is made where it is gone is made where it has been cleared.
  obtain ⟨made, making, entries⟩ := makeDirectories_of_named names free
  obtain ⟨again, making', same⟩ :=
    (makeDirectories_blind path gone cleared alike.symm).ok_of_ok making
  have home : made.home = gone.home := ((makeDirectories_adds path).of_ok making).home
  -- At the directory itself a new one stands, and below it nothing.
  refine ⟨cleared, again, clearing, making', ?_, fun location => ?_⟩
  · rw [← same.home, home, kept]
    rfl
  · rw [← same.entries, entries, entryAt?_cleared inside, entryAt?_eraseBelow]
    by_cases here : location = base
    · simp [here, grows.directory _ directory]
    · simp [here]

/-- A directory that was added to and has been emptied again is as it was when it was new, and what
differs was left outside of it. -/
theorem beside_of_emptied {made written : String → Prop} {again : Disk}
    (adds : Adds made written reset later) (directory : reset.entryAt? base = some .directory)
    (bare : reset.Bare base) (alike : Alike again (later.eraseBelow base)) :
    Beside base later reset again reset := by
  -- What lies on the disk by now: nothing below the directory, and elsewhere what was there.
  have known (location : Location) : again.entryAt? location =
      if base <+: location ∧ location ≠ base then none else later.entryAt? location := by
    rw [alike.entries, entryAt?_eraseBelow]
  have lower {location : Location} (below : base <+: location ∧ location ≠ base) :
      reset.entryAt? location = none := by
    obtain ⟨⟨names, rfl⟩, further⟩ := below
    exact bare names (by simpa using further)
  refine ⟨⟨alike.home.trans adds.home, fun location target => ⟨fun linked => ?_, fun linked => ?_⟩⟩,
    fun location => ?_⟩
  · rw [known] at linked
    split at linked
    · cases linked
    · exact adds.linked linked
  · rw [known, if_neg, adds.link _ _ linked]
    intro below
    rw [lower below] at linked
    cases linked
  · -- Inside the two disks agree; outside each has what it had.
    by_cases inside : base <+: location
    · refine .inl ?_
      by_cases here : location = base
      · rw [known, if_neg (fun below => below.2 here), here, adds.directory _ directory, directory]
      · rw [known, if_pos ⟨inside, here⟩, lower ⟨inside, here⟩]
    · exact .inr ⟨inside, by rw [known, if_neg fun below => inside below.1], rfl⟩

/-- Disks beside each other are alike if the same was left outside on both. -/
theorem Beside.alike {left bare one two : Disk} (beside : Beside base left bare one two)
    (same : ∀ location, ¬base <+: location → left.entryAt? location = bare.entryAt? location) :
    Alike one two := by
  refine ⟨beside.home, fun location => ?_⟩
  rcases beside.entries location with equal | ⟨outside, first, second⟩
  · exact equal
  · rw [first, second, same location outside]

end AuditStage.Disk
