import AuditStage.Proofs.Disk.Fresh
import AuditStage.Proofs.TwoRuns

/-! Two disks with the same links: a walk that comes to its end on both leads to one place, so what is
done on both is done at one place. -/

namespace AuditStage.Disk

open Effect (Agrees)

variable {one two one' two' left bare : Disk} {location other : Location} {path : String}

/-- Two disks have the same home and the same links. -/
structure SameLinks (one two : Disk) : Prop where
  home : one.home = two.home
  links : ∀ location target, one.entryAt? location = some (.link target) ↔
    two.entryAt? location = some (.link target)

/-- The ways in which the first step of a walk can be taken. -/
theorem Leads.of_cons {disk : Disk} {links : Nat} {step : String} {steps : List String}
    {reached : Location × Nat} (leads : disk.Leads links location (step :: steps) reached) :
    (step = "." ∧ disk.Leads links location steps reached) ∨
      (step = ".." ∧ disk.Leads links location.dropLast steps reached) ∨
      (step ≠ "." ∧ step ≠ ".." ∧
        ((∀ target, disk.entryAt? (location ++ [step]) ≠ some (.link target)) ∧
            disk.Leads links (location ++ [step]) steps reached ∨
          ∃ fewer target, links = fewer + 1 ∧
            disk.entryAt? (location ++ [step]) = some (.link target) ∧
            disk.Leads fewer (if (Route.ofPath target).absolute then [] else location)
              ((Route.ofPath target).allSteps ++ steps) reached)) := by
  -- Each constructor is one of the ways, and none fits more than one.
  cases leads with
  | here _ further => exact .inl ⟨rfl, further⟩
  | up _ further => exact .inr (.inl ⟨rfl, further⟩)
  | down _ here up _ found real further =>
    refine .inr (.inr ⟨here, up, .inl ⟨fun target linked => ?_, further⟩⟩)
    rw [found, Option.some.injEq] at linked
    exact real target linked
  | link _ here up _ found further => exact .inr (.inr ⟨here, up, .inr ⟨_, _, rfl, found, further⟩⟩)

/-- Walks that come to their end on two disks with the same links lead to one place. -/
theorem SameLinks.leads {links : Nat} {steps : List String} {reached reached' : Location × Nat}
    (same : SameLinks one two) (leads : one.Leads links location steps reached)
    (leads' : two.Leads links location steps reached') : reached = reached' := by
  -- Step by step, both walks take a link or neither of them does.
  induction leads generalizing reached' with
  | stay =>
    cases leads'
    rfl
  | here _ _ ih =>
    rcases leads'.of_cons with ⟨-, further⟩ | ⟨other, -⟩ | ⟨other, -⟩
    · exact ih further
    · exact absurd other (by decide)
    · exact absurd rfl other
  | up _ _ ih =>
    rcases leads'.of_cons with ⟨other, -⟩ | ⟨-, further⟩ | ⟨-, other, -⟩
    · exact absurd other (by decide)
    · exact ih further
    · exact absurd rfl other
  | down _ here up _ found real _ ih =>
    rcases leads'.of_cons with ⟨other, -⟩ | ⟨other, -⟩ | ⟨-, -, ⟨-, further⟩ | ⟨_, _, -, linked, -⟩⟩
    · exact absurd other here
    · exact absurd other up
    · exact ih further
    · -- A link on the second disk would be one on the first.
      rw [(same.links _ _).2 linked, Option.some.injEq] at found
      exact absurd found.symm (real _)
  | link _ here up _ linked _ ih =>
    have linked' := (same.links _ _).1 linked
    rcases leads'.of_cons with ⟨other, -⟩ | ⟨other, -⟩ |
      ⟨-, -, ⟨none, -⟩ | ⟨fewer, target, count, found, further⟩⟩
    · exact absurd other here
    · exact absurd other up
    · exact absurd linked' (none _)
    · -- Both walks follow the same target with as many links to spare.
      rw [linked', Option.some.injEq, Entry.link.injEq] at found
      obtain rfl := Nat.succ.inj count
      subst found
      exact ih further

/-- A path that leads somewhere on both of two disks with the same links leads to one place. -/
theorem SameLinks.resolve (same : SameLinks one two) (resolved : one.resolve path = .ok location)
    (resolved' : two.resolve path = .ok other) : location = other := by
  obtain ⟨-, spare, walked⟩ := resolve_ok_iff.1 resolved
  obtain ⟨-, spare', walked'⟩ := resolve_ok_iff.1 resolved'
  -- The walks start at one place, because the disks have one home.
  rw [start, ← same.home] at walked'
  have reached := same.leads (follow_iff_leads.1 walked) (follow_iff_leads.1 walked')
  exact congrArg Prod.fst reached

/-- Disks that are only added to keep having the same links. -/
theorem SameLinks.adds {made written made' written' : String → Prop} (same : SameLinks one two)
    (adds : Adds made written one one') (adds' : Adds made' written' two two') :
    SameLinks one' two' := by
  refine ⟨adds.home.trans (same.home.trans adds'.home.symm), fun location target => ?_⟩
  -- What is added is no link, and no link is lost.
  constructor
  · exact fun linked => adds'.link _ _ ((same.links _ _).1 (adds.linked linked))
  · exact fun linked => adds.link _ _ ((same.links _ _).2 (adds'.linked linked))

/-- Two disks have the same entries but for what was left outside a location: there the one has what
lies on a third disk, and the other what lies on a fourth. -/
structure Beside (base : Location) (left bare one two : Disk) : Prop extends SameLinks one two where
  entries : ∀ location, one.entryAt? location = two.entryAt? location ∨
    (¬base <+: location ∧ one.entryAt? location = left.entryAt? location ∧
      two.entryAt? location = bare.entryAt? location)

variable {base : Location}

/-- Disks stay as they are beside each other if all that changes on one of them is the same on both. -/
theorem Beside.adds {made written made' written' : String → Prop} (beside : Beside base left bare one two)
    (adds : Adds made written one one') (adds' : Adds made' written' two two')
    (equal : ∀ location, one'.entryAt? location ≠ one.entryAt? location ∨
      two'.entryAt? location ≠ two.entryAt? location → one'.entryAt? location = two'.entryAt? location) :
    Beside base left bare one' two' := by
  refine ⟨beside.toSameLinks.adds adds adds', fun location => ?_⟩
  -- Where neither disk changes, what was known before still holds.
  by_cases changed : one'.entryAt? location ≠ one.entryAt? location ∨
      two'.entryAt? location ≠ two.entryAt? location
  · exact .inl (equal location changed)
  · obtain ⟨kept, kept'⟩ := not_or.1 changed
    rw [not_not.1 kept, not_not.1 kept']
    exact beside.entries location

/-- A directory that was made for a path, or above it, is one on both disks. -/
theorem SameLinks.directory_of_made (same : SameLinks one' two')
    (grown : Adds (· ∈ path :: Path.pathsAbove path) (fun _ => False) one one')
    (done : two'.isDirectory path = true)
    (changed : one'.entryAt? location ≠ one.entryAt? location) :
    one'.entryAt? location = some .directory ∧ two'.entryAt? location = some .directory := by
  -- No file is written, so what has changed was made a directory.
  obtain ⟨other, resolved, ⟨member, -, found⟩ | ⟨never, -⟩⟩ := grown.reached location changed
  swap
  · exact never.elim
  refine ⟨found, ?_⟩
  obtain ⟨whole, reaches, directory⟩ := isDirectory_iff.1 done
  -- On the other disk the path leads to a directory as well, and so to this one.
  rcases List.mem_cons.1 member with rfl | above
  · obtain rfl := same.resolve resolved reaches
    exact directory
  · obtain ⟨place, leads, directory⟩ := resolve_above reaches above (resolve_ok_iff.1 resolved).1
    obtain rfl := same.resolve resolved leads
    exact directory

/-- Making a path a directory on both disks leaves them as they are beside each other. -/
theorem makeDirectories_beside (path : String) :
    Agrees (Beside base left bare) (makeDirectories path) := by
  intro one two _ _ one' two' beside made made'
  refine ⟨rfl, ?_⟩
  by_cases filled : path = ""
  · -- There is nothing to be made for the empty path.
    subst filled
    cases made
    cases made'
    exact beside
  have adds := (makeDirectories_adds path).of_ok made
  have adds' := (makeDirectories_adds path).of_ok made'
  -- With the same links on both disks, the path and those above it lead to the same places.
  have linked := beside.toSameLinks.adds adds adds'
  have flipped : SameLinks two' one' :=
    ⟨linked.home.symm, fun location target => (linked.links location target).symm⟩
  refine beside.adds adds adds' fun location changed => ?_
  -- A change on either disk is a directory that was made there, and the other has one as well.
  rcases changed with changed | changed
  · obtain ⟨here, there⟩ := linked.directory_of_made adds (isDirectory_of_makeAll filled made') changed
    rw [here, there]
  · obtain ⟨there, here⟩ := flipped.directory_of_made adds' (isDirectory_of_makeAll filled made) changed
    rw [here, there]

/-- Writing a file on both disks leaves them as they are beside each other. -/
theorem withFile_beside (path content : String) :
    Agrees (Beside base left bare) (attempt fun disk => disk.withFile path content) := by
  intro one two _ _ one' two' beside made made'
  refine ⟨rfl, ?_⟩
  have wrote := attempt_ok made
  have wrote' := attempt_ok made'
  have adds := withFile_adds wrote
  have adds' := withFile_adds wrote'
  have linked := beside.toSameLinks.adds adds adds'
  obtain ⟨place, accepted, -, rfl, resolved⟩ := withFile_ok wrote
  obtain ⟨place', accepted', -, rfl, resolved'⟩ := withFile_ok wrote'
  -- After the writing the path leads to the file, and to one place on both disks.
  obtain rfl : place = place' := linked.resolve resolved resolved'
  -- The one place that changes holds the content on both disks.
  refine beside.adds adds adds' fun location changed => ?_
  rw [entryAt?_put accepted, entryAt?_put accepted'] at changed ⊢
  by_cases here : location = place
  · simp [here]
  · simp [here] at changed

/-- Making the path above a path a directory on both disks leaves them as they are beside each other. -/
theorem makeAbove_beside (path : String) : Agrees (Beside base left bare) (makeAbove path) := by
  unfold makeAbove
  split
  · exact .pure _
  · exact makeDirectories_beside _

/-- Writing a file with all that is missing above it on both disks leaves them as they are beside each
other. -/
theorem writeFile_beside (path content : String) :
    Agrees (Beside base left bare) (writeFile path content) :=
  (makeAbove_beside path).bind fun _ => withFile_beside path content

end AuditStage.Disk
