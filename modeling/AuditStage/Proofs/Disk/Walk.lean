import AuditStage.Disk.Action
import AuditStage.Proofs.Disk.Entries
import AuditStage.Proofs.Path.Names

/-! Where walks lead: one after the other, through plain names, and past the dots on the way. -/

namespace AuditStage.Disk

variable {disk : Disk} {links spare : Nat} {location found : Location}

/-- Where a walk leads that comes to its end, step by step. -/
inductive Leads (disk : Disk) : Nat → Location → List String → Location × Nat → Prop where
  | stay {links : Nat} {location : Location} : Leads disk links location [] (location, links)
  | here {links : Nat} {location : Location} {steps : List String} {reached : Location × Nat}
      (directory : disk.entryAt? location = some .directory)
      (further : Leads disk links location steps reached) :
      Leads disk links location ("." :: steps) reached
  | up {links : Nat} {location : Location} {steps : List String} {reached : Location × Nat}
      (directory : disk.entryAt? location = some .directory)
      (further : Leads disk links location.dropLast steps reached) :
      Leads disk links location (".." :: steps) reached
  | down {links : Nat} {location : Location} {step : String} {steps : List String} {entry : Entry}
      {reached : Location × Nat} (directory : disk.entryAt? location = some .directory)
      (here : step ≠ ".") (up : step ≠ "..") (short : isLongName step = false)
      (found : disk.entryAt? (location ++ [step]) = some entry)
      (real : ∀ target, entry ≠ .link target)
      (further : Leads disk links (location ++ [step]) steps reached) :
      Leads disk links location (step :: steps) reached
  | link {links : Nat} {location : Location} {step : String} {steps : List String} {target : String}
      {reached : Location × Nat} (directory : disk.entryAt? location = some .directory)
      (here : step ≠ ".") (up : step ≠ "..") (short : isLongName step = false)
      (found : disk.entryAt? (location ++ [step]) = some (.link target))
      (further : Leads disk links (if (Route.ofPath target).absolute then [] else location)
        ((Route.ofPath target).allSteps ++ steps) reached) :
      Leads disk (links + 1) location (step :: steps) reached

/-- A walk comes to its end exactly when its steps lead there one by one. -/
theorem follow_iff_leads {steps : List String} {reached : Location × Nat} :
    disk.follow links location steps = .ok reached ↔ disk.Leads links location steps reached := by
  constructor
  · intro walked
    -- The induction is the walk's own: on the steps, and behind a link on the links left.
    induction links, location, steps using follow_induction with
    | stay links location =>
      rw [follow_nil] at walked
      cases walked
      exact .stay
    | next links location step steps ih fewer =>
      rw [follow_cons] at walked
      split at walked
      · simp at walked
      rename_i directory
      have directory := Decidable.not_not.1 directory
      split at walked
      · rename_i here
        exact here ▸ .here directory (ih _ walked)
      rename_i here
      split at walked
      · rename_i up
        exact up ▸ .up directory (ih _ walked)
      rename_i up
      split at walked
      · simp at walked
      rename_i short
      have short := Bool.not_eq_true _ ▸ short
      split at walked
      · simp at walked
      · -- A link is taken at the cost of one of those that may still be followed.
        rename_i target found
        cases links with
        | zero => simp at walked
        | succ links =>
          exact .link directory here up short found
            (fewer links (Nat.lt_succ_self links) _ _ walked)
      · rename_i entry real found
        exact .down directory here up short found (fun target same => real target same)
          (ih _ walked)
  · intro leads
    induction leads with
    -- The other way round, each step is the branch that its condition selects.
    | stay => exact follow_nil
    | here directory _ ih => rw [follow_cons, if_neg (not_not_intro directory), if_pos rfl, ih]
    | up directory _ ih =>
      rw [follow_cons, if_neg (not_not_intro directory), if_neg (by decide), if_pos rfl, ih]
    | @down links location step steps entry reached directory here up short found real _ ih =>
      rw [follow_cons, if_neg (not_not_intro directory), if_neg here, if_neg up, short, found]
      cases entry with
      | directory => exact ih
      | file content => exact ih
      | link target => exact absurd rfl (real target)
    | link directory here up short found _ ih =>
      rw [follow_cons, if_neg (not_not_intro directory), if_neg here, if_neg up, short, found]
      exact ih

/-- Steps in a row are taken one part after the other. -/
theorem follow_append (before after : List String) :
    disk.follow links location (before ++ after) =
      disk.follow links location before >>= fun reached => disk.follow reached.2 reached.1 after := by
  induction links, location, before using follow_induction with
  | stay links location => rw [List.nil_append, follow_nil]; rfl
  | next links location step steps ih fewer =>
    -- The first step is the same in both walks, whatever it is.
    simp only [List.cons_append, follow_cons]
    split
    · rfl
    split
    · exact ih location
    split
    · exact ih location.dropLast
    split
    · rfl
    · cases found : disk.entryAt? (location ++ [step]) with
      | none => rfl
      | some entry =>
        cases entry with
        | directory => exact ih _
        | file content => exact ih _
        | link target =>
          -- The steps that a link stands for come before the others.
          cases links with
          | zero => rfl
          | succ links =>
            simp only [← List.append_assoc]
            exact fewer links (Nat.lt_succ_self links) _ _

/-- The first step is taken before the others. -/
theorem follow_first (step : String) (steps : List String) :
    disk.follow links location (step :: steps) =
      disk.follow links location [step] >>= fun reached => disk.follow reached.2 reached.1 steps :=
  follow_append [step] steps

/-- A dot stays in a directory. -/
theorem follow_here :
    disk.follow links location ["."] =
      if disk.entryAt? location = some .directory then .ok (location, links)
      else .error .notDirectory := by
  rw [follow_cons]
  by_cases directory : disk.entryAt? location = some .directory <;> simp [directory]

/-- Two dots lead out of a directory. -/
theorem follow_up :
    disk.follow links location [".."] =
      if disk.entryAt? location = some .directory then .ok (location.dropLast, links)
      else .error .notDirectory := by
  rw [follow_cons]
  by_cases directory : disk.entryAt? location = some .directory <;> simp [directory]

/-- A name leads to the entry of that name in a directory, unless it is a link. -/
theorem follow_name {name : String} (here : name ≠ ".") (up : name ≠ "..") :
    disk.follow links location [name] =
      if disk.entryAt? location ≠ some .directory then .error .notDirectory
      else if isLongName name then .error .nameTooLong
      else
        match disk.entryAt? (location ++ [name]) with
        | none => .error .notFound
        | some (.link target) =>
          match links with
          | 0 => .error .tooManyLinks
          | links + 1 =>
            disk.follow links (if (Route.ofPath target).absolute then [] else location)
              (Route.ofPath target).allSteps
        | some _ => .ok (location ++ [name], links) := by
  -- One step is all there is to follow, so nothing comes behind it.
  rw [follow_cons, if_neg here, if_neg up]
  split
  · rfl
  · split
    · rfl
    · cases disk.entryAt? (location ++ [name]) with
      | none => rfl
      | some entry =>
        cases entry with
        | directory => simp
        | file content => simp
        | link target =>
          cases links with
          | zero => rfl
          | succ links => simp

/-- A dot that comes to its end has stayed in a directory. -/
theorem follow_here_ok {reached : Location × Nat}
    (walked : disk.follow links location ["."] = .ok reached) :
    reached = (location, links) ∧ disk.entryAt? location = some .directory := by
  rw [follow_here] at walked
  -- The step is taken only in a directory.
  split at walked
  · rename_i directory
    cases walked
    exact ⟨rfl, directory⟩
  · cases walked

/-- A name that is no link's leads to where it says. -/
theorem follow_name_ok {name : String} {reached : Location × Nat} (here : name ≠ ".")
    (up : name ≠ "..") (real : ∀ target, disk.entryAt? (location ++ [name]) ≠ some (.link target))
    (walked : disk.follow links location [name] = .ok reached) :
    reached = (location ++ [name], links) := by
  have leads := follow_iff_leads.1 walked
  -- The name is none of the special steps, and no link stands there.
  cases leads with
  | here => exact absurd rfl here
  | up => exact absurd rfl up
  | down _ _ _ _ _ _ further => cases further; rfl
  | link _ _ _ _ found => exact absurd found (real _)

/-- A walk that takes a step starts in a directory. -/
theorem directory_of_follow {step : String} {steps : List String} {reached : Location × Nat}
    (walked : disk.follow links location (step :: steps) = .ok reached) :
    disk.entryAt? location = some .directory := by
  cases follow_iff_leads.1 walked <;> assumption

/-- The first part of a walk that comes to its end comes to an end itself. -/
theorem follow_of_append {before after : List String} {reached : Location × Nat}
    (walked : disk.follow links location (before ++ after) = .ok reached) :
    ∃ middle, disk.follow links location before = .ok middle ∧
      disk.follow middle.2 middle.1 after = .ok reached := by
  rw [follow_append] at walked
  -- A walk whose first part fails does not come to its end.
  cases first : disk.follow links location before with
  | error error => simp [first, Bind.bind, Except.bind] at walked
  | ok middle => exact ⟨middle, rfl, by simpa [first, Bind.bind, Except.bind] using walked⟩

/-- The first step of a walk that comes to its end comes to an end itself. -/
theorem follow_of_cons {step : String} {steps : List String} {reached : Location × Nat}
    (walked : disk.follow links location (step :: steps) = .ok reached) :
    ∃ middle, disk.follow links location [step] = .ok middle ∧
      disk.follow middle.2 middle.1 steps = .ok reached :=
  follow_of_append walked

/-- Something other than a link lies at a location. -/
def IsReal (disk : Disk) (location : Location) : Prop :=
  ∃ entry, disk.entryAt? location = some entry ∧ ∀ target, entry ≠ .link target

/-- A directory is no link. -/
theorem IsReal.of_directory (directory : disk.entryAt? location = some .directory) :
    disk.IsReal location :=
  ⟨_, directory, by simp⟩

/-- What holds a directory is a directory. -/
theorem directory_dropLast (directory : disk.entryAt? location = some .directory) :
    disk.entryAt? location.dropLast = some .directory := by
  -- The root holds itself, and any other location lies in the one above it.
  induction location using List.reverseRecOn with
  | nil => rfl
  | append_singleton parent name _ => simpa using (entryAt?_rooted directory).1

/-- A walk ends at something other than a link if it starts at something other than a link. -/
theorem isReal_follow {steps : List String} (real : disk.IsReal location)
    (walked : disk.follow links location steps = .ok (found, spare)) : disk.IsReal found := by
  generalize same : (found, spare) = reached at walked
  have leads := follow_iff_leads.1 walked
  clear walked
  -- Each step leads to what lies there, or up to a directory that holds it.
  induction leads with
  | stay => cases same; exact real
  | here _ _ ih => exact ih real same
  | up directory _ ih => exact ih (.of_directory (directory_dropLast directory)) same
  | down _ _ _ _ present plain _ ih => exact ih ⟨_, present, plain⟩ same
  | link directory _ _ _ _ _ ih =>
    -- A link leads on from the root or from the directory that it lies in.
    refine ih (.of_directory ?_) same
    split
    · rfl
    · exact directory

/-- A walk that takes a step ends at something other than a link. -/
theorem isReal_of_follow {steps : List String} (going : steps ≠ [])
    (walked : disk.follow links location steps = .ok (found, spare)) : disk.IsReal found := by
  obtain ⟨step, steps, rfl⟩ := List.exists_cons_of_ne_nil going
  exact isReal_follow (.of_directory (directory_of_follow walked)) walked

/-- A slash at the end of a route makes no difference where the route leads to a directory. -/
theorem follow_allSteps {route : Route} {reached : Location × Nat}
    (walked : disk.follow links location route.steps = .ok reached)
    (directory : disk.entryAt? reached.1 = some .directory) :
    disk.follow links location route.allSteps = .ok reached := by
  unfold Route.allSteps
  -- What the slash adds is a dot, and it stays in the directory.
  split
  · rw [follow_append, walked]
    exact follow_here.trans (if_pos directory)
  · exact walked

/-- Names lead straight down to what lies there, unless it is a link. -/
theorem follow_names {names : List String} (directory : disk.entryAt? location = some .directory)
    (real : disk.IsReal (location ++ names)) :
    disk.follow links location names = .ok (location ++ names, links) := by
  induction names generalizing location with
  | nil => simp
  | cons name names ih =>
    obtain ⟨entry, present, plain⟩ := real
    -- The first name stands for the last entry, or for a directory above it.
    obtain ⟨first, found, real⟩ : ∃ first, disk.entryAt? (location ++ [name]) = some first ∧
        ∀ target, first ≠ .link target := by
      by_cases last : names = []
      · exact ⟨entry, by simpa [last] using present, plain⟩
      · exact ⟨.directory, entryAt?_above (by simpa using present) last, by simp⟩
    -- A name that stands on a disk is neither a dot nor too long, so the walk takes it.
    have named := (entryAt?_rooted found).2.1
    obtain ⟨-, here, up, -⟩ := Path.isPlain_iff.1 (isPlain_of_isName named)
    have step : disk.follow links location [name] = .ok (location ++ [name], links) := by
      rw [follow_name here up, if_neg (not_not_intro directory), not_isLongName named, found]
      cases first with
      | directory => rfl
      | file content => rfl
      | link target => exact absurd rfl (real target)
    rw [follow_first, step]
    simp only [Bind.bind, Except.bind]
    by_cases last : names = []
    · simp [last]
    · have inner : disk.entryAt? (location ++ [name]) = some .directory :=
        entryAt?_above (by simpa using present) last
      simpa using ih inner ⟨entry, by simpa using present, plain⟩

/-- The steps of a walk without those that stay in place. -/
def dropDots (steps : List String) : List String :=
  steps.filter (· ≠ ".")

/-- A dot at the front is dropped. -/
@[simp] theorem dropDots_dot (steps : List String) : dropDots ("." :: steps) = dropDots steps := by
  simp [dropDots]

/-- A step at the front that is no dot is kept. -/
theorem dropDots_cons {step : String} {steps : List String} (here : step ≠ ".") :
    dropDots (step :: steps) = step :: dropDots steps := by
  simp [dropDots, here]

/-- Dropping dots from steps in a row drops them from each part. -/
theorem dropDots_append (before after : List String) :
    dropDots (before ++ after) = dropDots before ++ dropDots after := by
  simp [dropDots]

/-- There is no dot among plain names. -/
theorem dropDots_plain {names : List String} (plain : ∀ name ∈ names, Path.isPlain name = true) :
    dropDots names = names :=
  List.filter_eq_self.2 fun name member => decide_eq_true (Path.isPlain_iff.1 (plain name member)).2.1

/-- The steps that a route ends with for a slash make no difference once the dots are dropped. -/
theorem dropDots_allSteps (path : String) :
    dropDots (Route.ofPath path).allSteps = dropDots (Path.steps path) := by
  unfold Route.allSteps
  split
  · rw [dropDots_append]
    exact List.append_nil _
  · rfl

/-- Steps that never lead up name themselves, the dots apart. -/
theorem filterMap_downward {steps : List String} (proper : ∀ step ∈ steps, step ≠ "" ∧ step ≠ "..") :
    steps.filterMap Path.stepComponent? = (dropDots steps).map .name := by
  -- Of the steps that do not lead up, only the dots give no name.
  induction steps with
  | nil => rfl
  | cons step steps ih =>
    have rest := ih fun other member => proper other (by simp [member])
    obtain ⟨filled, up⟩ := proper step (by simp)
    by_cases here : step = "."
    · subst here
      rw [dropDots_dot, ← rest]
      rfl
    · simpa [dropDots_cons here, Path.stepComponent?_name filled here up] using rest

/-- A walk leads to the same place without its dots. -/
theorem follow_dropDots {steps : List String} {reached : Location × Nat}
    (walked : disk.follow links location steps = .ok reached) :
    disk.follow links location (dropDots steps) = .ok reached := by
  -- A dot stays where it is, so the walk goes on from the same place without it.
  induction steps generalizing location links with
  | nil => exact walked
  | cons step steps ih =>
    obtain ⟨middle, first, rest⟩ := follow_of_cons walked
    by_cases dot : step = "."
    · subst dot
      obtain ⟨rfl, -⟩ := follow_here_ok first
      rw [dropDots_dot]
      exact ih rest
    · -- Any other step is taken as before.
      rw [dropDots_cons dot, follow_first, first]
      exact ih rest

/-- A walk that ends in a directory leads there with dots on the way as well. -/
theorem follow_of_dropDots {steps : List String} {reached : Location × Nat}
    (walked : disk.follow links location (dropDots steps) = .ok reached)
    (directory : disk.entryAt? reached.1 = some .directory) :
    disk.follow links location steps = .ok reached := by
  induction steps generalizing location links with
  | nil => exact walked
  | cons step steps ih =>
    by_cases dot : step = "."
    · subst dot
      rw [dropDots_dot] at walked
      -- The walk goes on from this directory, or ends in it.
      have inside : disk.entryAt? location = some .directory := by
        cases rest : dropDots steps with
        | nil => rw [rest, follow_nil] at walked; cases walked; exact directory
        | cons next rest' => rw [rest] at walked; exact directory_of_follow walked
      rw [follow_first, follow_here, if_pos inside]
      exact ih walked
    · rw [dropDots_cons dot] at walked
      obtain ⟨middle, first, rest⟩ := follow_of_cons walked
      rw [follow_first, first]
      exact ih rest

/-- Without a way up and without a link, a walk goes down by the names of its steps. -/
theorem follow_downward {steps : List String} (down : ".." ∉ steps)
    (unlinked : ∀ names, names ≠ [] → names <+: dropDots steps →
      ∀ target, disk.entryAt? (location ++ names) ≠ some (.link target))
    (walked : disk.follow links location steps = .ok (found, spare)) :
    found = location ++ dropDots steps ∧ spare = links := by
  induction steps generalizing location with
  | nil =>
    rw [follow_nil] at walked
    cases walked
    simp [dropDots]
  | cons step steps ih =>
    simp only [List.mem_cons, not_or] at down
    obtain ⟨middle, first, rest⟩ := follow_of_cons walked
    by_cases dot : step = "."
    · subst dot
      obtain ⟨rfl, -⟩ := follow_here_ok first
      rw [dropDots_dot] at unlinked ⊢
      exact ih down.2 unlinked rest
    · rw [dropDots_cons dot] at unlinked ⊢
      -- The step is a name and stands for no link, so it leads one down.
      obtain rfl := follow_name_ok dot (Ne.symm down.1) (unlinked [step] (by simp) (by simp)) first
      -- What lies on the rest of the way lies on this way, one name further down.
      have deeper := ih down.2 (fun names further inside target => ?_) rest
      · simpa using deeper
      · have farther := unlinked (step :: names) (by simp) (by simpa using inside) target
        simpa using farther

/-- Plain names that meet no link on the way down from a directory lead to where they say. -/
theorem follow_straight {base names : List String} (directory : disk.entryAt? base = some .directory)
    (plain : ∀ name ∈ names, Path.isPlain name = true)
    (straight : ∀ way, way ≠ [] → way <+: names → ∀ target,
      disk.entryAt? (base ++ way) ≠ some (.link target))
    (walked : disk.follow links [] (base ++ names) = .ok (found, spare)) : found = base ++ names := by
  have level : ".." ∉ names := fun up => (Path.isPlain_iff.1 (plain _ up)).2.2.1 rfl
  -- The way to the directory itself meets no link, since there is a directory at its end.
  rw [follow_append, follow_names rfl (.of_directory directory)] at walked
  have kept := dropDots_plain plain
  obtain ⟨rfl, -⟩ := follow_downward level
    (fun way further shorter => straight way further (kept ▸ shorter)) walked
  rw [kept]

/-- The system takes a path for what it describes, or not at all. -/
theorem route?_ok_iff {path : String} {route : Route} :
    route? path = .ok route ↔ isPath path = true ∧ route = Route.ofPath path := by
  -- The three tests of a path are made one after the other.
  unfold route? isPath
  split
  · rename_i nul
    simp only [nul, Bool.not_true, Bool.and_false, Bool.false_and]
    simp
  rename_i plain
  split
  · rename_i empty
    simp [empty]
  rename_i filled
  split
  · rename_i long
    simp only [decide_eq_false (Nat.not_le.2 long), Bool.and_false]
    simp
  · rename_i short
    simp only [decide_eq_true (Nat.not_lt.1 short), plain]
    simp [filled, eq_comm]

/-- Where a path leads, if it leads anywhere. -/
theorem resolve_ok_iff {path : String} :
    disk.resolve path = .ok location ↔
      isPath path = true ∧ ∃ spare, disk.follow linkLimit (disk.start (Route.ofPath path))
        (Route.ofPath path).allSteps = .ok (location, spare) := by
  unfold resolve walk
  cases taken : route? path with
  | error error =>
    -- A path that the system does not accept is not one.
    have refused : isPath path = true → False := fun fits => by
      simp [route?_ok_iff.2 ⟨fits, rfl⟩] at taken
    simp only [bind, Except.bind, reduceCtorEq, false_iff]
    exact fun accepted => refused accepted.1
  | ok route =>
    obtain ⟨fits, rfl⟩ := route?_ok_iff.1 taken
    simp only [bind, Except.bind, fits, true_and]
    cases disk.follow linkLimit (disk.start (Route.ofPath path)) (Route.ofPath path).allSteps with
    | error error => simp [Except.map]
    | ok reached => simp [Except.map, Prod.ext_iff]

/-- The empty path leads nowhere. -/
theorem ne_empty_of_resolve {path : String} (resolved : disk.resolve path = .ok location) :
    path ≠ "" := by
  -- No path is accepted without a character in it.
  rintro rfl
  simp [resolve_ok_iff, isPath] at resolved

/-- Walks along two paths start at one place if both are absolute, or neither is. -/
theorem start_eq_of_isAbsolute {path other : String}
    (lead : Path.isAbsolute path = Path.isAbsolute other) :
    disk.start (Route.ofPath path) = disk.start (Route.ofPath other) := by
  show (if Path.isAbsolute path then _ else _) = if Path.isAbsolute other then _ else _
  rw [lead]

/-- A path that goes on where a shorter one stops goes on from where that one leads. -/
theorem follow_of_resolve_further {path shorter : String} {held : Location} {rest : List String}
    (reaches : disk.resolve shorter = .ok held)
    (lead : Path.isAbsolute path = Path.isAbsolute shorter)
    (split : dropDots (Path.steps path) = dropDots (Path.steps shorter) ++ rest)
    (resolved : disk.resolve path = .ok location) :
    ∃ links spare, disk.follow links held rest = .ok (location, spare) := by
  obtain ⟨-, spare, walked⟩ := resolve_ok_iff.1 resolved
  obtain ⟨-, left, leads⟩ := resolve_ok_iff.1 reaches
  -- The paths may differ in their dots, so both walks are taken without them.
  have walked := follow_dropDots walked
  have leads := follow_dropDots leads
  rw [dropDots_allSteps, split, start_eq_of_isAbsolute lead] at walked
  rw [dropDots_allSteps] at leads
  -- The walk passes the place where the shorter path ends.
  obtain ⟨middle, first, further⟩ := follow_of_append walked
  rw [leads] at first
  cases first
  exact ⟨left, spare, further⟩

/-- When a path leads to a directory. -/
theorem isDirectory_iff {path : String} :
    disk.isDirectory path = true ↔
      ∃ location, disk.resolve path = .ok location ∧ disk.entryAt? location = some .directory := by
  unfold isDirectory
  cases disk.resolve path <;> simp

/-- When a path leads to a file with some content. -/
theorem content_ok_iff {path text : String} :
    disk.content path = .ok text ↔
      ∃ location, disk.resolve path = .ok location ∧ disk.entryAt? location = some (.file text) := by
  unfold content
  cases disk.resolve path with
  | error error => simp [bind, Except.bind]
  | ok location =>
    simp only [bind, Except.bind, Except.ok.injEq, exists_eq_left']
    -- Of all entries, only a file has a content.
    split <;> simp_all

/-- When a path has a canonical one, and which that is. -/
theorem canonical_ok_iff {path text : String} :
    disk.canonical path = .ok text ↔
      ∃ location, disk.resolve path = .ok location ∧ text = Path.ofNames location := by
  unfold canonical
  cases disk.resolve path <;> simp [bind, Except.bind, eq_comm]

/-- The last step of a walk is a name in a directory that the steps before it lead to. -/
theorem approach_named_iff {steps : List String} {parent : Location} {name : String} :
    disk.approach links location steps = .ok (.named parent name, spare) ↔
      ∃ front, steps = front ++ [name] ∧ disk.follow links location front = .ok (parent, spare) ∧
        disk.entryAt? parent = some .directory ∧ name ≠ "." ∧ name ≠ ".." ∧
        isLongName name = false := by
  -- Without a step there is no last one, and so no name.
  rcases List.eq_nil_or_concat' steps with rfl | ⟨front, last, rfl⟩
  · simp [approach]
  simp only [approach, List.getLast?_concat, List.dropLast_concat]
  cases walked : disk.follow links location front with
  | error error => simp [bind, Except.bind, walked]
  | ok reached =>
    obtain ⟨held, left⟩ := reached
    simp only [bind, Except.bind]
    -- What the last step says decides, and only a name can be what it stands for.
    by_cases directory : disk.entryAt? held = some .directory
    swap
    · simp [directory, walked]
      grind
    by_cases here : last = "."
    · simp [directory, here]
      grind
    by_cases up : last = ".."
    · simp [directory, up]
      grind
    by_cases long : isLongName last = true
    · simp [directory, here, up, long]
      grind
    · simp [directory, here, up, long]
      grind

/-- What the last step means is told by taking all the others. -/
theorem goal_ok_iff {steps : List String} {goal : Goal} :
    disk.goal links location steps = .ok goal ↔
      ∃ spare, disk.approach links location steps = .ok (goal, spare) := by
  unfold Disk.goal
  cases disk.approach links location steps with
  | error error => simp [Except.map]
  | ok result =>
    obtain ⟨other, spare⟩ := result
    simp [Except.map]

/-- A last step that is no name is a dot or two dots behind a directory, or there is no step at all. -/
theorem approach_unnamed {start : Location} {steps : List String}
    {step : Option String}
    (reached : disk.approach links start steps = .ok (.unnamed location step, spare)) :
    (steps = [] ∧ location = start ∧ spare = links) ∨
      ∃ front parent, disk.follow links start front = .ok (parent, spare) ∧
        disk.entryAt? parent = some .directory ∧
        ((steps = front ++ ["."] ∧ location = parent) ∨
          (steps = front ++ [".."] ∧ location = parent.dropLast)) := by
  unfold approach at reached
  split at reached
  · rename_i none
    cases reached
    exact .inl ⟨List.getLast?_eq_none_iff.1 none, rfl, rfl⟩
  · rename_i last lastStep
    obtain ⟨front, rfl⟩ := List.getLast?_eq_some_iff.1 lastStep
    rw [List.dropLast_concat] at reached
    cases walked : disk.follow links start front with
    | error error => simp [walked, bind, Except.bind] at reached
    | ok middle =>
      simp only [walked, bind, Except.bind] at reached
      -- The step is looked at only where the walk has come to a directory.
      split at reached
      · cases reached
      rename_i above
      refine .inr ⟨front, middle.1, ?_⟩
      split at reached
      · rename_i here
        cases reached
        exact ⟨walked, not_not.1 above, .inl ⟨by rw [here], rfl⟩⟩
      split at reached
      · rename_i up
        cases reached
        exact ⟨walked, not_not.1 above, .inr ⟨by rw [up], rfl⟩⟩
      split at reached <;> cases reached

/-- A walk to a directory that the last step stands for ends there. -/
theorem follow_of_approach {start : Location} {steps : List String} {goal : Goal}
    (reached : disk.approach links start steps = .ok (goal, spare))
    (directory : disk.entryAt? goal.location = some .directory) :
    disk.follow links start steps = .ok (goal.location, spare) := by
  -- The last step is taken, or it is a dot or two and leads to a directory anyway.
  cases goal with
  | named parent name =>
    -- The name leads down to a directory, which is no link.
    obtain ⟨front, rfl, walked, above, here, up, short⟩ := approach_named_iff.1 reached
    rw [follow_append, walked]
    exact follow_iff_leads.2 (.down above here up short directory (by simp) .stay)
  | unnamed location step =>
    rcases approach_unnamed reached with ⟨rfl, rfl, rfl⟩ | ⟨front, parent, walked, above, last⟩
    · exact follow_nil
    · rcases last with ⟨rfl, rfl⟩ | ⟨rfl, rfl⟩
      · rw [follow_append, walked]
        exact follow_here.trans (if_pos above)
      · rw [follow_append, walked]
        exact follow_up.trans (if_pos above)

end AuditStage.Disk
