import AuditStage.Json.Value
import AuditStage.Proofs.Distinct
import AuditStage.SourceMap

/-! Members of an object whose names may repeat: what is left of them once each name is kept once. -/

namespace AuditStage.Json

variable {α : Type}

/-- The value that a name got last. -/
def last? (members : List (String × α)) (name : String) : Option α :=
  member? members.reverse name

/-- A member at the end is the last one of its name. -/
theorem last?_concat (members : List (String × α)) (member : String × α) (name : String) :
    last? (members ++ [member]) name =
      if member.1 = name then some member.2 else last? members name := by
  -- Seen from the end, the member stands at the front.
  by_cases same : member.1 = name <;> simp [last?, member?, same]

/-- A name got no value exactly if no member has it. -/
theorem last?_eq_none_iff {members : List (String × α)} {name : String} :
    last? members name = none ↔ name ∉ members.map Prod.fst := by
  -- A member of that name would be found from the end.
  simp only [last?, member?, Option.map_eq_none_iff, List.find?_eq_none, List.mem_reverse,
    beq_iff_eq, List.mem_map, not_exists, not_and]

/-- The value that a name got last is that of a member behind which no other has the name. -/
theorem last?_eq_some_iff {members : List (String × α)} {name : String} {value : α} :
    last? members name = some value ↔
      ∃ earlier later, members = earlier ++ (name, value) :: later ∧ name ∉ later.map Prod.fst := by
  have others {members : List (String × α)} :
      (∀ member ∈ members, (!(member.1 == name)) = true) ↔ name ∉ members.reverse.map Prod.fst := by
    simp only [Bool.not_eq_true', beq_eq_false_iff_ne, List.mem_map, List.mem_reverse, not_exists,
      not_and, ne_eq]
  -- Seen from the end, what stands behind the member comes before it.
  simp only [last?, member?, Option.map_eq_some_iff, List.find?_eq_some_iff_append, beq_iff_eq, others]
  constructor
  · rintro ⟨⟨_, _⟩, ⟨rfl, later, earlier, split, new⟩, rfl⟩
    exact ⟨earlier.reverse, later.reverse, by simpa using List.reverse_eq_iff.1 split, new⟩
  · rintro ⟨earlier, later, rfl, new⟩
    exact ⟨(name, value), ⟨rfl, later.reverse, earlier.reverse, by simp, by simpa using new⟩, rfl⟩

/-- One more member takes the place of the one of its name, or stands behind all others. -/
theorem collapse_concat (members : List (String × α)) (member : String × α) :
    collapse (members ++ [member]) =
      if member.1 ∈ (collapse members).map Prod.fst then
        (collapse members).map fun old => if old.1 == member.1 then member else old
      else collapse members ++ [member] := by
  -- What is looked for among the kept members is a member of the same name.
  have known : (collapse members).any (·.1 == member.1) = true ↔
      member.1 ∈ (collapse members).map Prod.fst := by
    rw [List.any_eq_true, List.mem_map]
    exact exists_congr fun old => and_congr_right fun _ => beq_iff_eq
  have taken : collapse (members ++ [member]) =
      if (collapse members).any (·.1 == member.1) then
        (collapse members).map fun old => if old.1 == member.1 then member else old
      else collapse members ++ [member] := by
    rw [collapse, List.foldl_append]
    rfl
  exact taken.trans (if_congr known rfl rfl)

/-- Taking over another value changes no name. -/
theorem map_fst_replace (kept : List (String × α)) (member : String × α) :
    (kept.map fun old => if old.1 == member.1 then member else old).map Prod.fst =
      kept.map Prod.fst := by
  rw [List.map_map]
  refine List.map_congr_left fun old _ => ?_
  -- Only a member of the same name is replaced.
  by_cases same : old.1 = member.1 <;> simp [same]

/-- The names that are kept are those of all members, in the order in which they came first. -/
theorem map_fst_collapse (members : List (String × α)) :
    (collapse members).map Prod.fst = (members.map Prod.fst).eraseDups := by
  -- The induction follows the members in the order in which they are taken in.
  induction members using List.reverseRecOn with
  | nil => rfl
  | append_singleton members member ih =>
    rw [collapse_concat, List.map_append, List.map_singleton, eraseDups_concat, ← ih]
    -- A name is among those that are kept if it is the name of any member.
    have known : member.1 ∈ (collapse members).map Prod.fst ↔ member.1 ∈ members.map Prod.fst := by
      rw [ih, List.mem_eraseDups]
    by_cases old : member.1 ∈ members.map Prod.fst
    · rw [if_pos (known.2 old), if_pos old, map_fst_replace]
    · rw [if_neg (mt known.1 old), if_neg old, List.map_append, List.map_singleton]

/-- No member is kept only where there is none. -/
theorem collapse_eq_nil_iff {members : List (String × α)} : collapse members = [] ↔ members = [] := by
  constructor
  · intro none
    have names := map_fst_collapse members
    rw [none, List.map_nil] at names
    -- Every member leaves its name behind.
    cases members with
    | nil => rfl
    | cons member members => simp [List.eraseDups_cons] at names
  · rintro rfl
    rfl

/-- No name is kept twice. -/
theorem nodup_collapse (members : List (String × α)) : ((collapse members).map Prod.fst).Nodup := by
  rw [map_fst_collapse]
  exact nodup_eraseDups _

/-- A name that took over a value is found with that value, and every other name as before. -/
theorem member?_replace (kept : List (String × α)) (member : String × α) (name : String) :
    member? (kept.map fun old => if old.1 == member.1 then member else old) name =
      if member.1 = name then (member? kept name).map fun _ => member.2 else member? kept name := by
  induction kept with
  | nil => simp [member?]
  | cons old kept ih =>
    simp only [member?] at ih ⊢
    -- The first member counts if it has the name, and else the others do.
    by_cases here : old.1 = name
    · subst here
      by_cases same : member.1 = old.1
      · simp [same]
      · simp [same, Ne.symm same]
    · by_cases same : old.1 = member.1
      · have other : member.1 ≠ name := same ▸ here
        simpa [same, other] using ih
      · simpa [same, here] using ih

/-- A name is kept with the value that it got last. -/
theorem member?_collapse (members : List (String × α)) (name : String) :
    member? (collapse members) name = last? members name := by
  induction members using List.reverseRecOn with
  | nil => rfl
  | append_singleton members member ih =>
    rw [collapse_concat, last?_concat]
    split
    · rename_i known
      rw [member?_replace, ih]
      split
      · -- The name is known, so there is a value to take over from.
        rename_i same
        subst same
        obtain ⟨old, inside, named⟩ := List.mem_map.1 known
        have found : member? (collapse members) member.1 ≠ none := by
          simp only [member?, ne_eq, Option.map_eq_none_iff, List.find?_eq_none, not_forall]
          exact ⟨old, inside, by simp [named]⟩
        rw [ih] at found
        obtain ⟨value, held⟩ := Option.ne_none_iff_exists'.1 found
        simp [held]
      · rfl
    · rename_i new
      have missing : member? (collapse members) member.1 = none := by
        simp only [member?, Option.map_eq_none_iff, List.find?_eq_none]
        intro old inside same
        exact new (List.mem_map.2 ⟨old, inside, by simpa using same⟩)
      simp only [member?] at ih missing ⊢
      rw [List.find?_append]
      split
      · rename_i same
        subst same
        simp only [Option.map_eq_none_iff] at missing
        simp [missing]
      · rename_i other
        simpa [other] using ih

/-- A member is kept exactly if its value is the last one that its name got. -/
theorem mem_collapse {members : List (String × α)} {name : String} {value : α} :
    (name, value) ∈ collapse members ↔ last? members name = some value := by
  rw [← member?_collapse, member?]
  constructor
  · intro kept
    rw [find?_of_mem Prod.fst (nodup_collapse members) kept]
    rfl
  · -- What is found by a name is a member of that name.
    intro found
    obtain ⟨⟨other, held⟩, located, rfl⟩ := Option.map_eq_some_iff.1 found
    have named := List.find?_some located
    simp only [beq_iff_eq] at named
    exact named ▸ List.mem_of_find?_eq_some located

/-- Members whose names are distinct are all kept. -/
theorem collapse_of_nodup {members : List (String × α)} (distinct : (members.map Prod.fst).Nodup) :
    collapse members = members := by
  induction members using List.reverseRecOn with
  | nil => rfl
  | append_singleton members member ih =>
    -- The last name is none of those before it, so its member stands behind them.
    rw [List.map_append, List.nodup_append] at distinct
    obtain ⟨front, -, apart⟩ := distinct
    have new : member.1 ∉ members.map Prod.fst := fun old => apart _ old _ (by simp) rfl
    rw [collapse_concat, ih front, if_neg new]

end AuditStage.Json
