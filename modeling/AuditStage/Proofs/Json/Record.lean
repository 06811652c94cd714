import AuditStage.Json.Record
import AuditStage.Proofs.Json.Written

/-! Records read from their JSON text: whatever writes members that fill a record in one after the
other is read as the record that they fill in. -/

namespace AuditStage.Json

variable {σ : Type} {field : Field σ} {schema : Schema σ} {filled last : σ}

/-- A string is read from any text that writes it. -/
theorem readText_written {text : String} {gap written : List Char} (blank : IsGap gap)
    (writes : WritesString text written) (rest : List Char) :
    readText (gap ++ (written ++ rest)) = .ok (text, rest) := by
  obtain ⟨spells⟩ := writes
  -- Behind the blanks stands the quote that opens the string.
  rw [readText, skipGap_append blank, List.cons_append, skipGap_mark rfl, List.append_assoc]
  exact readString_written spells rest

/-- A field takes a value: from any text that writes the value it is read, and fills the record in. -/
def Field.Takes (field : Field σ) (filled : σ) (value : Value) (next : σ) : Prop :=
  ∀ {depth : Nat} {gap written : List Char}, IsGap gap → Writes depth value written → ∀ rest,
    field.read filled (gap ++ (written ++ rest)) = .ok (next, rest)

/-- A field that is read as a text takes any string. -/
theorem Field.takes_text (fill : String → σ) (text : String)
    (reads : ∀ cs, field.read filled cs = do
      let (text, rest) ← readText cs
      .ok (fill text, rest)) : field.Takes filled (.string text) (fill text) := by
  intro depth gap written blank writes rest
  cases writes with
  | string spelled => rw [reads, readText_written blank spelled]; rfl

/-- Members fill a record in: each of them has the name of a field that has not been read, and that
takes its value. -/
inductive Schema.Fills (schema : Schema σ) : σ → List (String × Value) → σ → Prop where
  | nil {filled : σ} : Fills schema filled [] filled
  | cons {field : Field σ} {filled next last : σ} {name : String} {value : Value}
      {members : List (String × Value)} (named : schema.fields.find? (·.name == name) = some field)
      (new : field.given filled = false) (takes : field.Takes filled value next)
      (more : Fills schema next members last) : Fills schema filled ((name, value) :: members) last

/-- A member is read into the field of its name, and then come those behind it. -/
theorem Schema.readMembersFrom_member {next : σ} {name : String} {value : Value} {depth fuel : Nat}
    {written : List Char} (named : schema.fields.find? (·.name == name) = some field)
    (new : field.given filled = false) (takes : field.Takes filled value next)
    (here : WritesMember depth name value written) :
    ∃ text, written = '"' :: text ∧ ∀ {first : Bool} {cs rest : List Char},
      enterMember first cs = .ok (true, text ++ rest) →
      schema.readMembersFrom (fuel + 1) first filled cs =
        schema.readMembersFrom fuel false next rest := by
  obtain ⟨⟨spells⟩, blank, blank', holds⟩ := here
  rename_i gap pause written spelled
  -- Behind the quote stand the rest of the name, the colon and the value.
  refine ⟨spelled ++ '"' :: (gap ++ ':' :: (pause ++ written)), by simp, fun {_ _ rest} entered => ?_⟩
  have text : spelled ++ '"' :: (gap ++ ':' :: (pause ++ written)) ++ rest =
      spelled ++ '"' :: (gap ++ ':' :: (pause ++ (written ++ rest))) := by simp
  have spelled := readString_written spells (gap ++ ':' :: (pause ++ (written ++ rest)))
  have colon := readColon_gap blank (pause ++ (written ++ rest))
  have one := takes blank' holds rest
  simp only [Schema.readMembersFrom, entered, text, spelled, named, new, colon, one, bind,
    Except.bind, Bool.false_eq_true, if_false]

/-- The members of a record are read from any text that writes them, up to the closing bracket. -/
theorem Schema.readMembersFrom_written {members : List (String × Value)}
    (fills : schema.Fills filled members last) {depth fuel : Nat} {first : Bool}
    {written : List Char} (writes : WritesMembers depth first members written)
    (enough : written.length ≤ fuel) (rest : List Char) :
    schema.readMembersFrom fuel first filled (written ++ rest) = .ok (last, '\x7d' :: rest) := by
  -- Every member takes one step, and there is a character for each of them at least.
  induction fills generalizing fuel first written with
  | nil =>
    cases fuel with
    | zero => exact absurd writes.length_pos (Nat.not_lt.2 enough)
    | succ fuel =>
      cases writes with
      | close blank =>
        rw [List.append_assoc, List.singleton_append, Schema.readMembersFrom, enterMember_close blank]
        rfl
  | cons named new takes _ ih =>
    cases fuel with
    | zero => exact absurd writes.length_pos (Nat.not_lt.2 enough)
    | succ fuel =>
      cases writes with
      | first blank here behind =>
        obtain ⟨text, rfl, read⟩ := Schema.readMembersFrom_member named new takes here
        simp only [List.length_append, List.length_cons] at enough
        simp only [List.append_assoc, List.cons_append]
        rw [read (enterMember_first blank _)]
        exact ih behind (by omega)
      | next blank blank' here behind =>
        obtain ⟨text, rfl, read⟩ := Schema.readMembersFrom_member named new takes here
        simp only [List.length_append, List.length_cons] at enough
        simp only [List.append_assoc, List.cons_append]
        rw [read (enterMember_next blank blank' _)]
        exact ih behind (by omega)

/-- A text that writes an object, with blanks around it, is parsed as the record that the object's
members fill in, if no field that is required is missing then. -/
theorem Schema.parse_of_writes {members : List (String × Value)} {depth : Nat}
    {before written after : List Char} (fills : schema.Fills filled members last)
    (complete : schema.missing? last = none) (front : IsGap before) (back : IsGap after)
    (writes : Writes depth (.object members) written) :
    schema.parse filled (before ++ (written ++ after)) = .ok last := by
  cases writes with
  | @object _ _ written inside =>
    have start : skipGap (before ++ ('\x7b' :: written ++ after)) = '\x7b' :: (written ++ after) := by
      rw [skipGap_append front, List.cons_append, skipGap_mark rfl]
    -- The fuel is computed from all that follows the opening bracket.
    have enough : written.length ≤ (written ++ after).length + 1 := by
      rw [List.length_append]
      omega
    have read := Schema.readMembersFrom_written fills inside enough after
    have ended : skipGap after = [] := by
      rw [← List.append_nil after, skipGap_append back]
      rfl
    have object : schema.readObject filled (written ++ after) = .ok (last, after) := by
      simp only [Schema.readObject, read, bind, Except.bind, complete, List.tail_cons]
    -- An object that is read is no fault to be settled.
    have settled : (schema.readObject filled (written ++ after)).mapError (Fault.settle closeObject) =
        .ok (last, after) := by
      rw [object]
      rfl
    simp only [Schema.parse, Schema.read, start, if_true, settled, bind, Except.bind, readEnd, ended]

end AuditStage.Json
