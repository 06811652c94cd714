import AuditStage.Json.Printer
import AuditStage.Proofs.Json.Written

/-! What is printed for a value is one of the texts that write it, so that it is read back. -/

namespace AuditStage.Json

/-- A value holds no numbers, and no more brackets are open in it at once than the given depth. -/
inductive Writable : Nat → Value → Prop where
  | null {depth : Nat} : Writable depth .null
  | bool {depth : Nat} {value : Bool} : Writable depth (.bool value)
  | string {depth : Nat} {text : String} : Writable depth (.string text)
  | array {depth : Nat} {items : List Value} (inside : ∀ item ∈ items, Writable depth item) :
      Writable (depth + 1) (.array items)
  | object {depth : Nat} {members : List (String × Value)}
      (inside : ∀ member ∈ members, Writable depth member.2) : Writable (depth + 1) (.object members)

attribute [simp] Writable.null Writable.bool Writable.string

/-- A list may be written if its items may be, within one pair of brackets less. -/
@[simp]
theorem writable_array_iff {depth : Nat} {items : List Value} :
    Writable (depth + 1) (.array items) ↔ ∀ item ∈ items, Writable depth item :=
  ⟨fun | .array inside => inside, .array⟩

/-- An object may be written if its values may be, within one pair of brackets less. -/
@[simp]
theorem writable_object_iff {depth : Nat} {members : List (String × Value)} :
    Writable (depth + 1) (.object members) ↔ ∀ member ∈ members, Writable depth member.2 :=
  ⟨fun | .object inside => inside, .object⟩

/-- Items that are written within some brackets are written within others if each of them is. -/
theorem WritesItems.within {depth other : Nat} {first : Bool} {items : List Value}
    {written : List Char} (writes : WritesItems depth first items written)
    (each : ∀ item ∈ items, ∀ text, Writes depth item text → Writes other item text) :
    WritesItems other first items written := by
  -- The induction is on the items that are left.
  induction items generalizing first written with
  | nil =>
    cases writes with
    | close blank => exact .close blank
  | cons item items ih =>
    have here := each item (by simp)
    have behind : ∀ item ∈ items, ∀ text, Writes depth item text → Writes other item text :=
      fun item member => each item (List.mem_cons_of_mem _ member)
    cases writes with
    | first blank one more => exact .first blank (here _ one) (ih more behind)
    | next blank blank' one more => exact .next blank blank' (here _ one) (ih more behind)

/-- Members that are written within some brackets are written within others if each value is. -/
theorem WritesMembers.within {depth other : Nat} {first : Bool} {members : List (String × Value)}
    {written : List Char} (writes : WritesMembers depth first members written)
    (each : ∀ member ∈ members, ∀ text, Writes depth member.2 text → Writes other member.2 text) :
    WritesMembers other first members written := by
  induction members generalizing first written with
  | nil =>
    cases writes with
    | close blank => exact .close blank
  | cons member members ih =>
    -- Of a member only the value has brackets, so the name stays as it is spelled.
    have here {text : List Char} (writes : WritesMember depth member.1 member.2 text) :
        WritesMember other member.1 member.2 text := by
      cases writes with
      | pair spells blank blank' holds =>
        exact .pair spells blank blank' (each member (by simp) _ holds)
    have behind : ∀ member ∈ members, ∀ text, Writes depth member.2 text →
        Writes other member.2 text :=
      fun member inside => each member (List.mem_cons_of_mem _ inside)
    cases writes with
    | first blank one more => exact .first blank (here one) (ih more behind)
    | next blank blank' one more => exact .next blank blank' (here one) (ih more behind)

/-- What writes a value within some brackets writes it within any others that it has room in. -/
theorem Writes.within {depth other : Nat} {value : Value} {written : List Char}
    (writes : Writes depth value written) (writable : Writable other value) :
    Writes other value written := by
  -- Only the brackets of the value itself take room, and each pair takes the same everywhere.
  induction writable generalizing depth written with
  | null => cases writes; exact .null
  | bool => cases writes; exact .bool
  | string =>
    cases writes with
    | string spelled => exact .string spelled
  | array _ ih =>
    cases writes with
    | array inside => exact .array (inside.within fun item member _ one => ih item member one)
  | object _ ih =>
    cases writes with
    | object inside => exact .object (inside.within fun item member _ one => ih item member one)

/-- The digits that are printed for a control character stand for its number. -/
theorem unitOf?_controlDigits {c : Char} (control : c.toNat < 0x20) :
    unitOf? ('0' :: '0' :: controlDigits c) = some c.toNat := by
  -- The control characters are thirty-two, and each of them is looked at.
  have each : ∀ n < 0x20, unitOf? ('0' :: '0' :: controlDigits (Char.ofNat n)) = some n := by decide
  have found := each c.toNat control
  rwa [Char.ofNat_toNat] at found

/-- What is printed for a character spells it. -/
theorem spells_escapeChar (c : Char) : Spells c (escapeChar c) := by
  unfold escapeChar
  -- The escapes of one letter come first, then the control characters that have none.
  iterate 7
    split
    · rename_i same
      subst same
      exact .letter rfl
  split
  · rename_i control
    -- A control character is printed as an escaped unit of its number.
    have spells := Spells.unit (unitOf?_controlDigits control) (.inl (by omega))
    rwa [Char.ofNat_toNat] at spells
  · rename_i quote backslash _ _ _ _ _ visible
    exact .plain quote backslash (Nat.not_lt.1 visible)

/-- What is printed for a string writes it. -/
theorem writesString_writeString (text : String) : WritesString text (writeString text) := by
  -- Character after character is spelled as it is printed.
  have spells (cs : List Char) : SpellsText cs (cs.flatMap escapeChar) := by
    induction cs with
    | nil => exact .nil
    | cons c cs ih => exact .cons (spells_escapeChar c) ih
  exact .quoted (spells text.toList)

/-- The items of a list are printed with a comma in front of each but the first. -/
theorem compactItems_cons (item : Value) (items : List Value) :
    compactItems (item :: items) = item.compact ++ items.flatMap fun item => ',' :: item.compact := by
  -- The printer looks one item ahead, so the induction is on what follows the first.
  induction items generalizing item with
  | nil => simp [compactItems]
  | cons next items ih => rw [compactItems, ih next, List.flatMap_cons, List.cons_append]; simp

/-- The members of an object are printed with a comma in front of each but the first. -/
theorem compactMembers_cons (name : String) (value : Value) (members : List (String × Value)) :
    compactMembers ((name, value) :: members) = writeString name ++ ':' :: value.compact ++
      members.flatMap fun member => ',' :: (writeString member.1 ++ ':' :: member.2.compact) := by
  induction members generalizing name value with
  | nil => simp [compactMembers]
  | cons next members ih =>
    obtain ⟨name', value'⟩ := next
    -- The second member is the first of what follows the comma.
    rw [compactMembers, ih name' value']
    · simp
    · simp

/-- The items of a list are printed with a comma in front of each but the first, each on a line. -/
theorem prettyItems_cons (depth : Nat) (item : Value) (items : List Value) :
    prettyItems depth (item :: items) = lineBreak depth ++ item.prettyAt depth ++
      items.flatMap fun item => ',' :: (lineBreak depth ++ item.prettyAt depth) := by
  -- The printer looks one item ahead here too.
  induction items generalizing item with
  | nil => simp [prettyItems]
  | cons next items ih =>
    rw [prettyItems, ih next, List.flatMap_cons, List.cons_append]
    simp

/-- The members of an object are printed with a comma in front of each but the first, each on a line. -/
theorem prettyMembers_cons (depth : Nat) (name : String) (value : Value)
    (members : List (String × Value)) :
    prettyMembers depth ((name, value) :: members) =
      lineBreak depth ++ (writeString name ++ ':' :: ([' '] ++ value.prettyAt depth)) ++
        members.flatMap fun member =>
          ',' :: (lineBreak depth ++
            (writeString member.1 ++ ':' :: ([' '] ++ member.2.prettyAt depth))) := by
  induction members generalizing name value with
  | nil => simp [prettyMembers]
  | cons next members ih =>
    obtain ⟨name', value'⟩ := next
    -- The second member is the first of what follows the comma.
    rw [prettyMembers, ih name' value']
    · simp
    · simp

/-- A line break is a gap. -/
theorem isGap_lineBreak (depth : Nat) : IsGap (lineBreak depth) := by
  intro c member
  -- There is nothing in it but the line feed and spaces.
  rcases List.mem_cons.1 member with rfl | space
  · rfl
  · rw [List.eq_of_mem_replicate space]
    rfl

section

variable {depth : Nat} {pause ending : List Char} {print : Value → List Char}

/-- Items behind another one are written by what is printed for them, each behind a comma and a pause. -/
theorem writesItems_flatMap {items : List Value} (blank : IsGap pause) (blank' : IsGap ending)
    (each : ∀ item ∈ items, Writes depth item (print item)) :
    WritesItems depth false items
      ((items.flatMap fun item => ',' :: (pause ++ print item)) ++ (ending ++ [']'])) := by
  -- Between an item and its comma nothing is printed.
  induction items with
  | nil => exact .close blank'
  | cons item items ih =>
    have more := ih fun other member => each other (List.mem_cons_of_mem _ member)
    simpa using WritesItems.next isGap_nil blank (each item (by simp)) more

/-- A member is written by what is printed for its name, a colon, a pause and what is printed for its
value. -/
theorem writesMember_print {member : String × Value} (blank : IsGap pause)
    (holds : Writes depth member.2 (print member.2)) :
    WritesMember depth member.1 member.2
      (writeString member.1 ++ ':' :: (pause ++ print member.2)) := by
  simpa using WritesMember.pair (writesString_writeString member.1) isGap_nil blank holds

/-- Members behind another one are written by what is printed for them, each behind a comma and a
pause. -/
theorem writesMembers_flatMap {members : List (String × Value)} {colonPause : List Char}
    (blank : IsGap pause) (blank' : IsGap ending) (blankColon : IsGap colonPause)
    (each : ∀ member ∈ members, Writes depth member.2 (print member.2)) :
    WritesMembers depth false members ((members.flatMap fun member =>
      ',' :: (pause ++ (writeString member.1 ++ ':' :: (colonPause ++ print member.2)))) ++
        (ending ++ ['\x7d'])) := by
  -- Each member is put behind a comma, as the items of a list are.
  induction members with
  | nil => exact .close blank'
  | cons member members ih =>
    have here := writesMember_print blankColon (each member (by simp))
    have more := ih fun other inside => each other (List.mem_cons_of_mem _ inside)
    simpa using WritesMembers.next isGap_nil blank here more

/-- A list is written by its brackets and what is printed for its items between them. -/
theorem writes_array {item : Value} {items : List Value} (blank : IsGap pause)
    (blank' : IsGap ending) (each : ∀ other ∈ item :: items, Writes depth other (print other)) :
    Writes (depth + 1) (.array (item :: items)) ('[' :: (pause ++ print item ++
      ((items.flatMap fun item => ',' :: (pause ++ print item)) ++ (ending ++ [']'])))) := by
  have more := writesItems_flatMap blank blank' fun other member =>
    each other (List.mem_cons_of_mem _ member)
  -- The first item has no comma.
  exact .array (.first blank (each item (by simp)) more)

/-- An object is written by its brackets and what is printed for its members between them. -/
theorem writes_object {member : String × Value} {members : List (String × Value)}
    {colonPause : List Char} (blank : IsGap pause) (blank' : IsGap ending)
    (blankColon : IsGap colonPause)
    (each : ∀ other ∈ member :: members, Writes depth other.2 (print other.2)) :
    Writes (depth + 1) (.object (member :: members))
      ('\x7b' :: (pause ++ (writeString member.1 ++ ':' :: (colonPause ++ print member.2)) ++
        ((members.flatMap fun member =>
          ',' :: (pause ++ (writeString member.1 ++ ':' :: (colonPause ++ print member.2)))) ++
            (ending ++ ['\x7d'])))) := by
  have here := writesMember_print blankColon (each member (by simp))
  have more := writesMembers_flatMap blank blank' blankColon fun other inside =>
    each other (List.mem_cons_of_mem _ inside)
  exact .object (.first blank here more)

end

/-- What is printed for a value on one line writes it. -/
theorem writes_compact {depth : Nat} {value : Value} (writable : Writable depth value) :
    Writes depth value value.compact := by
  -- The depth that is left decreases with each pair of brackets, and all gaps are empty.
  induction writable with
  | null => exact .null
  | @bool _ value => cases value <;> exact .bool
  | string => exact .string (writesString_writeString _)
  | @array depth items _ ih =>
    have text : (Value.array items).compact = '[' :: (compactItems items ++ [']']) := rfl
    rw [text]
    -- Without an item the brackets stand next to each other.
    cases items with
    | nil => exact .array (.close isGap_nil)
    | cons item items =>
      have all := writes_array isGap_nil isGap_nil ih
      rw [compactItems_cons, List.append_assoc]
      simpa using all
  | @object depth members _ ih =>
    have text : (Value.object members).compact = '\x7b' :: (compactMembers members ++ ['\x7d']) := rfl
    rw [text]
    cases members with
    | nil => exact .object (.close isGap_nil)
    | cons member members =>
      have all := writes_object isGap_nil isGap_nil isGap_nil ih
      rw [compactMembers_cons, List.append_assoc]
      simpa using all

/-- What is printed for a value on indented lines writes it, however deep its lines are set in. -/
theorem writes_pretty {depth : Nat} {value : Value} (writable : Writable depth value)
    (indent : Nat) : Writes depth value (value.prettyAt indent) := by
  -- A line break stands in front of each item and member, and in front of the closing bracket.
  induction writable generalizing indent with
  | null => exact .null
  | @bool _ value => cases value <;> exact .bool
  | string => exact .string (writesString_writeString _)
  | @array depth items _ ih =>
    cases items with
    | nil => exact .array (.close isGap_nil)
    | cons item items =>
      have all := writes_array (isGap_lineBreak (indent + 1)) (isGap_lineBreak indent)
        fun other member => ih other member (indent + 1)
      rw [Value.prettyAt, prettyItems_cons]
      simpa using all
  | @object depth members _ ih =>
    cases members with
    | nil => exact .object (.close isGap_nil)
    | cons member members =>
      -- Behind the colon of a member there is one space.
      have space : IsGap [' '] := by simp [IsGap, isGap]
      have all := writes_object (isGap_lineBreak (indent + 1)) (isGap_lineBreak indent) space
        fun other member => ih other member (indent + 1)
      rw [Value.prettyAt, prettyMembers_cons]
      simpa using all

end AuditStage.Json
