import AuditStage.Json.Reader

/-! How a JSON text writes a value: with any blanks between its marks and any way to spell the
characters of its strings. Whatever writes a value is read back as that value. -/

namespace AuditStage.Json

/-- The unit that four hexadecimal digits stand for. -/
def unitOf? : List Char → Option Nat
  | [a, b, c, d] => do
    let a ← hexValue? a
    let b ← hexValue? b
    let c ← hexValue? c
    let d ← hexValue? d
    some (((a * 16 + b) * 16 + c) * 16 + d)
  | _ => none

/-- A string may spell a character so: as it is, as an escape of one letter, as an escaped unit, or as
a pair of surrogates. -/
inductive Spells : Char → List Char → Prop where
  | plain {c : Char} (quote : c ≠ '"') (backslash : c ≠ '\\') (visible : 0x20 ≤ c.toNat) :
      Spells c [c]
  | letter {c letter : Char} (known : escapedLetter? letter = some c) : Spells c ['\\', letter]
  | unit {digits : List Char} {unit : Nat} (digital : unitOf? digits = some unit)
      (whole : unit < 0xD800 ∨ 0xDFFF < unit) : Spells (Char.ofNat unit) ('\\' :: 'u' :: digits)
  | pair {highDigits lowDigits : List Char} {high low : Nat} (front : unitOf? highDigits = some high)
      (leading : 0xD800 ≤ high ∧ high ≤ 0xDBFF) (back : unitOf? lowDigits = some low)
      (trailing : 0xDC00 ≤ low ∧ low ≤ 0xDFFF) :
      Spells (Char.ofNat ((high - 0xD800) * 0x400 + (low - 0xDC00) + 0x10000))
        ('\\' :: 'u' :: highDigits ++ '\\' :: 'u' :: lowDigits)

/-- A string may spell a text by spelling its characters one after the other. -/
inductive SpellsText : List Char → List Char → Prop where
  | nil : SpellsText [] []
  | cons {c : Char} {cs spelled rest : List Char} (first : Spells c spelled)
      (more : SpellsText cs rest) : SpellsText (c :: cs) (spelled ++ rest)

/-- A text is a string between quotes. -/
inductive WritesString (text : String) : List Char → Prop where
  | quoted {spelled : List Char} (spells : SpellsText text.toList spelled) :
      WritesString text ('"' :: (spelled ++ ['"']))

/-- A text has nothing but blanks, as they may stand between the marks of a JSON text. -/
def IsGap (gap : List Char) : Prop :=
  ∀ c ∈ gap, isGap c = true

mutual

/-- A text writes a value, numbers apart, with no more brackets open at once than the given depth. -/
inductive Writes : Nat → Value → List Char → Prop where
  | null {depth : Nat} : Writes depth .null "null".toList
  | bool {depth : Nat} {value : Bool} :
      Writes depth (.bool value) (if value then "true" else "false").toList
  | string {depth : Nat} {text : String} {written : List Char} (writes : WritesString text written) :
      Writes depth (.string text) written
  | array {depth : Nat} {items : List Value} {written : List Char}
      (inside : WritesItems depth true items written) :
      Writes (depth + 1) (.array items) ('[' :: written)
  | object {depth : Nat} {members : List (String × Value)} {written : List Char}
      (inside : WritesMembers depth true members written) :
      Writes (depth + 1) (.object members) ('\x7b' :: written)

/-- A text writes the items of a list up to its closing bracket, from the opening bracket on or from
behind an item. -/
inductive WritesItems : Nat → Bool → List Value → List Char → Prop where
  | close {depth : Nat} {first : Bool} {gap : List Char} (blank : IsGap gap) :
      WritesItems depth first [] (gap ++ [']'])
  | first {depth : Nat} {item : Value} {items : List Value} {gap written rest : List Char}
      (blank : IsGap gap) (here : Writes depth item written)
      (more : WritesItems depth false items rest) :
      WritesItems depth true (item :: items) (gap ++ written ++ rest)
  | next {depth : Nat} {item : Value} {items : List Value} {gap pause written rest : List Char}
      (blank : IsGap gap) (blank' : IsGap pause) (here : Writes depth item written)
      (more : WritesItems depth false items rest) :
      WritesItems depth false (item :: items) (gap ++ ',' :: (pause ++ written ++ rest))

/-- A text writes the members of an object up to its closing bracket, from the opening bracket on or
from behind a member. -/
inductive WritesMembers : Nat → Bool → List (String × Value) → List Char → Prop where
  | close {depth : Nat} {first : Bool} {gap : List Char} (blank : IsGap gap) :
      WritesMembers depth first [] (gap ++ ['\x7d'])
  | first {depth : Nat} {name : String} {value : Value} {members : List (String × Value)}
      {gap written rest : List Char} (blank : IsGap gap)
      (here : WritesMember depth name value written)
      (more : WritesMembers depth false members rest) :
      WritesMembers depth true ((name, value) :: members) (gap ++ written ++ rest)
  | next {depth : Nat} {name : String} {value : Value} {members : List (String × Value)}
      {gap pause written rest : List Char} (blank : IsGap gap) (blank' : IsGap pause)
      (here : WritesMember depth name value written)
      (more : WritesMembers depth false members rest) :
      WritesMembers depth false ((name, value) :: members)
        (gap ++ ',' :: (pause ++ written ++ rest))

/-- A text writes a member: its name, a colon and its value. -/
inductive WritesMember : Nat → String → Value → List Char → Prop where
  | pair {depth : Nat} {name : String} {value : Value} {named gap pause written : List Char}
      (spells : WritesString name named) (blank : IsGap gap) (blank' : IsGap pause)
      (holds : Writes depth value written) :
      WritesMember depth name value (named ++ gap ++ ':' :: (pause ++ written))

end

/-- Nothing at all is a gap. -/
theorem isGap_nil : IsGap [] := by
  intro c member
  cases member

/-- Blanks in front of a text are passed over. -/
theorem skipGap_append {gap : List Char} (blank : IsGap gap) (cs : List Char) :
    skipGap (gap ++ cs) = skipGap cs := by
  -- The blanks are passed over one by one.
  induction gap with
  | nil => rfl
  | cons c gap ih =>
    have front : isGap c = true := blank c (by simp)
    have rest := ih fun other member => blank other (List.mem_cons_of_mem _ member)
    simpa [skipGap, front] using rest

/-- Nothing is passed over where no blank stands. -/
theorem skipGap_mark {c : Char} (mark : isGap c = false) (cs : List Char) :
    skipGap (c :: cs) = c :: cs := by
  simp [skipGap, mark]

/-- Each character takes an octet at least. -/
theorem length_le_octetCount (cs : List Char) : cs.length ≤ Text.octetCount cs := by
  induction cs with
  | nil => simp [Text.octetCount, Text.encodeUtf8]
  | cons c cs ih =>
    have one : 1 ≤ (Text.octets c).length := by
      unfold Text.octets
      grind
    -- The octets of a text are those of its characters in a row.
    simp only [Text.octetCount, Text.encodeUtf8, List.flatMap_cons, List.length_append,
      List.length_cons] at ih ⊢
    omega

/-- Four digits are read as the unit that they stand for. -/
theorem readUnit_of_unitOf? {digits : List Char} {unit : Nat} (digital : unitOf? digits = some unit)
    (rest : List Char) : readUnit (digits ++ rest) = .ok (unit, rest) := by
  match digits, digital with
  | [a, b, c, d], digital =>
    simp only [unitOf?, Option.bind_eq_bind, Option.bind_eq_some_iff, Option.some.injEq] at digital
    obtain ⟨w, hw, x, hx, y, hy, z, hz, rfl⟩ := digital
    -- The four digits take four octets at least.
    have room : ¬Text.octetCount ((a :: b :: c :: d :: rest).take 4) < 4 :=
      Nat.not_lt.2 (length_le_octetCount [a, b, c, d])
    simp only [List.cons_append, List.nil_append, readUnit, if_neg room, hw, hx, hy, hz]

/-- Digits that stand for a unit are four. -/
theorem length_of_unitOf? {digits : List Char} {unit : Nat} (digital : unitOf? digits = some unit) :
    digits.length = 4 := by
  -- No other number of digits stands for a unit.
  match digits, digital with
  | [_, _, _, _], _ => rfl

/-- What an escape takes is passed over before the next character counts. -/
theorem readLetters_pass (letters passed rest : List Char) :
    readLetters letters passed.length (passed ++ rest) = readLetters letters 0 rest := by
  induction passed with
  | nil => rfl
  | cons c passed ih => simpa only [List.length_cons, List.cons_append, readLetters] using ih

/-- An escape gives the character that it is read as. -/
theorem readLetters_escape {c : Char} (spelled : List Char) {rest : List Char}
    (read : readEscape (spelled ++ rest) = .ok (c, spelled.length)) (letters : List Char) :
    readLetters letters 0 ('\\' :: spelled ++ rest) = readLetters (c :: letters) 0 rest := by
  rw [List.cons_append, readLetters, if_neg (by decide), if_pos rfl, read]
  exact readLetters_pass _ spelled rest

/-- A character is read from any way to spell it. -/
theorem readLetters_spelled {c : Char} {spelled : List Char} (spells : Spells c spelled)
    (letters rest : List Char) :
    readLetters letters 0 (spelled ++ rest) = readLetters (c :: letters) 0 rest := by
  -- Of the ways to spell a character, all but one start with a backslash.
  cases spells with
  | plain quote backslash visible =>
    have seen : ¬c.toNat < 0x20 := Nat.not_lt.2 visible
    simp only [List.cons_append, List.nil_append, readLetters, if_neg quote, if_neg backslash,
      if_neg seen]
  | @letter _ letter known =>
    refine readLetters_escape [letter] ?_ letters
    -- The letter that announces a unit stands for no character itself.
    have other : letter ≠ 'u' := by rintro rfl; cases known
    rw [List.singleton_append]
    unfold readEscape
    split
    · contradiction
    · rename_i same
      exact absurd (List.cons.inj same).1 other
    · rename_i same
      obtain ⟨rfl, rfl⟩ := List.cons.inj same
      rw [known]
      rfl
  | @unit digits unit digital whole =>
    refine readLetters_escape ('u' :: digits) ?_ letters
    -- A unit that is no half of a pair is a character by itself.
    have low : ¬(0xDC00 ≤ unit ∧ unit ≤ 0xDFFF) := by omega
    have high : ¬(0xD800 ≤ unit ∧ unit ≤ 0xDBFF) := by omega
    simp only [List.cons_append, readEscape, readUnit_of_unitOf? digital, bind, Except.bind,
      Bool.and_eq_true, decide_eq_true_eq, if_neg low, if_neg high, List.length_cons,
      length_of_unitOf? digital]
  | @pair highDigits lowDigits high low front leading back trailing =>
    have spelled : '\\' :: 'u' :: highDigits ++ '\\' :: 'u' :: lowDigits =
      '\\' :: ('u' :: (highDigits ++ '\\' :: 'u' :: lowDigits)) := rfl
    rw [spelled]
    refine readLetters_escape ('u' :: (highDigits ++ '\\' :: 'u' :: lowDigits)) ?_ letters
    -- The first unit is a leading half, and the second one a trailing half.
    have notLow : ¬(0xDC00 ≤ high ∧ high ≤ 0xDFFF) := by omega
    have paired : ¬(low < 0xDC00 ∨ 0xDFFF < low) := by omega
    -- The first half asks for the second one, which is read in the same way.
    simp only [List.cons_append, List.append_assoc, readEscape, readUnit_of_unitOf? front, bind,
      Except.bind, Bool.and_eq_true, decide_eq_true_eq, if_neg notLow, if_pos leading,
      readLowSurrogate, readUnit_of_unitOf? back, Bool.or_eq_true, if_neg paired, List.length_cons,
      List.length_append, length_of_unitOf? front, length_of_unitOf? back]

/-- A text is read from any way to spell it, up to the closing quote. -/
theorem readLetters_closed {cs spelled : List Char} (spells : SpellsText cs spelled)
    (letters rest : List Char) :
    readLetters letters 0 (spelled ++ '"' :: rest) =
      .ok (String.ofList (letters.reverse ++ cs), rest) := by
  -- The letters read so far are kept in reverse.
  induction spells generalizing letters with
  | nil => simp [readLetters]
  | @cons c cs _ _ first _ ih =>
    rw [List.append_assoc, readLetters_spelled first, ih]
    simp

/-- A string is read from what stands behind its opening quote. -/
theorem readString_written {text : String} {spelled : List Char}
    (spells : SpellsText text.toList spelled) (rest : List Char) :
    readString (spelled ++ '"' :: rest) = .ok (text, rest) := by
  rw [readString, readLetters_closed spells]
  simp

/-- What writes a value starts with a mark, and not with one that closes a list. -/
theorem Writes.starts {depth : Nat} {value : Value} {written : List Char}
    (writes : Writes depth value written) :
    ∃ c rest, written = c :: rest ∧ isGap c = false ∧ c ≠ ']' := by
  -- Each kind of value has marks of its own to start with.
  cases writes with
  | null => exact ⟨_, _, rfl, rfl, by decide⟩
  | @bool _ value => cases value <;> exact ⟨_, _, rfl, rfl, by decide⟩
  | string writes => cases writes; exact ⟨_, _, rfl, rfl, by decide⟩
  | array inside => exact ⟨_, _, rfl, rfl, by decide⟩
  | object inside => exact ⟨_, _, rfl, rfl, by decide⟩

/-- The bracket that closes a list ends its items. -/
theorem enterItem_close {gap : List Char} (blank : IsGap gap) (first : Bool) (rest : List Char) :
    enterItem first (gap ++ ']' :: rest) = .ok (false, ']' :: rest) := by
  rw [enterItem, skipGap_append blank, skipGap_mark rfl]
  exact if_pos rfl

/-- Anything else behind the opening bracket is the first item. -/
theorem enterItem_first {gap : List Char} (blank : IsGap gap) {c : Char} (mark : isGap c = false)
    (open' : c ≠ ']') (rest : List Char) :
    enterItem true (gap ++ c :: rest) = .ok (true, c :: rest) := by
  rw [enterItem, skipGap_append blank, skipGap_mark mark]
  exact if_neg open'

/-- A comma behind an item leads to the next one. -/
theorem enterItem_next {gap pause : List Char} (blank : IsGap gap) (blank' : IsGap pause) {c : Char}
    (mark : isGap c = false) (open' : c ≠ ']') (rest : List Char) :
    enterItem false (gap ++ ',' :: (pause ++ c :: rest)) = .ok (true, c :: rest) := by
  rw [enterItem, skipGap_append blank, skipGap_mark rfl]
  -- The text behind the comma is looked at in the same way.
  have front : skipGap (pause ++ c :: rest) = c :: rest := by
    rw [skipGap_append blank', skipGap_mark mark]
  simp [front, open']

/-- The bracket that closes an object ends its members. -/
theorem enterMember_close {gap : List Char} (blank : IsGap gap) (first : Bool) (rest : List Char) :
    enterMember first (gap ++ '\x7d' :: rest) = .ok (false, '\x7d' :: rest) := by
  rw [enterMember, skipGap_append blank, skipGap_mark rfl]
  exact if_pos rfl

/-- A quote behind the opening bracket opens the first name. -/
theorem enterMember_first {gap : List Char} (blank : IsGap gap) (rest : List Char) :
    enterMember true (gap ++ '"' :: rest) = .ok (true, rest) := by
  rw [enterMember, skipGap_append blank, skipGap_mark rfl]
  rfl

/-- A comma behind a member and a quote open the next name. -/
theorem enterMember_next {gap pause : List Char} (blank : IsGap gap) (blank' : IsGap pause)
    (rest : List Char) :
    enterMember false (gap ++ ',' :: (pause ++ '"' :: rest)) = .ok (true, rest) := by
  rw [enterMember, skipGap_append blank, skipGap_mark rfl]
  have front : skipGap (pause ++ '"' :: rest) = '"' :: rest := by
    rw [skipGap_append blank', skipGap_mark rfl]
  simp [front]

/-- A colon behind a name leads to its value. -/
theorem readColon_gap {gap : List Char} (blank : IsGap gap) (rest : List Char) :
    readColon (gap ++ ':' :: rest) = .ok rest := by
  rw [readColon, skipGap_append blank, skipGap_mark rfl]
  exact if_pos rfl

/-- There is something to write items with, the closing bracket at least. -/
theorem WritesItems.length_pos {depth : Nat} {first : Bool} {items : List Value}
    {written : List Char} (writes : WritesItems depth first items written) : 0 < written.length := by
  -- Each way to write items has a closing bracket or an item.
  cases writes with
  | first _ here _ =>
    obtain ⟨c, tail, rfl, -⟩ := here.starts
    simp only [List.length_append, List.length_cons]
    omega
  | _ => simp only [List.length_append, List.length_cons]; omega

/-- There is something to write members with, the closing bracket at least. -/
theorem WritesMembers.length_pos {depth : Nat} {first : Bool} {members : List (String × Value)}
    {written : List Char} (writes : WritesMembers depth first members written) :
    0 < written.length := by
  cases writes with
  | first _ here _ =>
    cases here with
    | pair => simp only [List.length_append, List.length_cons]; omega
  | _ => simp only [List.length_append, List.length_cons]; omega

/-- The members of an object are written up to its closing bracket. -/
theorem WritesMembers.ends {depth : Nat} {first : Bool} {members : List (String × Value)}
    {written : List Char} (writes : WritesMembers depth first members written) :
    ∃ inner, written = inner ++ ['\x7d'] := by
  induction members generalizing first written with
  | nil =>
    cases writes
    exact ⟨_, rfl⟩
  | cons member members ih =>
    -- What is written behind the first member ends with the bracket.
    cases writes with
    | first _ _ more =>
      obtain ⟨inner, rfl⟩ := ih more
      exact ⟨_, (List.append_assoc _ _ _).symm⟩
    | next _ _ _ more =>
      obtain ⟨inner, rfl⟩ := ih more
      exact ⟨_, by simp only [← List.append_assoc, ← List.cons_append]; rfl⟩

/-- No brace that opens an object stands right behind another one. -/
theorem WritesMembers.head?_ne {depth : Nat} {members : List (String × Value)} {written : List Char}
    (writes : WritesMembers depth true members written) : written.head? ≠ some '\x7b' := by
  have opened {gap : List Char} (blank : IsGap gap) {c : Char} (other : c ≠ '\x7b')
      (rest : List Char) : (gap ++ c :: rest).head? ≠ some '\x7b' := by
    cases gap with
    | nil => simpa using other
    | cons d gap =>
      rintro same
      have front : isGap d = true := blank d (by simp)
      obtain rfl : d = '\x7b' := by simpa using same
      cases front
  -- Behind the brace and its blanks stands a quote or the closing brace.
  cases writes with
  | close blank => exact opened blank (by decide) []
  | first blank here more =>
    obtain ⟨⟨spells⟩, -, -, -⟩ := here
    simp only [List.append_assoc, List.cons_append]
    exact opened blank (by decide) _

/-- How a value is read with some fuel: as the value that a text of no more characters writes. -/
def ReadsValues (fuel : Nat) : Prop :=
  ∀ {depth : Nat} {value : Value} {gap written : List Char}, IsGap gap →
    Writes depth value written → written.length ≤ fuel → ∀ rest,
      readValueFrom fuel depth (gap ++ (written ++ rest)) = .ok (value, rest)

/-- How items are read with some fuel: as those that a text of no more characters writes. -/
def ReadsItems (fuel : Nat) : Prop :=
  ∀ {depth : Nat} {first : Bool} {items : List Value} {written : List Char},
    WritesItems depth first items written → written.length ≤ fuel → ∀ rest,
      readItemsFrom fuel depth first (written ++ rest) = .ok (items, rest)

/-- How members are read with some fuel: as those that a text of no more characters writes. -/
def ReadsMembers (fuel : Nat) : Prop :=
  ∀ {depth : Nat} {first : Bool} {members : List (String × Value)} {written : List Char},
    WritesMembers depth first members written → written.length ≤ fuel → ∀ rest,
      readMembersFrom fuel depth first (written ++ rest) = .ok (members, rest)

/-- With one more step, a value is read if what stands within its brackets is. -/
theorem readsValues_succ {fuel : Nat} (items : ReadsItems fuel) (members : ReadsMembers fuel) :
    ReadsValues (fuel + 1) := by
  intro depth value gap written blank writes enough rest
  obtain ⟨c, tail, same, mark, -⟩ := writes.starts
  have front : skipGap (gap ++ (written ++ rest)) = written ++ rest := by
    rw [skipGap_append blank, same, List.cons_append, skipGap_mark mark]
  rw [readValueFrom, front]
  clear same mark
  -- The first character tells what kind of value is to be read.
  cases writes with
  | null => rfl
  | @bool _ value => cases value <;> rfl
  | string writes =>
    cases writes with
    | @quoted spelled spells =>
      have read := readString_written spells rest
      simp only [List.cons_append, List.append_assoc, List.nil_append, readScalar, read, bind,
        Except.bind]
      rfl
  | array inside =>
    have within := items inside (by simpa using enough) rest
    simp [within]
  | object inside =>
    have within := members inside (by simpa using enough) rest
    simp [within]

/-- With one more step, items are read if an item is and those behind it are. -/
theorem readsItems_succ {fuel : Nat} (value : ReadsValues fuel) (items : ReadsItems fuel) :
    ReadsItems (fuel + 1) := by
  intro depth first list written writes enough rest
  -- An item is entered at its first character, behind a comma unless it is the first one.
  cases writes with
  | close blank =>
    rw [List.append_assoc, List.singleton_append, readItemsFrom, enterItem_close blank]
    rfl
  | @first _ item others gap written more blank here behind =>
    have last := behind.length_pos
    obtain ⟨c, tail, rfl, mark, inner⟩ := here.starts
    simp only [List.length_append, List.length_cons] at enough
    -- The blanks have been passed over when the item is read.
    have text : gap ++ (c :: tail) ++ more ++ rest = gap ++ c :: (tail ++ (more ++ rest)) := by simp
    have one : readValueFrom fuel depth (c :: (tail ++ (more ++ rest))) = .ok (item, more ++ rest) :=
      value isGap_nil here (by simp only [List.length_cons]; omega) _
    have all := items behind (by omega) rest
    simp only [text, readItemsFrom, enterItem_first blank mark inner, one, all]
  | @next _ item others gap pause written more blank blank' here behind =>
    have last := behind.length_pos
    obtain ⟨c, tail, rfl, mark, inner⟩ := here.starts
    simp only [List.length_append, List.length_cons] at enough
    have text : gap ++ ',' :: (pause ++ (c :: tail) ++ more) ++ rest =
        gap ++ ',' :: (pause ++ c :: (tail ++ (more ++ rest))) := by simp
    have one : readValueFrom fuel depth (c :: (tail ++ (more ++ rest))) = .ok (item, more ++ rest) :=
      value isGap_nil here (by simp only [List.length_cons]; omega) _
    have all := items behind (by omega) rest
    simp only [text, readItemsFrom, enterItem_next blank blank' mark inner, one, all]

/-- With one more step, a member is read if its value is, and then come those behind it. -/
theorem readsMember {fuel depth : Nat} (value : ReadsValues fuel) {name : String} {held : Value}
    {written : List Char} (here : WritesMember depth name held written)
    (enough : written.length ≤ fuel) :
    ∃ text, written = '"' :: text ∧ ∀ {first : Bool} {cs rest : List Char},
      enterMember first cs = .ok (true, text ++ rest) →
      readMembersFrom (fuel + 1) depth first cs =
        match readMembersFrom fuel depth false rest with
        | .error fault => .error fault
        | .ok (members, rest) => .ok ((name, held) :: members, rest) := by
  obtain ⟨⟨spells⟩, blank, blank', holds⟩ := here
  rename_i gap pause written spelled
  simp only [List.length_append, List.length_cons] at enough
  -- Behind the quote stand the rest of the name, the colon and the value.
  refine ⟨spelled ++ '"' :: (gap ++ ':' :: (pause ++ written)), by simp, fun {_ _ rest} entered => ?_⟩
  have text : spelled ++ '"' :: (gap ++ ':' :: (pause ++ written)) ++ rest =
      spelled ++ '"' :: (gap ++ ':' :: (pause ++ (written ++ rest))) := by simp
  have named := readString_written spells (gap ++ ':' :: (pause ++ (written ++ rest)))
  have colon := readColon_gap blank (pause ++ (written ++ rest))
  have one := value blank' holds (by omega) rest
  cases tail : readMembersFrom fuel depth false rest with
  | error error => simp only [readMembersFrom, entered, text, named, colon, one, tail]
  | ok members => simp only [readMembersFrom, entered, text, named, colon, one, tail]

/-- With one more step, members are read if a value is and those behind it are. -/
theorem readsMembers_succ {fuel : Nat} (value : ReadsValues fuel) (members : ReadsMembers fuel) :
    ReadsMembers (fuel + 1) := by
  intro depth first list written writes enough rest
  -- A member is entered at its opening quote, behind a comma unless it is the first one.
  cases writes with
  | close blank =>
    rw [List.append_assoc, List.singleton_append, readMembersFrom, enterMember_close blank]
    rfl
  | first blank here behind =>
    have last := behind.length_pos
    rw [List.length_append, List.length_append] at enough
    obtain ⟨text, rfl, read⟩ := readsMember value here (by omega)
    rw [List.length_cons] at enough
    -- Each member takes some characters, so there is fuel for those behind it.
    have all := members behind (by omega) rest
    simp only [List.append_assoc, List.cons_append]
    rw [read (enterMember_first blank _), all]
  | next blank blank' here behind =>
    have last := behind.length_pos
    simp only [List.length_append, List.length_cons] at enough
    obtain ⟨text, rfl, read⟩ := readsMember value here (by omega)
    have all := members behind (by omega) rest
    simp only [List.append_assoc, List.cons_append]
    rw [read (enterMember_next blank blank' _), all]

/-- Whatever fuel is no less than the length of a text is enough to read what it writes. -/
theorem reads (fuel : Nat) : ReadsValues fuel ∧ ReadsItems fuel ∧ ReadsMembers fuel := by
  induction fuel with
  | zero =>
    -- Nothing is written with no characters.
    refine ⟨fun _ writes enough => ?_, fun writes enough => ?_, fun writes enough => ?_⟩
    · obtain ⟨c, tail, rfl, -⟩ := writes.starts
      cases enough
    · exact absurd writes.length_pos (Nat.not_lt.2 enough)
    · exact absurd writes.length_pos (Nat.not_lt.2 enough)
  | succ fuel ih =>
    obtain ⟨value, items, members⟩ := ih
    exact ⟨readsValues_succ items members, readsItems_succ value items,
      readsMembers_succ value members⟩

/-- A value is read from any text that writes it, up to where that text ends. -/
theorem readValue_written {depth : Nat} {value : Value} {gap written : List Char} (blank : IsGap gap)
    (writes : Writes depth value written) (rest : List Char) :
    readValue depth (gap ++ (written ++ rest)) = .ok (value, rest) := by
  -- The fuel is computed from the whole text, of which the value is a part.
  have enough : written.length ≤ 2 * (gap ++ (written ++ rest)).length + 2 := by
    simp only [List.length_append]
    omega
  exact (reads _).1 blank writes enough rest

/-- A text that writes a value, with blanks around it, is parsed as that value. -/
theorem parse_of_writes {value : Value} {before written after : List Char} (front : IsGap before)
    (back : IsGap after) (writes : Writes nestingLimit value written) :
    parse (before ++ (written ++ after)) = .ok value := by
  have read := readValue_written front writes after
  -- Behind the value there are only blanks, so the text is at its end.
  have ended : skipGap after = [] := by
    rw [← List.append_nil after, skipGap_append back]
    rfl
  simp only [parse, read, bind, Except.bind, readEnd, ended]

end AuditStage.Json
